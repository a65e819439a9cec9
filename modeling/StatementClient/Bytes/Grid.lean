/-!
# Tables of characters indexed by two bytes

The East Asian character sets give a character to a pair of numbers, a row and a column; an
encoding then says which bytes name which row and column. A `CodeTable` holds such a set.

The rows with characters come in a few runs, so the table is stored as `Band`s: a band covers
the rows `first` to `last` and, in each, the columns `low` to `high`, with one character a cell,
row after row. A space marks a cell with no character (no set here holds the space), and the
noncharacter U+FFFF marks a cell that stands for two characters, which `doubles` lists.
-/

namespace StatementClient.Bytes

/-- Rows `first` to `last` of a code table, columns `low` to `high`, one character a cell. -/
structure Band where
  first : Nat
  last : Nat
  low : Nat
  high : Nat
  cells : Array Char
  deriving Inhabited

/-- The character stored for row `r` and column `c`, when the band covers that cell. -/
def Band.cell? (b : Band) (r c : Nat) : Option Char :=
  if b.first ≤ r && r ≤ b.last && b.low ≤ c && c ≤ b.high then
    b.cells[(r - b.first) * (b.high - b.low + 1) + (c - b.low)]?
  else none

/-- A character set indexed by row and column, stored as bands of rows. -/
structure CodeTable where
  bands : List Band
  /-- The cells that stand for two characters. -/
  doubles : List ((Nat × Nat) × String)
  deriving Inhabited

/-- The marker of a cell with no character. -/
def noCharacter : Char := ' '

/-- The marker of a cell that stands for two characters. -/
def twoCharacters : Char := '\uFFFF'

/-- The text of row `r` and column `c`, if the set has a character there. -/
def CodeTable.find? (t : CodeTable) (r c : Nat) : Option String :=
  match t.bands.findSome? (·.cell? r c) with
  | none => none
  | some ch =>
    if ch = noCharacter then none
    else if ch = twoCharacters then t.doubles.lookup (r, c)
    else some ch.toString

/-- The text of a cell of a set of 94 rows of 94, numbered from 0x21 as in the 7-bit codes. -/
def CodeTable.find94? (t : CodeTable) (r c : Nat) : Option String :=
  if 0x21 ≤ r && r ≤ 0x7E && 0x21 ≤ c && c ≤ 0x7E then t.find? r c else none

/-- The text of a cell of a set of 94 rows of 94 named by two bytes with the high bit set, as
the extended UNIX codes and their relatives place it. -/
def CodeTable.findHigh? (t : CodeTable) (b1 b2 : Nat) : Option String :=
  if 0xA1 ≤ b1 && 0xA1 ≤ b2 then t.find94? (b1 - 0x80) (b2 - 0x80) else none

example :
    ({ bands := [⟨1, 2, 3, 4, #['a', ' ', 'b', '\uFFFF']⟩], doubles := [((2, 4), "cd")] } :
      CodeTable).find? 2 4 = some "cd" := by
  decide

end StatementClient.Bytes
