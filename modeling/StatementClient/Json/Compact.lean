import StatementClient.Json.Value
import StatementClient.Decimal.Text
import StatementClient.Text.Quoted

/-!
# Compact document text

`Json.compactWith` writes a document with no blank: `,` between items, `:` after a key, strings
by a given writer, floats in the document style (`NaN`, `Infinity`), members in their order.
`Json.compact` writes strings in ASCII only (`escapeAscii`).

Python's writer can fail where the text cannot: it runs out of stack inside documents nested too
deep, and it refuses integers of more than 4300 digits. `Json.dump` gives the first such fault in
writing order, or the compact text.
-/

namespace StatementClient

namespace Json

mutual

/-- The compact text of a document, strings written by `quote`. -/
def compactWith (quote : String → String) : Json → String
  | .null => "null"
  | .bool b => if b then "true" else "false"
  | .int n => toString n
  | .float x => Decimal.FloatStyle.document.write x
  | .str s => quote s
  | .arr items => "[" ++ compactItems quote items ++ "]"
  | .obj fields => "\x7b" ++ compactFields quote fields ++ "\x7d"

/-- Items separated by a comma. -/
def compactItems (quote : String → String) : List Json → String
  | [] => ""
  | [j] => compactWith quote j
  | j :: rest => compactWith quote j ++ "," ++ compactItems quote rest

/-- Members separated by a comma. -/
def compactFields (quote : String → String) : List (String × Json) → String
  | [] => ""
  | [(k, v)] => quote k ++ ":" ++ compactWith quote v
  | (k, v) :: rest => quote k ++ ":" ++ compactWith quote v ++ "," ++ compactFields quote rest

end

/-- The compact text of a document in ASCII only. -/
def compact (j : Json) : String := compactWith Text.escapeAscii j

/-- What writing a document raises: the writer's stack runs out in a container nested deeper
than it has room for, or an integer has more than 4300 decimal digits, which Python does not
convert to text. -/
inductive DumpFault where
  | stackExhausted
  | integerTooLong
  deriving DecidableEq, Inhabited

/-- The class name of a fault. -/
def DumpFault.className : DumpFault → String
  | .stackExhausted => "RecursionError"
  | .integerTooLong => "ValueError"

/-- The message of a fault. -/
def DumpFault.message : DumpFault → String
  | .stackExhausted => "maximum recursion depth exceeded while encoding a JSON object"
  | .integerTooLong => "Exceeds the limit (4300 digits) for integer string conversion; " ++
      "use sys.set_int_max_str_digits() to increase the limit"

mutual

/-- The first fault met writing a document, in writing order, when the writer can enter `room`
containers. -/
def dumpFault? : Nat → Json → Option DumpFault
  | _, .int n => if 4300 < Decimal.digitCount n.natAbs then some .integerTooLong else none
  | 0, .arr _ => some .stackExhausted
  | room + 1, .arr items => itemsFault? room items
  | 0, .obj _ => some .stackExhausted
  | room + 1, .obj fields => fieldsFault? room fields
  | _, _ => none

/-- The first fault met writing items. -/
def itemsFault? (room : Nat) : List Json → Option DumpFault
  | [] => none
  | j :: items => (dumpFault? room j).or (itemsFault? room items)

/-- The first fault met writing the values of members; keys are text and write as they are. -/
def fieldsFault? (room : Nat) : List (String × Json) → Option DumpFault
  | [] => none
  | (_, v) :: fields => (dumpFault? room v).or (fieldsFault? room fields)

end

/-- The compact text of a document as the writer gives it when it can enter `room` containers,
or the first fault it meets. -/
def dump (room : Nat) (j : Json) : Except DumpFault String :=
  match dumpFault? room j with
  | some f => .error f
  | none => .ok j.compact

end Json

end StatementClient
