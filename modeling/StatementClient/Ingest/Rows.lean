import StatementClient.Json.Compact
import StatementClient.Json.Literal

/-!
# Rows from columnar batches

Ingestion takes its rows as one text: one compact document per row, rows separated by newlines.
Callers hand in batches by column, each batch an object from column names to columns of equal
length. `encodeBatches` turns them into that text.

The batches are walked as the values they are: an array gives its items, a string its characters,
an object its keys. A batch must be an object, and each of its columns must have a length (an
array, a string, an object). Row `r` takes item `r` of every column; a string column gives its
`r`-th character, and an object column has no item `r`, since its keys are text. A batch without
columns gives no rows. Each row is written as `Json.dump` writes it, and its fault is the batches'
fault; how deep the writer can go depends on how deep the caller already is.
-/

namespace StatementClient

/-- Why batches do not encode. -/
inductive RowsFault where
  /-- The batches are not a sequence. -/
  | notIterable (typeName : String)
  /-- A batch is not an object. -/
  | noKeys (typeName : String)
  /-- A column has no length. -/
  | noLength (typeName : String)
  /-- The columns of batch `index` differ in length. -/
  | unequal (index : Nat) (lengths : List (String × Nat))
  /-- An object column has no item for row `row`. -/
  | missingItem (row : Nat)
  /-- Writing a row raises. -/
  | unwritable (f : Json.DumpFault)
  deriving Inhabited

namespace RowsFault

/-- The class name of a fault. -/
def className : RowsFault → String
  | .notIterable _ | .noLength _ => "TypeError"
  | .noKeys _ => "AttributeError"
  | .unequal .. => "ValueError"
  | .missingItem _ => "KeyError"
  | .unwritable f => f.className

/-- The message of a fault. -/
def message : RowsFault → String
  | .notIterable t => "'" ++ t ++ "' object is not iterable"
  | .noKeys t => "'" ++ t ++ "' object has no attribute 'keys'"
  | .noLength t => "object of type '" ++ t ++ "' has no len()"
  | .unequal i ls =>
    "batch " ++ toString i ++ " has columns of unequal length: " ++
      (Json.obj (ls.map fun (k, n) => (k, Json.int n))).literal
  | .missingItem r => toString r
  | .unwritable f => f.message

end RowsFault

/-- The items of a value walked as a sequence. -/
def walkItems : Json → Except RowsFault (List Json)
  | .arr xs => .ok xs
  | .str s => .ok (s.toList.map fun c => .str c.toString)
  | .obj fs => .ok (fs.map fun (k, _) => .str k)
  | v => .error (.notIterable v.typeName)

/-- The length of a column. -/
def columnLength : Json → Except RowsFault Nat
  | .arr xs => .ok xs.length
  | .str s => .ok s.length
  | .obj fs => .ok fs.length
  | v => .error (.noLength v.typeName)

/-- Item `row` of a column. -/
def columnItem (row : Nat) : Json → Except RowsFault Json
  | .arr xs => .ok (xs.getD row .null)
  | .str s => .ok (.str ((s.toList.getD row ' ').toString))
  | _ => .error (.missingItem row)

/-- The rows of batch `index`, written with room for `room` containers. -/
def encodeBatch (room index : Nat) (batch : Json) : Except RowsFault (List String) :=
  match batch with
  | .obj [] => .ok []
  | .obj columns@((_, first) :: _) => do
    let lengths ← columns.mapM fun (k, v) => do pure (k, ← columnLength v)
    let n ← columnLength first
    if lengths.any (fun (_, l) => l != n) then throw (.unequal index lengths)
    (List.range n).mapM fun row => do
      let cells ← columns.mapM fun (k, v) => do pure (k, ← columnItem row v)
      (Json.obj cells).dump room |>.mapError .unwritable
  | v => .error (.noKeys v.typeName)

/-- The rows of every batch, batch after batch, joined by newlines. -/
def encodeBatches (room : Nat) (batches : Json) : Except RowsFault String := do
  let items ← walkItems batches
  let rows ← (items.zipIdx.mapM fun (b, i) => encodeBatch room i b)
  pure ("\n".intercalate rows.flatten)

end StatementClient
