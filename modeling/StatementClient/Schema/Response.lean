import StatementClient.Schema.Check

/-!
# Responses

The bodies the service answers with, checked from the strictly read document of a body
(`StatementResponse.ofBytes`, `IngestResponse.ofBytes`): bytes that are no document give one
`json_invalid` issue, a document that is no object a `model_type` issue. Unknown members are
ignored.

A statement response holds the statement id (not empty), its status, and optionally the
creation time, the progress, the result set and a message. Progress percentages lie in
[0, 100] and nanosecond counts are not negative; a result set holds column metadata, a format
and rows of any shape. An ingest response holds the number of rows inserted, zero unless given.

Written back (`toJson`), every field appears, and a float in the rows that is not finite becomes
null.
-/

namespace StatementClient

/-- How far a statement has come. -/
structure Progress where
  totalPercentage : Float
  nanosFromSubmitted : Int
  nanosFromStarted : Int
  deriving Inhabited

/-- A column: its name and data type. -/
structure ColumnSchema where
  name : String
  dataType : String
  deriving Inhabited

/-- The columns and row count of a result. -/
structure ResultMetadata where
  columns : List ColumnSchema
  numRows : Int
  deriving Inhabited

/-- The rows a finished statement produced. -/
structure ResultSet where
  metadata : ResultMetadata
  format : ResultFormat
  rows : Json
  deriving Inhabited

/-- The state of a statement as the service reports it. -/
structure StatementResponse where
  statementId : String
  status : StatementStatus
  createdAt : Option String
  progress : Option Progress
  resultSet : Option ResultSet
  message : Option String
  deriving Inhabited

/-- The answer to an ingest. -/
structure IngestResponse where
  numRowsInserted : Int
  deriving Inhabited

mutual

/-- A document with every float that is not finite replaced by null. -/
def Json.finiteOnly : Json → Json
  | .float x => if x.isNaN || x.isInf then .null else .float x
  | .arr xs => .arr (Json.finiteItems xs)
  | .obj fs => .obj (Json.finiteFields fs)
  | j => j

/-- Items with non-finite floats replaced by null. -/
def Json.finiteItems : List Json → List Json
  | [] => []
  | x :: rest => x.finiteOnly :: Json.finiteItems rest

/-- Members with non-finite floats replaced by null. -/
def Json.finiteFields : List (String × Json) → List (String × Json)
  | [] => []
  | (k, v) :: rest => (k, v.finiteOnly) :: Json.finiteFields rest

end

namespace Progress

def check (v : Json) : Checked Progress := do
  let fs ← Checked.members v
  let (p, s, t) ← Checked.both
    (Checked.field fs "total_percentage" (fun v => Check.jsonFloat v >>= Check.floatWithin 0 100)
      (some 0.0))
    (Checked.both
      (Checked.field fs "nanos_from_submitted" (fun v => Check.integer v >>= Check.atLeastZero)
        (some 0))
      (Checked.field fs "nanos_from_started" (fun v => Check.integer v >>= Check.atLeastZero)
        (some 0)))
  pure ⟨p, s, t⟩

def toJson (p : Progress) : Json :=
  .obj [("total_percentage", .float p.totalPercentage),
        ("nanos_from_submitted", .int p.nanosFromSubmitted),
        ("nanos_from_started", .int p.nanosFromStarted)]

end Progress

namespace ColumnSchema

def check (v : Json) : Checked ColumnSchema := do
  let fs ← Checked.members v
  let (n, t) ← Checked.both (Checked.field fs "name" Check.text none)
    (Checked.field fs "data_type" Check.text none)
  pure ⟨n, t⟩

def toJson (c : ColumnSchema) : Json :=
  .obj [("name", .str c.name), ("data_type", .str c.dataType)]

end ColumnSchema

namespace ResultMetadata

def empty : ResultMetadata := ⟨[], 0⟩

def check (v : Json) : Checked ResultMetadata := do
  let fs ← Checked.members v
  let (c, n) ← Checked.both (Checked.field fs "fields" (Checked.items ColumnSchema.check) (some []))
    (Checked.field fs "num_rows" (fun v => Check.integer v >>= Check.atLeastZero) (some 0))
  pure ⟨c, n⟩

def toJson (m : ResultMetadata) : Json :=
  .obj [("fields", .arr (m.columns.map ColumnSchema.toJson)), ("num_rows", .int m.numRows)]

end ResultMetadata

namespace ResultSet

def check (v : Json) : Checked ResultSet := do
  let fs ← Checked.members v
  let (m, f, r) ← Checked.both (Checked.field fs "metadata" ResultMetadata.check
      (some ResultMetadata.empty))
    (Checked.both (Checked.field fs "format" (Check.wire ResultFormat) (some .json))
      (Checked.field fs "rows" (fun v => .ok v) (some .null)))
  pure ⟨m, f, r⟩

def toJson (r : ResultSet) : Json :=
  .obj [("metadata", r.metadata.toJson), ("format", .str (WireEnum.wireName r.format)),
        ("rows", r.rows.finiteOnly)]

end ResultSet

/-- The document of an optional value: null when absent. -/
def optionJson {α : Type} (f : α → Json) : Option α → Json
  | some a => f a
  | none => .null

namespace StatementResponse

/-- Checks a statement response. -/
def check (v : Json) : Checked StatementResponse := do
  let fs ← Checked.members v
  let ((i, s), (c, p), (r, m)) ← Checked.both
    (Checked.both (Checked.field fs "statement_id" (Check.textOfLength 1) none)
      (Checked.field fs "status" (Check.wire StatementStatus) none))
    (Checked.both
      (Checked.both (Checked.field fs "created_at" (Checked.optional Check.text) (some none))
        (Checked.field fs "progress" (Checked.optional Progress.check) (some none)))
      (Checked.both (Checked.field fs "result_set" (Checked.optional ResultSet.check) (some none))
        (Checked.field fs "message" (Checked.optional Check.text) (some none))))
  pure ⟨i, s, c, p, r, m⟩

/-- Checks the strictly read document of a body. -/
def ofBytes (b : List UInt8) : Checked StatementResponse :=
  match Json.readBytesStrict b with
  | some v => check v
  | none => Checked.fail .jsonInvalid

/-- Whether the statement is finished. -/
def isFinished (r : StatementResponse) : Bool := r.status.isFinished

def toJson (r : StatementResponse) : Json :=
  .obj [("statement_id", .str r.statementId), ("status", .str (WireEnum.wireName r.status)),
        ("created_at", optionJson Json.str r.createdAt),
        ("progress", optionJson Progress.toJson r.progress),
        ("result_set", optionJson ResultSet.toJson r.resultSet),
        ("message", optionJson Json.str r.message)]

end StatementResponse

namespace IngestResponse

/-- Checks an ingest response. -/
def check (v : Json) : Checked IngestResponse := do
  let fs ← Checked.members v
  let n ← Checked.field fs "num_rows_inserted" (fun v => Check.integer v >>= Check.atLeastZero)
    (some 0)
  pure ⟨n⟩

/-- Checks the strictly read document of a body. -/
def ofBytes (b : List UInt8) : Checked IngestResponse :=
  match Json.readBytesStrict b with
  | some v => check v
  | none => Checked.fail .jsonInvalid

def toJson (r : IngestResponse) : Json :=
  .obj [("num_rows_inserted", .int r.numRowsInserted)]

end IngestResponse

end StatementClient
