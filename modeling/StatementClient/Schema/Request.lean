import StatementClient.Schema.Check

/-!
# Requests

The bodies and parameters the client sends. Each is checked from a loose value (`check`) and
written back as a document (`body`), in which enumeration fields appear by wire name and absent
optional fields are left out.

* A statement request holds the statement text (not empty), the result format (JSON unless
  given) and an optional execution timeout.
* Fetch parameters hold a statement id (not empty) and a result format; the query of a fetch
  carries the format's wire name.
* An ingest request holds the encoded rows with their format (JSON, the only one) and the
  statement the rows are fed into (not empty).
-/

namespace StatementClient

/-- A statement to execute. -/
structure StatementRequest where
  statement : String
  format : ResultFormat
  execTimeout : Option String
  deriving Inhabited

/-- A statement's handle and the format to fetch its result in. -/
structure FetchParams where
  statementId : String
  format : ResultFormat
  deriving Inhabited

/-- Encoded rows and their format. -/
structure IngestData where
  format : IngestFormat
  rows : String
  deriving Inhabited

/-- Rows to ingest through a statement. -/
structure IngestRequest where
  data : IngestData
  statement : String
  deriving Inhabited

/-- The document of a wire-named member. -/
def wireJson {α : Type} [WireEnum α] (m : α) : Json :=
  .str (WireEnum.wireName m)

namespace StatementRequest

/-- Checks a statement request. -/
def check (v : Json) : Checked StatementRequest := do
  let fs ← Checked.members v
  let (s, f, t) ← Checked.both (Checked.field fs "statement" (Check.textOfLength 1) none)
    (Checked.both (Checked.field fs "format" (Check.wire ResultFormat) (some .json))
      (Checked.field fs "exec_timeout" (Checked.optional Check.text) (some none)))
  pure ⟨s, f, t⟩

/-- The body of a statement request. -/
def body (r : StatementRequest) : Json :=
  .obj ([("statement", .str r.statement), ("format", wireJson r.format)] ++
    match r.execTimeout with
    | some t => [("exec_timeout", .str t)]
    | none => [])

end StatementRequest

namespace FetchParams

/-- Checks fetch parameters. -/
def check (v : Json) : Checked FetchParams := do
  let fs ← Checked.members v
  let (i, f) ← Checked.both (Checked.field fs "statement_id" (Check.textOfLength 1) none)
    (Checked.field fs "format" (Check.wire ResultFormat) (some .json))
  pure ⟨i, f⟩

/-- The document of fetch parameters. -/
def body (p : FetchParams) : Json :=
  .obj [("statement_id", .str p.statementId), ("format", wireJson p.format)]

/-- The query of a fetch. -/
def query (p : FetchParams) : List (String × String) :=
  [("format", WireEnum.wireName p.format)]

end FetchParams

namespace IngestData

/-- Checks the members of ingest data. -/
def checkMembers (fs : List (String × Json)) : Checked IngestData := do
  let (f, r) ← Checked.both (Checked.field fs "format" (Check.wire IngestFormat) (some .json))
    (Checked.field fs "rows" Check.text none)
  pure ⟨f, r⟩

/-- Checks ingest data. -/
def check (v : Json) : Checked IngestData := do
  checkMembers (← Checked.members v)

/-- The document of ingest data. -/
def body (d : IngestData) : Json :=
  .obj [("format", wireJson d.format), ("rows", .str d.rows)]

end IngestData

namespace IngestRequest

/-- Checks an ingest request. -/
def check (v : Json) : Checked IngestRequest := do
  let fs ← Checked.members v
  let (d, s) ← Checked.both (Checked.field fs "data" IngestData.check none)
    (Checked.field fs "statement" (Check.textOfLength 1) none)
  pure ⟨d, s⟩

/-- An ingest request from ingest data already made and a statement still to check. -/
def withData (d : IngestData) (statement : Json) : Checked IngestRequest := do
  let s ← Checked.under (.field "statement") (Check.textOfLength 1 statement)
  pure ⟨d, s⟩

/-- The body of an ingest request. -/
def body (r : IngestRequest) : Json :=
  .obj [("data", r.data.body), ("statement", .str r.statement)]

end IngestRequest

end StatementClient
