import StatementClient.Json.Value
import StatementClient.Text.Quoted

/-!
# Requests to the service

A request is a method, a path, an optional query and an optional document body. The three
calls of the service are `POST /v1/statements` (submit a statement), `GET /v1/statements/<id>`
(fetch its state) and `POST /v1/ingest` (feed rows to a statement).

A statement id enters a path percent-encoded (`percentEncode`): every byte of its UTF-8 form
outside `A-Z a-z 0-9 _ . - ~` is written `%XY`, so the id is a single path segment whatever it
holds.
-/

namespace StatementClient

/-- The methods the client sends. -/
inductive Method where
  | get
  | post
  deriving DecidableEq, Inhabited

/-- The name of a method. -/
def Method.name : Method → String
  | .get => "GET"
  | .post => "POST"

/-- A request: method, path, query parameters and body. -/
structure Request where
  method : Method
  path : String
  query : Option (List (String × Json))
  body : Option Json
  deriving Inhabited

/-- The document of a request. -/
def Request.toJson (r : Request) : Json :=
  .obj [("method", .str r.method.name), ("path", .str r.path),
        ("params", match r.query with
          | some q => .obj q
          | none => .null),
        ("json", r.body.getD .null)]

/-- The path of statement submission. -/
def statementsPath : String := "/v1/statements"

/-- The path of ingestion. -/
def ingestPath : String := "/v1/ingest"

/-- Whether a byte stands for itself in a path segment. -/
def isUnreserved (b : UInt8) : Bool :=
  let c := b.toNat
  (0x41 ≤ c ∧ c ≤ 0x5A) || (0x61 ≤ c ∧ c ≤ 0x7A) || (0x30 ≤ c ∧ c ≤ 0x39) ||
    c = 0x5F || c = 0x2E || c = 0x2D || c = 0x7E

/-- A text as one path segment: unreserved bytes as they are, every other byte as `%XY` in
uppercase hex. -/
def percentEncode (s : String) : String :=
  String.join (s.toUTF8.toList.map fun b =>
    if isUnreserved b then (Char.ofNat b.toNat).toString
    else "%" ++ (Text.hexDigits 2 b.toNat).toUpper)

/-- The path of a statement's state. -/
def statementPath (id : String) : String :=
  statementsPath ++ "/" ++ percentEncode id

example : percentEncode "s/2" = "s%2F2" := by cbv
example : percentEncode "é" = "%C3%A9" := by cbv

end StatementClient
