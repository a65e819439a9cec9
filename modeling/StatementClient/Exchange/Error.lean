import StatementClient.Json.Literal
import StatementClient.Schema.Issue

/-!
# Client errors

An operation that does not return a value fails with one `ClientError` of four kinds: a general
one, a transport failure (no response came), a remote error (the service answered with a status
outside 2xx) and a decode error (a 2xx body is not what was expected).

Every error has a message and details, an ordered record. Its text (`ClientError.render`) is the
message alone when there are no details, else the message, ` | Details: ` and the literal of the
details. A remote error builds its message from the status and the error text, and its details
start with the status, which details given to it may override.
-/

namespace StatementClient

/-- What lies behind an error: another error, by class name and text, or validation issues. -/
inductive Cause where
  | error (className message : String)
  | validation (issues : List Issue)
  deriving Inhabited

/-- The document form of a cause. -/
def Cause.toJson : Cause → Json
  | .error c m => .obj [("type", .str c), ("message", .str m)]
  | .validation issues => .obj [("type", .str "ValidationError"),
      ("errors", .arr (issues.map Issue.toJson))]

/-- A location step as a location's text writes it. -/
def LocStep.text : LocStep → String
  | .field n => n
  | .index i => toString i

/-- The text of a cause: an error's own text; for validation issues, how many there are and, for
each, its location with steps joined by dots and its kind. Pydantic's text also quotes the model's
name and the input, which the issues do not keep. -/
def Cause.text : Cause → String
  | .error _ m => m
  | .validation issues =>
    let head := toString issues.length ++ " validation error" ++
      if issues.length = 1 then "" else "s"
    "\n".intercalate (head :: issues.map fun i =>
      ".".intercalate (i.loc.map LocStep.text) ++ "\n  [type=" ++ i.kind.name ++ "]")

/-- The kinds of client error. -/
inductive ErrorKind where
  | general
  | transport
  | remote
  | decode
  deriving DecidableEq, Inhabited

/-- The word for a kind of error. -/
def ErrorKind.word : ErrorKind → String
  | .general => "error"
  | .transport => "transport"
  | .remote => "remote"
  | .decode => "decode"

/-- The class name of a kind of error. -/
def ErrorKind.className : ErrorKind → String
  | .general => "ScopeDBError"
  | .transport => "TransportError"
  | .remote => "RemoteError"
  | .decode => "DecodeError"

/-- Whether a value counts as present in a message: not null, false, zero or empty. -/
def Json.truthy : Json → Bool
  | .null => false
  | .bool b => b
  | .int n => n != 0
  | .float x => x != 0
  | .str s => !s.isEmpty
  | .arr xs => !xs.isEmpty
  | .obj fs => !fs.isEmpty

/-- A client error. -/
inductive ClientError where
  /-- An error of kind `kind` other than remote, with its message, details and cause. -/
  | plain (kind : ErrorKind) (message : String) (details : List (String × Json))
      (cause : Option Cause)
  /-- A remote error: the status, the error text (`null` for an empty body), extra details. -/
  | remote (status : Json) (errorText : Json) (extra : List (String × Json))
      (cause : Option Cause)
  deriving Inhabited

namespace ClientError

/-- The kind of an error. -/
def kind : ClientError → ErrorKind
  | .plain k .. => k
  | .remote .. => .remote

/-- The message of an error. A remote error reads `ScopeDB returned HTTP <status>`, followed by
`: ` and the error text when there is one. -/
def message : ClientError → String
  | .plain _ m _ _ => m
  | .remote s t _ _ =>
    let head := "ScopeDB returned HTTP " ++ s.display
    if t.truthy then head ++ ": " ++ t.display else head

/-- The details of an error; a remote error's start with its status. -/
def details : ClientError → List (String × Json)
  | .plain _ _ d _ => d
  | .remote s _ extra _ => Json.ofPairs (("status_code", s) :: extra)

/-- The cause of an error. -/
def cause : ClientError → Option Cause
  | .plain _ _ _ c => c
  | .remote _ _ _ c => c

/-- The text of an error: the message, and the details' literal when there are any. -/
def render (e : ClientError) : String :=
  if e.details.isEmpty then e.message
  else e.message ++ " | Details: " ++ (Json.obj e.details).literal

end ClientError

end StatementClient
