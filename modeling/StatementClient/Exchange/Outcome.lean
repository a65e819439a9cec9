import StatementClient.Json.Number
import StatementClient.Json.Reader
import StatementClient.Bytes.Registry

/-!
# Outcomes of an attempt

One network attempt ends in an `Outcome`: a transport failure (no response came) or a
`Response` with a status code, the body bytes, the charset the server announced and the fault
met while reading a body, if any.

A status code is a number from 100 to 599 (`Response.make` refuses others); a response is a
success when its status lies in [200, 300). Its text is the body decoded with the announced
charset, UTF-8 when none is announced; its document is the body read leniently, whatever the
charset says.
-/

namespace StatementClient

/-- An exception of the transport: its class name and its message. -/
structure Fault where
  className : String
  message : String
  deriving Inhabited

/-- The text of a fault: class name, a colon and a space, message. -/
def Fault.render (f : Fault) : String :=
  f.className ++ ": " ++ f.message

/-- The fault of a failed piece of arithmetic. -/
def Fault.ofNumber (f : NumberFault) : Fault := ⟨f.className, f.message⟩

/-- A response to an attempt. -/
structure Response where
  status : Number
  content : List UInt8
  charset : Option String
  bodyFault : Option Fault
  deriving Inhabited

/-- What an attempt ends in. -/
inductive Outcome where
  | failure (f : Fault)
  | response (r : Response)
  deriving Inhabited

/-- Why a status is refused. -/
inductive StatusFault where
  /-- The status is a number, or a truth value, outside 100..599; `text` is how it is shown. -/
  | outOfRange (text : String)
  /-- The status is no number. -/
  | notNumber (fault : NumberFault)
  deriving Inhabited

/-- The class name of a status fault. -/
def StatusFault.className : StatusFault → String
  | .outOfRange _ => "ValueError"
  | .notNumber f => f.className

/-- The message of a status fault. -/
def StatusFault.message : StatusFault → String
  | .outOfRange t => "invalid HTTP status code: " ++ t
  | .notNumber f => f.message

/-- A response with a checked status: at least 100, then at most 599. -/
def Response.make (status : Json) (content : List UInt8) (charset : Option String)
    (bodyFault : Option Fault) : Except StatusFault Response :=
  match Json.compareBy .le (.int 100) status with
  | .error f => .error (.notNumber f)
  | .ok false => .error (.outOfRange status.display)
  | .ok true =>
    match Json.compareBy .le status (.int 599), status.number? with
    | .ok true, some n => .ok { status := n, content, charset, bodyFault }
    | _, _ => .error (.outOfRange status.display)

/-- Whether a number lies in `[lo, hi)`. -/
def Number.within (n : Number) (lo hi : Int) : Bool :=
  ((Number.compare? (.int lo) n).any (Comparison.holds .le)) &&
    ((Number.compare? n (.int hi)).any (Comparison.holds .lt))

/-- A response is a success when its status lies in [200, 300). -/
def Response.isSuccess (r : Response) : Bool :=
  r.status.within 200 300

/-- Decodes bytes with the codec of a name; an empty or missing name means UTF-8. -/
def decodeWith (charset : Option String) (bytes : List UInt8) :
    Except Bytes.DecodeFailure String :=
  let name := match charset with
    | some n => if n.isEmpty then "utf-8" else n
    | none => "utf-8"
  Bytes.decodeNamed name bytes

/-- The body decoded with the announced charset. -/
def Response.text (r : Response) : Except Bytes.DecodeFailure String :=
  decodeWith r.charset r.content

/-- The body read as a document, leniently. -/
def Response.document (r : Response) : Except Json.BytesFailure Json :=
  Json.readBytes r.content

end StatementClient
