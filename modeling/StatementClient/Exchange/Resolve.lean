import StatementClient.Exchange.Error
import StatementClient.Exchange.Outcome
import StatementClient.Text.Blank

/-!
# Resolving the last outcome of an operation

The outcome an operation ends with becomes its value or one of the client errors.

* A transport failure is a transport error: `No response from ScopeDB: <fault>`, with the fault's
  class as `error_type` and the fault as cause.
* A 2xx response is read by the operation's reader; when the reader complains about the body,
  it is a decode error `Invalid response body from ScopeDB` with the status and the complaint's
  text as details and the complaint as cause.
* Any other response is a remote error carrying the status and the best text of the body
  (`errorText`).

The text of a remote error's body comes from the first of these that applies: a fault while the
body was read; a body that does not decode in its charset, or whose charset names no text codec;
a body of blanks only (no text);
a body that is an object whose `message` is a string (that string); the body with its blanks
trimmed. The text is cut to its first `maxErrorText` characters.

A fault that is no complaint about the body, such as a reader running out of stack or a codec
raising an error of its own, passes through the resolver (`Unresolved.raised`).
-/

namespace StatementClient

/-- The most characters of a body that an error message holds. -/
def maxErrorText : Nat := 2000

/-- What the body of a remote error says: its text (`none` for a blank body), or a fault met
while reading or decoding it. -/
inductive ErrorText where
  | text (t : Option String)
  | unreadable (lead : String) (f : Fault)
  deriving Inhabited

/-- The text of an error body, or the fault that reading its document raised. -/
def errorText (r : Response) : Except Fault ErrorText :=
  match r.bodyFault with
  | some f => .ok (.unreadable "failed to read error body: " f)
  | none =>
    match r.text with
    | .error e =>
      if e.isLookupOrDecode then
        .ok (.unreadable "failed to decode error body: " ⟨e.className, e.message⟩)
      else .error ⟨e.className, e.message⟩
    | .ok t =>
      let trimmed := Text.trim t
      if trimmed.isEmpty then .ok (.text none)
      else
        let chosen : Except Fault String := match r.document with
          | .ok doc =>
            match doc with
            | .obj _ =>
              match doc.field? "message" with
              | some (.str m) => .ok m
              | _ => .ok trimmed
            | _ => .ok trimmed
          | .error f => if f.isValueError then .ok trimmed else .error ⟨f.className, f.message⟩
        chosen.map fun c => .text (some (String.ofList (c.toList.take maxErrorText)))

/-- The remote error of a response that is no success, or the fault met reading its body. -/
def remoteError (r : Response) : Except Fault ClientError :=
  let status := r.status.toJson
  (errorText r).map fun
    | .text t => .remote status ((t.map Json.str).getD .null) [] none
    | .unreadable before f =>
      .remote status (.str (before ++ f.message)) [("body_error_type", .str f.className)]
        (some (.error f.className f.message))

/-- Why a reader gives no value for a body. -/
inductive BodyFailure where
  /-- The body is not what the reader expects. -/
  | invalid (c : Cause)
  /-- Reading met a fault that is no complaint about the body. -/
  | raised (f : Fault)
  deriving Inhabited

/-- Why an outcome resolves to no value. -/
inductive Unresolved where
  /-- The outcome amounts to a client error. -/
  | client (e : ClientError)
  /-- A fault met on the way passes through. -/
  | raised (f : Fault)
  deriving Inhabited

/-- The value of an outcome read by `read`, or why there is none. -/
def resolve {α : Type} (read : List UInt8 → Except BodyFailure α) : Outcome → Except Unresolved α
  | .failure f =>
    .error (.client (.plain .transport ("No response from ScopeDB: " ++ f.render)
      [("error_type", .str f.className)] (some (.error f.className f.message))))
  | .response r =>
    if r.isSuccess then
      match read r.content with
      | .ok v => .ok v
      | .error (.invalid c) =>
        .error (.client (.plain .decode "Invalid response body from ScopeDB"
          [("status_code", r.status.toJson), ("parse_error", .str c.text)] (some c)))
      | .error (.raised f) => .error (.raised f)
    else
      match remoteError r with
      | .ok e => .error (.client e)
      | .error f => .error (.raised f)

end StatementClient
