import StatementClient.Exchange.Error

/-!
# Enriching log events

Two steps every client log event goes through.

* `errorFields` flattens the client error an event refers to into `error_kind` (the word of its
  kind) and `error_details` (its details), replacing what the event held under those names. An
  event refers to an error through its exception slot: the exception itself, a triple whose middle
  is the exception, or a flag meaning the exception being handled. Events about other exceptions
  are left alone.
* `endpointContext` stamps `client` and `endpoint`, keeping values the event already has.
-/

namespace StatementClient

/-- What an event's exception slot holds. An exception is a client error (`some`) or another
one (`none`). -/
inductive ExceptionSlot where
  /-- The exception itself. -/
  | exception (e : Option ClientError)
  /-- The triple of class, exception and trace. -/
  | triple (e : Option ClientError)
  /-- The flag for the exception being handled. -/
  | handling
  /-- Anything else. -/
  | other
  deriving Inhabited

/-- The client error a slot refers to; `handled` is the exception being handled. -/
def ExceptionSlot.error (slot : ExceptionSlot) (handled : Option ClientError) :
    Option ClientError :=
  match slot with
  | .exception e | .triple e => e
  | .handling => handled
  | .other => none

/-- An event with the kind and details of the client error it refers to. -/
def errorFields (event : List (String × Json)) (error : Option ClientError) :
    List (String × Json) :=
  match error with
  | some e =>
    Json.setField (Json.setField event "error_kind" (.str e.kind.word)) "error_details"
      (.obj e.details)
  | none => event

/-- `value` under `key`, unless the event already has `key`. -/
def setDefault (event : List (String × Json)) (key : String) (value : Json) :
    List (String × Json) :=
  if (Json.lookup event key).isSome then event else event ++ [(key, value)]

/-- An event stamped with the client and its endpoint. -/
def endpointContext (endpoint : String) (event : List (String × Json)) : List (String × Json) :=
  setDefault (setDefault event "client" (.str "scopedb")) "endpoint" (.str endpoint)

end StatementClient
