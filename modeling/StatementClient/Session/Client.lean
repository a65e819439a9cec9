import StatementClient.Retry.Run
import StatementClient.Schema.Request
import StatementClient.Schema.Response
import StatementClient.Ingest.Rows

/-!
# The client

A client holds two policies built from its settings: the standard one, which retries transport
failures only, and the polling one, which also retries statements still queued or running. Every
call checks its request first, so a refused request sends nothing, and then runs one operation
(`Run.perform`) or two.

* `submit` posts a statement under the standard policy. When asked to wait and the statement is
  not finished (failed included), it fetches the statement under the polling policy and answers
  with the last fetch.
* `fetch` gets a statement's state, under the polling policy when asked to wait until it is done.
* `ingest` posts rows already encoded; `ingestBatch` encodes columnar batches first
  (`encodeBatches`).
* `close` releases the transport, when the client owns it.
-/

namespace StatementClient

/-- A client: its two policies and whether it owns its transport. -/
structure Client where
  standard : Policy
  polling : Policy
  ownsTransport : Bool
  deriving Inhabited

/-- How a call ends without a value. -/
inductive CallFailure where
  /-- The operation ran and failed. -/
  | run (f : RunFailure)
  /-- The request is refused before anything is sent. -/
  | invalid (issues : List Issue)
  /-- The batches do not encode. -/
  | unencodable (f : RowsFault)
  deriving Inhabited

/-- The calls of a client. -/
inductive Call where
  | submit (request : Json) (wait : Bool)
  | fetch (params : Json) (untilDone : Bool)
  | ingest (rows statement format : Json)
  | ingestBatch (batches statement : Json)
  | close
  deriving Inhabited

/-- What a call answers. -/
inductive Reply where
  | statement (r : StatementResponse)
  | ingested (r : IngestResponse)
  | closed
  deriving Inhabited

/-- A statement response read from a body. -/
def readStatement (b : List UInt8) : Except BodyFailure StatementResponse :=
  (StatementResponse.ofBytes b).mapError fun issues => .invalid (.validation issues)

/-- An ingest response read from a body. -/
def readIngest (b : List UInt8) : Except BodyFailure IngestResponse :=
  (IngestResponse.ofBytes b).mapError fun issues => .invalid (.validation issues)

/-- Any document read leniently from a body; a reader that runs out of stack raises its fault. -/
def readDocument (b : List UInt8) : Except BodyFailure Json :=
  (Json.readBytes b).mapError fun f =>
    if f.isValueError then .invalid (.error f.className f.message) else .raised ⟨f.className, f.message⟩

/-- The request that gets a statement's state. -/
def FetchParams.request (params : FetchParams) : Request :=
  ⟨.get, statementPath params.statementId, some (params.query.map fun (k, v) => (k, .str v)), none⟩

/-- The containers the row writer can enter inside a call, three more than the body reader
(`Dialect.lenient`), which sits three calls deeper. -/
def ingestRoom : Nat := 973

namespace Client

/-- The client of some settings, with both policies checked (the standard one first). -/
def make (s : Settings) (ownsTransport : Bool) : Except PolicyFault Client := do
  let standard ← (PolicyConfig.standard s).validate
  let polling ← (PolicyConfig.polling s).validate
  pure { standard, polling, ownsTransport }

variable {σ : Type} (c : Client) (port : Port σ)

/-- Fetches a statement's state. -/
def fetch (params : FetchParams) (untilDone : Bool) (fuel : Nat) (s : σ) (m : Metrics) :
    Run σ CallFailure StatementResponse :=
  let policy := if untilDone then c.polling else c.standard
  (Run.perform port policy .fetch params.request readStatement fuel s m).mapFailure .run

/-- Submits a statement, and polls it until it is done when `wait` is set. -/
def submit (request : Json) (wait : Bool) (fuel : Nat) (s : σ) (m : Metrics) :
    Run σ CallFailure StatementResponse :=
  match StatementRequest.check request with
  | .error issues => Run.fail s m fuel (.invalid issues)
  | .ok req =>
    let sent : Request := ⟨.post, statementsPath, none, some req.body⟩
    let r := (Run.perform port c.standard .submit sent readStatement fuel s m).mapFailure .run
    match r.result with
    | .error _ => r
    | .ok submitted =>
      if !wait || submitted.isFinished then r
      else
        let handle := Json.obj [("statement_id", .str submitted.statementId),
          ("format", wireJson req.format)]
        match FetchParams.check handle with
        | .error issues => Run.fail r.state r.metrics r.fuel (.invalid issues)
        | .ok params => fetch c port params true r.fuel r.state r.metrics

/-- Ingests rows already encoded, in the format of wire name `format`. -/
def ingest (rows statement format : Json) (fuel : Nat) (s : σ) (m : Metrics) :
    Run σ CallFailure IngestResponse :=
  match IngestData.checkMembers [("format", format), ("rows", rows)] with
  | .error issues => Run.fail s m fuel (.invalid issues)
  | .ok data =>
    match IngestRequest.withData data statement with
    | .error issues => Run.fail s m fuel (.invalid issues)
    | .ok req =>
      let sent : Request := ⟨.post, ingestPath, none, some req.body⟩
      (Run.perform port c.standard .ingest sent readIngest fuel s m).mapFailure .run

/-- Encodes columnar batches and ingests the rows. -/
def ingestBatch (batches statement : Json) (fuel : Nat) (s : σ) (m : Metrics) :
    Run σ CallFailure IngestResponse :=
  match encodeBatches ingestRoom batches with
  | .error f => Run.fail s m fuel (.unencodable f)
  | .ok rows => ingest c port (.str rows) statement (.str "json") fuel s m

/-- Releases the transport when the client owns it. -/
def close (s : σ) : σ :=
  if c.ownsTransport then port.close s else s

/-- Makes one call. -/
def call (fuel : Nat) (s : σ) (m : Metrics) : Call → Run σ CallFailure Reply
  | .submit request wait =>
    let r := submit c port request wait fuel s m
    { r with result := r.result.map .statement }
  | .fetch params untilDone =>
    match FetchParams.check params with
    | .error issues => Run.fail s m fuel (.invalid issues)
    | .ok p =>
      let r := fetch c port p untilDone fuel s m
      { r with result := r.result.map .statement }
  | .ingest rows statement format =>
    let r := ingest c port rows statement format fuel s m
    { r with result := r.result.map .ingested }
  | .ingestBatch batches statement =>
    let r := ingestBatch c port batches statement fuel s m
    { r with result := r.result.map .ingested }
  | .close => ⟨close c port s, m, fuel, .ok .closed⟩

end Client

end StatementClient
