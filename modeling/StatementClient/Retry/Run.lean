import StatementClient.Retry.Policy
import StatementClient.Exchange.Resolve
import StatementClient.Exchange.Request

/-!
# Running an operation under a policy

An operation is one request sent again and again until its policy stops, and then the last
outcome resolved (`resolve`). The world the run talks to is a `Port`: pure functions of a state
`σ` that send a request, read the clock, wait and draw a random number.

One round, `Run.loop`:

1. send the request; a fault the port raises ends the run as it is;
2. count the attempt under its outcome (`transport_failure`, or the status class `2xx` …);
3. ask the policy, with the time since the first attempt and the attempts so far;
4. on a stop, whatever its reason, resolve the last outcome; a stop at the deadline or the cap
   first asks the predicate about the outcome once more, and a fault it raises ends the run;
5. otherwise draw, count a retry, wait the jittered delay, and go again.

Every round spends one unit of fuel, the attempts the world still allows; a run that spends it
all ends `spent`. `Run.perform` wraps a run as the client sees it: a classified error is counted
under the operation and the error's kind, and every run is counted once under its operation.
-/

namespace StatementClient

/-- The world an operation talks to, as pure functions of its state. -/
structure Port (σ : Type) where
  /-- One attempt: its outcome or a fault the transport raised, and the state after it. -/
  attempt : σ → Request → σ × Except Fault Outcome
  /-- The clock, in seconds. -/
  now : σ → Number
  /-- Waiting `d` seconds: the state after it, and a fault when the wait itself failed. -/
  sleep : σ → Number → σ × Except Fault Unit
  /-- A random number, for jitter. -/
  draw : σ → Json × σ
  /-- Releasing the connection. -/
  close : σ → σ

/-- The operations of the service, by the names they are counted under. -/
inductive Operation where
  | submit
  | fetch
  | ingest
  deriving DecidableEq, Inhabited

/-- The name of an operation. -/
def Operation.name : Operation → String
  | .submit => "submit"
  | .fetch => "fetch"
  | .ingest => "ingest"

/-- Counts by key, in the order the keys first came. -/
abbrev Counts := List (String × Nat)

/-- One more under `key`. -/
def Counts.bump : Counts → String → Counts
  | [], key => [(key, 1)]
  | (k, n) :: rest, key => if k = key then (k, n + 1) :: rest else (k, n) :: bump rest key

/-- What a client counts: attempts by operation and outcome, retries by operation, errors by
operation and kind, and finished runs by operation. -/
structure Metrics where
  attempts : Counts := []
  retries : Counts := []
  errors : Counts := []
  runs : Counts := []
  deriving Inhabited

/-- `n // 100` for a positive number: exact for integers, a double for doubles. -/
def Number.hundreds : Number → Number
  | .int n => .int (n / 100)
  | .float x =>
    let (m, e) := Number.exactOf x
    let q : Int := if e ≥ 0 then m * Int.pow 2 e.toNat / 100 else m / (100 * Int.pow 2 (-e).toNat)
    .float (Float.ofInt q)

/-- The label of an outcome: `transport_failure`, or the status class such as `2xx`. -/
def Outcome.label : Outcome → String
  | .failure _ => "transport_failure"
  | .response r => r.status.hundreds.toJson.display ++ "xx"

namespace Metrics

/-- One more attempt of `op` ending in `o`. -/
def countAttempt (m : Metrics) (op : Operation) (o : Outcome) : Metrics :=
  { m with attempts := m.attempts.bump (op.name ++ ":" ++ o.label) }

/-- One more retry of `op`. -/
def countRetry (m : Metrics) (op : Operation) : Metrics :=
  { m with retries := m.retries.bump op.name }

/-- One more error of kind `k` ending `op`. -/
def countError (m : Metrics) (op : Operation) (k : ErrorKind) : Metrics :=
  { m with errors := m.errors.bump (op.name ++ ":" ++ k.word) }

/-- One more finished run of `op`. -/
def countRun (m : Metrics) (op : Operation) : Metrics :=
  { m with runs := m.runs.bump op.name }

end Metrics

/-- How a run ends without a value. -/
inductive RunFailure where
  /-- The last outcome resolved to a client error. -/
  | client (e : ClientError)
  /-- The world raised a fault; it passes through unclassified. -/
  | raised (f : Fault)
  /-- The world allows no more attempts. -/
  | spent
  deriving Inhabited

/-- The failure of a run whose last outcome did not resolve. -/
def RunFailure.ofUnresolved : Unresolved → RunFailure
  | .client e => .client e
  | .raised f => .raised f

/-- Where a run leaves things: the world, the counts, the fuel left, and the value or failure. -/
structure Run (σ ε α : Type) where
  state : σ
  metrics : Metrics
  fuel : Nat
  result : Except ε α

namespace Run

/-- A run that ended in `e` without touching the world. -/
def fail {σ ε α : Type} (s : σ) (m : Metrics) (fuel : Nat) (e : ε) : Run σ ε α :=
  ⟨s, m, fuel, .error e⟩

/-- A run's failure seen through `f`. -/
def mapFailure {σ ε ε' α : Type} (f : ε → ε') (r : Run σ ε α) : Run σ ε' α :=
  { r with result := r.result.mapError f }

variable {σ α : Type} (port : Port σ) (policy : Policy) (op : Operation) (request : Request)
  (read : List UInt8 → Except BodyFailure α)

/-- The rounds of a run whose first attempt began at `started`, after `count` attempts. -/
def loop (started : Number) : Nat → Nat → σ → Metrics → Run σ RunFailure α
  | 0, _, s, m => fail s m 0 .spent
  | fuel + 1, count, s, m =>
    let (s, sent) := port.attempt s request
    match sent with
    | .error f => fail s m fuel (.raised f)
    | .ok outcome =>
      let m := m.countAttempt op outcome
      let verdict := do
        let elapsed ← ((port.now s).sub started).mapError Fault.ofNumber
        policy.stopReason? outcome elapsed.atLeastZero (.int (count + 1))
      match verdict with
      | .error f => fail s m fuel (.raised f)
      | .ok (some reason) =>
        -- a stop before the predicate had its say asks it once more
        let asked := if reason = .terminal then .ok false else policy.predicate.retries outcome
        match asked with
        | .error f => fail s m fuel (.raised f)
        | .ok _ => ⟨s, m, fuel, (resolve read outcome).mapError RunFailure.ofUnresolved⟩
      | .ok none =>
        let (u, s) := port.draw s
        match policy.delayFor u with
        | .error f => fail s m fuel (.raised (Fault.ofNumber f))
        | .ok delay =>
          let m := m.countRetry op
          let (s, waited) := port.sleep s delay
          match waited with
          | .error f => fail s m fuel (.raised f)
          | .ok () => loop started fuel (count + 1) s m

/-- A run as the client makes it: the rounds from the current time, then an error counted by
kind, and the run counted under its operation. -/
def perform (fuel : Nat) (s : σ) (m : Metrics) : Run σ RunFailure α :=
  let r := loop port policy op request read (port.now s) fuel 0 s m
  let counted := match r.result with
    | .error (.client e) => r.metrics.countError op e.kind
    | _ => r.metrics
  { r with metrics := counted.countRun op }

end Run

end StatementClient
