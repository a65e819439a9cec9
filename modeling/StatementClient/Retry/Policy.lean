import StatementClient.Wire.Enums
import StatementClient.Retry.Decision
import StatementClient.Exchange.Outcome
import StatementClient.Config.Settings

/-!
# Retry policies

A policy retries an operation on a constant delay perturbed by jitter. Its budget is a deadline
in seconds since the first attempt (or none) and a cap on attempts (or none); a predicate says
which outcomes are worth another attempt.

* `PolicyConfig.validate` checks a configuration in this order: the base delay is not negative;
  the jitter fraction lies in [0, 1); the deadline, if set, is not negative; the cap, if set, is at
  least one.
* `Policy.decide` stops at the deadline first, then at the cap, then when the predicate declines;
  otherwise it retries after `Policy.nextDelay`.
* `Policy.nextDelay` draws `u` and returns the larger of `0.0` and
  `baseDelay · (1.0 + jitter)` with `jitter = -j + (j - -j) · u`.

Random numbers come from `Draws`, a scripted source that repeats its values in a cycle.
-/

namespace StatementClient

/-- Which outcomes a policy tries again after. -/
inductive Predicate where
  /-- Only transport failures: any response is final. -/
  | transportOnly
  /-- Also 2xx responses whose body reports a statement still queued or running. -/
  | untilDone
  deriving DecidableEq, Inhabited

/-- The name of a predicate. -/
def Predicate.name : Predicate → String
  | .transportOnly => "transport"
  | .untilDone => "until_done"

/-- The status a document reports, when it is an object whose `status` member is a wire name. -/
def reportedStatus (doc : Json) : Option StatementStatus :=
  match doc.field? "status" with
  | some v =>
    match (WireEnum.parse v : Except ParseFault StatementStatus) with
    | .ok s => some s
    | .error _ => none
  | none => none

/-- Whether the predicate asks for another attempt after an outcome. A response whose body does
not read as a value, or reports no status, is final; a reader that runs out of stack raises its
fault. -/
def Predicate.retries : Predicate → Outcome → Except Fault Bool
  | _, .failure _ => .ok true
  | .transportOnly, .response _ => .ok false
  | .untilDone, .response r =>
    if !r.isSuccess then .ok false
    else
      match r.document with
      | .ok doc => .ok ((reportedStatus doc).any (fun s => !s.isTerminal))
      | .error f => if f.isValueError then .ok false else .error ⟨f.className, f.message⟩

/-- A scripted source of random numbers: its values, repeated in a cycle, from a position; `0.5`
every time when there are none. -/
structure Draws where
  values : List Json
  position : Nat
  deriving Inhabited

/-- The next number and the source after it. -/
def Draws.next (d : Draws) : Json × Draws :=
  match d.values with
  | [] => (.float 0.5, d)
  | vs => (vs.getD (d.position % vs.length) .null, { d with position := d.position + 1 })

/-- A configuration as given: values of any kind, checked by `validate`. -/
structure PolicyConfig where
  baseDelay : Json := .float 1.0
  jitterFraction : Json := .float 0.15
  maxElapsed : Json := .float 60.0
  maxAttempts : Json := .null
  name : String := "default"
  predicate : Predicate := .transportOnly
  deriving Inhabited

/-- A checked policy. -/
structure Policy where
  baseDelay : Number
  jitterFraction : Number
  maxElapsed : Option Number
  maxAttempts : Option Number
  name : String
  predicate : Predicate
  deriving Inhabited

/-- Why a configuration is refused. -/
inductive PolicyFault where
  | invalid (message : String)
  | number (f : NumberFault)
  deriving Inhabited

/-- The class name of a policy fault. -/
def PolicyFault.className : PolicyFault → String
  | .invalid _ => "ValueError"
  | .number f => f.className

/-- The message of a policy fault. -/
def PolicyFault.message : PolicyFault → String
  | .invalid m => m
  | .number f => f.message

/-- The number of a value compared by `op` against `bound`, with the fault of the comparison when
it is no number. -/
def asCompared (op : Comparison) (v bound : Json) : Except PolicyFault Number :=
  match v.number? with
  | some n => .ok n
  | none => .error (.number (.notComparable op v.typeName bound.typeName))

/-- Whether `a op b` holds, as a policy check. -/
def holds (op : Comparison) (a b : Json) : Except PolicyFault Bool :=
  (Json.compareBy op a b).mapError PolicyFault.number

/-- Checks a configuration, in the order of the rules. -/
def PolicyConfig.validate (c : PolicyConfig) : Except PolicyFault Policy := do
  if ← holds .lt c.baseDelay (.int 0) then throw (.invalid "base_delay must be >= 0")
  let base ← asCompared .lt c.baseDelay (.int 0)
  let aboveZero ← holds .le (.float 0.0) c.jitterFraction
  let belowOne ← if aboveZero then holds .lt c.jitterFraction (.float 1.0) else pure false
  if !belowOne then throw (.invalid "jitter_fraction must be in [0, 1)")
  let jitter ← asCompared .lt c.jitterFraction (.float 1.0)
  let maxElapsed ← match c.maxElapsed with
    | .null => pure none
    | v => do
      if ← holds .lt v (.int 0) then throw (.invalid "max_elapsed must be >= 0")
      pure (some (← asCompared .lt v (.int 0)))
  let maxAttempts ← match c.maxAttempts with
    | .null => pure none
    | v => do
      if ← holds .lt v (.int 1) then throw (.invalid "max_attempts must be >= 1")
      pure (some (← asCompared .lt v (.int 1)))
  pure { baseDelay := base, jitterFraction := jitter, maxElapsed, maxAttempts, name := c.name,
         predicate := c.predicate }

/-- The configuration a client's settings give a policy named `name` that retries by `predicate`. -/
def PolicyConfig.ofSettings (s : Settings) (name : String) (predicate : Predicate) :
    PolicyConfig :=
  { baseDelay := .float s.retryBaseDelay, jitterFraction := .float s.retryJitter,
    maxElapsed := (s.retryMaxElapsed.map Json.float).getD .null,
    maxAttempts := (s.retryMaxAttempts.map Json.int).getD .null, name, predicate }

/-- The policy for most calls: retry transport failures only. -/
def PolicyConfig.standard (s : Settings) : PolicyConfig :=
  PolicyConfig.ofSettings s "default" .transportOnly

/-- The policy for waiting on a statement: retry transport failures and statements still queued
or running. -/
def PolicyConfig.polling (s : Settings) : PolicyConfig :=
  PolicyConfig.ofSettings s "poll_until_done" .untilDone

namespace Policy

/-- The document of a policy's settings. -/
def toJson (p : Policy) : Json :=
  .obj [("base_delay", p.baseDelay.toJson), ("jitter_fraction", p.jitterFraction.toJson),
        ("max_elapsed", (p.maxElapsed.map Number.toJson).getD .null),
        ("max_attempts", (p.maxAttempts.map Number.toJson).getD .null),
        ("name", .str p.name), ("predicate", .str p.predicate.name)]

/-- The jittered delay for a draw `u`: the larger of `0.0` and `base · (1.0 + jitter)`, with
`jitter = -j + (j - -j) · u` and the draw converted to a double first. -/
def delayFor (p : Policy) (u : Json) : Except NumberFault Number := do
  let j := p.jitterFraction
  let width ← j.sub j.neg
  let u ← u.toFloat
  let jitter ← (j.neg).add (← width.mul (.float u))
  let factor ← (Number.float 1.0).add jitter
  let delay ← p.baseDelay.mul factor
  pure delay.atLeastZero

/-- The jittered delay from the next draw of a random source, and the source after the draw
(advanced even when the arithmetic fails). -/
def nextDelay {δ : Type} (p : Policy) (draw : δ → Json × δ) (d : δ) :
    Except NumberFault Number × δ :=
  let (u, d) := draw d
  (p.delayFor u, d)

/-- Why to stop after an attempt, given the time since the first attempt and the number of
attempts so far: deadline, then cap, then predicate; `none` when the attempt is worth
repeating. -/
def stopReason? (p : Policy) (outcome : Outcome) (elapsed : Number) (attempts : Json) :
    Except Fault (Option StopReason) := do
  let pastDeadline := match p.maxElapsed with
    | some limit => (Number.compare? elapsed limit).any (Comparison.holds .ge)
    | none => false
  if pastDeadline then return some .deadline
  let capped ← match p.maxAttempts with
    | some cap => (Json.compareBy .ge attempts cap.toJson).mapError Fault.ofNumber
    | none => pure false
  if capped then return some .maxAttempts
  if !(← p.predicate.retries outcome) then return some .terminal
  pure none

/-- The decision after an attempt: a stop with its reason, or a delay drawn from the random
source; the source after it either way. -/
def decide {δ : Type} (p : Policy) (draw : δ → Json × δ) (outcome : Outcome) (elapsed : Number)
    (attempts : Json) (d : δ) : Except Fault Decision × δ :=
  match p.stopReason? outcome elapsed attempts with
  | .error f => (.error f, d)
  | .ok (some r) => (.ok (.stop r), d)
  | .ok none =>
    let (delay, d) := p.nextDelay draw d
    ((delay.map fun x => .retryAfter x.toJson).mapError Fault.ofNumber, d)

end Policy

/-- The time since the first attempt: the larger of `0.0` and `now - start`. -/
def elapsedSince (start now : Json) : Except NumberFault Number :=
  (Json.subtract now start).map Number.atLeastZero

end StatementClient
