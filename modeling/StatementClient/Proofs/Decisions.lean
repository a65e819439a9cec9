import Mathlib.Tactic.SplitIfs
import StatementClient.Retry.Policy

/-!
# What a policy decides

`Policy.stopReason?` and `Policy.decide` read the stop rules off one block. This module states the
decision as the rules are written, `Policy.verdict`: stop at the deadline if the time since the
first attempt has reached it, else at the cap if the attempts have reached it, else when the
predicate declines the outcome; otherwise wait a delay drawn from the random source.

* `Policy.decide_eq_verdict`: the decision is the verdict; `Policy.verdict_cases`: what a verdict
  can be.
* `Predicate.transportOnly_retries_iff`, `Predicate.untilDone_retries_iff`: which outcomes each
  predicate asks to repeat.
* `Predicate.untilDone_raises_iff`: the polling predicate answers every outcome but a success whose
  body runs the reader out of stack, where it raises the reader's fault; that is the one failure
  to read a body that is no complaint about the value (`Json.BytesFailure.isValueError_eq_false`).
* `Policy.delayFor_float`: a policy on doubles always has a delay for a drawn double.
-/

namespace StatementClient

/-- A policy's answer after an attempt, with its delay still a number. -/
inductive Verdict where
  | stop (reason : StopReason)
  | wait (delay : Number)
  deriving Inhabited

/-- The decision a verdict is. -/
def Verdict.toDecision : Verdict → Decision
  | .stop r => .stop r
  | .wait d => .retryAfter d.toJson

@[simp]
theorem Json.compareBy_toJson (op : Comparison) (a b : Number) :
    Json.compareBy op a.toJson b.toJson = .ok ((Number.compare? a b).any op.holds) := by
  cases a <;> cases b <;> rfl

namespace Policy

/-- Whether the time since the first attempt has reached the deadline, when there is one. -/
def pastDeadline (p : Policy) (elapsed : Number) : Bool :=
  match p.maxElapsed with
  | some limit => (Number.compare? elapsed limit).any (Comparison.holds .ge)
  | none => false

/-- Whether the attempts so far have reached the cap, when there is one. -/
def capReached (p : Policy) (attempts : Nat) : Bool :=
  match p.maxAttempts with
  | some cap => (Number.compare? (.int attempts) cap).any (Comparison.holds .ge)
  | none => false

/-- The decision after the `attempts`-th attempt ended in `outcome`, `elapsed` seconds after the
first began: stop at the deadline, else at the cap, else when the predicate declines; else wait a
delay drawn from the random source. A fault of the predicate or of the arithmetic is the answer. -/
def verdict {δ : Type} (p : Policy) (draw : δ → Json × δ) (outcome : Outcome) (elapsed : Number)
    (attempts : Nat) (d : δ) : Except Fault Verdict × δ :=
  if p.pastDeadline elapsed then (.ok (.stop .deadline), d)
  else if p.capReached attempts then (.ok (.stop .maxAttempts), d)
  else
    match p.predicate.retries outcome with
    | .error f => (.error f, d)
    | .ok false => (.ok (.stop .terminal), d)
    | .ok true =>
      let (u, d) := draw d
      (((p.delayFor u).map Verdict.wait).mapError Fault.ofNumber, d)

variable {δ : Type} (p : Policy) (draw : δ → Json × δ) (o : Outcome) (e : Number) (n : Nat)
  (d : δ)

theorem stopReason?_eq :
    p.stopReason? o e (.int n) =
      if p.pastDeadline e then .ok (some .deadline)
      else if p.capReached n then .ok (some .maxAttempts)
      else (p.predicate.retries o).map fun b => if b then none else some .terminal := by
  have hn : (Json.int n) = (Number.int n).toJson := rfl
  unfold stopReason? pastDeadline capReached
  rw [hn]
  rcases p.maxElapsed with _ | limit <;> rcases p.maxAttempts with _ | cap <;>
    rcases p.predicate.retries o with f | _ | _ <;>
    simp [Except.mapError, bind, Except.bind, pure, Except.pure, Except.map]

theorem verdict_eq :
    p.verdict draw o e n d =
      match p.stopReason? o e (.int n) with
      | .error f => (.error f, d)
      | .ok (some r) => (.ok (.stop r), d)
      | .ok none =>
        (((p.delayFor (draw d).1).map Verdict.wait).mapError Fault.ofNumber, (draw d).2) := by
  rw [stopReason?_eq]
  unfold verdict
  split_ifs
  · rfl
  · rfl
  · rcases p.predicate.retries o with f | _ | _ <;> rfl

theorem pastDeadline_of_lt
    (h : ∀ limit, p.maxElapsed = some limit → Number.compare? e limit = some .lt) :
    p.pastDeadline e = false := by
  unfold pastDeadline
  rcases hm : p.maxElapsed with _ | limit
  · rfl
  · simp [h limit hm, Comparison.holds]

theorem capReached_of_lt
    (h : ∀ cap, p.maxAttempts = some cap → Number.compare? (.int n) cap = some .lt) :
    p.capReached n = false := by
  unfold capReached
  rcases hm : p.maxAttempts with _ | cap
  · rfl
  · simp [h cap hm, Comparison.holds]

/-- Before the deadline and the cap, an outcome the predicate repeats is waited on, with the delay
of the next draw. -/
theorem verdict_of_retries (hd : p.pastDeadline e = false) (hc : p.capReached n = false)
    (hr : p.predicate.retries o = .ok true) :
    p.verdict draw o e n d =
      (((p.delayFor (draw d).1).map Verdict.wait).mapError Fault.ofNumber, (draw d).2) := by
  simp [verdict, hd, hc, hr]

/-- A policy waits only after an outcome its predicate repeats, before the deadline and the cap. -/
theorem verdict_wait {x : Number} (h : (p.verdict draw o e n d).1 = .ok (.wait x)) :
    p.predicate.retries o = .ok true ∧ p.pastDeadline e = false ∧ p.capReached n = false := by
  unfold verdict at h
  by_cases hd : p.pastDeadline e
  · simp [hd] at h
  by_cases hc : p.capReached n
  · simp [hd, hc] at h
  simp only [hd, hc, Bool.false_eq_true, ↓reduceIte] at h
  rcases hr : p.predicate.retries o with f | _ | _
  · simp [hr] at h
  · simp [hr] at h
  · exact ⟨rfl, by simpa using hd, by simpa using hc⟩

/-- A policy stops on an outcome as final only when its predicate declines it. -/
theorem verdict_terminal (h : (p.verdict draw o e n d).1 = .ok (.stop .terminal)) :
    p.predicate.retries o = .ok false := by
  unfold verdict at h
  by_cases hd : p.pastDeadline e
  · simp [hd] at h
  by_cases hc : p.capReached n
  · simp [hd, hc] at h
  simp only [hd, hc, Bool.false_eq_true, ↓reduceIte] at h
  rcases hr : p.predicate.retries o with f | _ | _
  · simp [hr] at h
  · rfl
  · rcases hv : p.delayFor (draw d).1 <;> simp [hr, hv, Except.map, Except.mapError] at h

/-- What a verdict can be: a stop, or a fault of the predicate, both leaving the random source as
it was; or, after the predicate's yes, the delay of the next draw. -/
theorem verdict_cases :
    (∃ r, p.verdict draw o e n d = (.ok (.stop r), d)) ∨
    (∃ f, p.predicate.retries o = .error f ∧ p.verdict draw o e n d = (.error f, d)) ∨
    (p.predicate.retries o = .ok true ∧ p.verdict draw o e n d =
      (((p.delayFor (draw d).1).map Verdict.wait).mapError Fault.ofNumber, (draw d).2)) := by
  unfold verdict
  by_cases hd : p.pastDeadline e
  · exact .inl ⟨.deadline, by simp [hd]⟩
  by_cases hc : p.capReached n
  · exact .inl ⟨.maxAttempts, by simp [hd, hc]⟩
  simp only [hd, hc, Bool.false_eq_true, ↓reduceIte]
  rcases hr : p.predicate.retries o with f | _ | _
  · exact .inr (.inl ⟨f, rfl, rfl⟩)
  · exact .inl ⟨.terminal, rfl⟩
  · exact .inr (.inr ⟨rfl, rfl⟩)

/-- A policy decides as its verdict: the same stop, or a retry after the same delay. -/
theorem decide_eq_verdict :
    p.decide draw o e (.int n) d =
      ((p.verdict draw o e n d).1.map Verdict.toDecision, (p.verdict draw o e n d).2) := by
  rw [verdict_eq]
  unfold decide nextDelay
  rcases p.stopReason? o e (.int n) with f | _ | r
  · rfl
  · rcases draw d with ⟨u, d'⟩
    dsimp only
    rcases p.delayFor u with f | x <;> rfl
  · rfl

end Policy

/-- A policy whose base delay and jitter fraction are doubles, as the policies of a client's
settings are. -/
structure Policy.OnDoubles (p : Policy) : Prop where
  base : ∃ b, p.baseDelay = .float b
  jitter : ∃ j, p.jitterFraction = .float j

/-- A policy on doubles turns every drawn double into a delay, the larger of `0.0` and
`base · (1.0 + (-j + (j - -j) · u))`. -/
theorem Policy.delayFor_float {p : Policy} {b j : Float} (hb : p.baseDelay = .float b)
    (hj : p.jitterFraction = .float j) (u : Float) :
    p.delayFor (.float u) = .ok (Number.float (b * (1.0 + (-j + (j - -j) * u)))).atLeastZero := by
  simp [Policy.delayFor, hb, hj, Number.sub, Number.neg, Number.mul, Number.add, Number.asFloat,
    Number.toFloat?, Json.toFloat, Json.number?, bind, Except.bind, pure, Except.pure]

theorem asCompared_eq_ok {op : Comparison} {v bound : Json} {n : Number} :
    asCompared op v bound = .ok n ↔ v.number? = some n := by
  unfold asCompared
  split <;> simp_all

theorem holds_of_number {op : Comparison} {a b : Json} {x y : Number} (ha : a.number? = some x)
    (hb : b.number? = some y) : holds op a b = .ok ((Number.compare? x y).any op.holds) := by
  simp [holds, Json.compareBy, ha, hb, Except.mapError]

/-- What a passed policy check establishes: the policy retries by its configuration's predicate,
holds the numbers of its configuration's base delay and jitter fraction, and holds a cap only
when the check found it not below one. -/
theorem PolicyConfig.validate_eq_ok {c : PolicyConfig} {p : Policy} (h : c.validate = .ok p) :
    (p.predicate = c.predicate ∧ c.baseDelay.number? = some p.baseDelay ∧
      c.jitterFraction.number? = some p.jitterFraction) ∧
      ∀ cap, p.maxAttempts = some cap →
        (Number.compare? cap (.int 1)).any (Comparison.holds .lt) = false := by
  unfold PolicyConfig.validate at h
  simp only [bind, Except.bind, pure, Except.pure, throw, throwThe, MonadExceptOf.throw] at h
  -- every path that throws nothing ends in one record, built from the numbers the checks read
  repeat' split at h
  all_goals first
    | (cases h; done)
    | (cases h; refine ⟨⟨rfl, asCompared_eq_ok.1 ‹_›, asCompared_eq_ok.1 ‹_›⟩, ?_⟩)
  all_goals
    intro cap hm
    first
      | (cases hm; done)
      | skip
  all_goals
    cases hm
    rename_i hless hnot _ _ hcap
    have hn := asCompared_eq_ok.1 hcap
    rw [holds_of_number hn rfl, Except.ok.injEq] at hless
    rw [hless]
    simpa using hnot

theorem PolicyConfig.ofSettings_validate {st : Settings} {name : String} {pred : Predicate}
    {p : Policy} (h : (PolicyConfig.ofSettings st name pred).validate = .ok p) :
    p.predicate = pred ∧ p.OnDoubles := by
  obtain ⟨⟨hp, hb, hj⟩, -⟩ := PolicyConfig.validate_eq_ok h
  simp only [PolicyConfig.ofSettings, Json.number?, Option.some.injEq] at hp hb hj
  exact ⟨hp, ⟨_, hb.symm⟩, ⟨_, hj.symm⟩⟩

/-! ## Failures to read a body -/

/-- The only failure to read bytes that is no complaint about the value: the reader ran out of
stack. -/
theorem Json.BytesFailure.isValueError_eq_false {b : Json.BytesFailure} :
    b.isValueError = false ↔ ∃ cs array pos, b = .unreadable cs ⟨.stackExhausted array, pos⟩ := by
  constructor
  · intro h
    rcases b with u | ⟨cs, ⟨err, pos⟩⟩
    · simp [Json.BytesFailure.isValueError] at h
    · cases err
      case stackExhausted array => exact ⟨cs, array, pos, rfl⟩
      all_goals simp [Json.BytesFailure.isValueError] at h
  · rintro ⟨cs, array, pos, rfl⟩
    rfl

@[simp]
theorem Json.BytesFailure.className_stack (cs : List Char) (array : Bool) (pos : Nat) :
    (Json.BytesFailure.unreadable cs ⟨.stackExhausted array, pos⟩).className = "RecursionError" :=
  rfl

@[simp]
theorem Json.BytesFailure.message_stack (cs : List Char) (array : Bool) (pos : Nat) :
    (Json.BytesFailure.unreadable cs ⟨.stackExhausted array, pos⟩).message =
      (Json.ReadError.stackExhausted array).text := by
  simp [Json.BytesFailure.message, Json.ReadFailure.message, Json.ReadError.isMalformed]

namespace Predicate

@[simp]
theorem retries_failure (p : Predicate) (f : Fault) : p.retries (.failure f) = .ok true := by
  cases p <;> rfl

theorem transportOnly_retries (o : Outcome) :
    Predicate.transportOnly.retries o = .ok (o matches .failure _) := by
  cases o <;> rfl

theorem StatementStatus.ofWire?_eq_some {w : String} {s : StatementStatus} :
    (WireEnum.ofWire? w : Option StatementStatus) = some s ↔ WireEnum.wireName s = w := by
  constructor
  · intro h
    simpa using List.find?_some h
  · rintro rfl
    cases s <;> rfl

theorem reportedStatus_eq_some {doc : Json} {s : StatementStatus} :
    reportedStatus doc = some s ↔ doc.field? "status" = some (.str (WireEnum.wireName s)) := by
  unfold reportedStatus
  rcases doc.field? "status" with _ | v
  · simp
  cases v
  case str w =>
    rcases h : (WireEnum.ofWire? w : Option StatementStatus) with _ | m
    · have : WireEnum.wireName s ≠ w := fun hw => by
        simp [StatementStatus.ofWire?_eq_some.2 hw] at h
      simp [WireEnum.parse, h, Ne.symm this]
    · have hm := StatementStatus.ofWire?_eq_some.1 h
      subst hm
      simp only [WireEnum.parse, h, Option.some.injEq, Json.str.injEq]
      constructor
      · rintro rfl; rfl
      · intro hw
        cases m <;> cases s <;> first | rfl | simp [WireEnum.wireName] at hw
  all_goals simp [WireEnum.parse]

/-- A document reports a statement still queued or running exactly when its status member is one
of those two wire names. -/
theorem reportedStatus_running_iff (doc : Json) :
    (reportedStatus doc).any (fun s => !s.isTerminal) = true ↔
      doc.field? "status" = some (.str "queued") ∨ doc.field? "status" = some (.str "running") := by
  rcases h : reportedStatus doc with _ | s
  · have hq := mt (@reportedStatus_eq_some doc .queued).2 (by simp [h])
    have hr := mt (@reportedStatus_eq_some doc .running).2 (by simp [h])
    simp only [Option.any_none, Bool.false_eq_true, false_iff, not_or]
    exact ⟨hq, hr⟩
  · have hs := reportedStatus_eq_some.1 h
    cases s <;> simp_all [WireEnum.wireName, StatementStatus.isTerminal]

/-- The polling predicate repeats a transport failure, and a success whose body reads as a
document reporting a statement still queued or running; nothing else. -/
theorem untilDone_retries_iff (o : Outcome) :
    Predicate.untilDone.retries o = .ok true ↔
      (∃ f, o = .failure f) ∨
      ∃ r doc, o = .response r ∧ r.isSuccess = true ∧ r.document = .ok doc ∧
        (doc.field? "status" = some (.str "queued") ∨
          doc.field? "status" = some (.str "running")) := by
  cases o with
  | failure f => simp
  | response r =>
    unfold retries
    by_cases hs : r.isSuccess
    · rcases hd : r.document with e | doc
      · simp only [hs, hd, Bool.not_true, Bool.false_eq_true, ↓reduceIte]
        split <;> simp [hd]
      · simp [hs, hd, reportedStatus_running_iff]
    · simp [hs]

/-- The polling predicate raises only on a success whose body runs the reader out of stack, and
then raises the reader's own fault. -/
theorem untilDone_raises_iff (o : Outcome) (f : Fault) :
    Predicate.untilDone.retries o = .error f ↔
      ∃ r cs array pos, o = .response r ∧ r.isSuccess = true ∧
        r.document = .error (.unreadable cs ⟨.stackExhausted array, pos⟩) ∧
        f = ⟨"RecursionError", (Json.ReadError.stackExhausted array).text⟩ := by
  cases o with
  | failure f => simp
  | response r =>
    unfold retries
    by_cases hs : r.isSuccess
    · rcases hd : r.document with e | doc
      · simp only [hs, hd, Bool.not_true, Bool.false_eq_true, ↓reduceIte]
        by_cases hv : e.isValueError
        · simp only [hv, ↓reduceIte, reduceCtorEq, false_iff]
          rintro ⟨r', cs, array, pos, ⟨⟩, -, hd', -⟩
          rw [hd, Except.error.injEq] at hd'
          rw [hd'] at hv
          exact Bool.false_ne_true hv
        · obtain ⟨cs, array, pos, rfl⟩ := Json.BytesFailure.isValueError_eq_false.1 (by simpa using hv)
          simp only [hv, Bool.false_eq_true, ↓reduceIte, Except.error.injEq,
            Json.BytesFailure.className_stack, Json.BytesFailure.message_stack]
          constructor
          · rintro rfl
            exact ⟨r, cs, array, pos, rfl, hs, hd, rfl⟩
          · rintro ⟨r', cs', array', pos', ⟨⟩, -, hd', rfl⟩
            rw [hd] at hd'
            cases hd'
            rfl
      · simp [hs, hd]
    · simp [hs]

end Predicate

end StatementClient
