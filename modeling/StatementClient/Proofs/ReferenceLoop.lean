import StatementClient.Proofs.Decisions
import StatementClient.Proofs.Readers
import StatementClient.Session.Client

/-!
# A run follows the reference loop

`Run.reference` is the loop the retry rules describe, written round by round: attempt; read the
time since the first attempt began, never below zero; take the policy's verdict for this outcome
and this count of attempts; on a stop, end; on a wait, sleep the delay once and attempt again. It
records what it did as a `Trace`: the outcomes repeated with the delays waited after them, and how
the run ended.

* `Run.loop_eq_reference`: a run leaves the world as the reference loop does, and answers as it
  does (`Trace.result`: the last outcome resolved), except that a run stopped at its deadline or
  cap first asks the predicate about its last outcome once more, and raises what the predicate
  raises (`Trace.recheck`).
* `Run.reference_succ_cases`: a round raises, stops on its outcome for the reason of the policy's
  verdict, or waits the delay of the verdict and goes on.
* `Run.reference_heeds`: along every run the predicate said yes to each outcome repeated and no to
  an outcome the run stopped on as final (`Trace.Heeds`).
* `Run.reference_goes_on`: in a world whose clock, random source and waits behave, an outcome the
  predicate repeats, met before the deadline and the cap, is followed by another round.
-/

namespace StatementClient

/-- What a run did, round by round. -/
inductive Trace where
  /-- An attempt ended in `outcome`, the policy asked to wait `delay`, and the run went on. -/
  | retried (outcome : Outcome) (delay : Number) (rest : Trace)
  /-- The last attempt ended in `outcome` and the policy stopped for `reason`. -/
  | stopped (outcome : Outcome) (reason : StopReason)
  /-- The world raised a fault: the attempt, the clock, the predicate, the delay or the wait. -/
  | raised (f : Fault)
  /-- The world allowed no more attempts. -/
  | spent
  deriving Inhabited

namespace Trace

/-- The answer of the reference loop: the last outcome resolved by `read`, the fault raised, or
nothing when the world allowed no more attempts. -/
def result {α : Type} (read : List UInt8 → Except BodyFailure α) : Trace → Except RunFailure α
  | .retried _ _ rest => rest.result read
  | .stopped o _ => (resolve read o).mapError RunFailure.ofUnresolved
  | .raised f => .error (.raised f)
  | .spent => .error .spent

/-- The fault of asking predicate `p` once more about the last outcome, when the run stopped at
its deadline or cap and the predicate raises. -/
def recheck (p : Predicate) : Trace → Option Fault
  | .retried _ _ rest => rest.recheck p
  | .stopped o r =>
    if r = .terminal then none
    else
      match p.retries o with
      | .error f => some f
      | .ok _ => none
  | _ => none

/-- The outcomes the run attempted again after, in order. -/
def repeated : Trace → List Outcome
  | .retried o _ rest => o :: rest.repeated
  | _ => []

/-- How the run ended. -/
def last : Trace → Trace
  | .retried _ _ rest => rest.last
  | t => t

/-- What predicate `p` said along a trace: yes to every outcome repeated, and no to an outcome the
run stopped on as final. -/
def Heeds (p : Predicate) : Trace → Prop
  | .retried o _ rest => p.retries o = .ok true ∧ rest.Heeds p
  | .stopped o r => r = .terminal → p.retries o = .ok false
  | _ => True

theorem Heeds.repeated {p : Predicate} {t : Trace} (h : t.Heeds p) :
    ∀ o ∈ t.repeated, p.retries o = .ok true := by
  induction t with
  | retried o d rest ih =>
    intro o' ho'
    rcases List.mem_cons.1 ho' with rfl | ho'
    · exact h.1
    · exact ih h.2 o' ho'
  | _ => simp [Trace.repeated]

theorem Heeds.last {p : Predicate} {t : Trace} (h : t.Heeds p) {o : Outcome}
    (hl : t.last = .stopped o .terminal) : p.retries o = .ok false := by
  induction t with
  | retried o' d rest ih => exact ih h.2 hl
  | stopped o' r =>
    simp only [Trace.last, Trace.stopped.injEq] at hl
    obtain ⟨rfl, rfl⟩ := hl
    exact h rfl
  | _ => simp [Trace.last] at hl

/-- The predicate is asked once more, and raises, only about the outcome a run stopped on at its
deadline or cap. -/
theorem recheck_eq_some {p : Predicate} {t : Trace} {f : Fault} :
    t.recheck p = some f ↔
      ∃ o r, t.last = .stopped o r ∧ r ≠ .terminal ∧ p.retries o = .error f := by
  induction t with
  | retried o d rest ih => exact ih
  | stopped o r =>
    by_cases hr : r = .terminal
    · simp [recheck, last, hr]
    · rcases hq : p.retries o with g | b
      · simp only [recheck, last, hr, hq, ↓reduceIte, Option.some.injEq]
        constructor
        · rintro rfl
          exact ⟨o, r, rfl, hr, hq⟩
        · rintro ⟨o', r', ⟨⟩, -, hq'⟩
          rw [hq] at hq'
          cases hq'
          rfl
      · simp [recheck, last, hr, hq]
  | _ => simp [recheck, last]

theorem recheck_stopped {p : Predicate} {o : Outcome} {r : StopReason} (hr : r ≠ .terminal)
    {f : Fault} (h : p.retries o = .error f) : (Trace.stopped o r).recheck p = some f := by
  simp [recheck, hr, h]

theorem result_last {α : Type} (read : List UInt8 → Except BodyFailure α) (t : Trace) :
    t.last.result read = t.result read := by
  induction t with
  | retried o d rest ih => exact ih
  | _ => rfl

theorem recheck_last (p : Predicate) (t : Trace) : t.last.recheck p = t.recheck p := by
  induction t with
  | retried o d rest ih => exact ih
  | _ => rfl

theorem result_ok {α : Type} {read : List UInt8 → Except BodyFailure α} {t : Trace} {v : α}
    (h : t.result read = .ok v) : ∃ o r, t.last = .stopped o r ∧ resolve read o = .ok v := by
  induction t with
  | retried o d rest ih => exact ih h
  | stopped o r =>
    refine ⟨o, r, rfl, ?_⟩
    simp only [Trace.result] at h
    rcases hr : resolve read o with e | w <;> simp [hr, Except.mapError] at h
    rw [h]
  | raised f => simp [Trace.result] at h
  | spent => simp [Trace.result] at h

end Trace

/-- The time since `started` by the world's clock in state `s`, never below zero. -/
def Port.elapsed {σ : Type} (port : Port σ) (started : Number) (s : σ) :
    Except NumberFault Number :=
  ((port.now s).sub started).map Number.atLeastZero

/-- A world whose clock reads doubles, whose random source draws doubles and whose waits end. -/
structure Port.Steady {σ : Type} (port : Port σ) : Prop where
  now : ∀ s, ∃ x, port.now s = .float x
  draw : ∀ s, ∃ x, (port.draw s).1 = .float x
  sleep : ∀ s d, (port.sleep s d).2 = .ok ()

theorem Port.elapsed_float {σ : Type} {port : Port σ} {s : σ} {x : Float}
    (hx : port.now s = .float x) (t : Float) :
    port.elapsed (.float t) s = .ok (Number.float (x - t)).atLeastZero := by
  simp [Port.elapsed, hx, Number.sub, Number.asFloat, Number.toFloat?, bind, Except.bind, pure,
    Except.pure, Except.map]

theorem Port.Steady.sleep_eq {σ : Type} {port : Port σ} (hw : port.Steady) (s : σ) (d : Number) :
    port.sleep s d = ((port.sleep s d).1, .ok ()) := by
  rw [← hw.sleep s d]

namespace Run

variable {σ α : Type} (port : Port σ) (policy : Policy) (op : Operation) (request : Request)
  (read : List UInt8 → Except BodyFailure α)

/-- The reference loop from the first attempt, begun at `started`, after `count` attempts: the
world after it and what it did. Each round spends one unit of fuel, the attempts the world still
allows. -/
def reference (started : Number) : Nat → Nat → σ → σ × Trace
  | 0, _, s => (s, .spent)
  | fuel + 1, count, s =>
    match port.attempt s request with
    | (s, .error f) => (s, .raised f)
    | (s, .ok outcome) =>
      match port.elapsed started s with
      | .error f => (s, .raised (Fault.ofNumber f))
      | .ok elapsed =>
        match policy.verdict port.draw outcome elapsed (count + 1) s with
        | (.error f, s) => (s, .raised f)
        | (.ok (.stop reason), s) => (s, .stopped outcome reason)
        | (.ok (.wait delay), s) =>
          match port.sleep s delay with
          | (s, .error f) => (s, .raised f)
          | (s, .ok ()) =>
            let (s, rest) := reference started fuel (count + 1) s
            (s, .retried outcome delay rest)

/-- One round of the reference loop: it raises, or stops on its outcome for the reason of the
policy's verdict, or the verdict was a wait of `delay` and the run goes on from some world. -/
theorem reference_succ_cases (started : Number) (fuel count : Nat) (s : σ) :
    (∃ f, (reference port policy request started (fuel + 1) count s).2 = .raised f) ∨
    (∃ o e r s₁, (policy.verdict port.draw o e (count + 1) s₁).1 = .ok (.stop r) ∧
      (reference port policy request started (fuel + 1) count s).2 = .stopped o r) ∨
    (∃ o e delay s₁ s₃, (policy.verdict port.draw o e (count + 1) s₁).1 = .ok (.wait delay) ∧
      (reference port policy request started (fuel + 1) count s).2 =
        .retried o delay (reference port policy request started fuel (count + 1) s₃).2) := by
  rw [reference]
  rcases port.attempt s request with ⟨s₁, f | o⟩
  · exact .inl ⟨f, rfl⟩
  dsimp only
  rcases port.elapsed started s₁ with f | e
  · exact .inl ⟨_, rfl⟩
  dsimp only
  rcases hv : policy.verdict port.draw o e (count + 1) s₁ with ⟨f | (r | delay), s₂⟩
  · exact .inl ⟨f, rfl⟩
  · exact .inr (.inl ⟨o, e, r, s₁, by rw [hv], rfl⟩)
  · dsimp only
    rcases port.sleep s₂ delay with ⟨s₃, f | u⟩
    · exact .inl ⟨f, rfl⟩
    · exact .inr (.inr ⟨o, e, delay, s₁, s₃, by rw [hv], rfl⟩)

theorem perform_result (fuel : Nat) (s : σ) (m : Metrics) :
    (perform port policy op request read fuel s m).result =
      (loop port policy op request read (port.now s) fuel 0 s m).result := rfl

theorem loop_eq_reference (started : Number) (fuel count : Nat) (s : σ) (m : Metrics) :
    (loop port policy op request read started fuel count s m).state =
        (reference port policy request started fuel count s).1 ∧
      (loop port policy op request read started fuel count s m).result =
        match (reference port policy request started fuel count s).2.recheck policy.predicate with
        | some f => .error (.raised f)
        | none => (reference port policy request started fuel count s).2.result read := by
  -- the world's functions as variables, so that unfolding both loops leaves them alike
  rcases port with ⟨attempt, now, sleep, draw, close⟩
  induction fuel generalizing count s m with
  | zero => exact ⟨rfl, rfl⟩
  | succ fuel ih =>
    rw [loop, reference]
    dsimp only
    rcases attempt s request with ⟨s₁, _ | outcome⟩
    · exact ⟨rfl, rfl⟩
    dsimp only [Port.elapsed]
    rcases (now s₁).sub started with f | elapsed
    · exact ⟨rfl, rfl⟩
    simp only [Except.mapError, Except.map, bind, Except.bind]
    rw [Policy.verdict_eq, Int.natCast_add, Int.natCast_one]
    rcases policy.stopReason? outcome elapsed.atLeastZero (.int (count + 1)) with f | _ | reason
    · exact ⟨rfl, rfl⟩
    · -- the policy asks for another attempt: draw, wait, and go on
      dsimp only
      rcases draw s₁ with ⟨u, s₂⟩
      dsimp only
      rcases policy.delayFor u with f | delay
      · exact ⟨rfl, rfl⟩
      dsimp only [Except.mapError, Except.map]
      rcases sleep s₂ delay with ⟨s₃, f | u⟩
      · exact ⟨rfl, rfl⟩
      cases u
      exact ih (count + 1) s₃ _
    · -- a stop: the loop asks the predicate once more unless the stop was its own
      by_cases hr : reason = .terminal
      · subst hr
        exact ⟨rfl, rfl⟩
      · rcases hq : policy.predicate.retries outcome with f | b
        · simp [hr, hq, Trace.recheck, fail]
        · simp [hr, hq, Trace.recheck, Trace.result, Except.mapError]

/-- Along every run the predicate said yes to each outcome repeated, and no to an outcome the run
stopped on as final. -/
theorem reference_heeds (started : Number) (fuel count : Nat) (s : σ) :
    (reference port policy request started fuel count s).2.Heeds policy.predicate := by
  -- each round is a step: a stop or a wait is what the verdict was, and the rest is the same run
  induction fuel generalizing count s with
  | zero => trivial
  | succ fuel ih =>
    rcases reference_succ_cases port policy request started fuel count s with
      ⟨f, ht⟩ | ⟨o, e, reason, s₁, hv, ht⟩ | ⟨o, e, delay, s₁, s₃, hv, ht⟩
    · rw [ht]
      trivial
    · rw [ht]
      rintro rfl
      exact Policy.verdict_terminal _ _ _ _ _ _ hv
    · rw [ht]
      exact ⟨(Policy.verdict_wait _ _ _ _ _ _ hv).1, ih _ _⟩

/-- In a steady world, a policy on doubles repeats an outcome its predicate asks to repeat when the
attempt ends before the deadline and below the cap: the round waits once and another round
follows. -/
theorem reference_goes_on (hw : port.Steady) (hp : policy.OnDoubles) {started : Number}
    (hstart : ∃ t, started = .float t) {fuel count : Nat} {s s₁ : σ} {o : Outcome}
    (hatt : port.attempt s request = (s₁, .ok o)) (hr : policy.predicate.retries o = .ok true)
    (hdl : ∀ e limit, port.elapsed started s₁ = .ok e → policy.maxElapsed = some limit →
      Number.compare? e limit = some .lt)
    (hcap : ∀ cap, policy.maxAttempts = some cap →
      Number.compare? (.int (count + 1)) cap = some .lt) :
    ∃ delay s₂, reference port policy request started (fuel + 1) count s =
      ((reference port policy request started fuel (count + 1) s₂).1,
        .retried o delay (reference port policy request started fuel (count + 1) s₂).2) := by
  obtain ⟨t, rfl⟩ := hstart
  obtain ⟨x, hx⟩ := hw.now s₁
  obtain ⟨u, hu⟩ := hw.draw s₁
  obtain ⟨⟨b, hb⟩, ⟨j, hj⟩⟩ := hp
  have he := Port.elapsed_float hx t
  have hd := Policy.pastDeadline_of_lt policy _ fun limit hm => hdl _ limit he hm
  have hc := Policy.capReached_of_lt policy (count + 1) fun cap hm => by
    rw [Int.natCast_add, Int.natCast_one]
    exact hcap cap hm
  have hv := Policy.verdict_of_retries policy port.draw o _ _ s₁ hd hc hr
  rw [hu, Policy.delayFor_float hb hj] at hv
  generalize (Number.float (b * (1.0 + (-j + (j - -j) * u)))).atLeastZero = delay at hv
  refine ⟨delay, (port.sleep (port.draw s₁).2 delay).1, ?_⟩
  rw [reference, hatt]
  dsimp only
  rw [he]
  dsimp only
  rw [hv]
  dsimp only [Except.mapError, Except.map]
  rw [hw.sleep_eq]

theorem perform_ok_stopped {fuel : Nat} {s : σ} {m : Metrics} {v : α}
    (h : (perform port policy op request read fuel s m).result = .ok v) :
    ∃ o r, (reference port policy request (port.now s) fuel 0 s).2.last = .stopped o r ∧
      resolve read o = .ok v := by
  obtain ⟨-, hres⟩ := loop_eq_reference port policy op request read (port.now s) fuel 0 s m
  rw [perform_result, hres] at h
  split at h
  · cases h
  exact Trace.result_ok h

/-- Whatever the world does, a run under a policy decides by the policy's verdict, leaves the world
as the reference loop from the current time does, and answers as it does, except where it stopped
at its deadline or cap on an outcome the predicate raises on: it raises that fault. -/
theorem perform_follows_reference (fuel : Nat) (s : σ) (m : Metrics) :
    (∀ {δ : Type} (draw : δ → Json × δ) (o : Outcome) (e : Number) (n : Nat) (d : δ),
      policy.decide draw o e (.int n) d =
        ((policy.verdict draw o e n d).1.map Verdict.toDecision, (policy.verdict draw o e n d).2)) ∧
    (perform port policy op request read fuel s m).state =
      (reference port policy request (port.now s) fuel 0 s).1 ∧
    (perform port policy op request read fuel s m).result =
      (match (reference port policy request (port.now s) fuel 0 s).2.recheck policy.predicate with
        | some f => .error (.raised f)
        | none => (reference port policy request (port.now s) fuel 0 s).2.result read) ∧
    ∀ f, (reference port policy request (port.now s) fuel 0 s).2.recheck policy.predicate = some f ↔
      ∃ o r, (reference port policy request (port.now s) fuel 0 s).2.last = .stopped o r ∧
        r ≠ .terminal ∧ policy.predicate.retries o = .error f := by
  obtain ⟨hs, hr⟩ := loop_eq_reference port policy op request read (port.now s) fuel 0 s m
  exact ⟨fun draw o e n d => Policy.decide_eq_verdict policy draw o e n d, hs, hr,
    fun _ => Trace.recheck_eq_some⟩

end Run

/-! ## The answer of a run that stops on a success -/

/-- An outcome resolves to a value only when it is a success whose body its reader accepts. -/
theorem resolve_eq_ok {α : Type} {read : List UInt8 → Except BodyFailure α} {o : Outcome} {v : α} :
    resolve read o = .ok v ↔
      ∃ r, o = .response r ∧ r.isSuccess = true ∧ read r.content = .ok v := by
  cases o with
  | failure f => simp [resolve]
  | response r =>
    unfold resolve
    by_cases hs : r.isSuccess
    · rcases hr : read r.content with (c | f) | w <;> simp [hs, hr]
    · simp only [hs, Bool.false_eq_true, ↓reduceIte]
      split <;> simp [hs]

theorem resolve_readStatement_success {r : Response} (hs : r.isSuccess = true) (f : Fault) :
    resolve readStatement (.response r) ≠ .error (.raised f) := by
  simp only [resolve, hs, ↓reduceIte]
  rcases hr : readStatement r.content with (c | g) | v
  · simp
  · unfold readStatement at hr
    rcases hb : StatementResponse.ofBytes r.content with e | w <;> simp [hb, Except.mapError] at hr
  · simp

/-- The polling predicate raises the reader's fault on every success whose body opens more
brackets than the reader's stack holds. -/
theorem Predicate.untilDone_raises_nested {r : Response} (hs : r.isSuccess = true) {n : Nat}
    (hn : 970 < n) {rest : List UInt8} (hr : ∀ x ∈ rest, x < 0x80)
    (hc : r.content = List.replicate n 0x5B ++ rest) :
    Predicate.untilDone.retries (.response r) =
      .error ⟨"RecursionError", (Json.ReadError.stackExhausted true).text⟩ :=
  (Predicate.untilDone_raises_iff _ _).2 ⟨r, _, true, 970, rfl, hs,
    by rw [Response.document, hc]; exact Json.readBytes_nested hn hr, rfl⟩

/-- A poll capped at one attempt, whose one answer is a success opening two thousand brackets,
raises the reader's fault, where the reference loop stops at the cap and resolves that answer,
which raises nothing. -/
theorem capped_poll_raises_on_deep_body :
    let deep : Outcome :=
      .response ⟨.int 200, List.replicate 2000 0x5B ++ List.replicate 2000 0x5D, none, none⟩
    let port : Port Unit :=
      ⟨fun s _ => (s, .ok deep), fun _ => .int 0, fun s _ => (s, .ok ()), fun s => (.float 0.5, s), id⟩
    let policy : Policy := ⟨.float 1.0, .float 0.15, none, some (.int 1), "poll_until_done", .untilDone⟩
    let request : Request := ⟨.get, "/v1/statements/s1", some [("format", .str "json")], none⟩
    (Run.reference port policy request (port.now ()) 1 0 ()).2 = .stopped deep .maxAttempts ∧
      (∀ f, (Run.reference port policy request (port.now ()) 1 0 ()).2.result readStatement ≠
        .error (.raised f)) ∧
      (Run.perform port policy .fetch request readStatement 1 () {}).result =
        .error (.raised ⟨"RecursionError", (Json.ReadError.stackExhausted true).text⟩) := by
  intro deep port policy request
  have hstop : (Run.reference port policy request (port.now ()) 1 0 ()).2 =
      .stopped deep .maxAttempts := rfl
  have hraise : policy.predicate.retries deep =
      .error ⟨"RecursionError", (Json.ReadError.stackExhausted true).text⟩ :=
    Predicate.untilDone_raises_nested rfl (by decide)
      (fun x hx => by rw [List.eq_of_mem_replicate hx]; decide) rfl
  refine ⟨hstop, fun f => ?_, ?_⟩
  · rw [hstop]
    simp only [Trace.result]
    rcases hr : resolve readStatement deep with e | v
    · cases e with
      | client c => simp [Except.mapError, RunFailure.ofUnresolved]
      | raised g => exact absurd hr (resolve_readStatement_success (by decide) g)
    · simp [Except.mapError]
  · obtain ⟨-, hr⟩ :=
      Run.loop_eq_reference port policy .fetch request readStatement (port.now ()) 1 0 () {}
    rw [Run.perform_result, hr, hstop, Trace.recheck_stopped (by decide) hraise]

end StatementClient
