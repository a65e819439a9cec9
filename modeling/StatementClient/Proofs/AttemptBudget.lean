import Mathlib
import StatementClient.Proofs.Submission
import StatementClient.Proofs.DoubleMonotone
import StatementClient.Proofs.CheckedSettings

/-!
# The budget of a run

A run attempts, and after each attempt its policy stops or waits. Its budget is a deadline, read
off the world's clock as the time since the first attempt began, and a cap on the attempts. Taken
one round at a time (`Run.reference_succ_cases`), the rules in their order (deadline, then cap,
then predicate) bound every run, whatever the world:

* `Run.reference_recording` (with the recording world): the rounds of a trace are the requests
  sent (`Trace.attempts`).
* `Run.reference_attempts_le_cap`: a run makes no attempt past a count the cap check admits.
* `Run.reference_delays`: every delay waited is the policy's delay for a draw, the larger of `0.0`
  and the jittered product, so the retry check, which compares it exactly with the integer zero,
  accepts it (`Number.retryAfter_atLeastZero`); on doubles it lies between `b · (1.0 - j)` and
  `b · (1.0 + j)` as the program computes them (`Policy.delayFor_bounds`).
* `Run.reference_past_deadline`: an attempt that ends at or past the deadline is the last one.
* `Run.reference_waited_le_clock`, `Run.reference_clock_eq_waited`: the time a run takes is that of
  the delays it waited, added in doubles one after another, or more when attempts take time.
* `Run.reference_attempts_le_of_paced`, `Run.reference_attempts_ge_of_exact`: the time since the
  start, against a clock that moves on by at least each delay, is at least the least delay added
  up once per wait (`clockAfter`), and against a clock that moves on by exactly each delay, at
  most the greatest delay added up so. The sums are taken in doubles, as the clock takes them, so
  the bounds on the attempts are read off `clockAfter` and not off the real quotient of the
  deadline by a delay, which they can miss (`jittered_delay_beyond_real_bound`).

Main statement: `run_within_budget`.
-/

namespace StatementClient

namespace Trace

/-- The delays a run waited, in order. -/
def delays : Trace → List Number
  | .retried _ delay rest => delay :: rest.delays
  | _ => []

end Trace

theorem Number.atLeastZero_nonneg (x : Number) :
    Number.compare? x.atLeastZero (.float 0.0) = some .gt ∨ x.atLeastZero = .float 0.0 := by
  unfold Number.atLeastZero
  split
  · exact .inl ‹_›
  · exact .inr rfl

/-! ## A delay passes the retry check

The retry check compares a delay with the integer zero, exactly; the delays are doubles that
compare above the double zero, or that zero itself. A double compares with the integer zero as
with the double zero (`Number.compare?_float_int_zero`), so such a delay is above the integer zero
too. -/

theorem Number.compareIntFloat_zero (a : Int) :
    Number.compareIntFloat a 0.0 = some (compare a 0) := by
  have hexact : Number.exactOf 0.0 = (0, -1074) := rfl
  have hnan0 : (0.0 : Float).isNaN = false := rfl
  have hinf0 : (0.0 : Float).isInf = false := rfl
  unfold Number.compareIntFloat
  rw [hnan0, hinf0, hexact]
  simp only [Bool.false_eq_true, ↓reduceIte, Number.compareIntScaled_zero_right]

theorem Number.compare_int_zero_of_gt {d : Number}
    (h : Number.compare? d (.float 0.0) = some .gt) : Number.compare? d (.int 0) = some .gt := by
  cases d with
  | float y => rwa [Number.compare?_float_int_zero]
  | int n =>
    simp only [Number.compare?, Number.compareIntFloat_zero, Option.some.injEq] at h ⊢
    exact h

/-- The larger of `0.0` and a number passes the retry check: a retry after it is a decision. -/
theorem Number.retryAfter_atLeastZero (x : Number) :
    Decision.retryAfter? x.atLeastZero.toJson = .ok (.retryAfter x.atLeastZero.toJson) := by
  unfold Decision.retryAfter?
  rw [show (Json.int 0) = (Number.int 0).toJson from rfl, Json.compareBy_toJson]
  rcases Number.atLeastZero_nonneg x with h | h
  · rw [Number.compare_int_zero_of_gt h]
    rfl
  · rw [h]
    simp [Number.compare?, Number.compareIntFloat_zero, Comparison.holds]

namespace Policy

variable {δ : Type} (p : Policy) (draw : δ → Json × δ) (o : Outcome) (e : Number) (n : Nat)
  (d : δ)

theorem delayFor_eq_ok {u : Json} {x : Number} (h : p.delayFor u = .ok x) :
    ∃ y : Number, x = y.atLeastZero := by
  obtain ⟨width, -, h⟩ := Except.bind_eq_ok h
  obtain ⟨drawn, -, h⟩ := Except.bind_eq_ok h
  obtain ⟨product, -, h⟩ := Except.bind_eq_ok h
  obtain ⟨jitter, -, h⟩ := Except.bind_eq_ok h
  obtain ⟨factor, -, h⟩ := Except.bind_eq_ok h
  obtain ⟨delay, -, h⟩ := Except.bind_eq_ok h
  exact ⟨delay, (Except.ok.inj h).symm⟩

theorem verdict_wait_eq {x : Number} (h : (p.verdict draw o e n d).1 = .ok (.wait x)) :
    p.delayFor (draw d).1 = .ok x ∧ (p.verdict draw o e n d).2 = (draw d).2 := by
  rcases verdict_cases p draw o e n d with ⟨r, hv⟩ | ⟨f, -, hv⟩ | ⟨-, hv⟩ <;> rw [hv] at h ⊢
  · cases h
  · cases h
  · refine ⟨?_, rfl⟩
    rcases hx : p.delayFor (draw d).1 with f | y <;> simp [hx, Except.map, Except.mapError] at h
    rw [h]

theorem verdict_wait_delay {x y : Number} (hv : (p.verdict draw o e n d).1 = .ok (.wait x))
    (hy : p.delayFor (draw d).1 = .ok y) : x = y :=
  Except.ok.inj ((verdict_wait_eq p draw o e n d hv).1.symm.trans hy)

theorem verdict_pastDeadline (h : p.pastDeadline e = true) :
    p.verdict draw o e n d = (.ok (.stop .deadline), d) := by
  simp [verdict, h]

end Policy

/-! ## The deadline and the delays in doubles -/

theorem Comparison.holds_ge_compare {α : Type} [LinearOrder α] (a b : α) :
    Comparison.holds .ge (compare a b) = decide (b ≤ a) := by
  rcases lt_trichotomy a b with h | rfl | h
  · rw [compare_lt_iff_lt.2 h, decide_eq_false (not_le.2 h)]
    rfl
  · rw [compare_eq_iff_eq.2 rfl, decide_eq_true le_rfl]
    rfl
  · rw [compare_gt_iff_gt.2 h, decide_eq_true h.le]
    rfl

theorem Number.atLeastZero_float {y : Float} (hy : 0.0 ≤ y) :
    ∃ x, (Number.float y).atLeastZero = .float x ∧ x.isNaN = false ∧ Float.key x = Float.key y := by
  obtain ⟨-, hny, hk⟩ := Float.le_iff_key.1 hy
  unfold Number.atLeastZero
  rw [Number.compare?_float, Float.compare_unpack hny rfl]
  by_cases hgt : compare (Float.key y) (Float.key 0.0) = .gt
  · exact ⟨y, by rw [if_pos (by rw [hgt])], hny, rfl⟩
  · refine ⟨0.0, by rw [if_neg (by simpa using hgt)], rfl, le_antisymm hk ?_⟩
    exact not_lt.1 fun h => hgt (compare_gt_iff_gt.2 h)

/-- A time not below zero is past a deadline on doubles exactly when the deadline is at or below
it. -/
theorem Policy.pastDeadline_atLeastZero {p : Policy} {E y : Float}
    (hE : p.maxElapsed = some (.float E)) (hy : 0.0 ≤ y) :
    p.pastDeadline (Number.float y).atLeastZero = Decidable.decide (E ≤ y) := by
  obtain ⟨x, hx, hnx, hkx⟩ := Number.atLeastZero_float hy
  have hny := (Float.le_iff_key.1 hy).2.1
  unfold Policy.pastDeadline
  rw [hE, hx]
  dsimp only
  rw [Number.compare?_float]
  rcases hnE : E.isNaN with _ | _
  · rw [Float.compare_unpack hnx hnE, Option.any_some, Comparison.holds_ge_compare, hkx]
    exact decide_eq_decide.2 ⟨fun h => Float.le_iff_key.2 ⟨hnE, hny, h⟩,
      fun h => (Float.le_iff_key.1 h).2.2⟩
  · rw [(UnpackedFloat.compare_eq_none_iff _ _).2 (.inr hnE), Option.any_none]
    exact (decide_eq_false fun h => by rw [(Float.le_iff_key.1 h).1] at hnE; cases hnE).symm

theorem Json.eq_float_of_number? {v : Json} {x : Float} (h : v.number? = some (.float x)) :
    v = .float x := by
  cases v <;> simp_all [Json.number?]

/-- A checked policy on doubles has a base delay not below zero and a jitter fraction from `0.0`
up to `1.0`. -/
theorem PolicyConfig.validate_doubles {c : PolicyConfig} {p : Policy} (h : c.validate = .ok p)
    {b j : Float} (hb : p.baseDelay = .float b) (hj : p.jitterFraction = .float j) :
    ¬ b < 0.0 ∧ 0.0 ≤ j ∧ j < 1.0 := by
  obtain ⟨⟨-, hcb, hcj⟩, -⟩ := PolicyConfig.validate_eq_ok h
  rw [hb] at hcb
  rw [hj] at hcj
  unfold PolicyConfig.validate at h
  rw [Json.eq_float_of_number? hcb, Json.eq_float_of_number? hcj] at h
  simp only [holds_float_int_zero, holds_float, asCompared, Json.number?, bind, Except.bind, pure,
    Except.pure, throw, throwThe, MonadExceptOf.throw] at h
  by_cases h₁ : b < 0.0
  · simp [h₁] at h
  by_cases h₂ : Comparison.Rel .le 0.0 j
  · by_cases h₃ : Comparison.Rel .lt j 1.0
    · exact ⟨h₁, h₂, h₃⟩
    · simp [h₁, h₂, h₃] at h
  · simp [h₁, h₂] at h

/-- A random source that draws doubles which the policy's widening `-j + (j - -j) · u` keeps in
`[-j, j]`, as `uniform(-j, j)` does. -/
def Port.Jittered {σ : Type} (port : Port σ) (j : Float) : Prop :=
  ∀ s, ∃ u, (port.draw s).1 = .float u ∧ -j ≤ -j + (j - -j) * u ∧ -j + (j - -j) * u ≤ j

/-- For a jitter fraction from `0.0` up to `1.0` and a jitter in `[-j, j]`, the factor `1.0 + w`
lies between `1.0 - j` and `1.0 + j`, and all three between `0.0` and `2.0`. -/
theorem Float.factor_bounds {j w : Float} (hj0 : 0.0 ≤ j) (hj1 : j < 1.0) (hlo : -j ≤ w)
    (hhi : w ≤ j) : 0.0 ≤ 1.0 - j ∧ 1.0 - j ≤ 1.0 + w ∧ 1.0 + w ≤ 1.0 + j ∧ 1.0 + j ≤ 2.0 := by
  have hone : (1.0 : Float).isFinite = true := by decide
  have h1 : (1.0 : Float) ≤ 1.0 := by decide
  have hk1 := Float.key_ne_bot_of_isFinite hone
  have hj1' := Float.le_of_lt hj1
  have hjf := Float.isFinite_of_le_of_le (by decide) hone hj0 hj1'
  have hkneg := Float.key_ne_bot_of_isFinite (Float.isFinite_neg hjf)
  refine ⟨Float.zero_le_sub hjf hj1', ?_, ?_, ?_⟩
  · rw [Float.sub_eq_add_neg]
    exact Float.add_le_add h1 hlo hk1 hkneg
  · exact Float.add_le_add h1 hhi hk1 (Float.key_ne_bot_of_le hlo hkneg)
  · calc 1.0 + j ≤ 1.0 + 1.0 := Float.add_le_add h1 hj1' hk1 (Float.key_ne_bot_of_isFinite hjf)
      _ = 2.0 := by decide

/-- Under a checked policy on doubles with a finite base delay `b`, a draw that the widening keeps
in `[-j, j]` gives a delay from `b · (1.0 - j)` to `b · (1.0 + j)`, both computed in doubles, and
the lower end is not below zero. -/
theorem Policy.delayFor_bounds {c : PolicyConfig} {p : Policy} (hp : c.validate = .ok p)
    {b j u : Float} (hb : p.baseDelay = .float b) (hj : p.jitterFraction = .float j)
    (hbf : b.isFinite = true) (hw : -j ≤ -j + (j - -j) * u ∧ -j + (j - -j) * u ≤ j) :
    0.0 ≤ b * (1.0 - j) ∧
      ∃ x, p.delayFor (.float u) = .ok (.float x) ∧ b * (1.0 - j) ≤ x ∧ x ≤ b * (1.0 + j) := by
  obtain ⟨hb0, hj0, hj1⟩ := PolicyConfig.validate_doubles hp hb hj
  have hb0' := Float.le_of_not_lt rfl (Float.isNaN_of_isFinite hbf) hb0
  obtain ⟨hf0, hflo, hfw, hfhi⟩ := Float.factor_bounds hj0 hj1 hw.1 hw.2
  have hfin : ∀ f : Float, 0.0 ≤ f → f ≤ 2.0 → f.isFinite = true :=
    fun f h₁ h₂ => Float.isFinite_of_le_of_le (by decide) (by decide) h₁ h₂
  have hflof := hfin _ hf0 (Float.le_trans hflo (Float.le_trans hfw hfhi))
  have hfwf := hfin _ (Float.le_trans hf0 hflo) (Float.le_trans hfw hfhi)
  have hfhif := hfin _ (Float.le_trans hf0 (Float.le_trans hflo hfw)) hfhi
  have hlo := Float.mul_le_mul_of_nonneg_left hflo hb0' hbf hflof hfwf
  have hhi := Float.mul_le_mul_of_nonneg_left hfw hb0' hbf hfwf hfhif
  have hlo0 := Float.zero_le_mul hb0' hbf hf0 hflof
  obtain ⟨x, hx, hnx, hkx⟩ := Number.atLeastZero_float (Float.le_trans hlo0 hlo)
  refine ⟨hlo0, x, by rw [Policy.delayFor_float hb hj, hx], ?_, ?_⟩
  · obtain ⟨hn, -, hk⟩ := Float.le_iff_key.1 hlo
    exact Float.le_iff_key.2 ⟨hn, hnx, hkx ▸ hk⟩
  · obtain ⟨-, hn, hk⟩ := Float.le_iff_key.1 hhi
    exact Float.le_iff_key.2 ⟨hnx, hn, hkx ▸ hk⟩

/-! ## Clocks -/

/-- The reading of a clock that starts at `start` and moves on by `step`, `k` times, adding in
doubles. -/
def clockAfter (start step : Float) : Nat → Float
  | 0 => start
  | k + 1 => clockAfter start step k + step

section Clock

variable {start step : Float}

theorem clockAfter_le_succ (hs : start.isFinite = true) (hd : 0.0 ≤ step) (k : Nat)
    (h : start ≤ clockAfter start step k) :
    clockAfter start step k ≤ clockAfter start step (k + 1) :=
  Float.le_add_of_ge hs h hd

theorem le_clockAfter (hs : start.isFinite = true) (hd : 0.0 ≤ step) :
    ∀ k, start ≤ clockAfter start step k
  | 0 => Float.le_refl_of_isFinite hs
  | k + 1 =>
    have ih := le_clockAfter hs hd k
    Float.le_trans ih (clockAfter_le_succ hs hd k ih)

theorem clockAfter_mono (hs : start.isFinite = true) (hd : 0.0 ≤ step) {i k : Nat} (h : i ≤ k) :
    clockAfter start step i ≤ clockAfter start step k := by
  induction h with
  | refl => exact Float.le_refl_of_ge (le_clockAfter hs hd i)
  | step _ ih => exact Float.le_trans ih (clockAfter_le_succ hs hd _ (le_clockAfter hs hd _))

/-- Adding the same doubles, none below zero, one after another to two readings at or above a
finite double keeps their order. -/
theorem Float.foldl_add_le {xs : List Float} (hxs : ∀ x ∈ xs, 0.0 ≤ x) {a b : Float}
    (hs : start.isFinite = true) (ha : start ≤ a) (hab : a ≤ b) :
    xs.foldl (· + ·) a ≤ xs.foldl (· + ·) b := by
  induction xs generalizing a b with
  | nil => exact hab
  | cons x xs ih =>
    have hx := hxs x List.mem_cons_self
    have hka := Float.key_ne_bot_of_le ha (Float.key_ne_bot_of_isFinite hs)
    exact ih (fun y hy => hxs y (List.mem_cons_of_mem x hy))
      (Float.le_trans ha (Float.le_add_of_ge hs ha hx))
      (Float.add_le_add hab (Float.le_refl_of_ge hx) hka
        (Float.key_ne_bot_of_nonneg hx))

end Clock

/-- A world whose clock reads the double `clock s` in each state `s`, and whose waits end. -/
structure Port.Clocked {σ : Type} (port : Port σ) (clock : σ → Float) : Prop where
  now : ∀ s, port.now s = .float (clock s)
  sleep : ∀ s d, (port.sleep s d).2 = .ok ()

/-- A clock that, from `start` on, never goes back: not over an attempt, not over a draw, and a
wait of `d`, not below zero, moves it on by at least `d`. -/
structure Port.Paced {σ : Type} (port : Port σ) (request : Request) (clock : σ → Float)
    (start : Float) : Prop where
  attempt : ∀ s, start ≤ clock s → clock s ≤ clock (port.attempt s request).1
  draw : ∀ s, start ≤ clock s → clock s ≤ clock (port.draw s).2
  sleep : ∀ s d, start ≤ clock s → 0.0 ≤ d → clock s + d ≤ clock (port.sleep s (.float d)).1

/-- A clock that attempts and draws leave as it is, and that a wait of `d` moves on by exactly
`d`, added in doubles. -/
structure Port.Exact {σ : Type} (port : Port σ) (request : Request) (clock : σ → Float) :
    Prop where
  attempt : ∀ s, clock (port.attempt s request).1 = clock s
  draw : ∀ s, clock (port.draw s).2 = clock s
  sleep : ∀ s d, clock (port.sleep s (.float d)).1 = clock s + d

theorem Port.Exact.paced {σ : Type} {port : Port σ} {request : Request} {clock : σ → Float}
    (h : port.Exact request clock) {start : Float} (hs : start.isFinite = true) :
    port.Paced request clock start where
  attempt s hle := by
    rw [h.attempt]
    exact Float.le_refl_of_ge hle
  draw s hle := by
    rw [h.draw]
    exact Float.le_refl_of_ge hle
  sleep s d hle hd := by
    rw [h.sleep]
    exact Float.le_refl_of_isNaN (Float.isNaN_add
      (Float.key_ne_bot_of_le hle (Float.key_ne_bot_of_isFinite hs))
      (Float.key_ne_bot_of_nonneg hd))

section Round

variable {σ : Type} {port : Port σ} {request : Request} {clock : σ → Float} {s s₁ s₃ : σ}
  {o : Outcome} {y : Float}

/-- Over a round that attempts and then waits `y`, a paced clock moves on by at least `y`. -/
theorem Port.Paced.round {start : Float} (hpace : port.Paced request clock start)
    (hstart : start.isFinite = true) (hs : start ≤ clock s)
    (hatt : port.attempt s request = (s₁, .ok o)) (hy : 0.0 ≤ y)
    (hsl : port.sleep (port.draw s₁).2 (.float y) = (s₃, .ok ())) :
    clock s ≤ clock s₁ ∧ clock s + y ≤ clock s₃ := by
  have h₁ : clock s ≤ clock s₁ := by
    have h := hpace.attempt s hs
    rwa [hatt] at h
  have h₂ := hpace.draw s₁ (Float.le_trans hs h₁)
  have h₃ := hpace.sleep _ y (Float.le_trans hs (Float.le_trans h₁ h₂)) hy
  rw [hsl] at h₃
  refine ⟨h₁, Float.le_trans ?_ h₃⟩
  exact Float.add_le_add (Float.le_trans h₁ h₂) (Float.le_refl_of_ge hy)
    (Float.key_ne_bot_of_le hs (Float.key_ne_bot_of_isFinite hstart))
    (Float.key_ne_bot_of_nonneg hy)

/-- Over a round that attempts and then waits `y`, an exact clock moves on by `y`. -/
theorem Port.Exact.round (hex : port.Exact request clock)
    (hatt : port.attempt s request = (s₁, .ok o))
    (hsl : port.sleep (port.draw s₁).2 (.float y) = (s₃, .ok ())) :
    clock s₃ = clock s + y := by
  have h₁ := hex.attempt s
  have h₃ := hex.sleep (port.draw s₁).2 y
  rw [hatt] at h₁
  rw [hsl, hex.draw] at h₃
  dsimp only at h₁ h₃
  rw [h₃, h₁]

end Round

namespace Run

variable {σ : Type} (port : Port σ) (policy : Policy) (request : Request)

/-- Once the cap check admits `n`, a run that has made fewer than `n` attempts makes at most `n`
in all: the round of the `n`-th attempt stops, at the deadline or the cap. -/
theorem reference_attempts_le_cap {n : Nat} (hcap : policy.capReached n = true)
    (started : Number) (fuel : Nat) :
    ∀ (count : Nat) (s : σ), count < n →
      count + (reference port policy request started fuel count s).2.attempts ≤ n := by
  induction fuel with
  | zero => intro count s hc; simp [reference, Trace.attempts]; omega
  | succ fuel ih =>
    intro count s hc
    rcases reference_succ_cases port policy request started fuel count s with
      ⟨f, ht⟩ | ⟨o, e, r, s₁, -, ht⟩ | ⟨o, e, delay, s₁, s₃, hv, ht⟩
    · rw [ht, Trace.attempts]; omega
    · rw [ht, Trace.attempts]; omega
    · have hbelow := (Policy.verdict_wait policy port.draw o e (count + 1) s₁ hv).2.2
      have hlt : count + 1 < n := Nat.lt_of_le_of_ne hc fun hn => by
        rw [hn, hcap] at hbelow
        cases hbelow
      have hrest := ih (count + 1) s₃ hlt
      rw [ht, Trace.attempts]
      omega

/-- Every delay a run waits is the policy's delay for some draw of the random source. -/
theorem reference_delays (started : Number) (fuel : Nat) :
    ∀ (count : Nat) (s : σ), ∀ x ∈ (reference port policy request started fuel count s).2.delays,
      ∃ s', policy.delayFor (port.draw s').1 = .ok x := by
  induction fuel with
  | zero => intro count s; simp [reference, Trace.delays]
  | succ fuel ih =>
    intro count s x hx
    rcases reference_succ_cases port policy request started fuel count s with
      ⟨f, ht⟩ | ⟨o, e, r, s₁, -, ht⟩ | ⟨o, e, delay, s₁, s₃, hv, ht⟩
    · simp [ht, Trace.delays] at hx
    · simp [ht, Trace.delays] at hx
    · rw [ht, Trace.delays, List.mem_cons] at hx
      rcases hx with rfl | hx
      · exact ⟨s₁, (Policy.verdict_wait_eq policy port.draw o e (count + 1) s₁ hv).1⟩
      · exact ih (count + 1) s₃ x hx

/-- A round whose verdict is a wait, and whose wait ends, goes on to the next round from the world
the wait left. -/
theorem reference_wait {started : Number} {fuel count : Nat} {s s₁ s₃ : σ} {o : Outcome}
    {e delay : Number} (hatt : port.attempt s request = (s₁, .ok o))
    (he : port.elapsed started s₁ = .ok e)
    (hv : (policy.verdict port.draw o e (count + 1) s₁).1 = .ok (.wait delay))
    (hsl : port.sleep (port.draw s₁).2 delay = (s₃, .ok ())) :
    reference port policy request started (fuel + 1) count s =
      ((reference port policy request started fuel (count + 1) s₃).1,
        .retried o delay (reference port policy request started fuel (count + 1) s₃).2) := by
  have hv' : policy.verdict port.draw o e (count + 1) s₁ = (.ok (.wait delay), (port.draw s₁).2) :=
    Prod.ext hv (Policy.verdict_wait_eq policy port.draw o e (count + 1) s₁ hv).2
  rw [reference, hatt]
  dsimp only
  rw [he]
  dsimp only
  rw [hv']
  dsimp only
  rw [hsl]

/-- A round that waited: its attempt ended in an outcome, the clock gave the time since the start,
the verdict was a wait of the delay of the next draw, the wait ended, and the run went on. -/
theorem reference_retried {started : Number} {fuel count : Nat} {s : σ} {o : Outcome}
    {delay : Number} {rest : Trace}
    (h : (reference port policy request started (fuel + 1) count s).2 = .retried o delay rest) :
    ∃ s₁ e s₃, port.attempt s request = (s₁, .ok o) ∧ port.elapsed started s₁ = .ok e ∧
      (policy.verdict port.draw o e (count + 1) s₁).1 = .ok (.wait delay) ∧
      port.sleep (port.draw s₁).2 delay = (s₃, .ok ()) ∧
      rest = (reference port policy request started fuel (count + 1) s₃).2 ∧
      (reference port policy request started (fuel + 1) count s).1 =
        (reference port policy request started fuel (count + 1) s₃).1 := by
  rw [reference] at h
  rcases ha : port.attempt s request with ⟨s₁, f | o'⟩ <;> rw [ha] at h
  · cases h
  dsimp only at h
  rcases he : port.elapsed started s₁ with f | e <;> rw [he] at h
  · cases h
  dsimp only at h
  rcases hv : policy.verdict port.draw o' e (count + 1) s₁ with ⟨f | (r | d), s₂⟩ <;> rw [hv] at h
  · cases h
  · cases h
  dsimp only at h
  have hs₂ : s₂ = (port.draw s₁).2 := by
    have h₂ := (Policy.verdict_wait_eq policy port.draw o' e (count + 1) s₁ (by rw [hv])).2
    rwa [hv] at h₂
  subst hs₂
  rcases hs : port.sleep (port.draw s₁).2 d with ⟨s₃, f | ⟨⟩⟩ <;> rw [hs] at h
  · cases h
  simp only [Trace.retried.injEq] at h
  obtain ⟨rfl, rfl, rfl⟩ := h
  exact ⟨s₁, e, s₃, rfl, he, by rw [hv], hs, rfl,
    by rw [reference_wait port policy request ha he (by rw [hv]) hs]⟩

theorem reference_attempts_pos (started : Number) (fuel count : Nat) (s : σ) :
    0 < (reference port policy request started (fuel + 1) count s).2.attempts := by
  rcases reference_succ_cases port policy request started fuel count s with
    ⟨f, ht⟩ | ⟨o, e, r, s₁, -, ht⟩ | ⟨o, e, delay, s₁, s₃, -, ht⟩ <;> rw [ht, Trace.attempts] <;>
    omega

/-- An attempt whose time since the first reaches the deadline is the last: the run stops there,
at the deadline. -/
theorem reference_past_deadline {started : Number} {fuel count : Nat} {s s₁ : σ} {o : Outcome}
    {e : Number} (hatt : port.attempt s request = (s₁, .ok o))
    (he : port.elapsed started s₁ = .ok e) (hd : policy.pastDeadline e = true) :
    reference port policy request started (fuel + 1) count s = (s₁, .stopped o .deadline) := by
  rw [reference, hatt]
  dsimp only
  rw [he]
  dsimp only
  rw [Policy.verdict_pastDeadline policy port.draw o e (count + 1) s₁ hd]

section Deadline

variable {clock : σ → Float} {t₀ E : Float}

/-- In a clocked world where the policy's delay for a draw never fails, a run that waits no delay
ends in the world its first attempt left. -/
theorem reference_state_of_no_wait (hc : port.Clocked clock)
    (hdelay : ∀ s, ∃ x, policy.delayFor (port.draw s).1 = .ok x) {fuel count : Nat} {s : σ}
    (h : (reference port policy request (.float t₀) (fuel + 1) count s).2.delays = []) :
    (reference port policy request (.float t₀) (fuel + 1) count s).1 =
      (port.attempt s request).1 := by
  rcases ha : port.attempt s request with ⟨s₁, f | o⟩
  · rw [reference, ha]
  have he := Port.elapsed_float (hc.now s₁) t₀
  rcases Policy.verdict_cases policy port.draw o _ (count + 1) s₁ with
    ⟨r, hv⟩ | ⟨f, -, hv⟩ | ⟨-, hv⟩
  case inr.inr =>
    -- the verdict is a wait, and waits end here: the run would have waited
    obtain ⟨x, hx⟩ := hdelay s₁
    have hsl : port.sleep (port.draw s₁).2 x = ((port.sleep (port.draw s₁).2 x).1, .ok ()) :=
      Prod.ext rfl (hc.sleep _ _)
    rw [reference_wait port policy request ha he (by rw [hv, hx]; rfl) hsl] at h
    cases h
  all_goals
    rw [reference, ha]
    dsimp only
    rw [he]
    dsimp only
    rw [hv]

/-- Against a paced clock begun at `t₀`, a run ends on a clock at least the one it began on with
each delay it waited added in turn, in doubles. -/
theorem reference_waited_le_clock (hc : port.Clocked clock)
    (hpace : port.Paced request clock t₀) (ht₀ : t₀.isFinite = true)
    (hdelay : ∀ s, ∃ y, policy.delayFor (port.draw s).1 = .ok (.float y) ∧ 0.0 ≤ y) :
    ∀ fuel count s, t₀ ≤ clock s → ∃ xs : List Float,
      (reference port policy request (.float t₀) fuel count s).2.delays = xs.map .float ∧
      (∀ x ∈ xs, 0.0 ≤ x) ∧
      xs.foldl (· + ·) (clock s) ≤
        clock (reference port policy request (.float t₀) fuel count s).1 := by
  intro fuel
  induction fuel with
  | zero =>
    intro count s hs
    exact ⟨[], rfl, by simp, Float.le_refl_of_ge hs⟩
  | succ fuel ih =>
    intro count s hs
    rcases ht : (reference port policy request (.float t₀) (fuel + 1) count s).2 with
      ⟨o, delay, rest⟩ | ⟨o, r⟩ | f | _
    · obtain ⟨s₁, e, s₃, hatt, -, hv, hsl, rfl, hstate⟩ := reference_retried port policy request ht
      obtain ⟨y, hy, hy0⟩ := hdelay s₁
      obtain rfl := Policy.verdict_wait_delay policy port.draw o e (count + 1) s₁ hv hy
      have hnext := (hpace.round ht₀ hs hatt hy0 hsl).2
      have hmid : t₀ ≤ clock s + y := Float.le_trans hs (Float.le_add_of_ge ht₀ hs hy0)
      obtain ⟨xs, hxs, hxs0, hle⟩ := ih (count + 1) s₃ (Float.le_trans hmid hnext)
      refine ⟨y :: xs, by rw [Trace.delays, hxs, List.map_cons], ?_, ?_⟩
      · intro x hx
        rcases List.mem_cons.1 hx with rfl | hx
        exacts [hy0, hxs0 x hx]
      · rw [hstate, List.foldl_cons]
        exact Float.le_trans (Float.foldl_add_le hxs0 ht₀ hmid hnext) hle
    all_goals
      refine ⟨[], rfl, by simp, ?_⟩
      rw [reference_state_of_no_wait port policy request hc
        (fun s => (hdelay s).elim fun _ h => ⟨_, h.1⟩) (by rw [ht]; rfl)]
      exact hpace.attempt s hs

/-- Against an exact clock, a run ends on the clock it began on with each delay it waited added in
turn, in doubles. -/
theorem reference_clock_eq_waited (hc : port.Clocked clock) (hex : port.Exact request clock)
    (hdelay : ∀ s, ∃ y, policy.delayFor (port.draw s).1 = .ok (.float y)) (started : Float) :
    ∀ fuel count s, ∃ xs : List Float,
      (reference port policy request (.float started) fuel count s).2.delays = xs.map .float ∧
      clock (reference port policy request (.float started) fuel count s).1 =
        xs.foldl (· + ·) (clock s) := by
  intro fuel
  induction fuel with
  | zero => exact fun count s => ⟨[], rfl, rfl⟩
  | succ fuel ih =>
    intro count s
    rcases ht : (reference port policy request (.float started) (fuel + 1) count s).2 with
      ⟨o, delay, rest⟩ | ⟨o, r⟩ | f | _
    · obtain ⟨s₁, e, s₃, hatt, -, hv, hsl, rfl, hstate⟩ := reference_retried port policy request ht
      obtain ⟨y, hy⟩ := hdelay s₁
      obtain rfl := Policy.verdict_wait_delay policy port.draw o e (count + 1) s₁ hv hy
      obtain ⟨xs, hxs, hclock⟩ := ih (count + 1) s₃
      refine ⟨y :: xs, by rw [Trace.delays, hxs, List.map_cons], ?_⟩
      rw [hstate, hclock, hex.round hatt hsl, List.foldl_cons]
    all_goals
      refine ⟨[], rfl, ?_⟩
      rw [reference_state_of_no_wait port policy request hc
        (fun s => (hdelay s).elim fun _ h => ⟨_, h⟩) (by rw [ht]; rfl), hex.attempt]
      rfl

/-- The attempts of a run against a paced clock, begun at `t₀`: when every delay is at least `lo`
and `lo` added `k` times to `t₀` reaches the deadline, a run whose clock has reached `lo` added
`count` times, `count` attempts in, makes at most `k + 1` attempts in all. -/
theorem reference_attempts_le_of_paced (hc : port.Clocked clock)
    (hpace : port.Paced request clock t₀) (ht₀ : t₀.isFinite = true)
    (hE : policy.maxElapsed = some (.float E)) {lo : Float} (hlo : 0.0 ≤ lo)
    (hdelay : ∀ s, ∃ y, policy.delayFor (port.draw s).1 = .ok (.float y) ∧ lo ≤ y)
    {k : Nat} (hk : E ≤ clockAfter t₀ lo k - t₀) :
    ∀ fuel count s, clockAfter t₀ lo count ≤ clock s → count ≤ k →
      count + (reference port policy request (.float t₀) fuel count s).2.attempts ≤ k + 1 := by
  have hkt := Float.key_ne_bot_of_isFinite ht₀
  intro fuel
  induction fuel with
  | zero => intro count s _ hck; simp [reference, Trace.attempts]; omega
  | succ fuel ih =>
    intro count s hs hck
    rcases ht : (reference port policy request (.float t₀) (fuel + 1) count s).2 with
      ⟨o, delay, rest⟩ | ⟨o, r⟩ | f | _
    · obtain ⟨s₁, e, s₃, hatt, he, hv, hsl, rfl, -⟩ := reference_retried port policy request ht
      have hR := le_clockAfter ht₀ hlo count
      obtain ⟨y, hdy, hy⟩ := hdelay s₁
      obtain rfl := Policy.verdict_wait_delay policy port.draw o e (count + 1) s₁ hv hdy
      obtain ⟨h₁, h₃⟩ := hpace.round ht₀ (Float.le_trans hR hs) hatt (Float.le_trans hlo hy) hsl
      have hs₁ : clockAfter t₀ lo count ≤ clock s₁ := Float.le_trans hs h₁
      have h₀ : t₀ ≤ clock s₁ := Float.le_trans hR hs₁
      rw [Port.elapsed_float (hc.now s₁), Except.ok.injEq] at he
      subst he
      have hpast := (Policy.verdict_wait policy port.draw o _ _ s₁ hv).2.1
      rw [Policy.pastDeadline_atLeastZero hE (Float.zero_le_sub ht₀ h₀)] at hpast
      have hlt : count < k := by
        by_contra hge
        obtain rfl : count = k := by omega
        exact of_decide_eq_false hpast
          (Float.le_trans hk (Float.sub_le_sub_right hs₁ (Float.key_ne_bot_of_le hR hkt) ht₀))
      have hnext : clockAfter t₀ lo (count + 1) ≤ clock s₃ :=
        Float.le_trans (Float.add_le_add hs hy (Float.key_ne_bot_of_le hR hkt)
          (Float.key_ne_bot_of_nonneg hlo)) h₃
      have hrest := ih (count + 1) s₃ hnext hlt
      rw [Trace.attempts]
      omega
    all_goals
      rw [Trace.attempts]
      omega

/-- The attempts of a run against an exact clock, begun at `t₀`, with no cap and an outcome the
predicate repeats every time: when every delay is at most `hi` and `hi` added `k` times to `t₀`
stays below the deadline, a run whose clock is at most `hi` added `count` times, `count` attempts
in, makes at least `k + 2` attempts in all, fuel allowing. -/
theorem reference_attempts_ge_of_exact (hc : port.Clocked clock)
    (hex : port.Exact request clock) (ht₀ : t₀.isFinite = true)
    (hE : policy.maxElapsed = some (.float E)) (hm : policy.maxAttempts = none)
    (hr : ∀ s, ∃ o, (port.attempt s request).2 = .ok o ∧ policy.predicate.retries o = .ok true)
    {hi : Float} (hhi : 0.0 ≤ hi)
    (hdelay : ∀ s, ∃ y, policy.delayFor (port.draw s).1 = .ok (.float y) ∧ 0.0 ≤ y ∧ y ≤ hi)
    {k : Nat} (hk : clockAfter t₀ hi k - t₀ < E) :
    ∀ fuel count s, t₀ ≤ clock s → clock s ≤ clockAfter t₀ hi count → count ≤ k →
      k + 2 ≤ count + fuel →
      k + 2 ≤ count + (reference port policy request (.float t₀) fuel count s).2.attempts := by
  have hkt := Float.key_ne_bot_of_isFinite ht₀
  intro fuel
  induction fuel with
  | zero => intro count s _ _ hck hf; omega
  | succ fuel ih =>
    intro count s h₀ hs hck hf
    obtain ⟨o, hatt, hro⟩ := hr s
    obtain ⟨y, hy, hy0, hyhi⟩ := hdelay (port.attempt s request).1
    have hatt' : port.attempt s request = ((port.attempt s request).1, .ok o) := Prod.ext rfl hatt
    have hc₁ := hex.attempt s
    have hbelow : clock s - t₀ < E :=
      Float.lt_of_le_of_lt (Float.sub_le_sub_right (Float.le_trans hs (clockAfter_mono ht₀ hhi hck))
        (Float.key_ne_bot_of_le h₀ hkt) ht₀) hk
    have hd : policy.pastDeadline
        (Number.float (clock (port.attempt s request).1 - t₀)).atLeastZero = false := by
      rw [hc₁, Policy.pastDeadline_atLeastZero hE (Float.zero_le_sub ht₀ h₀)]
      exact decide_eq_false fun hle => Float.not_lt_self E (Float.lt_of_le_of_lt hle hbelow)
    have hcap : policy.capReached (count + 1) = false := by
      unfold Policy.capReached
      rw [hm]
    have hv := Policy.verdict_of_retries policy port.draw o _ (count + 1)
      (port.attempt s request).1 hd hcap hro
    rw [hy] at hv
    have hsl : port.sleep (port.draw (port.attempt s request).1).2 (.float y) =
        ((port.sleep (port.draw (port.attempt s request).1).2 (.float y)).1, .ok ()) :=
      Prod.ext rfl (hc.sleep _ _)
    rw [reference_wait port policy request hatt' (Port.elapsed_float (hc.now _) t₀)
      (by rw [hv]; rfl) hsl]
    dsimp only
    rw [Trace.attempts]
    have hc₃ := hex.round hatt' hsl
    rcases Nat.lt_or_ge count k with hlt | hge
    · -- the clock is still within `hi` added `count + 1` times: another round follows
      have h₀' : t₀ ≤ clock s + y := Float.le_trans h₀ (Float.le_add_of_ge ht₀ h₀ hy0)
      have hs' : clock s + y ≤ clockAfter t₀ hi (count + 1) :=
        Float.add_le_add hs hyhi (Float.key_ne_bot_of_le h₀ hkt)
          (Float.key_ne_bot_of_nonneg hy0)
      have hrest := ih (count + 1) _ (hc₃ ▸ h₀') (hc₃ ▸ hs') hlt (by omega)
      omega
    · -- the `k + 1`-th attempt waited, and the fuel left allows one more
      obtain ⟨fuel, rfl⟩ : ∃ f, fuel = f + 1 := ⟨fuel - 1, by omega⟩
      have hpos := reference_attempts_pos port policy request (.float t₀) fuel (count + 1)
        (port.sleep (port.draw (port.attempt s request).1).2 (.float y)).1
      omega

end Deadline

end Run

theorem PolicyConfig.validate_int_cap {c : PolicyConfig} {p : Policy} (h : c.validate = .ok p)
    {cap : Int} (hm : p.maxAttempts = some (.int cap)) : 1 ≤ cap := by
  have hnot := (PolicyConfig.validate_eq_ok h).2 _ hm
  simp only [Number.compare?, Option.any_some] at hnot
  rcases Int.lt_or_le cap 1 with hlt | hge
  · rw [Std.compare_eq_lt.2 hlt] at hnot
    cases hnot
  · exact hge

theorem Policy.capReached_int {p : Policy} {cap : Int} (hm : p.maxAttempts = some (.int cap))
    (hone : 1 ≤ cap) : p.capReached cap.toNat = true := by
  have hcast : ((cap.toNat : Nat) : Int) = cap := Int.toNat_of_nonneg (by omega)
  simp [Policy.capReached, hm, Number.compare?, hcast, Comparison.holds]

/-- Every run under a checked policy keeps to its budget, whatever the world. Counted in a world
that records its requests, the run sends its request once per attempt of the reference loop, and:

* every delay it waits is the larger of `0.0` and the jittered product, never below zero, so the
  retry check accepts it; on doubles, with a finite base delay `b` and a source that keeps the
  jitter in `[-j, j]`, each delay lies between `b · (1.0 - j)` and `b · (1.0 + j)`, computed in
  doubles;
* it makes no attempt past a count the cap check admits, so no more than the cap when the cap is
  an integer;
* a first attempt that alone reaches the deadline is never repeated;
* the run ends on a clock at least its start with each delay waited added in turn in doubles, when
  the clock never goes back and moves on by at least each delay, and exactly on that sum when
  attempts leave the clock as it is and each wait moves it on by its delay;
* against a clock that never goes back and moves on by at least each delay, it makes at most
  `k + 1` attempts once the least delay, added `k` times in doubles to the start, reaches the
  deadline;
* against a clock that attempts leave as it is and that moves on by exactly each delay, with no
  cap and every outcome repeated, it makes at least `k + 2` attempts, fuel allowing, while the
  greatest delay added `k` times stays below the deadline. -/
theorem run_within_budget {c : PolicyConfig} {p : Policy} (hp : c.validate = .ok p) {σ α : Type}
    (port : Port σ) (op : Operation) (request : Request)
    (read : List UInt8 → Except BodyFailure α) (fuel : Nat) (s : σ) (log : List Request)
    (m : Metrics) :
    let trace := (Run.reference port p request (port.now s) fuel 0 s).2
    (Run.perform port.recording p op request read fuel (s, log) m).state =
      ((Run.reference port p request (port.now s) fuel 0 s).1,
        log ++ List.replicate trace.attempts request) ∧
    (∀ d ∈ trace.delays, Number.compare? d (.float 0.0) = some .gt ∨ d = .float 0.0) ∧
    (∀ d ∈ trace.delays, Decision.retryAfter? d.toJson = .ok (.retryAfter d.toJson)) ∧
    (∀ b j : Float, p.baseDelay = .float b → p.jitterFraction = .float j → b.isFinite = true →
      port.Jittered j →
      ∀ d ∈ trace.delays, ∃ x, d = .float x ∧ b * (1.0 - j) ≤ x ∧ x ≤ b * (1.0 + j)) ∧
    (∀ n, 0 < n → p.capReached n = true → trace.attempts ≤ n) ∧
    (∀ cap : Int, p.maxAttempts = some (.int cap) → (trace.attempts : Int) ≤ cap) ∧
    (∀ s₁ o e, port.attempt s request = (s₁, .ok o) → port.elapsed (port.now s) s₁ = .ok e →
      p.pastDeadline e = true → 0 < fuel → trace = .stopped o .deadline) ∧
    (∀ (b j : Float) (clock : σ → Float), p.baseDelay = .float b → p.jitterFraction = .float j →
      b.isFinite = true → port.Jittered j → port.Clocked clock →
      port.Paced request clock (clock s) → (clock s).isFinite = true →
      ∃ xs : List Float, trace.delays = xs.map .float ∧
        xs.foldl (· + ·) (clock s) ≤ clock (Run.reference port p request (port.now s) fuel 0 s).1) ∧
    (∀ (b j : Float) (clock : σ → Float), p.baseDelay = .float b → p.jitterFraction = .float j →
      b.isFinite = true → port.Jittered j → port.Clocked clock → port.Exact request clock →
      ∃ xs : List Float, trace.delays = xs.map .float ∧
        clock (Run.reference port p request (port.now s) fuel 0 s).1 = xs.foldl (· + ·) (clock s)) ∧
    (∀ (b j E : Float) (clock : σ → Float), p.baseDelay = .float b →
      p.jitterFraction = .float j → p.maxElapsed = some (.float E) → b.isFinite = true →
      port.Jittered j → port.Clocked clock → port.Paced request clock (clock s) →
      (clock s).isFinite = true →
      ∀ k, E ≤ clockAfter (clock s) (b * (1.0 - j)) k - clock s → trace.attempts ≤ k + 1) ∧
    (∀ (b j E : Float) (clock : σ → Float), p.baseDelay = .float b →
      p.jitterFraction = .float j → p.maxElapsed = some (.float E) → p.maxAttempts = none →
      b.isFinite = true → port.Jittered j → port.Clocked clock → port.Exact request clock →
      (clock s).isFinite = true →
      (∀ s', ∃ o, (port.attempt s' request).2 = .ok o ∧ p.predicate.retries o = .ok true) →
      ∀ k, clockAfter (clock s) (b * (1.0 + j)) k - clock s < E → k + 2 ≤ fuel →
        k + 2 ≤ trace.attempts) := by
  intro trace
  have hcap : ∀ n, 0 < n → p.capReached n = true → trace.attempts ≤ n := fun n hn hr => by
    simpa using Run.reference_attempts_le_cap port p request hr (port.now s) fuel 0 s hn
  have hdrawn := Run.reference_delays port p request (port.now s) fuel 0 s
  have hclamped : ∀ d ∈ trace.delays, ∃ y : Number, d = y.atLeastZero := fun d hd => by
    obtain ⟨s', hs'⟩ := hdrawn d hd
    exact Policy.delayFor_eq_ok p hs'
  have hbounds : ∀ b j : Float, p.baseDelay = .float b → p.jitterFraction = .float j →
      b.isFinite = true → port.Jittered j → ∀ s',
        0.0 ≤ b * (1.0 - j) ∧ ∃ x, p.delayFor (port.draw s').1 = .ok (.float x) ∧
          b * (1.0 - j) ≤ x ∧ x ≤ b * (1.0 + j) := fun b j hb hj hbf hjit s' => by
    obtain ⟨u, hu, hw⟩ := hjit s'
    rw [hu]
    exact Policy.delayFor_bounds hp hb hj hbf hw
  refine ⟨?_, fun d hd => ?_, fun d hd => ?_, fun b j hb hj hbf hjit d hd => ?_, hcap,
    fun cap hm => ?_, fun s₁ o e hatt he hd hf => ?_,
    fun b j clock hb hj hbf hjit hc hpace hfin => ?_, fun b j clock hb hj hbf hjit hc hex => ?_,
    fun b j E clock hb hj hE hbf hjit hc hpace hfin k hk => ?_,
    fun b j E clock hb hj hE hm hbf hjit hc hex hfin hr k hk hf => ?_⟩
  · rw [Run.perform_state, (Run.loop_eq_reference _ _ _ _ _ _ _ _ _ _).1]
    exact congrArg Prod.fst (Run.reference_recording port p request (port.now s) fuel 0 s log)
  · obtain ⟨y, rfl⟩ := hclamped d hd
    exact Number.atLeastZero_nonneg y
  · obtain ⟨y, rfl⟩ := hclamped d hd
    exact Number.retryAfter_atLeastZero y
  · obtain ⟨s', hs'⟩ := hdrawn d hd
    obtain ⟨-, x, hx, hlo, hhi⟩ := hbounds b j hb hj hbf hjit s'
    rw [hx, Except.ok.injEq] at hs'
    exact ⟨x, hs'.symm, hlo, hhi⟩
  · have hone := PolicyConfig.validate_int_cap hp hm
    have hle := hcap cap.toNat (by omega) (Policy.capReached_int hm hone)
    omega
  · obtain ⟨fuel, rfl⟩ := Nat.exists_eq_add_of_lt hf
    exact congrArg Prod.snd (Run.reference_past_deadline port p request hatt he hd)
  · have hclock := Run.reference_waited_le_clock port p request hc hpace hfin
      (fun s' => by
        obtain ⟨hlo0, y, hy, hlo, -⟩ := hbounds b j hb hj hbf hjit s'
        exact ⟨y, hy, Float.le_trans hlo0 hlo⟩)
      fuel 0 s (Float.le_refl_of_isFinite hfin)
    rw [← hc.now s] at hclock
    obtain ⟨xs, hxs, -, hle⟩ := hclock
    exact ⟨xs, hxs, hle⟩
  · have hclock := Run.reference_clock_eq_waited port p request hc hex
      (fun s' => (hbounds b j hb hj hbf hjit s').2.imp fun _ h => h.1) (clock s) fuel 0 s
    rw [← hc.now s] at hclock
    exact hclock
  · have hle := Run.reference_attempts_le_of_paced port p request hc hpace hfin hE
      (hbounds b j hb hj hbf hjit s).1
      (fun s' => (hbounds b j hb hj hbf hjit s').2.imp fun _ h => ⟨h.1, h.2.1⟩) hk fuel 0 s
      (Float.le_refl_of_isFinite hfin) (Nat.zero_le k)
    rw [← hc.now s, Nat.zero_add] at hle
    exact hle
  · have hdelay : ∀ s', ∃ y, p.delayFor (port.draw s').1 = .ok (.float y) ∧ 0.0 ≤ y ∧
        y ≤ b * (1.0 + j) := fun s' => by
      obtain ⟨hlo0, y, hy, hlo, hhi⟩ := hbounds b j hb hj hbf hjit s'
      exact ⟨y, hy, Float.le_trans hlo0 hlo, hhi⟩
    obtain ⟨y, -, hy0, hyhi⟩ := hdelay s
    have hge := Run.reference_attempts_ge_of_exact port p request hc hex hfin hE hm hr
      (Float.le_trans hy0 hyhi) hdelay hk fuel 0 s
      (Float.le_refl_of_isFinite hfin)
      (Float.le_refl_of_isFinite hfin) (Nat.zero_le k) (by omega)
    rw [← hc.now s, Nat.zero_add] at hge
    exact hge

/-- A policy of one second without jitter and a deadline of a minute, in a world where attempts
take no time, every attempt fails in transport and each wait moves the clock on by exactly its
delay, makes exactly sixty-one attempts: at the seconds 0 to 60 after the first. -/
theorem minute_deadline_sixty_one_attempts :
    let c : PolicyConfig :=
      { baseDelay := .float 1.0, jitterFraction := .float 0.0, maxElapsed := .float 60.0 }
    let p : Policy := ⟨.float 1.0, .float 0.0, some (.float 60.0), none, "default", .transportOnly⟩
    let port : Port Float :=
      ⟨fun t _ => (t, .ok (.failure ⟨"ConnectError", "refused"⟩)), fun t => .float t,
        fun t d => (match d with | .float x => t + x | .int n => t + Float.ofInt n, .ok ()),
        fun t => (.float 0.5, t), id⟩
    let request : Request := ⟨.get, statementsPath ++ "/s1", some [("format", .str "json")], none⟩
    c.validate = .ok p ∧
      (Run.perform port.recording p .fetch request readStatement 100 (1000.0, []) {}).state.2 =
        List.replicate 61 request := by
  intro c p port request
  have hp : c.validate = .ok p := rfl
  have hc : port.Clocked id := ⟨fun _ => rfl, fun _ _ => rfl⟩
  have hex : port.Exact request id := ⟨fun _ => rfl, fun _ => rfl, fun _ _ => rfl⟩
  have hjit : port.Jittered 0.0 := fun _ => ⟨0.5, rfl, by decide, by decide⟩
  have hfin : (1000.0 : Float).isFinite = true := by decide
  have hb : (1.0 : Float).isFinite = true := by decide
  have hr : ∀ s', ∃ o, (port.attempt s' request).2 = .ok o ∧ p.predicate.retries o = .ok true :=
    fun _ => ⟨_, rfl, Predicate.retries_failure _ _⟩
  obtain ⟨-, -, -, -, -, -, -, -, -, hupper, hlower⟩ :=
    run_within_budget hp port .fetch request readStatement 100 1000.0 [] {}
  -- a second added sixty times reaches the minute; fifty-nine times does not
  have hle := hupper 1.0 0.0 60.0 id rfl rfl rfl hb hjit hc (hex.paced hfin) hfin 60
    (by decide +kernel)
  have hge := hlower 1.0 0.0 60.0 id rfl rfl rfl rfl hb hjit hc hex hfin hr 59 (by decide +kernel)
    (by decide)
  have h61 : (Run.reference port p request (port.now 1000.0) 100 0 1000.0).2.attempts = 61 := by
    omega
  refine ⟨hp, ?_⟩
  rw [(run_within_budget hp port .fetch request readStatement 100 1000.0 [] {}).1]
  simp only [List.nil_append]
  exact congrArg (List.replicate · request) h61


/-- Read in the real numbers, the bounds fail: the program computes its delays and its clock in
doubles. Under a base delay of one second, a jitter fraction of `0.1` and a deadline of `1.1`,
against a clock from zero that attempts leave as it is, with a source whose widened draw is the
whole jitter, the one delay is the double `1.1`, above `b · (1 + j)` in the rationals, and the
clock reaches the deadline after that one wait: two attempts, where the deadline over
`b · (1 + j)`, rounded up, plus one, is three. -/
theorem jittered_delay_beyond_real_bound :
    let c : PolicyConfig :=
      { baseDelay := .float 1.0, jitterFraction := .float 0.1, maxElapsed := .float 1.1 }
    let p : Policy := ⟨.float 1.0, .float 0.1, some (.float 1.1), none, "default", .transportOnly⟩
    let port : Port Float :=
      ⟨fun t _ => (t, .ok (.failure ⟨"ConnectError", "refused"⟩)), fun t => .float t,
        fun t d => (match d with | .float x => t + x | .int n => t + Float.ofInt n, .ok ()),
        fun t => (.float 1.0, t), id⟩
    let request : Request := ⟨.get, statementsPath ++ "/s1", some [("format", .str "json")], none⟩
    let trace := (Run.reference port p request (.float 0.0) 10 0 0.0).2
    c.validate = .ok p ∧ trace.attempts = 2 ∧ trace.delays = [.float 1.1] ∧
      Float.val 1.0 * (1 + Float.val 0.1) < Float.val 1.1 ∧
      (trace.attempts : ℤ) < ⌈Float.val 1.1 / (Float.val 1.0 * (1 + Float.val 0.1))⌉ + 1 := by
  intro c p port request trace
  have hattempts : trace.attempts = 2 := by decide +kernel
  have h10 : Float.val 1.0 = 1 := by
    have hu : (1.0 : Float).toModel.unpack = .finite .positive 4503599627370496 (-52) (by decide) :=
      rfl
    norm_num [Float.val, hu, Decimal.value, Decimal.signed]
  have h01 : Float.val 0.1 = 7205759403792794 / 2 ^ 56 := by
    have hu : (0.1 : Float).toModel.unpack = .finite .positive 7205759403792794 (-56) (by decide) :=
      rfl
    simp [Float.val, hu, Decimal.value, Decimal.signed, div_eq_mul_inv]
  have h11 : Float.val 1.1 = 4953959590107546 / 2 ^ 52 := by
    have hu : (1.1 : Float).toModel.unpack = .finite .positive 4953959590107546 (-52) (by decide) :=
      rfl
    simp [Float.val, hu, Decimal.value, Decimal.signed, div_eq_mul_inv]
  refine ⟨rfl, hattempts, by decide +kernel, ?_, ?_⟩
  · rw [h10, h01, h11]
    norm_num
  · rw [hattempts, h10, h01, h11]
    norm_num

end StatementClient
