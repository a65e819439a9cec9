import Mathlib
import StatementClient.Proofs.DoubleOrder
import StatementClient.Proofs.Readers
import StatementClient.Proofs.TransportOutcomes
import StatementClient.Session.Client

/-!
# The policies of checked settings

Two checks guard the retry budget, with different coverage. The settings check holds the base
delay to not below zero and the jitter to [0, 1) (`Settings.check_retry`). The policy check repeats
both, and also refuses a deadline below zero and a cap below one, which the settings check does
not look at. The settings check compares doubles and the policy check compares exactly, and the two
agree (`Json.compareBy_float_int_zero`), so the policy check never refuses checked settings for
their base delay or jitter. Checked settings therefore give a client's policies exactly when their
deadline and cap pass (`Settings.budgetFault?`), and the policies then carry the settings' own
values (`PolicyConfig.validate_ofSettings`).

Both checks test "below zero", which no comparison with NaN satisfies, so a NaN base delay or
deadline passes them (`nan_budget_passes_checks`).

Main statement: `checked_settings_policies`.
-/

namespace StatementClient

namespace Settings

/-- The policy named `name`, retrying by `predicate`, on the settings' own retry values. -/
def policy (s : Settings) (name : String) (predicate : Predicate) : Policy :=
  { baseDelay := .float s.retryBaseDelay, jitterFraction := .float s.retryJitter,
    maxElapsed := s.retryMaxElapsed.map .float, maxAttempts := s.retryMaxAttempts.map .int,
    name, predicate }

/-- What the policy check refuses in the part of the budget the settings check leaves alone: a
deadline below zero, else a cap below one. -/
def budgetFault? (s : Settings) : Option PolicyFault :=
  if s.retryMaxElapsed.any (fun e => decide (e < 0.0)) then
    some (.invalid "max_elapsed must be >= 0")
  else if s.retryMaxAttempts.any (fun n => decide (n < 1)) then
    some (.invalid "max_attempts must be >= 1")
  else none

/-- The policy that checked settings give: refused for the fault of their budget, else built on
their values. -/
def checkedPolicy (s : Settings) (name : String) (predicate : Predicate) :
    Except PolicyFault Policy :=
  match s.budgetFault? with
  | some f => .error f
  | none => .ok (s.policy name predicate)

theorem setting_eq_ok {α : Type} {fields : List (String × Json)} {name : String}
    {check : Json → Checked α} {d x : α} (h : setting fields name check d = .ok x) :
    x = d ∨ ∃ v, check v = .ok x := by
  unfold setting at h
  split at h
  · rename_i v _
    exact .inr ⟨v, Checked.under_eq_ok.1 h⟩
  · exact .inl (Except.ok.inj h).symm

theorem setting_bind_eq_ok {α β : Type} {fields : List (String × Json)} {name : String}
    {read : Json → Checked β} {g : β → Checked α} {d x : α}
    (h : setting fields name (fun v => (read v).bind g) d = .ok x) : x = d ∨ ∃ y, g y = .ok x := by
  rcases setting_eq_ok h with hd | ⟨v, hv⟩
  · exact .inl hd
  · obtain ⟨y, -, hy⟩ := Except.bind_eq_ok hv
    exact .inr ⟨y, hy⟩

theorem checkBaseDelay_eq_ok {y x : Float} (h : checkBaseDelay y = .ok x) :
    ¬ y < 0.0 ∧ x = y := by
  unfold checkBaseDelay at h
  split at h
  · cases h
  · exact ⟨‹_›, (Except.ok.inj h).symm⟩

theorem checkJitter_eq_ok {y x : Float} (h : checkJitter y = .ok x) :
    (0.0 ≤ y ∧ y < 1.0) ∧ x = y := by
  unfold checkJitter at h
  split at h
  · exact ⟨‹_›, (Except.ok.inj h).symm⟩
  · cases h

end Settings

/-- Checked settings have a base delay that is not below zero and a jitter in [0, 1). -/
theorem Settings.check_retry {fields : List (String × Json)} {s : Settings}
    (h : Settings.check fields = .ok s) :
    ¬ s.retryBaseDelay < 0.0 ∧ 0.0 ≤ s.retryJitter ∧ s.retryJitter < 1.0 := by
  unfold Settings.check Except.map at h
  dsimp only at h
  split at h
  · cases h
  · rename_i t ht
    obtain ⟨a, b, c, e, base, jitter, g, i, j, k, l⟩ := t
    obtain ⟨-, h₁⟩ := Checked.both_ok ht
    obtain ⟨-, h₂⟩ := Checked.both_ok h₁
    obtain ⟨-, h₃⟩ := Checked.both_ok h₂
    obtain ⟨-, h₄⟩ := Checked.both_ok h₃
    obtain ⟨hbase, h₅⟩ := Checked.both_ok h₄
    obtain ⟨hjitter, -⟩ := Checked.both_ok h₅
    dsimp only at hbase hjitter
    have hb : ¬ base < 0.0 := by
      rcases Settings.setting_bind_eq_ok hbase with hd | ⟨y, hy⟩
      · rw [show base = 1.0 from hd]
        decide
      · obtain ⟨hneg, rfl⟩ := Settings.checkBaseDelay_eq_ok hy
        exact hneg
    have hj : 0.0 ≤ jitter ∧ jitter < 1.0 := by
      rcases Settings.setting_bind_eq_ok hjitter with hd | ⟨y, hy⟩
      · rw [show jitter = 0.15 from hd]
        decide
      · obtain ⟨hin, rfl⟩ := Settings.checkJitter_eq_ok hy
        exact hin
    cases h
    exact ⟨hb, hj⟩

/-! ## The policy check on settings' values -/

theorem holds_float_int_zero (x : Float) : holds .lt (.float x) (.int 0) = .ok (decide (x < 0.0)) := by
  simp only [holds, Json.compareBy_float_int_zero]
  rfl

theorem holds_float (op : Comparison) (a b : Float) :
    holds op (.float a) (.float b) = .ok (decide (op.Rel a b)) := by
  simp only [holds, Json.compareBy_float]
  rfl

theorem holds_int_one (n : Int) : holds .lt (.int n) (.int 1) = .ok (decide (n < 1)) := by
  simp only [holds, Json.compareBy_int]
  rfl

/-- The policy check on checked settings: it refuses a deadline below zero, then a cap below one,
and otherwise builds the policy on the settings' values. -/
theorem PolicyConfig.validate_ofSettings {fields : List (String × Json)} {s : Settings}
    (hs : Settings.check fields = .ok s) (name : String) (predicate : Predicate) :
    (PolicyConfig.ofSettings s name predicate).validate = s.checkedPolicy name predicate := by
  obtain ⟨hbase, hlo, hhi⟩ := Settings.check_retry hs
  have hb : holds .lt (.float s.retryBaseDelay) (.int 0) = .ok false := by
    rw [holds_float_int_zero, decide_eq_false hbase]
  have hl : holds .le (.float 0.0) (.float s.retryJitter) = .ok true := by
    rw [holds_float, decide_eq_true (show Comparison.Rel .le 0.0 s.retryJitter from hlo)]
  have hh : holds .lt (.float s.retryJitter) (.float 1.0) = .ok true := by
    rw [holds_float, decide_eq_true (show Comparison.Rel .lt s.retryJitter 1.0 from hhi)]
  unfold PolicyConfig.validate PolicyConfig.ofSettings Settings.checkedPolicy Settings.budgetFault?
    Settings.policy
  simp only [hb, hl, hh, bind, Except.bind, pure, Except.pure, throw, throwThe,
    MonadExceptOf.throw, asCompared, Json.number?, Bool.false_eq_true, ↓reduceIte, Bool.not_true]
  rcases s.retryMaxElapsed with _ | e <;> rcases s.retryMaxAttempts with _ | n
  · rfl
  · simp only [Option.map_some, Option.getD_some, holds_int_one, Option.map_none,
      Option.getD_none, Option.any_none, Option.any_some]
    by_cases hn : n < 1 <;> simp [hn]
  · simp only [Option.map_some, Option.getD_some, holds_float_int_zero, Option.map_none,
      Option.getD_none, Option.any_none, Option.any_some]
    by_cases he : e < 0.0 <;> simp [he]
  · simp only [Option.map_some, Option.getD_some, holds_float_int_zero, holds_int_one,
      Option.any_some]
    by_cases he : e < 0.0 <;> by_cases hn : n < 1 <;> simp [he, hn]

/-- Checked settings hold the base delay to not below zero and the jitter to [0, 1). They give both
policies of a client, and so the client, exactly when the policy check accepts their deadline and
cap, which the settings check leaves alone; the policies then carry the settings' own values, and
otherwise the client is refused for the first of the two that fails. -/
theorem checked_settings_policies {fields : List (String × Json)} {s : Settings}
    (hs : Settings.check fields = .ok s) (own : Bool) :
    (¬ s.retryBaseDelay < 0.0 ∧ 0.0 ≤ s.retryJitter ∧ s.retryJitter < 1.0) ∧
      (PolicyConfig.standard s).validate = s.checkedPolicy "default" .transportOnly ∧
      (PolicyConfig.polling s).validate = s.checkedPolicy "poll_until_done" .untilDone ∧
      ∀ f, Client.make s own = .error f ↔ s.budgetFault? = some f := by
  have hstd := PolicyConfig.validate_ofSettings hs "default" .transportOnly
  have hpoll := PolicyConfig.validate_ofSettings hs "poll_until_done" .untilDone
  refine ⟨Settings.check_retry hs, hstd, hpoll, fun f => ?_⟩
  unfold Client.make
  rw [show PolicyConfig.standard s = PolicyConfig.ofSettings s "default" .transportOnly from rfl,
    show PolicyConfig.polling s = PolicyConfig.ofSettings s "poll_until_done" .untilDone from rfl,
    hstd, hpoll]
  -- both policies stand or fall together, with the same fault
  unfold Settings.checkedPolicy
  rcases s.budgetFault? with _ | g
  · simp [bind, Except.bind, pure, Except.pure]
  · simp [bind, Except.bind, eq_comm]

/-- A cap of zero and a base delay of two, given as integers: the settings pass, the base delay
becomes the double `2.0`, and the cap is what refuses both policies and the client. -/
theorem zero_cap_refuses_client :
    Settings.check [("RETRY_MAX_ATTEMPTS", .int 0), ("retry_base_delay", .int 2)] =
        .ok { retryBaseDelay := 2.0, retryMaxAttempts := some 0 } ∧
      ((¬ (2.0 : Float) < 0.0 ∧ (0.0 : Float) ≤ 0.15 ∧ (0.15 : Float) < 1.0) ∧
        (PolicyConfig.standard { retryBaseDelay := 2.0, retryMaxAttempts := some 0 }).validate =
          Settings.checkedPolicy { retryBaseDelay := 2.0, retryMaxAttempts := some 0 } "default"
            .transportOnly ∧
        (PolicyConfig.polling { retryBaseDelay := 2.0, retryMaxAttempts := some 0 }).validate =
          Settings.checkedPolicy { retryBaseDelay := 2.0, retryMaxAttempts := some 0 }
            "poll_until_done" .untilDone ∧
        ∀ f, Client.make { retryBaseDelay := 2.0, retryMaxAttempts := some 0 } true = .error f ↔
          Settings.budgetFault? { retryBaseDelay := 2.0, retryMaxAttempts := some 0 } = some f) :=
  have hs : Settings.check [("RETRY_MAX_ATTEMPTS", .int 0), ("retry_base_delay", .int 2)] =
      .ok { retryBaseDelay := 2.0, retryMaxAttempts := some 0 } := rfl
  ⟨hs, checked_settings_policies hs true⟩

/-- A base delay and a deadline given as the text `nan` pass both checks: the settings check and
the policy check each test "below zero", which no comparison with NaN satisfies, and the settings
check does not look at the deadline. The standard policy is then built on the two NaNs. -/
theorem nan_budget_passes_checks :
    ∃ s, Settings.check [("RETRY_BASE_DELAY", .str "nan"), ("RETRY_MAX_ELAPSED", .str "nan")] =
        .ok s ∧ s.retryBaseDelay.isNaN ∧ s.retryMaxElapsed.any Float.isNaN ∧
      (PolicyConfig.standard s).validate = .ok (s.policy "default" .transportOnly) :=
  ⟨{ retryBaseDelay := 0.0 / 0.0, retryMaxElapsed := some (0.0 / 0.0) }, rfl, rfl, rfl, rfl⟩

end StatementClient
