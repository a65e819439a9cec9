import Mathlib
import StatementClient.Logging.Setup

/-!
# Configuring logging again

However often logging is configured, and whatever handlers of other names are added to the
client's logger in between, the last configuration decides. The client's logger ends with exactly
one handler of the client's name. It keeps every handler of another name that it held or was given.
Its level, its propagation, the HTTP stack's levels and the renderer are those the last settings
name. The root logger's handlers never change.

* `Handler.foldl_detach_filter`: taking off, one at a time, the handlers a snapshot of a list picked
  leaves exactly those it passed over, whatever repeats the list holds.
* `LogState.configure_handlers`: a configuration keeps the handlers of other names in their order
  and adds one of the client's name after them.
* `LogState.ConfiguredBy`: what configuring from settings sets. A configuration sets it
  (`configuredBy_configure`) and adding a handler of another name keeps it
  (`ConfiguredBy.addHandler`), so the additions after the last configuration keep it
  (`ConfiguredBy.run`).
* `LogState.mem_run_handlers`: along any run, a handler of another name is on the client's logger
  exactly when it was there at the start or was added.

Main statement: `configuration_follows_last_call`.
-/

namespace StatementClient

namespace Handler

theorem foldl_detach_cons {a : Handler} {bs l : List Handler} (hb : ∀ b ∈ bs, b ≠ a) :
    bs.foldl (fun hs h => detach h hs) (a :: l) = a :: bs.foldl (fun hs h => detach h hs) l := by
  induction bs generalizing l with
  | nil => rfl
  | cons b bs ih =>
    have hab : ¬(a == b) = true := by
      simpa using (hb b List.mem_cons_self).symm
    have hstep : detach b (a :: l) = a :: detach b l := List.erase_cons_tail hab
    simp only [List.foldl_cons, hstep]
    exact ih fun c hc => hb c (List.mem_cons_of_mem b hc)

/-- Taking off, one at a time, the handlers of a list that a test picks, each from what the
removals before it left, leaves exactly those the test passes over. -/
theorem foldl_detach_filter (p : Handler → Bool) (hs : List Handler) :
    (hs.filter p).foldl (fun l h => detach h l) hs = hs.filter (fun h => !p h) := by
  induction hs with
  | nil => rfl
  | cons a t ih =>
    by_cases ha : p a = true
    · have hhead : detach a (a :: t) = t := List.erase_cons_head a t
      simp [ha, hhead, ih]
    · have hne : ∀ b ∈ t.filter p, b ≠ a := by
        rintro b hb rfl
        exact ha (List.mem_filter.1 hb).2
      simp [ha, foldl_detach_cons hne, ih]

end Handler

namespace LogEvent

/-- Whether an event adds a handler of a name other than the client's. -/
def addsForeign : LogEvent → Bool
  | .addHandler h => !h.isClients
  | .configure _ => false

end LogEvent

namespace LogState

variable (s : Settings) (st : LogState)

theorem run_cons (e : LogEvent) (events : List LogEvent) :
    st.run (e :: events) = (st.step e).run events := rfl

/-- A configuration keeps the handlers of other names in their order, and adds one of the
client's name after them. -/
theorem configure_handlers :
    (st.configure s).handlers =
      st.handlers.filter (fun h => !h.isClients) ++ [⟨st.made, some Handler.clientName⟩] := by
  have hnew : (⟨st.made, some Handler.clientName⟩ : Handler) ∉
      st.handlers.filter (fun h => !h.isClients) := by
    simp [Handler.isClients]
  simp only [configure, Handler.foldl_detach_filter, Handler.attach, if_neg hnew]

/-- What configuring from `s` sets: one handler of the client's name on its logger, the level `s`
names with no propagation, the HTTP stack at the level that goes with it, and the renderer of the
environment. -/
structure ConfiguredBy (s : Settings) (st : LogState) : Prop where
  one_handler : st.handlers.countP Handler.isClients = 1
  level : st.level = levelOfSetting s.logLevel
  propagate : st.propagate = false
  httpx : st.httpxLevel = httpLevelFor (levelOfSetting s.logLevel)
  httpcore : st.httpcoreLevel = httpLevelFor (levelOfSetting s.logLevel)
  renderer : st.renderer = rendererFor s.environment

theorem configuredBy_configure : (st.configure s).ConfiguredBy s where
  one_handler := by
    rw [configure_handlers, List.countP_append, List.countP_filter]
    simp [Handler.isClients]
  -- projecting the update first: `rfl` would unfold the level's name table instead
  level := by simp only [configure]
  propagate := by simp only [configure]
  httpx := by simp only [configure]
  httpcore := by simp only [configure]
  renderer := by simp only [configure]

variable {s st}

/-- Adding a handler of another name keeps what a configuration set. -/
theorem ConfiguredBy.addHandler (hc : st.ConfiguredBy s) {h : Handler}
    (hh : h.isClients = false) : (st.addHandler h).ConfiguredBy s where
  one_handler := by
    show (Handler.attach h st.handlers).countP Handler.isClients = 1
    unfold Handler.attach
    split
    · exact hc.one_handler
    · simp [hc.one_handler, hh]
  level := hc.level
  propagate := hc.propagate
  httpx := hc.httpx
  httpcore := hc.httpcore
  renderer := hc.renderer

/-- Handlers of other names added after a configuration keep what it set. -/
theorem ConfiguredBy.run (hc : st.ConfiguredBy s) {events : List LogEvent}
    (he : ∀ e ∈ events, e.addsForeign = true) : (st.run events).ConfiguredBy s := by
  induction events generalizing st with
  | nil => exact hc
  | cons e events ih =>
    have hrest : ∀ e' ∈ events, e'.addsForeign = true := fun e' h' => he e' (List.mem_cons_of_mem e h')
    cases e with
    | configure s' => simp [LogEvent.addsForeign] at he
    | addHandler h =>
      have hh : h.isClients = false := by
        simpa [LogEvent.addsForeign] using he _ List.mem_cons_self
      exact ih (hc.addHandler hh) hrest

variable (st)

theorem mem_step_handlers {h : Handler} (hh : h.isClients = false) (e : LogEvent) :
    h ∈ (st.step e).handlers ↔ h ∈ st.handlers ∨ e = .addHandler h := by
  cases e with
  | configure s =>
    have hne : h ≠ ⟨st.made, some Handler.clientName⟩ := by
      rintro rfl
      simp [Handler.isClients] at hh
    simp [step, configure_handlers, hh, hne]
  | addHandler g =>
    show h ∈ Handler.attach g st.handlers ↔ _
    unfold Handler.attach
    split
    · rename_i hg
      simp only [LogEvent.addHandler.injEq]
      exact ⟨.inl, fun h' => h'.elim id fun e => e ▸ hg⟩
    · simp [eq_comm]

/-- Along any run, a handler of another name is on the client's logger exactly when it was there
at the start or some event added it. -/
theorem mem_run_handlers {h : Handler} (hh : h.isClients = false) (events : List LogEvent) :
    h ∈ (st.run events).handlers ↔ h ∈ st.handlers ∨ .addHandler h ∈ events := by
  induction events generalizing st with
  | nil => simp [run]
  | cons e events ih =>
    rw [run_cons, ih, mem_step_handlers _ hh]
    simp only [List.mem_cons, or_assoc, eq_comm]

theorem rootHandlers_run (events : List LogEvent) : (st.run events).rootHandlers = st.rootHandlers := by
  induction events generalizing st with
  | nil => rfl
  | cons e events ih =>
    rw [run_cons, ih]
    cases e <;> rfl

/-- A run is the run after its last configuration from the state that configuration made. -/
theorem run_append_configure (before after : List LogEvent) :
    st.run (before ++ .configure s :: after) = ((st.run before).configure s).run after := by
  simp only [run, List.foldl_append, List.foldl_cons, step]

end LogState

/-- However often logging is configured, and whatever handlers of other names are added to the
client's logger in between, the last configuration decides. The logger has one handler of the
client's name, the level, propagation, HTTP levels and renderer that `s` names, and every handler of
another name it held or was given; the root logger's handlers are as they were. -/
theorem configuration_follows_last_call (st : LogState) (before after : List LogEvent)
    (s : Settings) (hafter : ∀ e ∈ after, e.addsForeign = true) :
    let events := before ++ .configure s :: after
    (st.run events).ConfiguredBy s ∧
      (∀ h : Handler, h.isClients = false →
        (h ∈ (st.run events).handlers ↔ h ∈ st.handlers ∨ .addHandler h ∈ events)) ∧
      (st.run events).rootHandlers = st.rootHandlers := by
  intro events
  refine ⟨?_, fun h hh => st.mem_run_handlers hh events, st.rootHandlers_run events⟩
  rw [LogState.run_append_configure]
  exact (LogState.configuredBy_configure s _).run hafter

/-- Configured at `debug`, given an audit handler, configured at `warning` for production and
given a handler with no name: the warning configuration holds, and both other handlers stay. -/
theorem warning_reconfiguration_keeps_audit :
    (∀ e ∈ [LogEvent.addHandler ⟨9, none⟩], e.addsForeign = true) ∧
      let events := [LogEvent.configure { logLevel := "debug" }, .addHandler ⟨8, some "audit"⟩] ++
        .configure { logLevel := "warning", environment := "Production" } ::
          [.addHandler ⟨9, none⟩]
      (LogState.run {} events).ConfiguredBy { logLevel := "warning", environment := "Production" } ∧
        (∀ h : Handler, h.isClients = false →
          (h ∈ (LogState.run {} events).handlers ↔
            h ∈ ({} : LogState).handlers ∨ .addHandler h ∈ events)) ∧
        (LogState.run {} events).rootHandlers = ({} : LogState).rootHandlers :=
  ⟨by decide, configuration_follows_last_call {} _ _ _ (by decide)⟩

end StatementClient
