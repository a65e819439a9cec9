import StatementClient.Proofs.ReferenceLoop

/-!
# Which outcomes are attempted again, and where polling stops

A run attempts again exactly after the outcomes its predicate asks to repeat, while its budget
lasts (`retried_outcomes_by_predicate`): the standard predicate asks for transport failures, the
polling predicate also for successes whose body reports a statement still queued or running. The
polling predicate reads the body leniently, and raises when the reader runs out of stack
(`untilDone_raises_on_deep_body`).

Polling stops on a statement still running only for its budget
(`polling_stops_running_only_on_budget`): the predicate and the reply read the same status from
every body the reply accepts (`reportedStatus_of_ofBytes`), so the predicate never lets go of a
body the reply reads as queued or running.
-/

namespace StatementClient

theorem StatementStatus.isTerminal_eq_false_iff {st : StatementStatus} :
    st.isTerminal = false ↔ st = .queued ∨ st = .running := by
  cases st <;> simp [StatementStatus.isTerminal]

theorem Run.mapFailure_result_eq_ok {σ ε ε' α : Type} {f : ε → ε'} {r : Run σ ε α} {v : α} :
    (r.mapFailure f).result = .ok v ↔ r.result = .ok v := by
  unfold Run.mapFailure
  cases r.result <;> simp [Except.mapError]

theorem terminal_of_untilDone_final {r : Response} {resp : StatementResponse}
    (hs : r.isSuccess = true) (hp : Predicate.untilDone.retries (.response r) = .ok false)
    (hv : StatementResponse.ofBytes r.content = .ok resp) : resp.status.isTerminal = true := by
  obtain ⟨doc, hd, hst⟩ := reportedStatus_of_ofBytes hv
  have hp' : Predicate.untilDone.retries (.response r) = .ok (!resp.status.isTerminal) := by
    simp [Predicate.retries, hs, Response.document, hd, hst]
  rw [hp'] at hp
  simpa using hp

theorem readStatement_eq_ok {b : List UInt8} {resp : StatementResponse}
    (h : readStatement b = .ok resp) : StatementResponse.ofBytes b = .ok resp := by
  unfold readStatement at h
  rcases hb : StatementResponse.ofBytes b with e | v <;> simp [hb, Except.mapError] at h
  rw [h]

/-- A run under the polling predicate that answers with a statement still queued or running
stopped at its deadline or its cap: the predicate judged no such body final. -/
theorem stopped_on_budget_of_running {σ : Type} {port : Port σ} {policy : Policy}
    (hp : policy.predicate = .untilDone) {op : Operation} {request : Request} {fuel : Nat} {s : σ}
    {m : Metrics} {resp : StatementResponse}
    (h : (Run.perform port policy op request readStatement fuel s m).result = .ok resp)
    (hrun : resp.status.isTerminal = false) :
    ∃ o reason,
      (Run.reference port policy request (port.now s) fuel 0 s).2.last = .stopped o reason ∧
      (reason = .deadline ∨ reason = .maxAttempts) := by
  obtain ⟨o, reason, hl, hres⟩ := Run.perform_ok_stopped port policy op request readStatement h
  refine ⟨o, reason, hl, ?_⟩
  cases reason with
  | deadline => exact .inl rfl
  | maxAttempts => exact .inr rfl
  | terminal =>
    have hfinal := (Run.reference_heeds port policy request (port.now s) fuel 0 s).last hl
    obtain ⟨r, rfl, hs, hread⟩ := resolve_eq_ok.1 hres
    rw [hp] at hfinal
    have := terminal_of_untilDone_final hs hfinal (readStatement_eq_ok hread)
    rw [hrun] at this
    cases this

namespace Client

theorem make_eq_ok {st : Settings} {own : Bool} {c : Client} (h : Client.make st own = .ok c) :
    (PolicyConfig.standard st).validate = .ok c.standard ∧
      (PolicyConfig.polling st).validate = .ok c.polling := by
  obtain ⟨standard, hs, h⟩ := Except.bind_eq_ok h
  obtain ⟨polling, hp, h⟩ := Except.bind_eq_ok h
  cases h
  exact ⟨hs, hp⟩

theorem make_policies {st : Settings} {own : Bool} {c : Client} (h : Client.make st own = .ok c) :
    c.standard.predicate = .transportOnly ∧ c.polling.predicate = .untilDone ∧
      c.standard.OnDoubles ∧ c.polling.OnDoubles := by
  obtain ⟨hs, hp⟩ := make_eq_ok h
  obtain ⟨hs₁, hs₂⟩ := PolicyConfig.ofSettings_validate hs
  obtain ⟨hp₁, hp₂⟩ := PolicyConfig.ofSettings_validate hp
  exact ⟨hs₁, hp₁, hs₂, hp₂⟩

variable {σ : Type} (c : Client) (port : Port σ)

/-- A submission that waits and answers with a statement still queued or running answers with a
fetch that polled it. -/
theorem submit_waits_by_fetch {request : Json} {fuel : Nat} {s : σ} {m : Metrics}
    {resp : StatementResponse} (h : (c.submit port request true fuel s m).result = .ok resp)
    (hrun : resp.status.isTerminal = false) :
    ∃ params fuel' s' m',
      c.submit port request true fuel s m = c.fetch port params true fuel' s' m' := by
  unfold submit at h ⊢
  split at h
  · cases h
  dsimp only at h ⊢
  generalize Run.mapFailure CallFailure.run
    (Run.perform port c.standard .submit _ readStatement fuel s m) = r at h ⊢
  rcases hres : r.result with e | submitted <;> simp only [hres, reduceCtorEq] at h
  simp only [Bool.not_true, Bool.false_or] at h ⊢
  split at h
  · rename_i hfin
    rw [hres] at h
    cases h
    cases hst : resp.status <;>
      simp_all [StatementResponse.isFinished, StatementStatus.isFinished,
        StatementStatus.isTerminal]
  rename_i hfin
  simp only [hfin, Bool.false_eq_true, ↓reduceIte]
  split at h
  · cases h
  rename_i params _
  exact ⟨params, r.fuel, r.state, r.metrics, rfl⟩

/-- A fetch that polls and answers with a statement still queued or running stopped at its
deadline or its cap. -/
theorem fetch_stopped_on_budget {st : Settings} {own : Bool} {c : Client}
    (hc : Client.make st own = .ok c) {params : FetchParams} {fuel : Nat} {s : σ} {m : Metrics}
    {resp : StatementResponse} (h : (c.fetch port params true fuel s m).result = .ok resp)
    (hrun : resp.status.isTerminal = false) :
    ∃ o reason, (Run.reference port c.polling params.request (port.now s) fuel 0 s).2.last =
      .stopped o reason ∧ (reason = .deadline ∨ reason = .maxAttempts) :=
  stopped_on_budget_of_running (Client.make_policies hc).2.1 (Run.mapFailure_result_eq_ok.1 h) hrun

end Client

/-- Which outcomes a run attempts again after. Every outcome a run repeats is one its predicate
asks to repeat: under the standard predicate a transport failure, under the polling predicate a
transport failure or a success whose body reads as a document whose status member is the text
`queued` or `running`. The standard predicate answers every outcome; the polling predicate
answers every outcome but a success whose body runs the reader out of stack, where it raises the
reader's fault. Conversely, in a world whose clock, random source and waits behave, such an
outcome met before the deadline and below the cap is followed by another round. A client's
standard policy, used by every call that does not poll, has the standard predicate. -/
theorem retried_outcomes_by_predicate {σ : Type} (port : Port σ) (policy : Policy)
    (request : Request) (started : Number) (fuel count : Nat) (s : σ) :
    (∀ o ∈ (Run.reference port policy request started fuel count s).2.repeated,
      policy.predicate.retries o = .ok true ∧
      (policy.predicate = .transportOnly → ∃ f, o = .failure f) ∧
      (policy.predicate = .untilDone → (∃ f, o = .failure f) ∨
        ∃ r doc, o = .response r ∧ r.isSuccess = true ∧ r.document = .ok doc ∧
          (doc.field? "status" = some (.str "queued") ∨
            doc.field? "status" = some (.str "running")))) ∧
    (∀ o, Predicate.transportOnly.retries o = .ok (o matches .failure _)) ∧
    (∀ o, Predicate.untilDone.retries o = .ok true ↔
      (∃ f, o = .failure f) ∨
      ∃ r doc, o = .response r ∧ r.isSuccess = true ∧ r.document = .ok doc ∧
        (doc.field? "status" = some (.str "queued") ∨ doc.field? "status" = some (.str "running"))) ∧
    (∀ o f, Predicate.untilDone.retries o = .error f ↔
      ∃ r cs array pos, o = .response r ∧ r.isSuccess = true ∧
        r.document = .error (.unreadable cs ⟨.stackExhausted array, pos⟩) ∧
        f = ⟨"RecursionError", (Json.ReadError.stackExhausted array).text⟩) ∧
    (port.Steady → policy.OnDoubles → (∃ t, started = .float t) →
      ∀ s₁ o, port.attempt s request = (s₁, .ok o) → policy.predicate.retries o = .ok true →
      (∀ e limit, port.elapsed started s₁ = .ok e → policy.maxElapsed = some limit →
        Number.compare? e limit = some .lt) →
      (∀ cap, policy.maxAttempts = some cap → Number.compare? (.int (count + 1)) cap = some .lt) →
      ∃ delay s₂, Run.reference port policy request started (fuel + 1) count s =
        ((Run.reference port policy request started fuel (count + 1) s₂).1,
          .retried o delay (Run.reference port policy request started fuel (count + 1) s₂).2)) ∧
    (∀ st own c, Client.make st own = .ok c →
      c.standard.predicate = .transportOnly ∧ c.polling.predicate = .untilDone) := by
  refine ⟨fun o ho => ?_, Predicate.transportOnly_retries, Predicate.untilDone_retries_iff,
    Predicate.untilDone_raises_iff,
    fun hw hp hstart s₁ o hatt hr hdl hcap =>
      Run.reference_goes_on port policy request hw hp hstart hatt hr hdl hcap,
    fun st own c hc => ⟨(Client.make_policies hc).1, (Client.make_policies hc).2.1⟩⟩
  have hr := (Run.reference_heeds port policy request started fuel count s).repeated o ho
  refine ⟨hr, fun ht => ?_, fun hu => ?_⟩
  · rw [ht, Predicate.transportOnly_retries] at hr
    cases o with
    | failure f => exact ⟨f, rfl⟩
    | response r => cases hr
  · rw [hu] at hr
    exact (Predicate.untilDone_retries_iff o).1 hr

/-- A world that answers every request with `r`, whose clock is moved only by waits, each by its
delay, and whose draws are all `0.5`. -/
def Port.answering (r : Response) : Port Float :=
  ⟨fun t _ => (t, .ok (.response r)), fun t => .float t,
    fun t d => (match d with | .float x => t + x | .int n => t + Float.ofInt n, .ok ()),
    fun t => (.float 0.5, t), id⟩

/-- A success whose body reports statement `s1` as running. -/
def runningAnswer : Response :=
  ⟨.int 200, "\x7b\"statement_id\":\"s1\",\"status\":\"running\"\x7d".toList.map (·.toNat.toUInt8),
    none, none⟩

/-- A poll capped at two attempts, in a world that always answers that the statement is running,
repeats one outcome, and that outcome is one the polling predicate asks to repeat. -/
theorem capped_running_poll_repeats_running :
    let polling : Policy :=
      ⟨.float 1.0, .float 0.15, some (.float 60.0), some (.int 2), "poll_until_done", .untilDone⟩
    (Run.reference (Port.answering runningAnswer) polling (FetchParams.request ⟨"s1", .json⟩)
        (.float 1000.0) 10 0 1000.0).2.repeated.length = 1 ∧
      ∀ o ∈ (Run.reference (Port.answering runningAnswer) polling
          (FetchParams.request ⟨"s1", .json⟩) (.float 1000.0) 10 0 1000.0).2.repeated,
        (∃ f, o = .failure f) ∨ ∃ r doc, o = .response r ∧ r.isSuccess = true ∧
          r.document = .ok doc ∧
          (doc.field? "status" = some (.str "queued") ∨ doc.field? "status" = some (.str "running")) :=
  ⟨by decide +kernel, fun o ho =>
    ((retried_outcomes_by_predicate _ _ _ _ 10 0 1000.0).1 o ho).2.2 rfl⟩

/-- A success whose body opens two thousand brackets makes the polling predicate raise the
reader's fault, where a predicate that always answers would let it go. -/
theorem untilDone_raises_on_deep_body :
    Predicate.untilDone.retries
        (.response ⟨.int 200, List.replicate 2000 0x5B ++ List.replicate 2000 0x5D, none, none⟩) =
      .error ⟨"RecursionError", (Json.ReadError.stackExhausted true).text⟩ :=
  Predicate.untilDone_raises_nested rfl (by decide)
    (fun x hx => by rw [List.eq_of_mem_replicate hx]; decide) rfl

/-- Polling stops on a statement still running only for its budget. A success whose body the
statement response accepts and the polling predicate lets go reports a finished or failed
statement, since both read the same status from it. So a client's fetch that polls, and a
submission that waits and polls, answer with a statement queued or running only when the poll
stopped at its deadline or its cap. -/
theorem polling_stops_running_only_on_budget :
    (∀ (r : Response) (resp : StatementResponse), r.isSuccess = true →
      Predicate.untilDone.retries (.response r) = .ok false →
      StatementResponse.ofBytes r.content = .ok resp →
      resp.status = .finished ∨ resp.status = .failed) ∧
    (∀ {σ : Type} (st : Settings) (own : Bool) (c : Client) (port : Port σ) (params : FetchParams)
        (fuel : Nat) (s : σ) (m : Metrics) (resp : StatementResponse),
      Client.make st own = .ok c →
      (c.fetch port params true fuel s m).result = .ok resp →
      (resp.status = .queued ∨ resp.status = .running) →
      ∃ o reason,
        (Run.reference port c.polling params.request (port.now s) fuel 0 s).2.last =
          .stopped o reason ∧ (reason = .deadline ∨ reason = .maxAttempts)) ∧
    (∀ {σ : Type} (st : Settings) (own : Bool) (c : Client) (port : Port σ) (request : Json)
        (fuel : Nat) (s : σ) (m : Metrics) (resp : StatementResponse),
      Client.make st own = .ok c →
      (c.submit port request true fuel s m).result = .ok resp →
      (resp.status = .queued ∨ resp.status = .running) →
      ∃ params fuel' s' m', c.submit port request true fuel s m = c.fetch port params true fuel' s' m' ∧
        ∃ o reason,
          (Run.reference port c.polling params.request (port.now s') fuel' 0 s').2.last =
            .stopped o reason ∧ (reason = .deadline ∨ reason = .maxAttempts)) := by
  refine ⟨fun r resp hs hp hv => ?_, fun st own c port params fuel s m resp hc h hrun =>
    Client.fetch_stopped_on_budget port hc h (StatementStatus.isTerminal_eq_false_iff.2 hrun), ?_⟩
  · have hterm := terminal_of_untilDone_final hs hp hv
    cases hst : resp.status <;> simp_all [StatementStatus.isTerminal]
  · intro σ st own c port request fuel s m resp hc h hrun
    have hrun' := StatementStatus.isTerminal_eq_false_iff.2 hrun
    obtain ⟨params, fuel', s', m', he⟩ := Client.submit_waits_by_fetch c port h hrun'
    rw [he] at h
    exact ⟨params, fuel', s', m', he, Client.fetch_stopped_on_budget port hc h hrun'⟩

/-- A client capped at two attempts, in a world that always answers that the statement is
running, answers a fetch that polls with the running statement, and its poll stopped on its
budget. -/
theorem capped_running_poll_stops_at_cap :
    let c : Client :=
      ⟨⟨.float 1.0, .float 0.15, some (.float 60.0), some (.int 2), "default", .transportOnly⟩,
        ⟨.float 1.0, .float 0.15, some (.float 60.0), some (.int 2), "poll_until_done", .untilDone⟩,
        true⟩
    Client.make { retryMaxAttempts := some 2 } true = .ok c ∧
      (c.fetch (Port.answering runningAnswer) ⟨"s1", .json⟩ true 10 1000.0 {}).result.toOption.map
        StatementResponse.status = some .running ∧
      ∃ o reason, (Run.reference (Port.answering runningAnswer) c.polling
          (FetchParams.request ⟨"s1", .json⟩) (.float 1000.0) 10 0 1000.0).2.last =
        .stopped o reason ∧ (reason = .deadline ∨ reason = .maxAttempts) := by
  intro c
  have hc : Client.make { retryMaxAttempts := some 2 } true = .ok c := rfl
  have hstatus : (c.fetch (Port.answering runningAnswer) ⟨"s1", .json⟩ true 10 1000.0 {}).result.toOption.map
      StatementResponse.status = some .running := by
    decide +kernel
  obtain ⟨resp, hres, hrun⟩ : ∃ resp,
      (c.fetch (Port.answering runningAnswer) ⟨"s1", .json⟩ true 10 1000.0 {}).result = .ok resp ∧
        resp.status = .running := by
    rcases h : (c.fetch (Port.answering runningAnswer) ⟨"s1", .json⟩ true 10 1000.0 {}).result
      with e | resp
    · simp [h, Except.toOption] at hstatus
    · exact ⟨resp, rfl, by simpa [h, Except.toOption] using hstatus⟩
  exact ⟨hc, hstatus, polling_stops_running_only_on_budget.2.1 _ true c _ _ 10 1000.0 {} resp hc
    hres (.inr hrun)⟩

end StatementClient
