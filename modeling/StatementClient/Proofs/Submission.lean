import StatementClient.Proofs.Failures

/-!
# Submitting a statement, then polling it

A submission is one or two runs (`Client.submit_eq`). It first posts the statement's body under
the standard policy. When that run fails, the submission fails as it did and nothing else is
sent; when it answers and the caller does not wait, or the statement is finished, the answer is
the submission's. Otherwise (queued, running or failed) the submission is the fetch of the
statement it got back, in the format it asked for, under the polling policy, from the world and
the budget the first run left: the answer of the first run is dropped.

What a run sends is seen in a world that keeps a record of its requests (`Port.recording`): there
the reference loop runs as in the world itself and records its request once per round of its trace
(`Run.reference_recording`), so a run records its own request once per attempt and nothing else
(`Run.perform_records`).

Main statement: `submit_then_poll`.
-/

namespace StatementClient

/-! ## Recording the requests -/

/-- The world `port` with a record of the requests attempted, oldest first. -/
def Port.recording {σ : Type} (port : Port σ) : Port (σ × List Request) where
  attempt s r := (((port.attempt s.1 r).1, s.2 ++ [r]), (port.attempt s.1 r).2)
  now s := port.now s.1
  sleep s d := (((port.sleep s.1 d).1, s.2), (port.sleep s.1 d).2)
  draw s := ((port.draw s.1).1, ((port.draw s.1).2, s.2))
  close s := (port.close s.1, s.2)

/-- The attempts a run made: one each round, a round that raised included. -/
def Trace.attempts : Trace → Nat
  | .retried _ _ rest => rest.attempts + 1
  | .stopped _ _ => 1
  | .raised _ => 1
  | .spent => 0

/-- A policy decides in a world that records its requests as it does in the world itself: the
random source is drawn the same, and the record is kept. -/
theorem Policy.verdict_recording {σ : Type} (p : Policy) (port : Port σ) (o : Outcome)
    (e : Number) (n : Nat) (s : σ) (log : List Request) :
    p.verdict port.recording.draw o e n (s, log) =
      ((p.verdict port.draw o e n s).1, ((p.verdict port.draw o e n s).2, log)) := by
  rw [Policy.verdict_eq, Policy.verdict_eq]
  rcases p.stopReason? o e (.int n) with f | _ | r <;> rfl

namespace Run

variable {σ α : Type} (port : Port σ) (policy : Policy) (op : Operation) (request : Request)
  (read : List UInt8 → Except BodyFailure α)

/-- In a world that records its requests, the reference loop runs as in the world itself, and the
record grows by its request once per attempt of its trace. -/
theorem reference_recording (started : Number) (fuel count : Nat) (s : σ) (log : List Request) :
    reference port.recording policy request started fuel count (s, log) =
      (((reference port policy request started fuel count s).1,
        log ++ List.replicate (reference port policy request started fuel count s).2.attempts
          request),
        (reference port policy request started fuel count s).2) := by
  -- one round at a time: the same attempt, clock, verdict and wait, with the record alongside
  induction fuel generalizing count s log with
  | zero => simp [reference, Trace.attempts]
  | succ fuel ih =>
    rw [reference, reference]
    have hatt : port.recording.attempt (s, log) request =
        (((port.attempt s request).1, log ++ [request]), (port.attempt s request).2) := rfl
    rw [hatt]
    rcases port.attempt s request with ⟨s₁, f | o⟩
    · simp [Trace.attempts]
    dsimp only
    have hel : port.recording.elapsed started (s₁, log ++ [request]) =
        port.elapsed started s₁ := rfl
    rw [hel]
    rcases port.elapsed started s₁ with f | e
    · simp [Trace.attempts]
    dsimp only
    rw [Policy.verdict_recording]
    rcases policy.verdict port.draw o e (count + 1) s₁ with ⟨f | (r | delay), s₂⟩
    · simp [Trace.attempts]
    · simp [Trace.attempts]
    · dsimp only
      have hsl : port.recording.sleep (s₂, log ++ [request]) delay =
          (((port.sleep s₂ delay).1, log ++ [request]), (port.sleep s₂ delay).2) := rfl
      rw [hsl]
      rcases port.sleep s₂ delay with ⟨s₃, f | u⟩
      · simp [Trace.attempts]
      · dsimp only
        rw [ih]
        simp [Trace.attempts, List.replicate_succ]

theorem perform_state (fuel : Nat) (s : σ) (m : Metrics) :
    (perform port policy op request read fuel s m).state =
      (loop port policy op request read (port.now s) fuel 0 s m).state := rfl

/-- In a world that records its requests, a run records its own request, once per attempt, and
nothing else. -/
theorem perform_records (fuel : Nat) (s : σ) (log : List Request) (m : Metrics) :
    ∃ k, (perform port.recording policy op request read fuel (s, log) m).state.2 =
      log ++ List.replicate k request := by
  refine ⟨(reference port policy request (port.now s) fuel 0 s).2.attempts, ?_⟩
  rw [perform_state, (loop_eq_reference _ _ _ _ _ _ _ _ _ _).1, reference_recording]
  rfl

theorem perform_statementId {fuel : Nat} {s : σ} {m : Metrics} {resp : StatementResponse}
    (h : (perform port policy op request readStatement fuel s m).result = .ok resp) :
    Check.textOfLength 1 (.str resp.statementId) = .ok resp.statementId := by
  obtain ⟨o, -, -, hres⟩ := perform_ok_stopped port policy op request readStatement h
  obtain ⟨r, -, -, hread⟩ := resolve_eq_ok.1 hres
  exact StatementResponse.ofBytes_statementId (readStatement_eq_ok hread)

end Run

/-! ## The two runs of a submission -/

/-- The request that submits a statement: its body posted to the statements path. -/
def StatementRequest.request (req : StatementRequest) : Request :=
  ⟨.post, statementsPath, none, some req.body⟩

theorem FetchParams.request_eq (p : FetchParams) :
    p.request = ⟨.get, statementsPath ++ "/" ++ percentEncode p.statementId,
      some [("format", .str (WireEnum.wireName p.format))], none⟩ := rfl

namespace Client

variable {σ : Type} (c : Client) (port : Port σ)

/-- A submission of a request that checks is its first run, and then, when the caller waits for a
statement that is not finished, the fetch of that statement in the requested format, from where
the first run left the world, its counts and the budget. -/
theorem submit_eq {request : Json} {req : StatementRequest}
    (hreq : StatementRequest.check request = .ok req) (wait : Bool) (fuel : Nat) (s : σ)
    (m : Metrics) :
    c.submit port request wait fuel s m =
      match (Run.perform port c.standard .submit req.request readStatement fuel s m).result with
      | .ok resp =>
        if wait = true ∧ resp.status ≠ .finished then
          c.fetch port ⟨resp.statementId, req.format⟩ true
            (Run.perform port c.standard .submit req.request readStatement fuel s m).fuel
            (Run.perform port c.standard .submit req.request readStatement fuel s m).state
            (Run.perform port c.standard .submit req.request readStatement fuel s m).metrics
        else (Run.perform port c.standard .submit req.request readStatement fuel s m).mapFailure .run
      | .error _ =>
        (Run.perform port c.standard .submit req.request readStatement fuel s m).mapFailure .run := by
  have hsent : req.request = ⟨.post, statementsPath, none, some req.body⟩ := rfl
  have hid : ∀ resp, (Run.perform port c.standard .submit req.request readStatement fuel s m).result =
      .ok resp → Check.textOfLength 1 (.str resp.statementId) = .ok resp.statementId :=
    fun resp h => Run.perform_statementId port c.standard .submit req.request h
  unfold submit
  simp only [hreq]
  rw [← hsent]
  generalize Run.perform port c.standard .submit req.request readStatement fuel s m = first at hid ⊢
  rcases hres : first.result with e | resp
  · simp [Run.mapFailure, hres, Except.mapError]
  · have hfirst : (first.mapFailure CallFailure.run).result = .ok resp :=
      Run.mapFailure_result_eq_ok.2 hres
    simp only [hfirst]
    by_cases hfin : resp.status = .finished
    · have : resp.isFinished = true := by simp [StatementResponse.isFinished, hfin,
        StatementStatus.isFinished]
      simp [this, hfin]
    · have : resp.isFinished = false := by
        cases hst : resp.status <;> simp_all [StatementResponse.isFinished,
          StatementStatus.isFinished]
      cases wait
      · simp
      · simp only [this, Bool.not_true, Bool.or_self, Bool.false_eq_true, ↓reduceIte, ne_eq,
          hfin, not_false_eq_true, and_self, Run.mapFailure]
        rw [FetchParams.check_handle (hid resp hres) req.format]

end Client

/-- A submission first runs the post of the request's body under the client's standard policy,
the policy of its settings that retries transport failures only, and a run sends its one request
on every attempt. When that run fails, the submission fails as it did and sends nothing more; when
the caller does not wait, or the statement it answers is finished, that answer is the
submission's. Otherwise (queued, running or failed) the submission is exactly the fetch of the
statement it got back, by its id and in the requested format, under the polling policy of the
settings: every attempt gets the statement's own path, its id percent-encoded, with the format's
wire name as query, and the first answer is dropped. -/
theorem submit_then_poll {σ : Type} {st : Settings} {own : Bool} {c : Client}
    (hc : Client.make st own = .ok c) (port : Port σ) {request : Json} {req : StatementRequest}
    (hreq : StatementRequest.check request = .ok req) (wait : Bool) (fuel : Nat) (s : σ)
    (m : Metrics) :
    (PolicyConfig.standard st).validate = .ok c.standard ∧
    (PolicyConfig.polling st).validate = .ok c.polling ∧
    req.request = ⟨.post, statementsPath, none, some req.body⟩ ∧
    c.submit port request wait fuel s m =
      (match (Run.perform port c.standard .submit req.request readStatement fuel s m).result with
      | .ok resp =>
        if wait = true ∧ resp.status ≠ .finished then
          c.fetch port ⟨resp.statementId, req.format⟩ true
            (Run.perform port c.standard .submit req.request readStatement fuel s m).fuel
            (Run.perform port c.standard .submit req.request readStatement fuel s m).state
            (Run.perform port c.standard .submit req.request readStatement fuel s m).metrics
        else (Run.perform port c.standard .submit req.request readStatement fuel s m).mapFailure .run
      | .error _ =>
        (Run.perform port c.standard .submit req.request readStatement fuel s m).mapFailure .run) ∧
    (∀ (id : String) (fuel' : Nat) (s' : σ) (m' : Metrics),
      c.fetch port ⟨id, req.format⟩ true fuel' s' m' =
        (Run.perform port c.polling .fetch
          ⟨.get, statementsPath ++ "/" ++ percentEncode id,
            some [("format", .str (WireEnum.wireName req.format))], none⟩
          readStatement fuel' s' m').mapFailure .run) ∧
    (∀ (policy : Policy) (op : Operation) (sent : Request) (fuel' : Nat) (s' : σ)
        (log : List Request) (m' : Metrics),
      ∃ k, (Run.perform port.recording policy op sent readStatement fuel' (s', log) m').state.2 =
        log ++ List.replicate k sent) := by
  obtain ⟨hstd, hpoll⟩ := Client.make_eq_ok hc
  refine ⟨hstd, hpoll, rfl, Client.submit_eq c port hreq wait fuel s m, fun id fuel' s' m' => ?_,
    fun policy op sent fuel' s' log m' =>
      Run.perform_records port policy op sent readStatement fuel' s' log m'⟩
  rw [Client.fetch, if_pos rfl, FetchParams.request_eq]

/-- A client of the default settings that submits `SELECT 1` posts its body, and polls any
statement by its path with the wire name of JSON as query. -/
theorem select_one_posts_then_polls :
    let c : Client :=
      ⟨⟨.float 1.0, .float 0.15, some (.float 60.0), none, "default", .transportOnly⟩,
        ⟨.float 1.0, .float 0.15, some (.float 60.0), none, "poll_until_done", .untilDone⟩, true⟩
    let port : Port Unit := ⟨fun s _ => (s, .ok (.failure ⟨"ConnectError", "refused"⟩)),
      fun _ => .float 1000.0, fun s _ => (s, .ok ()), fun s => (.float 0.5, s), id⟩
    let req : StatementRequest := ⟨"SELECT 1", .json, none⟩
    Client.make {} true = .ok c ∧
      StatementRequest.check (.obj [("statement", .str "SELECT 1")]) = .ok req ∧
      req.request = ⟨.post, statementsPath, none, some req.body⟩ ∧
      ∀ id, c.fetch port ⟨id, .json⟩ true 1 () {} =
        (Run.perform port c.polling .fetch
          ⟨.get, statementsPath ++ "/" ++ percentEncode id,
            some [("format", .str (WireEnum.wireName ResultFormat.json))], none⟩
          readStatement 1 () {}).mapFailure .run := by
  intro c port req
  have hc : Client.make {} true = .ok c := rfl
  have hreq : StatementRequest.check (.obj [("statement", .str "SELECT 1")]) = .ok req := rfl
  obtain ⟨-, -, hsent, -, hfetch, -⟩ := submit_then_poll hc port hreq true 1 () {}
  exact ⟨hc, hreq, hsent, fun id => hfetch id 1 () {}⟩

end StatementClient
