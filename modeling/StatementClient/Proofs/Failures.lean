import Mathlib.Tactic.Set
import StatementClient.Proofs.Polling

/-!
# How a call fails

A call of a client, in a world whose clock, random source and waits behave and whose attempts
always answer, fails only in the ways its last answer accounts for (`call_fails_by_last_answer`):

* it is refused before anything is sent, and the world is as it was;
* the world allows no more attempts;
* its last answer fixes a client error (`Outcome.Fails`): a transport failure is a transport error
  caused by it, a 2xx response a decode error naming its status, any other response a remote
  error carrying its status;
* reading the body of its last answer raised a fault (`Response.Raises`): the lenient reader ran
  out of stack, or the codec of the charset an error body announced raised an error of its own.

The last kind is no client error. A poll of a statement whose answer nests brackets two thousand
deep ends so (`polling_fetch_raises_on_deep_body`): the polling predicate reads the body and raises.

The run of one operation is taken apart through the reference loop: it ends on an answer unless
it spent its attempts (`Run.reference_ends_on_answer`), and a run stopped on an answer fails as
resolving the answer, or asking the predicate about it once more, fails (`Run.explains_stopped`).
A submission that waits polls with the handle of the statement it got back, which its own check
accepts (`FetchParams.check_handle`).
-/

namespace StatementClient

/-! ## What an answer fails with -/

/-- The client error an outcome that resolves to no value fails with. -/
inductive Outcome.Fails : Outcome → ClientError → Prop
  /-- A transport failure is a transport error caused by the transport's fault. -/
  | transport (f : Fault) (message : String) (details : List (String × Json)) :
      Outcome.Fails (.failure f)
        (.plain .transport message details (some (.error f.className f.message)))
  /-- A 2xx response whose body is refused is a decode error that names the status and the
  reason the body was refused. -/
  | decode (r : Response) (hs : r.isSuccess = true) (message : String) (cause : Cause) :
      Outcome.Fails (.response r) (.plain .decode message
        [("status_code", r.status.toJson), ("parse_error", .str cause.text)] (some cause))
  /-- Any other response is a remote error that carries the status. -/
  | remote (r : Response) (hs : r.isSuccess = false) (text : Json) (extra : List (String × Json))
      (cause : Option Cause) :
      Outcome.Fails (.response r) (.remote r.status.toJson text extra cause)

/-- Reading the body of a response raises a fault instead of reporting on the body. -/
inductive Response.Raises (r : Response) : Fault → Prop
  /-- The lenient reader runs out of stack on a document nested too deep. -/
  | stack {cs : List Char} {array : Bool} {pos : Nat}
      (hd : r.document = .error (.unreadable cs ⟨.stackExhausted array, pos⟩)) :
      r.Raises ⟨"RecursionError", (Json.ReadError.stackExhausted array).text⟩
  /-- The codec of the announced charset raises an error of its own. -/
  | codec {e : Bytes.DecodeFailure} (ht : r.text = .error e) (he : e.isLookupOrDecode = false) :
      r.Raises ⟨e.className, e.message⟩

theorem Response.Raises.of_document {r : Response} {b : Json.BytesFailure}
    (hd : r.document = .error b) (hb : b.isValueError = false) :
    r.Raises ⟨b.className, b.message⟩ := by
  obtain ⟨cs, array, pos, rfl⟩ := Json.BytesFailure.isValueError_eq_false.1 hb
  rw [Json.BytesFailure.className_stack, Json.BytesFailure.message_stack]
  exact .stack hd

theorem errorText_eq_error {r : Response} {f : Fault} (h : errorText r = .error f) :
    r.Raises f := by
  unfold errorText at h
  split at h
  · cases h
  rcases ht : r.text with e | t
  · simp only [ht] at h
    split at h
    · cases h
    · rename_i he
      cases h
      exact .codec ht (by simpa using he)
  · simp only [ht] at h
    split at h
    · cases h
    rcases hd : r.document with b | doc
    · simp only [hd] at h
      by_cases hb : b.isValueError
      · simp [hb, Except.map] at h
      · simp only [hb, Bool.false_eq_true, ↓reduceIte, Except.map, Except.error.injEq] at h
        subst h
        exact .of_document hd (by simpa using hb)
    · simp only [hd] at h
      split at h <;> (try split at h) <;> simp [Except.map] at h

theorem remoteError_eq_ok {r : Response} {e : ClientError} (h : remoteError r = .ok e) :
    ∃ text extra cause, e = .remote r.status.toJson text extra cause := by
  unfold remoteError at h
  rcases ht : errorText r with f | (t | ⟨before, f⟩) <;> simp only [ht, Except.map] at h
  · cases h
  · cases h
    exact ⟨_, _, _, rfl⟩
  · cases h
    exact ⟨_, _, _, rfl⟩

theorem remoteError_eq_error {r : Response} {f : Fault} (h : remoteError r = .error f) :
    errorText r = .error f := by
  unfold remoteError at h
  rcases ht : errorText r with g | t <;> simp only [ht, Except.map] at h
  · cases h
    rfl
  · cases h

theorem resolve_eq_client {α : Type} {read : List UInt8 → Except BodyFailure α} {o : Outcome}
    {e : ClientError} (h : resolve read o = .error (.client e)) : o.Fails e := by
  cases o with
  | failure f =>
    simp only [resolve, Except.error.injEq, Unresolved.client.injEq] at h
    subst h
    exact .transport f _ _
  | response r =>
    unfold resolve at h
    by_cases hs : r.isSuccess
    · simp only [hs, ↓reduceIte] at h
      split at h
      · cases h
      · cases h
        exact .decode r hs _ _
      · cases h
    · simp only [hs, Bool.false_eq_true, ↓reduceIte] at h
      rcases hre : remoteError r with g | e'
      · simp [hre] at h
      · simp only [hre, Except.error.injEq, Unresolved.client.injEq] at h
        subst h
        obtain ⟨t, extra, c, rfl⟩ := remoteError_eq_ok hre
        exact .remote r (by simpa using hs) t extra c

theorem resolve_eq_raised {α : Type} {read : List UInt8 → Except BodyFailure α} {o : Outcome}
    {f : Fault} (h : resolve read o = .error (.raised f)) :
    ∃ r, o = .response r ∧ (read r.content = .error (.raised f) ∨ r.Raises f) := by
  cases o with
  | failure g => simp [resolve] at h
  | response r =>
    refine ⟨r, rfl, ?_⟩
    unfold resolve at h
    by_cases hs : r.isSuccess
    · simp only [hs, ↓reduceIte] at h
      split at h
      · cases h
      · cases h
      · rename_i g hg
        cases h
        exact .inl hg
    · simp only [hs, Bool.false_eq_true, ↓reduceIte] at h
      rcases hre : remoteError r with g | e'
      · simp only [hre, Except.error.injEq, Unresolved.raised.injEq] at h
        subst h
        exact .inr (errorText_eq_error (remoteError_eq_error hre))
      · simp [hre] at h

theorem Predicate.raises_on_body {p : Predicate} {o : Outcome} {f : Fault}
    (h : p.retries o = .error f) : ∃ r, o = .response r ∧ r.Raises f := by
  cases p with
  | transportOnly =>
    rw [Predicate.transportOnly_retries] at h
    cases h
  | untilDone =>
    obtain ⟨r, cs, array, pos, rfl, -, hd, rfl⟩ := (Predicate.untilDone_raises_iff o f).1 h
    exact ⟨r, rfl, .stack hd⟩

theorem readStatement_never_raises (b : List UInt8) (f : Fault) :
    readStatement b ≠ .error (.raised f) := by
  unfold readStatement
  rcases StatementResponse.ofBytes b with e | v <;> simp [Except.mapError]

theorem readIngest_never_raises (b : List UInt8) (f : Fault) :
    readIngest b ≠ .error (.raised f) := by
  unfold readIngest
  rcases IngestResponse.ofBytes b with e | v <;> simp [Except.mapError]

/-! ## A run ends on an answer -/

/-- How a run that left the world in state `s'`, with `left` attempts to spare, failed, told by the
world's last answer: the world allowed no more attempts; or an attempt left the world in `s'`
answering an outcome that fails with the client error; or answering a response whose body raised
the fault when read. -/
def Port.Explains {σ : Type} (port : Port σ) (s' : σ) (left : Nat) : RunFailure → Prop
  | .spent => left = 0
  | .client e => ∃ s₀ request o, port.attempt s₀ request = (s', .ok o) ∧ o.Fails e
  | .raised f => ∃ s₀ request r, port.attempt s₀ request = (s', .ok (.response r)) ∧ r.Raises f

namespace Run

variable {σ α : Type} (port : Port σ) (policy : Policy) (op : Operation) (request : Request)
  (read : List UInt8 → Except BodyFailure α)

/-- In a steady world whose attempts always answer, the reference loop under a policy on doubles
spends its attempts, or ends on an answer: the last attempt leaves the world as the loop does, and
the loop stopped on that answer or the predicate raised on it. -/
theorem reference_ends_on_answer (hw : port.Steady) (hp : policy.OnDoubles)
    (hsend : ∀ s, ∃ s' o, port.attempt s request = (s', .ok o)) (t : Float) :
    ∀ fuel count s, (reference port policy request (.float t) fuel count s).2.last = .spent ∨
      ∃ s₀ o, port.attempt s₀ request =
          ((reference port policy request (.float t) fuel count s).1, .ok o) ∧
        ((∃ r, (reference port policy request (.float t) fuel count s).2.last = .stopped o r) ∨
          ∃ f, (reference port policy request (.float t) fuel count s).2.last = .raised f ∧
            policy.predicate.retries o = .error f) := by
  intro fuel
  induction fuel with
  | zero => exact fun _ _ => .inl rfl
  | succ fuel ih =>
    intro count s
    obtain ⟨s₁, o, hatt⟩ := hsend s
    obtain ⟨x, hx⟩ := hw.now s₁
    rw [reference, hatt]
    dsimp only
    rw [Port.elapsed_float hx]
    dsimp only
    rcases Policy.verdict_cases policy port.draw o (Number.float (x - t)).atLeastZero (count + 1) s₁
      with ⟨r, hv⟩ | ⟨f, hf, hv⟩ | ⟨-, hv⟩
    · rw [hv]
      exact .inr ⟨s, o, hatt, .inl ⟨r, rfl⟩⟩
    · rw [hv]
      exact .inr ⟨s, o, hatt, .inr ⟨f, rfl, hf⟩⟩
    · obtain ⟨⟨b, hb⟩, ⟨j, hj⟩⟩ := hp
      obtain ⟨u, hu⟩ := hw.draw s₁
      rw [hv, hu, Policy.delayFor_float hb hj]
      dsimp only [Except.map, Except.mapError]
      rw [hw.sleep_eq]
      exact ih _ _

theorem loop_spent (started : Number) (fuel count : Nat) (s : σ) (m : Metrics)
    (h : (loop port policy op request read started fuel count s m).result = .error .spent) :
    (loop port policy op request read started fuel count s m).fuel = 0 := by
  revert h
  rcases port with ⟨attempt, now, sleep, draw, close⟩
  induction fuel generalizing count s m with
  | zero => exact fun _ => rfl
  | succ fuel ih =>
    rw [loop]
    dsimp only
    rcases attempt s request with ⟨s₁, _ | outcome⟩
    · intro h
      cases h
    dsimp only
    rcases ((now s₁).sub started).mapError Fault.ofNumber >>= fun elapsed =>
        policy.stopReason? outcome elapsed.atLeastZero (.int (count + 1)) with f | _ | reason
    · intro h
      cases h
    · dsimp only
      rcases draw s₁ with ⟨u, s₂⟩
      dsimp only
      rcases policy.delayFor u with f | delay
      · intro h
        cases h
      dsimp only
      rcases sleep s₂ delay with ⟨s₃, f | u⟩
      · intro h
        cases h
      exact ih _ _ _
    · dsimp only
      split
      · intro h
        cases h
      · rcases resolve read outcome with (e | f) | v <;>
          simp [Except.mapError, RunFailure.ofUnresolved]

/-- A run that stopped on an outcome fails as resolving it, or asking the predicate about it once
more, fails. -/
theorem explains_stopped {s' : σ} {left : Nat} {o : Outcome} {reason : StopReason} {s₀ : σ}
    (hatt : port.attempt s₀ request = (s', .ok o)) (hread : ∀ b f, read b ≠ .error (.raised f))
    {e : RunFailure}
    (h : (match (Trace.stopped o reason).recheck policy.predicate with
      | some f => Except.error (RunFailure.raised f)
      | none => (Trace.stopped o reason).result read) = .error e) :
    port.Explains s' left e := by
  have answered : ∀ {r f}, o = .response r → r.Raises f → port.Explains s' left (.raised f) :=
    fun {r f} ho hr => ⟨s₀, request, r, ho ▸ hatt, hr⟩
  simp only [Trace.recheck, Trace.result] at h
  split at h
  · rename_i f hf
    cases h
    split at hf
    · cases hf
    · split at hf
      · rename_i g hg
        cases hf
        obtain ⟨r, rfl, hr⟩ := Predicate.raises_on_body hg
        exact answered rfl hr
      · cases hf
  · rcases hres : resolve read o with (err | f) | v <;> simp only [hres, Except.mapError,
      RunFailure.ofUnresolved, Except.error.injEq, reduceCtorEq] at h
    · subst h
      exact ⟨s₀, request, o, hatt, resolve_eq_client hres⟩
    · subst h
      obtain ⟨r, rfl, hr | hr⟩ := resolve_eq_raised hres
      · exact absurd hr (hread _ _)
      · exact answered rfl hr

/-- In a steady world whose attempts always answer, a run under a policy on doubles with a reader
that never raises fails only as its last answer says. -/
theorem perform_explained (hw : port.Steady) (hp : policy.OnDoubles)
    (hsend : ∀ s, ∃ s' o, port.attempt s request = (s', .ok o))
    (hread : ∀ b f, read b ≠ .error (.raised f)) (fuel : Nat) (s : σ) (m : Metrics)
    {e : RunFailure} (h : (perform port policy op request read fuel s m).result = .error e) :
    port.Explains (perform port policy op request read fuel s m).state
      (perform port policy op request read fuel s m).fuel e := by
  obtain ⟨x, hx⟩ := hw.now s
  have hspent := loop_spent port policy op request read (port.now s) fuel 0 s m
  obtain ⟨hst, hres⟩ := loop_eq_reference port policy op request read (port.now s) fuel 0 s m
  rw [perform_result, hres] at h
  show port.Explains (loop port policy op request read (port.now s) fuel 0 s m).state
    (loop port policy op request read (port.now s) fuel 0 s m).fuel e
  rw [hst]
  rw [hx] at h hspent hres ⊢
  rw [← Trace.recheck_last, ← Trace.result_last] at h hres
  rcases reference_ends_on_answer port policy request hw hp hsend x fuel 0 s with
    hl | ⟨s₀, o, hatt, ⟨reason, hl⟩ | ⟨f, hl, hf⟩⟩ <;> rw [hl] at h
  · cases h
    exact hspent (by rw [hres, hl]; rfl)
  · exact explains_stopped port policy request read hatt hread h
  · cases h
    obtain ⟨r, rfl, hr⟩ := Predicate.raises_on_body hf
    exact ⟨s₀, request, r, hatt, hr⟩

theorem perform_eq_ok {fuel : Nat} {s : σ} {m : Metrics} {v : α}
    (h : (perform port policy op request read fuel s m).result = .ok v) : ∃ b, read b = .ok v := by
  obtain ⟨o, -, -, hro⟩ := perform_ok_stopped port policy op request read h
  obtain ⟨resp, -, -, hread⟩ := resolve_eq_ok.1 hro
  exact ⟨_, hread⟩

end Run

/-! ## The handle a submission polls with -/

theorem Check.text_eq_ok {v : Json} {t : String} (h : Check.text v = .ok t) : v = .str t := by
  cases v with
  | str s =>
    simp only [Check.text, Check.wellFormed] at h
    split at h
    · simp [Checked.fail] at h
    · cases h
      rfl
  | _ => simp [Check.text, Checked.fail] at h

theorem Check.textOfLength_eq_ok {n : Nat} {v : Json} {t : String}
    (h : Check.textOfLength n v = .ok t) : v = .str t := by
  unfold Check.textOfLength at h
  rcases ht : Check.text v with e | u <;> simp only [ht] at h
  · cases h
  split at h
  · simp [Checked.fail] at h
  · cases h
    exact Check.text_eq_ok ht

theorem Check.wire_wireJson (f : ResultFormat) : Check.wire ResultFormat (wireJson f) = .ok f := by
  cases f <;> rfl

/-- The handle of a statement id that checks as text, with any format, checks as fetch
parameters. -/
theorem FetchParams.check_handle {id : String} (hid : Check.textOfLength 1 (.str id) = .ok id)
    (f : ResultFormat) :
    FetchParams.check (.obj [("statement_id", .str id), ("format", wireJson f)]) = .ok ⟨id, f⟩ := by
  simp [FetchParams.check, hid, Check.wire_wireJson]

theorem StatementResponse.ofBytes_statementId {b : List UInt8} {resp : StatementResponse}
    (h : StatementResponse.ofBytes b = .ok resp) :
    Check.textOfLength 1 (.str resp.statementId) = .ok resp.statementId := by
  unfold StatementResponse.ofBytes at h
  rcases hs : Json.readBytesStrict b with _ | v
  · simp [hs, Checked.fail] at h
  rw [hs] at h
  obtain ⟨fs, -, hid, -⟩ := StatementResponse.check_fields h
  obtain ⟨w, -, hw⟩ := Checked.field_present hid (by simp)
  rw [← Check.textOfLength_eq_ok hw]
  exact hw

/-! ## Calls -/

/-- How a call that began with the world in state `s` failed, told by the world: refused before
anything was sent, the world left as it was; or failed as its last run did. -/
def Port.ExplainsCall {σ : Type} (port : Port σ) (s s' : σ) (left : Nat) : CallFailure → Prop
  | .run f => port.Explains s' left f
  | .invalid _ => s' = s
  | .unencodable _ => s' = s

theorem Run.mapFailure_result_eq_error {σ ε ε' α : Type} {g : ε → ε'} {r : Run σ ε α} {e : ε'} :
    (r.mapFailure g).result = .error e ↔ ∃ e₀, r.result = .error e₀ ∧ g e₀ = e := by
  unfold Run.mapFailure
  cases r.result <;> simp [Except.mapError]

namespace Client

variable {σ : Type} {st : Settings} {own : Bool} {c : Client} (hc : Client.make st own = .ok c)
  {port : Port σ} (hw : port.Steady)
  (hsend : ∀ s request, ∃ s' o, port.attempt s request = (s', .ok o))
include hc hw hsend

/-- A fetch fails as its run does. -/
theorem fetch_explained (params : FetchParams) (untilDone : Bool) (fuel : Nat) (s : σ)
    (m : Metrics) {e : CallFailure}
    (h : (c.fetch port params untilDone fuel s m).result = .error e) :
    ∃ f, e = .run f ∧ port.Explains (c.fetch port params untilDone fuel s m).state
      (c.fetch port params untilDone fuel s m).fuel f := by
  obtain ⟨-, -, hs, hp⟩ := make_policies hc
  obtain ⟨f, hf, rfl⟩ := Run.mapFailure_result_eq_error.1 h
  have hpol : (if untilDone then c.polling else c.standard).OnDoubles := by
    cases untilDone
    · exact hs
    · exact hp
  exact ⟨f, rfl, Run.perform_explained port _ .fetch params.request readStatement hw hpol
    (fun s => hsend s _) readStatement_never_raises fuel s m hf⟩

theorem ingest_explained (rows statement format : Json) (fuel : Nat) (s : σ) (m : Metrics)
    {e : CallFailure} (h : (c.ingest port rows statement format fuel s m).result = .error e) :
    port.ExplainsCall s (c.ingest port rows statement format fuel s m).state
      (c.ingest port rows statement format fuel s m).fuel e := by
  obtain ⟨-, -, hs, -⟩ := make_policies hc
  unfold ingest at h ⊢
  rcases hd : IngestData.checkMembers [("format", format), ("rows", rows)] with issues | data <;>
    simp only [hd] at h ⊢
  · cases h
    rfl
  rcases hq : IngestRequest.withData data statement with issues | req <;> simp only [hq] at h ⊢
  · cases h
    rfl
  obtain ⟨f, hf, rfl⟩ := Run.mapFailure_result_eq_error.1 h
  exact Run.perform_explained port _ .ingest _ readIngest hw hs (fun s => hsend s _)
    readIngest_never_raises fuel s m hf

/-- A submission that waits polls with a handle its own check accepts: the statement id of a
response is text of one character at least. -/
theorem submit_explained (request : Json) (wait : Bool) (fuel : Nat) (s : σ) (m : Metrics)
    {e : CallFailure} (h : (c.submit port request wait fuel s m).result = .error e) :
    port.ExplainsCall s (c.submit port request wait fuel s m).state
      (c.submit port request wait fuel s m).fuel e := by
  obtain ⟨-, -, hs, -⟩ := make_policies hc
  unfold submit at h ⊢
  rcases hq : StatementRequest.check request with issues | req <;> simp only [hq] at h ⊢
  · cases h
    rfl
  set r := Run.mapFailure CallFailure.run (Run.perform port c.standard .submit
    ⟨.post, statementsPath, none, some req.body⟩ readStatement fuel s m) with hr
  have hrun : ∀ e, r.result = .error e → port.ExplainsCall s r.state r.fuel e := by
    intro e he
    obtain ⟨f, hf, rfl⟩ := Run.mapFailure_result_eq_error.1 he
    exact Run.perform_explained port _ .submit _ readStatement hw hs (fun s => hsend s _)
      readStatement_never_raises fuel s m hf
  have hok : ∀ v, r.result = .ok v → ∃ b, StatementResponse.ofBytes b = .ok v := by
    intro v hv
    obtain ⟨b, hb⟩ := Run.perform_eq_ok port c.standard .submit _ readStatement
      (Run.mapFailure_result_eq_ok.1 hv)
    exact ⟨b, readStatement_eq_ok hb⟩
  clear_value r
  rcases hres : r.result with e' | submitted <;> simp only [hres] at h ⊢
  · exact hrun e (hres.trans h)
  obtain ⟨b, hb⟩ := hok submitted hres
  simp only [FetchParams.check_handle (StatementResponse.ofBytes_statementId hb)] at h ⊢
  by_cases hdone : (!wait || submitted.isFinished) = true
  · rw [if_pos hdone, hres] at h
    cases h
  · rw [if_neg hdone] at h ⊢
    obtain ⟨f, rfl, hf⟩ := fetch_explained hc hw hsend _ true r.fuel r.state r.metrics h
    exact hf

theorem ingestBatch_explained (batches statement : Json) (fuel : Nat) (s : σ) (m : Metrics)
    {e : CallFailure} (h : (c.ingestBatch port batches statement fuel s m).result = .error e) :
    port.ExplainsCall s (c.ingestBatch port batches statement fuel s m).state
      (c.ingestBatch port batches statement fuel s m).fuel e := by
  unfold ingestBatch at h ⊢
  rcases hb : encodeBatches ingestRoom batches with f | rows <;> simp only [hb] at h ⊢
  · cases h
    rfl
  · exact ingest_explained hc hw hsend _ _ _ fuel s m h

end Client

/-- Every call of a client made from settings, in a world whose clock, random source and waits
behave and whose attempts always answer, fails only as the world tells: refused before anything
was sent; for want of attempts; with the client error its last answer fixes, a transport error
caused by a transport failure, a decode error naming the status of a 2xx response, or a remote
error carrying the status of any other response; or with the fault that reading the body of its
last answer raised, the lenient reader running out of stack or the codec of an error body's
charset raising an error of its own. -/
theorem call_fails_by_last_answer {σ : Type} {st : Settings} {own : Bool} {c : Client}
    (hc : Client.make st own = .ok c) {port : Port σ} (hw : port.Steady)
    (hsend : ∀ s request, ∃ s' o, port.attempt s request = (s', .ok o))
    (call : Call) (fuel : Nat) (s : σ) (m : Metrics) {e : CallFailure}
    (h : (c.call port fuel s m call).result = .error e) :
    port.ExplainsCall s (c.call port fuel s m call).state (c.call port fuel s m call).fuel e := by
  have unwrap : ∀ {α : Type} {x : Except CallFailure α} {g : α → Reply},
      x.map g = .error e → x = .error e := by
    intro α x g hx
    rcases x with e' | v <;> simp [Except.map] at hx
    rw [hx]
  cases call with
  | submit request wait =>
    exact Client.submit_explained hc hw hsend request wait fuel s m (unwrap h)
  | fetch params untilDone =>
    simp only [Client.call] at h ⊢
    rcases hp : FetchParams.check params with issues | p <;> simp only [hp] at h ⊢
    · cases h
      rfl
    · obtain ⟨f, rfl, hf⟩ := Client.fetch_explained hc hw hsend p untilDone fuel s m (unwrap h)
      exact hf
  | ingest rows statement format =>
    exact Client.ingest_explained hc hw hsend rows statement format fuel s m (unwrap h)
  | ingestBatch batches statement =>
    exact Client.ingestBatch_explained hc hw hsend batches statement fuel s m (unwrap h)
  | close => cases h

/-- A fetch whose one attempt is refused by the network, under a cap of one attempt, fails with a
transport error. -/
theorem refused_fetch_fails_by_last_answer :
    let c : Client :=
      ⟨⟨.float 1.0, .float 0.15, some (.float 60.0), some (.int 1), "default", .transportOnly⟩,
        ⟨.float 1.0, .float 0.15, some (.float 60.0), some (.int 1), "poll_until_done", .untilDone⟩,
        true⟩
    let refused : Fault := ⟨"ConnectError", "refused"⟩
    let port : Port Unit := ⟨fun s _ => (s, .ok (.failure refused)), fun _ => .float 1000.0,
      fun s _ => (s, .ok ()), fun s => (.float 0.5, s), id⟩
    let call : Call := .fetch (.obj [("statement_id", .str "s1")]) false
    let e : CallFailure := .run (.client (.plain .transport ("No response from ScopeDB: " ++ refused.render)
      [("error_type", .str refused.className)] (some (.error refused.className refused.message))))
    Client.make { retryMaxAttempts := some 1 } true = .ok c ∧ port.Steady ∧
      (∀ s request, ∃ s' o, port.attempt s request = (s', .ok o)) ∧
      (c.call port 1 () {} call).result = .error e ∧
      port.ExplainsCall () (c.call port 1 () {} call).state (c.call port 1 () {} call).fuel e := by
  intro c refused port call e
  have hc : Client.make { retryMaxAttempts := some 1 } true = .ok c := rfl
  have hw : port.Steady := ⟨fun _ => ⟨_, rfl⟩, fun _ => ⟨_, rfl⟩, fun _ _ => rfl⟩
  have hsend : ∀ s request, ∃ s' o, port.attempt s request = (s', .ok o) := fun s _ => ⟨s, _, rfl⟩
  have h : (c.call port 1 () {} call).result = .error e := rfl
  exact ⟨hc, hw, hsend, h, call_fails_by_last_answer hc hw hsend call 1 () {} h⟩

/-! ## A poll that raises -/

namespace Run

/-- A round whose verdict is a fault ends the run with that fault. -/
theorem reference_raises_first {σ : Type} (port : Port σ) (policy : Policy) (request : Request)
    {started : Number} (fuel : Nat) {count : Nat} {s s₁ s₂ : σ} {o : Outcome} {e : Number}
    {f : Fault}
    (hatt : port.attempt s request = (s₁, .ok o)) (he : port.elapsed started s₁ = .ok e)
    (hv : policy.verdict port.draw o e (count + 1) s₁ = (.error f, s₂)) :
    reference port policy request started (fuel + 1) count s = (s₂, .raised f) := by
  rw [reference, hatt]
  dsimp only
  rw [he]
  dsimp only
  rw [hv]

end Run

theorem Client.fetch_result {σ : Type} (c : Client) (port : Port σ) (params : FetchParams)
    (untilDone : Bool) (fuel : Nat) (s : σ) (m : Metrics) :
    (c.fetch port params untilDone fuel s m).result =
      (Run.perform port (if untilDone then c.polling else c.standard) .fetch params.request
        readStatement fuel s m).result.mapError CallFailure.run := rfl

/-- A client made from the default settings, polling a statement whose answer is a success opening
two thousand brackets, fails with the reader's fault on its first answer: a failure that is no
client error. -/
theorem polling_fetch_raises_on_deep_body :
    let deep : Outcome :=
      .response ⟨.int 200, List.replicate 2000 0x5B ++ List.replicate 2000 0x5D, none, none⟩
    let port : Port Unit :=
      ⟨fun s _ => (s, .ok deep), fun _ => .float 1000.0, fun s _ => (s, .ok ()),
        fun s => (.float 0.5, s), id⟩
    ∃ c, Client.make {} true = .ok c ∧
      (c.fetch port ⟨"s1", .json⟩ true 1 () {}).result =
        .error (.run (.raised ⟨"RecursionError", (Json.ReadError.stackExhausted true).text⟩)) := by
  intro deep port
  let c : Client :=
    ⟨⟨.float 1.0, .float 0.15, some (.float 60.0), none, "default", .transportOnly⟩,
      ⟨.float 1.0, .float 0.15, some (.float 60.0), none, "poll_until_done", .untilDone⟩, true⟩
  refine ⟨c, rfl, ?_⟩
  have hraise : c.polling.predicate.retries deep =
      .error ⟨"RecursionError", (Json.ReadError.stackExhausted true).text⟩ :=
    Predicate.untilDone_raises_nested rfl (by decide)
      (fun x hx => by rw [List.eq_of_mem_replicate hx]; decide) rfl
  have hv :
      c.polling.verdict port.draw deep (Number.float (1000.0 - 1000.0)).atLeastZero (0 + 1) () =
      (.error ⟨"RecursionError", (Json.ReadError.stackExhausted true).text⟩, ()) := by
    unfold Policy.verdict
    rw [if_neg (by decide), if_neg (by decide), hraise]
  have hatt : port.attempt () (FetchParams.request ⟨"s1", .json⟩) = ((), .ok deep) := rfl
  have he : port.elapsed (port.now ()) () = .ok (Number.float (1000.0 - 1000.0)).atLeastZero :=
    Port.elapsed_float rfl 1000.0
  -- stated at fuel one as the run reads it, so that checking it never runs the round
  have href :
      Run.reference port c.polling (FetchParams.request ⟨"s1", .json⟩) (port.now ()) 1 0 () =
      ((), .raised ⟨"RecursionError", (Json.ReadError.stackExhausted true).text⟩) :=
    Run.reference_raises_first port c.polling _ 0 hatt he hv
  obtain ⟨-, hres⟩ :=
    Run.loop_eq_reference port c.polling .fetch (FetchParams.request ⟨"s1", .json⟩) readStatement
      (port.now ()) 1 0 () {}
  rw [Client.fetch_result, if_pos rfl, Run.perform_result, hres, href]
  rfl

end StatementClient
