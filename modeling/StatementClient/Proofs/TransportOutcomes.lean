import Mathlib
import StatementClient.Exchange.Transport

/-!
# What a transport makes of an answer

`receive` turns what the HTTP stack surfaced, a fault raised before any answer or an answer with
its status and its body as read, into an outcome or a fault that propagates. With an integer
status (`receive_answered_int`):

* a request error raised before any answer, or while the body of a 2xx answer is read, is a
  transport failure carrying it;
* a request error while the body of any other answer is read is kept on the response, whose body
  is then empty;
* a body read in full is the response's body, with no fault;
* any fault of another class propagates as it is;
* and a status outside 100..599 is refused by the response's own check, with a `ValueError`
  naming the status, unless reading the body raised a fault of another class first.

So a response that carries a fault is never a success and never has a body
(`receive_bodyFault`). `deliver` adds the checks of the stack itself, on the answer's headers and
on the address, before the body is read; when they pass, delivering is receiving
(`deliver_answered`).

Main statement: `transport_outcome_by_answer`; a status of 600 raises
(`status_beyond_599_raises`).
-/

namespace StatementClient

/-! ## Statuses -/

theorem Comparison.holds_compare (op : Comparison) (a b : Int) :
    op.holds (compare a b) = decide (op.Rel a b) := by
  rcases Int.lt_trichotomy a b with h | rfl | h
  · rw [Int.compare_eq_lt.2 h]
    cases op <;> simp [Comparison.holds, Comparison.Rel, h, Int.le_of_lt h, Int.not_le.2 h,
      Int.not_lt.2 (Int.le_of_lt h)]
  · cases op <;> simp [Comparison.holds, Comparison.Rel]
  · rw [Int.compare_eq_gt.2 h]
    cases op <;> simp [Comparison.holds, Comparison.Rel, h, Int.le_of_lt h, Int.not_le.2 h,
      Int.not_lt.2 (Int.le_of_lt h)]

theorem Json.compareBy_int (op : Comparison) (a b : Int) :
    Json.compareBy op (.int a) (.int b) = .ok (decide (op.Rel a b)) := by
  simp only [Json.compareBy, Json.number?, Number.compare?, Option.any_some,
    Comparison.holds_compare]

theorem Response.make_int (n : Int) (content : List UInt8) (charset : Option String)
    (bodyFault : Option Fault) :
    Response.make (.int n) content charset bodyFault =
      if 100 ≤ n ∧ n ≤ 599 then .ok ⟨.int n, content, charset, bodyFault⟩
      else .error (.outOfRange (toString n)) := by
  unfold Response.make
  rw [Json.compareBy_int, Json.compareBy_int]
  by_cases hlo : 100 ≤ n <;> by_cases hhi : n ≤ 599 <;>
    simp [Comparison.Rel, hlo, hhi, Json.number?] <;> rfl

theorem Response.make_eq_ok {status : Json} {content : List UInt8} {charset : Option String}
    {bodyFault : Option Fault} {r : Response}
    (h : Response.make status content charset bodyFault = .ok r) :
    status.number? = some r.status ∧ r.content = content ∧ r.charset = charset ∧
      r.bodyFault = bodyFault := by
  unfold Response.make at h
  split at h
  · cases h
  · cases h
  · split at h
    · rename_i n _ hn
      cases h
      exact ⟨hn, rfl, rfl, rfl⟩
    · cases h

theorem Number.within_int (n lo hi : Int) :
    (Number.int n).within lo hi = decide (lo ≤ n ∧ n < hi) := by
  simp [Number.within, Number.compare?, Comparison.holds_compare, Comparison.Rel]

theorem StatusFault.fault_outOfRange (n : Int) :
    (StatusFault.outOfRange (toString n)).fault =
      ⟨"ValueError", "invalid HTTP status code: " ++ toString n⟩ := rfl

/-! ## Receiving -/

/-- A fault raised before any answer: a request error is a transport failure, any other fault
propagates. -/
theorem receive_raised (f : Fault) :
    receive (.raised f) = if f.isRequestError then .ok (.failure f) else .error f := rfl

/-- What an answer with an integer status comes to, by how its body was read. -/
theorem receive_answered_int {a : Answer} {n : Int} (hs : a.status = .int n) :
    receive (.answered a) =
      match a.read with
      | .ok body =>
        if 100 ≤ n ∧ n ≤ 599 then .ok (.response ⟨.int n, body, a.charset, none⟩)
        else .error ⟨"ValueError", "invalid HTTP status code: " ++ toString n⟩
      | .error f =>
        if !f.isRequestError then .error f
        else if 200 ≤ n ∧ n < 300 then .ok (.failure f)
        else if 100 ≤ n ∧ n ≤ 599 then .ok (.response ⟨.int n, [], a.charset, some f⟩)
        else .error ⟨"ValueError", "invalid HTTP status code: " ++ toString n⟩ := by
  simp only [receive, hs, Json.number?, Number.within_int, Response.make_int]
  rcases a.read with f | body
  · by_cases hf : f.isRequestError
    · by_cases hw : 200 ≤ n ∧ n < 300
      · simp [hf, hw]
      · by_cases hn : 100 ≤ n ∧ n ≤ 599
        · simp [hf, hw, hn]
        · simp only [hf, hw, hn, Bool.not_true, Bool.false_eq_true, decide_false, ↓reduceIte]
          exact congrArg Except.error (StatusFault.fault_outOfRange n)
    · simp [hf]
  · by_cases hn : 100 ≤ n ∧ n ≤ 599
    · simp [hn]
    · simp only [hn, ↓reduceIte]
      exact congrArg Except.error (StatusFault.fault_outOfRange n)

/-- A response that carries a fault from reading its body is no success and has no body. -/
theorem receive_bodyFault {d : Delivery} {r : Response} (h : receive d = .ok (.response r))
    (hf : r.bodyFault.isSome) : r.isSuccess = false ∧ r.content = [] := by
  cases d with
  | raised f =>
    rw [receive_raised] at h
    split at h <;> cases h
  | answered a =>
    simp only [receive] at h
    rcases hr : a.read with f | body <;> simp only [hr] at h
    · by_cases hreq : f.isRequestError
      · simp only [hreq, Bool.not_true, Bool.false_eq_true, ↓reduceIte] at h
        rcases hn : a.status.number? with _ | m <;> simp only [hn] at h
        · rcases hm : Response.make a.status [] a.charset (some f) with e | r' <;>
            simp only [hm] at h
          · cases h
          · obtain ⟨hn', -, -, -⟩ := Response.make_eq_ok hm
            rw [hn] at hn'
            cases hn'
        · by_cases hw : m.within 200 300 = true
          · simp [hw] at h
          · simp only [hw, Bool.false_eq_true, ↓reduceIte] at h
            rcases hm : Response.make a.status [] a.charset (some f) with e | r' <;>
              simp only [hm] at h
            · cases h
            · cases h
              obtain ⟨hn', hc, -, -⟩ := Response.make_eq_ok hm
              rw [hn] at hn'
              cases hn'
              exact ⟨by simpa [Response.isSuccess] using hw, hc⟩
      · simp [hreq] at h
    · rcases hm : Response.make a.status body a.charset none with e | r' <;> simp only [hm] at h
      · cases h
      · cases h
        obtain ⟨-, -, -, hb⟩ := Response.make_eq_ok hm
        simp [hb] at hf

/-- When the stack's own checks pass, on the answer's headers and on the address, delivering an
answer is receiving it; a fault raised before any answer is received as it is. -/
theorem deliver_answered {sent : Dispatch} {a : Answer} (hh : headersFault a.headers = none)
    (hc : cookieFault sent.url = none) : deliver sent (.answered a) = receive (.answered a) := by
  simp [deliver, hh, hc]

/-! ## The outcome of an answer -/

/-- What a transport makes of what the stack surfaced. A request error raised before any answer
is a transport failure, and any other fault propagates as it is. For an answer with a status code
`n` in 100..599: a body read in full is the response's body, with no fault; a request error while
reading the body is a transport failure for a 2xx status and a response with an empty body that
keeps the error otherwise; a fault of another class propagates. A status outside 100..599 raises
a `ValueError` naming it, unless reading the body raised a fault of another class first. Any
response that keeps a fault is no success and has an empty body. -/
theorem transport_outcome_by_answer :
    (∀ f : Fault, f.isRequestError → receive (.raised f) = .ok (.failure f)) ∧
    (∀ f : Fault, f.isRequestError = false → receive (.raised f) = .error f) ∧
    (∀ (a : Answer) (n : Int), a.status = .int n → 100 ≤ n ∧ n ≤ 599 →
      (∀ body, a.read = .ok body →
        receive (.answered a) = .ok (.response ⟨.int n, body, a.charset, none⟩)) ∧
      (∀ f, a.read = .error f → f.isRequestError → 200 ≤ n ∧ n < 300 →
        receive (.answered a) = .ok (.failure f)) ∧
      (∀ f, a.read = .error f → f.isRequestError → ¬(200 ≤ n ∧ n < 300) →
        receive (.answered a) = .ok (.response ⟨.int n, [], a.charset, some f⟩))) ∧
    (∀ (a : Answer) (n : Int) (f : Fault), a.status = .int n → a.read = .error f →
      f.isRequestError = false → receive (.answered a) = .error f) ∧
    (∀ (a : Answer) (n : Int), a.status = .int n → ¬(100 ≤ n ∧ n ≤ 599) →
      (∀ f, a.read = .error f → f.isRequestError) →
      receive (.answered a) = .error ⟨"ValueError", "invalid HTTP status code: " ++ toString n⟩) ∧
    (∀ d r, receive d = .ok (.response r) → r.bodyFault.isSome →
      r.isSuccess = false ∧ r.content = []) := by
  refine ⟨fun f hf => by simp [receive_raised, hf], fun f hf => by simp [receive_raised, hf],
    ?_, ?_, ?_, fun d r h hf => receive_bodyFault h hf⟩
  · intro a n hs hn
    refine ⟨fun body hb => ?_, fun f hb hf hw => ?_, fun f hb hf hw => ?_⟩
    · simp [receive_answered_int hs, hb, hn]
    · simp [receive_answered_int hs, hb, hf, hw]
    · simp [receive_answered_int hs, hb, hn, hf, hw]
  · intro a n f hs hb hf
    simp [receive_answered_int hs, hb, hf]
  · intro a n hs hn hreq
    rw [receive_answered_int hs]
    rcases hb : a.read with f | body
    · have hw : ¬(200 ≤ n ∧ n < 300) := fun hw => hn ⟨by omega, by omega⟩
      simp [hreq f hb, hw, hn]
    · simp [hn]

/-- A server error whose body breaks off with a read error gives a response that keeps the
error and has an empty body. -/
theorem broken_error_body_kept :
    let a : Answer := ⟨.int 500, [], [0x70], some ⟨"ReadError", "reset"⟩⟩
    a.status = .int 500 ∧ a.read = .error ⟨"ReadError", "reset"⟩ ∧
      receive (.answered a) = .ok (.response ⟨.int 500, [], none, some ⟨"ReadError", "reset"⟩⟩) := by
  intro a
  have hs : a.status = .int 500 := rfl
  have hb : a.read = .error ⟨"ReadError", "reset"⟩ := rfl
  exact ⟨hs, hb, ((transport_outcome_by_answer.2.2.1 a 500 hs (by decide)).2.2
    ⟨"ReadError", "reset"⟩ hb (by decide) (by decide)).trans rfl⟩

/-- An answer with status 600 and a body read in full is no outcome: the response's check raises
a `ValueError` naming the status. -/
theorem status_beyond_599_raises :
    deliver ⟨.get, "http://localhost:6543/x", none⟩ (.answered ⟨.int 600, [], [0x78], none⟩) =
      .error ⟨"ValueError", "invalid HTTP status code: 600"⟩ := by
  rw [deliver_answered (by rfl) (by rfl), receive_answered_int rfl]
  rfl

end StatementClient
