import Mathlib.Data.List.TakeWhile
import StatementClient.Proofs.Failures

/-!
# The error a failed response reports

A response whose status is no success is never read by the operation's reader: it resolves to a
remote error, or to a fault met while reading its body, the same whatever the reader
(`failed_response_reports`). The remote error carries the status and the error text the body
reports (`Response.Reports`), by the first of these rules that applies:

* a fault while the body was read: `failed to read error body: ` and the fault, its class in the
  details under `body_error_type`, the fault as cause;
* a body that does not decode in its charset, or a charset that names no text codec:
  `failed to decode error body: ` and the decoder's error, likewise;
* a body of blanks only: no text;
* a body whose document is an object with a text `message`: that text;
* any other body: its text trimmed of blanks;

the last two cut to their first `maxErrorText` characters. Such an error reads
`ScopeDB returned HTTP <status>`, followed by `: ` and the text when there is a text that is not
empty; its details hold the status under `status_code`, and its text is the message,
` | Details: ` and the details (`ClientError.ReadsAsRemote`).

Reading the body escapes these rules in two ways only (`Response.ReportRaises`): the codec of the
announced charset raises an error of its own, or a body that is not blank runs the document
reader out of stack. An error body of two thousand nested brackets ends so
(`deep_error_body_escapes`).
-/

namespace StatementClient

/-! ## The rules -/

/-- The error text a response that is no success reports (`none` for a body of blanks), with the
details beyond its status and the cause. -/
inductive Response.Reports (r : Response) :
    Option String → List (String × Json) → Option Cause → Prop
  /-- Reading the body failed. -/
  | readFailed {f : Fault} (hf : r.bodyFault = some f) :
      r.Reports (some ("failed to read error body: " ++ f.message))
        [("body_error_type", .str f.className)] (some (.error f.className f.message))
  /-- The body does not decode in its charset, or the charset names no text codec. -/
  | undecodable {e : Bytes.DecodeFailure} (hf : r.bodyFault = none) (ht : r.text = .error e)
      (he : e.isLookupOrDecode = true) :
      r.Reports (some ("failed to decode error body: " ++ e.message))
        [("body_error_type", .str e.className)] (some (.error e.className e.message))
  /-- A body of blanks only. -/
  | blank {t : String} (hf : r.bodyFault = none) (ht : r.text = .ok t) (hb : Text.trim t = "") :
      r.Reports none [] none
  /-- A document that is an object whose `message` is a text. -/
  | message {t m : String} {fs : List (String × Json)} (hf : r.bodyFault = none)
      (ht : r.text = .ok t) (hb : Text.trim t ≠ "") (hd : r.document = .ok (.obj fs))
      (hm : Json.lookup fs "message" = some (.str m)) :
      r.Reports (some (String.ofList (m.toList.take maxErrorText))) [] none
  /-- Any other body that is not blank: a document that is no object with a text `message`, or
  a body that does not read as a document. -/
  | text {t : String} (hf : r.bodyFault = none) (ht : r.text = .ok t) (hb : Text.trim t ≠ "")
      (hd : ∀ fs m, r.document = .ok (.obj fs) → Json.lookup fs "message" ≠ some (.str m))
      (hv : ∀ b, r.document = .error b → b.isValueError = true) :
      r.Reports (some (String.ofList ((Text.trim t).toList.take maxErrorText))) [] none

/-- Reading the body of a response that is no success raises a fault instead of reporting. -/
inductive Response.ReportRaises (r : Response) : Fault → Prop
  /-- The codec of the announced charset raises an error of its own. -/
  | codec {e : Bytes.DecodeFailure} (hf : r.bodyFault = none) (ht : r.text = .error e)
      (he : e.isLookupOrDecode = false) :
      r.ReportRaises ⟨e.className, e.message⟩
  /-- A body that is not blank runs the document reader out of stack. -/
  | stack {t : String} {cs : List Char} {array : Bool} {pos : Nat} (hf : r.bodyFault = none)
      (ht : r.text = .ok t) (hb : Text.trim t ≠ "")
      (hd : r.document = .error (.unreadable cs ⟨.stackExhausted array, pos⟩)) :
      r.ReportRaises ⟨"RecursionError", (Json.ReadError.stackExhausted array).text⟩

/-- The remote error of status `S` whose error text is `text`. -/
def remoteOf (S : Json) (text : Option String) (extra : List (String × Json))
    (cause : Option Cause) : ClientError :=
  .remote S ((text.map Json.str).getD .null) extra cause

/-! ## Reading the body by the rules -/

theorem errorText_nonblank {r : Response} {t : String} (hf : r.bodyFault = none)
    (ht : r.text = .ok t) (hb : Text.trim t ≠ "") :
    (∃ text, r.Reports (some text) [] none ∧ errorText r = .ok (.text (some text))) ∨
      ∃ f, r.ReportRaises f ∧ errorText r = .error f := by
  have hne : (Text.trim t).isEmpty = false :=
    Bool.eq_false_iff.2 fun h => hb (String.isEmpty_iff.1 h)
  unfold errorText
  simp only [hf, ht, hne, Bool.false_eq_true, ↓reduceIte]
  rcases hd : r.document with b | doc
  · -- no document: the trimmed text, unless the reader ran out of stack
    by_cases hv : b.isValueError
    · refine .inl ⟨_, .text hf ht hb (fun fs m h => ?_) (fun b' h => ?_), ?_⟩
      · rw [hd] at h
        cases h
      · rw [hd] at h
        cases h
        exact hv
      · simp [hv, Except.map]
    · obtain ⟨cs, array, pos, rfl⟩ := Json.BytesFailure.isValueError_eq_false.1 (by simpa using hv)
      refine .inr ⟨_, .stack hf ht hb hd, ?_⟩
      simp [Except.map, hv]
  · -- a document: its text `message` when it is an object that has one, else the trimmed text
    have hv : ∀ b, r.document = .error b → b.isValueError = true := fun b h => by
      rw [hd] at h
      cases h
    have trimmed (hno : ∀ fs m, doc = .obj fs → Json.lookup fs "message" ≠ some (.str m)) :=
      Response.Reports.text hf ht hb (fun fs m h => by rw [hd] at h; cases h; exact hno fs m rfl) hv
    cases doc
    case obj fs =>
      rcases hm : Json.lookup fs "message" with _ | m
      · exact .inl ⟨_, trimmed (fun fs' m' h => by cases h; simp [hm]),
          by simp [Json.field?, hm, Except.map]⟩
      · cases m
        case str m =>
          exact .inl ⟨_, .message hf ht hb hd hm, by simp [Json.field?, hm, Except.map]⟩
        all_goals exact .inl ⟨_, trimmed (fun fs' m' h => by cases h; simp [hm]),
          by simp [Json.field?, hm, Except.map]⟩
    all_goals exact .inl ⟨_, trimmed (fun fs' m' h => by cases h), by simp [Except.map]⟩

/-- The remote error of a response that is no success follows the rules, or reading its body
raises. -/
theorem remoteError_reports (r : Response) :
    (∃ text extra cause, r.Reports text extra cause ∧
      remoteError r = .ok (remoteOf r.status.toJson text extra cause)) ∨
    ∃ f, r.ReportRaises f ∧ remoteError r = .error f := by
  unfold remoteError
  rcases hf : r.bodyFault with _ | f
  · rcases ht : r.text with e | t
    · by_cases he : e.isLookupOrDecode
      · refine .inl ⟨_, _, _, .undecodable hf ht he, ?_⟩
        simp [errorText, hf, ht, he, Except.map, remoteOf]
      · refine .inr ⟨_, .codec hf ht (by simpa using he), ?_⟩
        simp [errorText, hf, ht, he, Except.map]
    · by_cases hb : Text.trim t = ""
      · refine .inl ⟨_, _, _, .blank hf ht hb, ?_⟩
        simp [errorText, hf, ht, hb, Except.map, remoteOf]
      · rcases errorText_nonblank hf ht hb with ⟨text, hr, he⟩ | ⟨g, hr, he⟩
        · exact .inl ⟨_, _, _, hr, by simp [he, Except.map, remoteOf]⟩
        · exact .inr ⟨g, hr, by simp [he, Except.map]⟩
  · refine .inl ⟨_, _, _, .readFailed hf, ?_⟩
    simp [errorText, hf, Except.map, remoteOf]

/-! ## How a remote error reads -/

/-- How a remote error of status `S` and error text `text` reads: its message is
`ScopeDB returned HTTP <S>`, followed by `: ` and the text when there is a text that is not empty;
its details hold `S` under `status_code`; its text is the message, ` | Details: ` and the
details. -/
structure ClientError.ReadsAsRemote (e : ClientError) (S : Json) (text : Option String) :
    Prop where
  kind : e.kind = .remote
  message : e.message = "ScopeDB returned HTTP " ++ S.display ++
    match text with
    | some t => if t = "" then "" else ": " ++ t
    | none => ""
  status : Json.lookup e.details "status_code" = some S
  render : e.render = e.message ++ " | Details: " ++ (Json.obj e.details).literal

theorem lookup_foldl_setField {k : String} :
    ∀ (pairs : List (String × Json)) (acc : List (String × Json)), (∀ p ∈ pairs, p.1 ≠ k) →
      Json.lookup (pairs.foldl (fun acc p => Json.setField acc p.1 p.2) acc) k = Json.lookup acc k
  | [], acc, _ => rfl
  | p :: pairs, acc, h => by
    rw [List.foldl_cons, lookup_foldl_setField pairs _ fun q hq => h q (List.mem_cons_of_mem _ hq),
      Json.lookup_setField_ne acc p.2 (Ne.symm (h p (List.mem_cons_self ..)))]

theorem setField_ne_nil (fields : List (String × Json)) (k : String) (v : Json) :
    Json.setField fields k v ≠ [] := by
  cases fields with
  | nil => simp [Json.setField]
  | cons p rest =>
    unfold Json.setField
    split <;> simp

theorem foldl_setField_ne_nil :
    ∀ (pairs : List (String × Json)) (acc : List (String × Json)), acc ≠ [] →
      pairs.foldl (fun acc p => Json.setField acc p.1 p.2) acc ≠ []
  | [], _, h => h
  | p :: pairs, acc, _ => foldl_setField_ne_nil pairs _ (setField_ne_nil acc p.1 p.2)

theorem remoteOf_readsAsRemote (S : Json) (text : Option String) {extra : List (String × Json)}
    (hx : ∀ p ∈ extra, p.1 ≠ "status_code") (cause : Option Cause) :
    (remoteOf S text extra cause).ReadsAsRemote S text := by
  have hdetails : (remoteOf S text extra cause).details =
      extra.foldl (fun acc p => Json.setField acc p.1 p.2) [("status_code", S)] := rfl
  refine ⟨rfl, ?_, ?_, ?_⟩
  · cases text with
    | none => simp [remoteOf, ClientError.message, Json.truthy]
    | some t =>
      by_cases ht : t = ""
      · simp [remoteOf, ClientError.message, Json.truthy, ht]
      · simp [remoteOf, ClientError.message, Json.truthy, ht, Json.display, String.append_assoc]
  · rw [hdetails, lookup_foldl_setField extra _ hx]
    simp [Json.lookup]
  · have hne : (remoteOf S text extra cause).details ≠ [] := by
      rw [hdetails]
      exact foldl_setField_ne_nil extra _ (by simp)
    simp [ClientError.render, hne]

theorem Response.Reports.extra_ne {r : Response} {text : Option String}
    {extra : List (String × Json)} {cause : Option Cause} (h : r.Reports text extra cause) :
    ∀ p ∈ extra, p.1 ≠ "status_code" := by
  cases h <;> simp

/-! ## Resolving a response that is no success -/

/-- A response that is no success is never read by the operation's reader. It resolves to the
remote error of its status and of the error text its body reports by the rules, which reads
`ScopeDB returned HTTP <status>` (and `: ` and the text when the text is not empty) with the status
in its details; or, when reading its body escapes the rules, to the fault raised, the codec's own
error or the document reader running out of stack. -/
theorem failed_response_reports (r : Response) (hs : r.isSuccess = false) :
    ∃ u : Unresolved,
      (∀ {α : Type} (read : List UInt8 → Except BodyFailure α),
        resolve read (.response r) = .error u) ∧
      ((∃ text extra cause, r.Reports text extra cause ∧
          u = .client (remoteOf r.status.toJson text extra cause) ∧
          (remoteOf r.status.toJson text extra cause).ReadsAsRemote r.status.toJson text) ∨
        ∃ f, r.ReportRaises f ∧ u = .raised f) := by
  rcases remoteError_reports r with ⟨text, extra, cause, hr, he⟩ | ⟨f, hr, he⟩
  · refine ⟨.client (remoteOf r.status.toJson text extra cause), fun read => ?_,
      .inl ⟨text, extra, cause, hr, rfl, remoteOf_readsAsRemote _ _ hr.extra_ne _⟩⟩
    simp [resolve, hs, he]
  · refine ⟨.raised f, fun read => ?_, .inr ⟨f, hr, rfl⟩⟩
    simp [resolve, hs, he]

/-- A 404 response with an empty body is no success, so it resolves to a remote error or a
fault that its body reports. -/
theorem empty_not_found_reports :
    let r : Response := ⟨.int 404, [], none, none⟩
    r.isSuccess = false ∧
    ∃ u : Unresolved,
      (∀ {α : Type} (read : List UInt8 → Except BodyFailure α),
        resolve read (.response r) = .error u) ∧
      ((∃ text extra cause, r.Reports text extra cause ∧
          u = .client (remoteOf r.status.toJson text extra cause) ∧
          (remoteOf r.status.toJson text extra cause).ReadsAsRemote r.status.toJson text) ∨
        ∃ f, r.ReportRaises f ∧ u = .raised f) :=
  ⟨by decide, failed_response_reports _ (by decide)⟩

/-! ## An error body nested too deep -/

theorem Bytes.findModule_utf8 : Bytes.findModule "utf-8" = some "utf_8" := by
  have hfold : Bytes.foldName "utf-8" = "utf_8" := by decide +kernel
  have halias : Bytes.codecAliases.lookup "utf_8" = none := by decide +kernel
  have hmap : ("utf_8".map fun c => if c = '.' then '_' else c) = "utf_8" := by decide +kernel
  have hmod : "utf_8" ∈ Bytes.codecModules := by decide +kernel
  simp [Bytes.findModule, hfold, halias, hmap, hmod]

theorem Response.text_ascii {r : Response} (hc : r.charset = none) (hne : r.content ≠ [])
    (ha : ∀ x ∈ r.content, x < 0x80) :
    r.text = .ok (String.ofList (r.content.map fun x => Char.ofNat x.toNat)) := by
  have hbin : "utf_8" ∉ Bytes.binaryModules := by decide +kernel
  have hdec : Bytes.decoderOf "utf_8" = some (.builtin .utf8) := rfl
  simp [Response.text, decodeWith, hc, Bytes.decodeNamed, hne, Bytes.findModule_utf8, hbin, hdec,
    Bytes.Decoder.run, Bytes.Codec.decode, Bytes.decodeUtf8From_ascii_list ha, Except.map,
    Except.mapError]

theorem Text.trim_ne_empty {s : String} {c : Char} (hc : c ∈ s.toList)
    (hb : Text.isBlank c = false) : Text.trim s ≠ "" := by
  intro h
  have hinner : (s.toList.dropWhile Text.isBlank).reverse.dropWhile Text.isBlank = [] := by
    simpa [Text.trim, String.ofList_eq_empty_iff] using h
  have hfront : s.toList.dropWhile Text.isBlank = [] := by
    rcases hd : s.toList.dropWhile Text.isBlank with _ | ⟨d, rest⟩
    · rfl
    · have hhead := @List.head_dropWhile_not _ Text.isBlank s.toList (by simp [hd])
      have hall := List.dropWhile_eq_nil_iff.1 hinner d (by simp [hd])
      simp only [hd, List.head_cons] at hhead
      rw [hhead] at hall
      cases hall
  have hblank := List.dropWhile_eq_nil_iff.1 hfront c hc
  rw [hb] at hblank
  cases hblank

/-- An error response that announces no charset, whose body opens more brackets than the document
reader's stack holds and goes on in ASCII, escapes the rules: reading its message runs the reader
out of stack. -/
theorem resolve_nested_error_body {α : Type} (read : List UInt8 → Except BodyFailure α)
    {r : Response} (hs : r.isSuccess = false) (hf : r.bodyFault = none) (hc : r.charset = none)
    {n : Nat} (hn : 970 < n) {rest : List UInt8} (hr : ∀ x ∈ rest, x < 0x80)
    (hb : r.content = List.replicate n 0x5B ++ rest) :
    resolve read (.response r) =
      .error (.raised ⟨"RecursionError", (Json.ReadError.stackExhausted true).text⟩) := by
  have hascii : ∀ x ∈ r.content, x < 0x80 := by
    rw [hb]
    intro x hx
    rcases List.mem_append.1 hx with hx | hx
    · rw [List.eq_of_mem_replicate hx]
      decide
    · exact hr x hx
  have hbracket : (0x5B : UInt8) ∈ r.content := by
    rw [hb]
    exact List.mem_append_left _ (List.mem_replicate.2 ⟨by omega, rfl⟩)
  have hne : r.content ≠ [] := List.ne_nil_of_mem hbracket
  have ht := Response.text_ascii hc hne hascii
  have htrim : Text.trim (String.ofList (r.content.map fun x => Char.ofNat x.toNat)) ≠ "" :=
    Text.trim_ne_empty (c := '[') (by simpa using ⟨_, hbracket, rfl⟩) (by decide)
  have hd : r.document = .error (.unreadable (List.replicate n '[' ++
      rest.map fun x => Char.ofNat x.toNat) ⟨.stackExhausted true, 970⟩) := by
    rw [Response.document, hb]
    exact Json.readBytes_nested hn hr
  have he : errorText r =
      .error ⟨"RecursionError", (Json.ReadError.stackExhausted true).text⟩ := by
    unfold errorText
    have hne : (Text.trim (String.ofList (r.content.map fun x => Char.ofNat x.toNat))).isEmpty =
        false := Bool.eq_false_iff.2 fun h => htrim (String.isEmpty_iff.1 h)
    simp only [hf, ht, hne, hd, Bool.false_eq_true, ↓reduceIte]
    simp [Json.BytesFailure.isValueError, Except.map]
  simp [resolve, hs, remoteError, he, Except.map]

/-- An error response of status 500 whose body opens two thousand brackets and closes them is no
remote error: the reader of its message runs out of stack, and the fault escapes, whatever the
reader of the operation. -/
theorem deep_error_body_escapes :
    resolve readDocument
        (.response ⟨.int 500, List.replicate 2000 0x5B ++ List.replicate 2000 0x5D, none, none⟩) =
      .error (.raised ⟨"RecursionError", (Json.ReadError.stackExhausted true).text⟩) :=
  resolve_nested_error_body readDocument (by decide) rfl rfl (by decide)
    (fun x hx => by rw [List.eq_of_mem_replicate hx]; decide) rfl

end StatementClient
