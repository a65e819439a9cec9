import StatementClient.Proofs.Failures

/-!
# Request bodies read back

A request is a value its check accepted, and its body is the document the client sends. The same
check reads the body back to the request, field by field (`StatementRequest.check_body`,
`FetchParams.check_body`, `IngestRequest.check_body`): a text field holds the text accepted, an
enumeration field the wire name of its member, and an optional field left unset is left out, so
no body holds a null (`Json.nullFree`).

A wire-named field accepts exactly the strings among the wire names of its enumeration, each for
the member of that name (`Check.wire_eq_ok`). It refuses any other value by its type name and any
other string by its literal (`Check.wire_not_text`, `Check.wire_unknown_text`).

Main statement: `requests_read_back`.
-/

namespace StatementClient

mutual

/-- Whether no null appears in a document, at any depth. -/
def Json.nullFree : Json → Bool
  | .null => false
  | .arr items => Json.nullFreeItems items
  | .obj fields => Json.nullFreeFields fields
  | _ => true

/-- Whether no null appears in some documents. -/
def Json.nullFreeItems : List Json → Bool
  | [] => true
  | x :: rest => x.nullFree && Json.nullFreeItems rest

/-- Whether no null appears in the values of some members. -/
def Json.nullFreeFields : List (String × Json) → Bool
  | [] => true
  | (_, v) :: rest => v.nullFree && Json.nullFreeFields rest

end

/-! ## Text fields -/

theorem Check.text_str {v : Json} {t : String} (h : Check.text v = .ok t) :
    Check.text (.str t) = .ok t := by
  rw [← Check.text_eq_ok h]
  exact h

theorem Check.textOfLength_str {n : Nat} {v : Json} {t : String}
    (h : Check.textOfLength n v = .ok t) : Check.textOfLength n (.str t) = .ok t := by
  rw [← Check.textOfLength_eq_ok h]
  exact h

theorem Check.optionalText_some {v : Json} {t : String}
    (h : Checked.optional Check.text v = .ok (some t)) : Check.text (.str t) = .ok t := by
  cases v with
  | null => simp [Checked.optional] at h
  | str s =>
    simp only [Checked.optional] at h
    rcases ht : Check.text (.str s) with e | u <;> rw [ht] at h
    · cases h
    · simp only [Except.map, Except.ok.injEq, Option.some.injEq] at h
      subst h
      exact Check.text_str ht
  | _ => simp [Checked.optional, Check.text, Checked.fail, Except.map] at h

/-! ## Wire-named fields -/

namespace WireEnum

variable {α : Type} [WireEnum α]

theorem ofWire?_eq_some {s : String} {m : α} (h : ofWire? s = some m) :
    m ∈ (members : List α) ∧ wireName m = s := by
  unfold ofWire? at h
  exact ⟨List.mem_of_find?_eq_some h, by simpa using List.find?_some h⟩

theorem ofWire?_isSome {s : String} :
    (ofWire? s : Option α).isSome ↔ s ∈ (members : List α).map wireName := by
  simp only [ofWire?, List.find?_isSome, List.mem_map, decide_eq_true_eq]

end WireEnum

namespace Check

variable {α : Type} [WireEnum α]

/-- A value that is no string is refused by its type name. -/
theorem wire_not_text {v : Json} (hv : ∀ s, v ≠ .str s) :
    Check.wire α v = Checked.fail (.valueError
      ("expected a " ++ WireEnum.enumName α ++ " wire name, got " ++ v.typeName)) := by
  cases v with
  | str s => exact absurd rfl (hv s)
  | _ => rfl

/-- A string that names no member is refused by its literal. -/
theorem wire_unknown_text {s : String}
    (hs : s ∉ (WireEnum.members : List α).map WireEnum.wireName) :
    Check.wire α (.str s) = Checked.fail (.valueError
      ((Json.str s).literal ++ " is not a valid " ++ WireEnum.enumName α)) := by
  have hnone : (WireEnum.ofWire? s : Option α) = none := by
    rw [← Option.not_isSome_iff_eq_none, WireEnum.ofWire?_isSome]
    exact hs
  unfold Check.wire WireEnum.parse
  simp only [hnone]
  rfl

theorem wire_ingestFormat (f : IngestFormat) : Check.wire IngestFormat (wireJson f) = .ok f := by
  cases f
  rfl

end Check

/-! ## Each request read back -/

namespace StatementRequest

theorem check_fields {v : Json} {r : StatementRequest} (h : check v = .ok r) :
    ∃ fs, v = .obj fs ∧
      Checked.field fs "statement" (Check.textOfLength 1) none = .ok r.statement ∧
      Checked.field fs "format" (Check.wire ResultFormat) (some .json) = .ok r.format ∧
      Checked.field fs "exec_timeout" (Checked.optional Check.text) (some none) =
        .ok r.execTimeout := by
  unfold check at h
  obtain ⟨fs, rfl, hm⟩ := Checked.members_bind_eq_ok h
  obtain ⟨p, hb, hp⟩ := Except.bind_eq_ok hm
  cases hp
  obtain ⟨hs, hrest⟩ := Checked.both_ok hb
  obtain ⟨hf, ht⟩ := Checked.both_ok hrest
  exact ⟨fs, rfl, hs, hf, ht⟩

/-- A statement request reads back from its body. -/
theorem check_body {v : Json} {r : StatementRequest} (h : check v = .ok r) :
    check r.body = .ok r := by
  obtain ⟨fs, -, hs, hf, ht⟩ := check_fields h
  have hs' : Check.textOfLength 1 (.str r.statement) = .ok r.statement := by
    obtain ⟨w, -, hw⟩ := Checked.field_present hs (by simp)
    exact Check.textOfLength_str hw
  have hf' : Check.wire ResultFormat (wireJson r.format) = .ok r.format :=
    Check.wire_wireJson r.format
  rcases r with ⟨s, f, _ | t⟩
  · simp_all [check, body]
  · have ht' : Check.text (.str t) = .ok t := by
      obtain ⟨w, -, hw⟩ := Checked.field_present ht (by simp)
      exact Check.optionalText_some hw
    simp_all [check, body, Except.map]

theorem body_nullFree (r : StatementRequest) : r.body.nullFree = true := by
  rcases r with ⟨s, f, _ | t⟩ <;> cases f <;> rfl

end StatementRequest

namespace FetchParams

theorem check_fields {v : Json} {p : FetchParams} (h : check v = .ok p) :
    ∃ fs, v = .obj fs ∧
      Checked.field fs "statement_id" (Check.textOfLength 1) none = .ok p.statementId ∧
      Checked.field fs "format" (Check.wire ResultFormat) (some .json) = .ok p.format := by
  unfold check at h
  obtain ⟨fs, rfl, hm⟩ := Checked.members_bind_eq_ok h
  obtain ⟨q, hb, hq⟩ := Except.bind_eq_ok hm
  cases hq
  exact ⟨fs, rfl, Checked.both_ok hb⟩

/-- Fetch parameters read back from their document. -/
theorem check_body {v : Json} {p : FetchParams} (h : check v = .ok p) : check p.body = .ok p := by
  obtain ⟨fs, -, hi, -⟩ := check_fields h
  have hi' : Check.textOfLength 1 (.str p.statementId) = .ok p.statementId := by
    obtain ⟨w, -, hw⟩ := Checked.field_present hi (by simp)
    exact Check.textOfLength_str hw
  exact FetchParams.check_handle hi' p.format

theorem body_nullFree (p : FetchParams) : p.body.nullFree = true := by
  rcases p with ⟨i, f⟩
  cases f <;> rfl

end FetchParams

namespace IngestRequest

theorem check_fields {v : Json} {r : IngestRequest} (h : check v = .ok r) :
    ∃ fs, v = .obj fs ∧ Checked.field fs "data" IngestData.check none = .ok r.data ∧
      Checked.field fs "statement" (Check.textOfLength 1) none = .ok r.statement := by
  unfold check at h
  obtain ⟨fs, rfl, hm⟩ := Checked.members_bind_eq_ok h
  obtain ⟨q, hb, hq⟩ := Except.bind_eq_ok hm
  cases hq
  exact ⟨fs, rfl, Checked.both_ok hb⟩

/-- Ingest data read back from its document: its rows are text accepted once. -/
theorem data_check_body {v : Json} {d : IngestData} (h : IngestData.check v = .ok d) :
    IngestData.check d.body = .ok d := by
  unfold IngestData.check at h
  obtain ⟨fs, rfl, hm⟩ := Checked.members_bind_eq_ok h
  unfold IngestData.checkMembers at hm
  obtain ⟨q, hb, hq⟩ := Except.bind_eq_ok hm
  cases hq
  obtain ⟨-, hr⟩ := Checked.both_ok hb
  have hr' : Check.text (.str q.2) = .ok q.2 := by
    obtain ⟨w, -, hw⟩ := Checked.field_present hr (by simp)
    exact Check.text_str hw
  simp [IngestData.check, IngestData.checkMembers, IngestData.body, Check.wire_ingestFormat, hr']

theorem data_body_nullFree (d : IngestData) : d.body.nullFree = true := by
  rcases d with ⟨f, rows⟩
  cases f
  rfl

/-- An ingest request reads back from its body, its data nested as an object. -/
theorem check_body {v : Json} {r : IngestRequest} (h : check v = .ok r) : check r.body = .ok r := by
  obtain ⟨fs, -, hd, hs⟩ := check_fields h
  have hd' : IngestData.check r.data.body = .ok r.data := by
    obtain ⟨w, -, hw⟩ := Checked.field_present hd (by simp)
    exact data_check_body hw
  have hs' : Check.textOfLength 1 (.str r.statement) = .ok r.statement := by
    obtain ⟨w, -, hw⟩ := Checked.field_present hs (by simp)
    exact Check.textOfLength_str hw
  simp [check, body, hd', hs']

theorem body_nullFree (r : IngestRequest) : r.body.nullFree = true := by
  rcases r with ⟨⟨f, rows⟩, s⟩
  cases f
  rfl

end IngestRequest

/-- Every request the checks accept reads back from its body: a statement request, fetch
parameters, ingest data and an ingest request with its data. No body holds a null, and each enumeration field
holds the wire name of its member; the query of a fetch is the format of its body. A wire-named
field, of any enumeration, accepts exactly the strings among the wire names, each for the member of
that name, and refuses any other value by its type name and any other string by its literal. -/
theorem requests_read_back :
    (∀ v r, StatementRequest.check v = .ok r →
      StatementRequest.check r.body = .ok r ∧ r.body.nullFree = true ∧
        r.body.field? "format" = some (wireJson r.format)) ∧
    (∀ v p, FetchParams.check v = .ok p →
      FetchParams.check p.body = .ok p ∧ p.body.nullFree = true ∧
        p.body.field? "format" = some (wireJson p.format) ∧
        ∃ w, p.query = [("format", w)] ∧ p.body.field? "format" = some (.str w)) ∧
    (∀ v d, IngestData.check v = .ok d →
      IngestData.check d.body = .ok d ∧ d.body.nullFree = true ∧
        d.body.field? "format" = some (wireJson d.format)) ∧
    (∀ v r, IngestRequest.check v = .ok r →
      IngestRequest.check r.body = .ok r ∧ r.body.nullFree = true ∧
        (r.body.field? "data").bind (·.field? "format") = some (wireJson r.data.format)) ∧
    (∀ (α : Type) [WireEnum α] (v : Json),
      ((∃ m : α, Check.wire α v = .ok m) ↔
        ∃ s, v = .str s ∧ s ∈ (WireEnum.members : List α).map WireEnum.wireName) ∧
      (∀ m : α, Check.wire α v = .ok m → m ∈ (WireEnum.members : List α) ∧ v = wireJson m) ∧
      ((∀ s, v ≠ .str s) → Check.wire α v = Checked.fail (.valueError
        ("expected a " ++ WireEnum.enumName α ++ " wire name, got " ++ v.typeName))) ∧
      (∀ s, v = .str s → s ∉ (WireEnum.members : List α).map WireEnum.wireName →
        Check.wire α v = Checked.fail (.valueError
          (v.literal ++ " is not a valid " ++ WireEnum.enumName α)))) := by
  refine ⟨fun v r h => ⟨StatementRequest.check_body h, r.body_nullFree, rfl⟩,
    fun v p h => ⟨FetchParams.check_body h, p.body_nullFree, rfl, _, rfl, rfl⟩,
    fun v d h => ⟨IngestRequest.data_check_body h, IngestRequest.data_body_nullFree d, rfl⟩,
    fun v r h => ⟨IngestRequest.check_body h, r.body_nullFree, rfl⟩, ?_⟩
  intro α _ v
  refine ⟨⟨?_, ?_⟩, ?_, Check.wire_not_text, ?_⟩
  · rintro ⟨m, hm⟩
    obtain ⟨s, rfl, hs⟩ := Check.wire_eq_ok.1 hm
    exact ⟨s, rfl, WireEnum.ofWire?_isSome.1 (by rw [hs]; rfl)⟩
  · rintro ⟨s, rfl, hs⟩
    obtain ⟨m, hm⟩ := Option.isSome_iff_exists.1 (WireEnum.ofWire?_isSome.2 hs)
    exact ⟨m, Check.wire_eq_ok.2 ⟨s, rfl, hm⟩⟩
  · intro m hm
    obtain ⟨s, rfl, hs⟩ := Check.wire_eq_ok.1 hm
    obtain ⟨hmem, hw⟩ := WireEnum.ofWire?_eq_some hs
    exact ⟨hmem, by rw [wireJson, hw]⟩
  · rintro s rfl hs
    exact Check.wire_unknown_text hs

/-- The request for `SELECT 1` with a timeout reads back from its body. -/
theorem select_one_reads_back :
    StatementRequest.check (.obj [("statement", .str "SELECT 1"), ("exec_timeout", .str "60s")]) =
        .ok ⟨"SELECT 1", .json, some "60s"⟩ ∧
      StatementRequest.check (StatementRequest.body ⟨"SELECT 1", .json, some "60s"⟩) =
        .ok ⟨"SELECT 1", .json, some "60s"⟩ := by
  have h : StatementRequest.check
      (.obj [("statement", .str "SELECT 1"), ("exec_timeout", .str "60s")]) =
        .ok ⟨"SELECT 1", .json, some "60s"⟩ := by
    rfl
  exact ⟨h, (requests_read_back.1 _ _ h).1⟩

end StatementClient
