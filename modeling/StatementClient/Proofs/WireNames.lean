import Mathlib
import StatementClient.Wire.Declare

/-!
# Wire names under overrides

An enumeration declared from names takes its wire names from overrides given as text: a member
travels under its override when it has one, else under its own name (`wireNameOf`). Putting wire
names on the members refuses, in this order: an override that names no member, reported with
all such overrides in code-point order; members that cannot be keyed, when the class sets
`__hash__` or `__eq__`; two members under one wire name. Otherwise the table is
`WireTable.ofNames` of the members and their wire names.

A table of members under wire names that tell them apart keeps the laws of a wire table
(`WireTable.Laws`, `WireTable.ofNames_laws`): a member's wire name is its own, reading it gives the
member back, writing a member read from a wire name gives that name back, and every other value
that can be a key is no valid member. The plain table of an undecorated enumeration is the table
of every member under its own name, so it keeps the same laws (`WireTable.plain_laws`).

Main statement: `wire_names_by_overrides`. A member's own name is no refused value when it is
another member's wire name, and a class that sets `__hash__` is refused whatever the overrides
(`swapped_names_read_across`).
-/

namespace StatementClient

/-- Overrides given as text, as document values. -/
def textOverrides (ov : List (String × String)) : List (String × Json) :=
  ov.map fun p => (p.1, .str p.2)

/-- The wire name of member `m` under overrides given as text: its override, else its own name. -/
def wireNameOf (ov : List (String × String)) (m : String) : String :=
  (ov.lookup m).getD m

theorem lookup_textOverrides (ov : List (String × String)) (m : String) :
    (textOverrides ov).lookup m = (ov.lookup m).map Json.str := by
  induction ov with
  | nil => rfl
  | cons p ov ih =>
    obtain ⟨k, v⟩ := p
    by_cases h : m = k
    · have hb : (m == k) = true := beq_iff_eq.2 h
      simp only [textOverrides, List.map_cons, List.lookup_cons, hb, Option.map_some]
    · have hb : (m == k) = false := beq_eq_false_iff_ne.2 h
      simp only [textOverrides, List.map_cons, List.lookup_cons, hb]
      exact ih

theorem Json.sameKey_str_iff {x : String} {v : Json} : Json.sameKey (.str x) v = true ↔ v = .str x := by
  cases v with
  | str y =>
    show (x == y) = true ↔ _
    simp only [beq_iff_eq, Json.str.injEq]
    exact eq_comm
  | null => exact iff_of_false (fun h => by cases h) (by simp)
  | bool b => exact iff_of_false (fun h => by cases h) (by simp)
  | int n => exact iff_of_false (fun h => by cases h) (by simp)
  | float y => exact iff_of_false (fun h => by cases h) (by simp)
  | arr items => exact iff_of_false (fun h => by cases h) (by simp)
  | obj fields => exact iff_of_false (fun h => by cases h) (by simp)

namespace WireTable

/-- The table that gives each member `m`, in member order, the wire name `w m`. -/
def ofNames (members : List String) (w : String → String) : WireTable :=
  ⟨members.map fun m => (m, .str (w m))⟩

/-- The laws of a table of `members` under wire names `w`: the wire name of a member is `w m`;
reading it gives the member back; a member read from a wire name is written as that name; and a
value that can be a key but is no wire name is not a valid member. -/
structure Laws (t : WireTable) (members : List String) (w : String → String) : Prop where
  toWire : ∀ m ∈ members, t.toWire? m = some (.str (w m))
  parse_wire : ∀ m ∈ members, t.parse (.str (w m)) = .ok m
  wire_parse : ∀ s ∈ members.map w, ∃ m, t.parse (.str s) = .ok m ∧ t.toWire? m = some (.str s)
  parse_other : ∀ v : Json, v.isKey = true → (∀ m ∈ members, v ≠ .str (w m)) →
    t.parse v = .error (.notValid v.literal)

theorem fromWire?_ofNames (members : List String) (w : String → String) (v : Json) :
    (ofNames members w).fromWire? v = members.find? fun m => Json.sameKey (.str (w m)) v := by
  simp only [fromWire?, ofNames, List.find?_map, Option.map_map]
  have hfst : (Prod.fst ∘ fun m : String => (m, Json.str (w m))) = id := rfl
  rw [hfst, Option.map_id]
  rfl

/-- Wire names that tell the members apart make a table that keeps the laws. -/
theorem ofNames_laws {members : List String} {w : String → String}
    (hinj : ∀ a ∈ members, ∀ b ∈ members, w a = w b → a = b) :
    (ofNames members w).Laws members w := by
  have toWire : ∀ m ∈ members, (ofNames members w).toWire? m = some (.str (w m)) :=
    fun m hm => List.lookup_graph (fun m => Json.str (w m)) hm
  have parse_wire : ∀ m ∈ members, (ofNames members w).parse (.str (w m)) = .ok m := by
    intro m hm
    rcases hf : members.find? (fun a => Json.sameKey (.str (w a)) (.str (w m))) with _ | a
    · exact absurd (by simp [Json.sameKey]) (List.find?_eq_none.1 hf m hm)
    · have hw : w a = w m := by simpa [Json.sameKey] using List.find?_some hf
      have ha : a = m := hinj a (List.mem_of_find?_eq_some hf) m hm hw
      simp [parse, Json.isKey, fromWire?_ofNames, hf, ha]
  refine ⟨toWire, parse_wire, ?_, ?_⟩
  · intro s hs
    obtain ⟨m, hm, rfl⟩ := List.mem_map.1 hs
    exact ⟨m, parse_wire m hm, toWire m hm⟩
  · intro v hv hout
    have hnone : (ofNames members w).fromWire? v = none := by
      rw [fromWire?_ofNames, List.find?_eq_none]
      intro m hm hkey
      exact hout m hm (Json.sameKey_str_iff.1 hkey)
    simp [parse, hv, hnone]

theorem plain_eq_ofNames (members : List String) : plain members = ofNames members id := rfl

theorem plain_laws (members : List String) : (plain members).Laws members id := by
  rw [plain_eq_ofNames]
  exact ofNames_laws fun a _ b _ h => h

end WireTable

theorem distinctKeys_str (l : List String) : distinctKeys (l.map Json.str) = decide l.Nodup := by
  induction l with
  | nil => rfl
  | cons a l ih =>
    simp only [List.map_cons, distinctKeys, ih, List.any_map, List.nodup_cons]
    have hany : l.any (Json.sameKey (.str a) ∘ Json.str) = decide (a ∈ l) := by
      rw [← List.elem_eq_mem]
      exact List.any_beq
    rw [hany]
    by_cases ha : a ∈ l <;> simp [ha]

theorem sortStrings_pairwise (xs : List String) : (sortStrings xs).Pairwise (· ≤ ·) := by
  have h := @List.pairwise_mergeSort _ (fun a b : String => decide (a ≤ b))
    (fun a b c hab hbc => by simp only [decide_eq_true_eq] at *; exact le_trans hab hbc)
    (fun a b => by simpa using le_total a b) xs
  simpa [sortStrings] using h

theorem sortStrings_perm (xs : List String) : (sortStrings xs).Perm xs :=
  List.mergeSort_perm _ _

theorem unknownOverrides_text (members : List String) (ov : List (String × String)) :
    unknownOverrides members (textOverrides ov) =
      sortStrings ((ov.map Prod.fst).filter fun k => k ∉ members) := by
  simp [unknownOverrides, textOverrides, List.map_map, Function.comp_def]

theorem unknownOverrides_text_eq_nil {members : List String} {ov : List (String × String)} :
    unknownOverrides members (textOverrides ov) = [] ↔
      (ov.map Prod.fst).filter (fun k => k ∉ members) = [] := by
  rw [unknownOverrides_text]
  exact ⟨fun h => List.Perm.eq_nil ((sortStrings_perm _).symm.trans (h ▸ List.Perm.refl _)),
    fun h => by rw [h]; simp [sortStrings]⟩

/-- With every override naming a member, overrides given as text make the table of their wire
names, unless two members share one. -/
theorem build_text {members : List String} {ov : List (String × String)}
    (hunknown : (ov.map Prod.fst).filter (fun k => k ∉ members) = []) :
    WireTable.build members (textOverrides ov) =
      if (members.map (wireNameOf ov)).Nodup then .ok (WireTable.ofNames members (wireNameOf ov))
      else .error .duplicateWireNames := by
  have hentries : (members.map fun m => (m, ((textOverrides ov).lookup m).getD (.str m))) =
      (WireTable.ofNames members (wireNameOf ov)).entries := by
    simp [WireTable.ofNames, wireNameOf, lookup_textOverrides, Option.getD_map]
  have hkeys : (WireTable.ofNames members (wireNameOf ov)).entries.find? (fun e => !e.2.isKey) =
      none := by
    simp [WireTable.ofNames, List.find?_eq_none, Json.isKey]
  have hsnd : (WireTable.ofNames members (wireNameOf ov)).entries.map Prod.snd =
      (members.map (wireNameOf ov)).map Json.str := by
    simp [WireTable.ofNames, Function.comp_def]
  unfold WireTable.build
  rw [unknownOverrides_text_eq_nil.2 hunknown]
  simp only [List.isEmpty_nil, Bool.not_true, Bool.false_eq_true, ↓reduceIte]
  rw [hentries, hkeys]
  simp only [hsnd, distinctKeys_str, decide_eq_true_eq]

/-- The wire names tell the members apart exactly when no two members share one. -/
theorem wireNames_nodup_iff {members : List String} (hd : members.Nodup) (w : String → String) :
    (members.map w).Nodup ↔ ∀ a ∈ members, ∀ b ∈ members, w a = w b → a = b :=
  List.nodup_map_iff_inj_on hd

/-- Wire names under overrides given as text, for an enumeration whose members have distinct
names. An override that names no member is refused first, as a value error that names all such
overrides in code-point order. Otherwise, when the enumeration has members and its class sets
`__hash__` or `__eq__`, the members cannot be keyed: a type error. Otherwise two members under one
wire name are refused as a value error, exactly when the wire names do not tell the members
apart, and else the table gives each member its wire name; such a table keeps the laws of a wire
table, whose refusals are value errors `<literal> is not a valid <name>`. The plain table of an
undecorated enumeration keeps the same laws, every member under its own name. -/
theorem wire_names_by_overrides (d : Declared) (hd : d.members.Nodup) (ov : List (String × String)) :
    let w := wireNameOf ov
    let unknown := (ov.map Prod.fst).filter fun k => k ∉ d.members
    let apart := ∀ a ∈ d.members, ∀ b ∈ d.members, w a = w b → a = b
    (unknown ≠ [] → ∃ names, d.wireTable (textOverrides ov) = .error (.unknownMembers names) ∧
      names.Pairwise (· ≤ ·) ∧ names.Perm unknown ∧
      (WireError.unknownMembers names).className = "ValueError" ∧
      (WireError.unknownMembers names).message d.name =
        d.name ++ " has no members named " ++ Json.literal (.arr (names.map .str))) ∧
    (unknown = [] → d.members ≠ [] →
      (d.attributes.contains "__hash__" = true ∨ d.attributes.contains "__eq__" = true) →
      ∃ e, d.wireTable (textOverrides ov) = .error e ∧ e.className = "TypeError") ∧
    (unknown = [] →
      (d.members = [] ∨ (d.attributes.contains "__hash__" = false ∧
        d.attributes.contains "__eq__" = false)) →
      (apart → d.wireTable (textOverrides ov) = .ok (WireTable.ofNames d.members w)) ∧
      (¬ apart → d.wireTable (textOverrides ov) = .error .duplicateWireNames ∧
        WireError.duplicateWireNames.className = "ValueError" ∧
        WireError.duplicateWireNames.message d.name = d.name ++ " has duplicate wire names")) ∧
    (apart → (WireTable.ofNames d.members w).Laws d.members w) ∧
    (WireTable.plain d.members).Laws d.members id ∧
    (∀ v : Json, (ParseFault.notValid v.literal).isTypeFault = false ∧
      (ParseFault.notValid v.literal).message d.name = v.literal ++ " is not a valid " ++ d.name) := by
  intro w unknown apart
  have hunknown : unknownOverrides d.members (textOverrides ov) = [] ↔ unknown = [] :=
    unknownOverrides_text_eq_nil
  have hbuild (hu : unknown = []) : WireTable.build d.members (textOverrides ov) =
      if apart then .ok (WireTable.ofNames d.members w) else .error .duplicateWireNames := by
    rw [build_text hu]
    exact if_congr (wireNames_nodup_iff hd w) rfl rfl
  refine ⟨fun hu => ?_, fun hu hne hattr => ?_, fun hu hkeyed => ?_,
    WireTable.ofNames_laws, WireTable.plain_laws d.members, fun v => ⟨rfl, rfl⟩⟩
  · -- an override of no member: the sorted list of all of them
    have hne : unknownOverrides d.members (textOverrides ov) ≠ [] := fun h => hu (hunknown.1 h)
    refine ⟨unknownOverrides d.members (textOverrides ov), ?_, ?_, ?_, rfl, rfl⟩
    · simp [Declared.wireTable, hne]
    · rw [unknownOverrides_text]
      exact sortStrings_pairwise _
    · rw [unknownOverrides_text]
      exact sortStrings_perm _
  · have hmem : d.members.isEmpty = false := by simpa using hne
    unfold Declared.wireTable
    rw [hunknown.2 hu]
    by_cases hh : "__hash__" ∈ d.attributes
    · exact ⟨.hashNotCallable, by simp [hmem, hh], rfl⟩
    · have he : "__eq__" ∈ d.attributes := by simpa [hh] using hattr
      exact ⟨.unhashable d.name, by simp [hmem, hh, he], rfl⟩
  · -- members that can be keyed: the table, or the refusal of a shared wire name
    have htable : d.wireTable (textOverrides ov) =
        if apart then .ok (WireTable.ofNames d.members w) else .error .duplicateWireNames := by
      rw [← hbuild hu]
      unfold Declared.wireTable
      rw [hunknown.2 hu]
      rcases hkeyed with hnil | ⟨hh, he⟩
      · simp [hnil]
      · have hh' : "__hash__" ∉ d.attributes := by simpa using hh
        have he' : "__eq__" ∉ d.attributes := by simpa using he
        simp [hh', he']
    refine ⟨fun ha => by rw [htable, if_pos ha], fun ha => ⟨by rw [htable, if_neg ha], rfl, rfl⟩⟩

/-- The result formats, `JSON` and `ARROW` under the wire names `json` and `arrow`, get the
table of those names, which keeps the laws. -/
theorem result_formats_by_wire_names :
    let d : Declared := ⟨"ResultFormat", ["JSON", "ARROW"], []⟩
    let ov : List (String × String) := [("JSON", "json"), ("ARROW", "arrow")]
    d.members.Nodup ∧
      d.wireTable (textOverrides ov) = .ok (WireTable.ofNames d.members (wireNameOf ov)) ∧
      (WireTable.ofNames d.members (wireNameOf ov)).Laws d.members (wireNameOf ov) := by
  intro d ov
  have hd : d.members.Nodup := by decide
  have apart : ∀ a ∈ d.members, ∀ b ∈ d.members, wireNameOf ov a = wireNameOf ov b → a = b := by
    decide
  obtain ⟨-, -, hkeyed, hlaws, -⟩ := wire_names_by_overrides d hd ov
  exact ⟨hd, (hkeyed (by decide) (.inr ⟨rfl, rfl⟩)).1 apart, hlaws apart⟩

/-- The enumeration of `A` and `B` with overrides that swap their names, both members of `Color`:
reading `A`, the name of a member whose wire name is `B`, gives `B`. The enumeration of `A` whose
names also set `__hash__` cannot have its members keyed: putting wire names on it is refused with
a type error, though no override names a missing member and no two members share a wire name. -/
theorem swapped_names_read_across :
    declare "Color" ["A", "B"] = .ok ⟨"Color", ["A", "B"], []⟩ ∧
    (⟨"Color", ["A", "B"], []⟩ : Declared).wireTable (textOverrides [("A", "B"), ("B", "A")]) =
      .ok ⟨[("A", .str "B"), ("B", .str "A")]⟩ ∧
    WireTable.parse ⟨[("A", .str "B"), ("B", .str "A")]⟩ (.str "A") = .ok "B" ∧
    declare "Color" ["A", "__hash__"] = .ok ⟨"Color", ["A"], ["__hash__"]⟩ ∧
    (⟨"Color", ["A"], ["__hash__"]⟩ : Declared).wireTable (textOverrides []) =
      .error .hashNotCallable ∧
    WireError.hashNotCallable.className = "TypeError" :=
  ⟨rfl, by cbv, rfl, rfl, by cbv, rfl⟩

end StatementClient
