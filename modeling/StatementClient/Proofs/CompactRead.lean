import Mathlib
import StatementClient.Proofs.NumberText

/-!
# Compact documents read back

The compact text of a document reads back as the document itself (`readText_compact`), provided
the document is one the reader gives back (`Json.Storable`):

* an integer has at most 4300 digits, the reader's limit;
* an object's keys are distinct, since a repeated key would fold into its first place;
* containers nest within the reader's stack, 970 deep with the outermost;
* no string holds the stand-in of a high surrogate right before that of a low one. Both are
  written as `\u` escapes, and the reader joins such a pair into one character (`Unpaired`).

Strings are read escape by escape: each character's escape (`Escaped`) is read back as that
character whatever follows (`readStringBody_escaped`), except that a high surrogate's escape
looks ahead for a low one (`Continues`), and a whole string by induction on its characters
(`readStringBody_asciiChars`). Numbers are read by `readValue_int` and `readValue_float`.
Containers are read item by item and member by member, by recursion on the document
(`readValue_compact`, `readItems_compact`, `readMembers_compact`), each step a lemma of its own:
the reader's fuel is at least the text's length, each item is followed by a comma or the closing
bracket, and members are appended in order since their keys are new.

Compact text also holds no line break (`newline_not_mem_compact`), so documents can be written
one per line.
-/

namespace StatementClient.Json

open Text

/-! ## Hex escapes -/

theorem hexValue_digitChar : ∀ d < 16, hexValue (Nat.digitChar d) = some d := by decide

theorem hexDigits_four {n : ℕ} (h : n < 0x10000) :
    (hexDigits 4 n).toList = [(n / 4096).digitChar, (n / 256 % 16).digitChar,
      (n / 16 % 16).digitChar, (n % 16).digitChar] := by
  unfold hexDigits
  simp only [String.toList_append, String.toList_ofList, String.length_ofList]
  have hstep : ∀ m, 16 ≤ m → Nat.toDigits 16 m = Nat.toDigits 16 (m / 16) ++ [(m % 16).digitChar] :=
    fun m hm => Nat.toDigits_of_base_le (by norm_num) hm
  have hz : Nat.digitChar 0 = '0' := rfl
  rcases Nat.lt_or_ge n 16 with h₁ | h₁
  · rw [Nat.toDigits_of_lt_base h₁]
    have e : n / 4096 = 0 ∧ n / 256 % 16 = 0 ∧ n / 16 % 16 = 0 ∧ n % 16 = n := by omega
    simp [e, hz]
  rcases Nat.lt_or_ge n 256 with h₂ | h₂
  · rw [hstep n h₁, Nat.toDigits_of_lt_base (show n / 16 < 16 by omega)]
    have e : n / 4096 = 0 ∧ n / 256 % 16 = 0 ∧ n / 16 % 16 = n / 16 := by omega
    simp [e, hz, List.replicate]
  rcases Nat.lt_or_ge n 4096 with h₃ | h₃
  · rw [hstep n h₁, hstep (n / 16) (by omega), Nat.toDigits_of_lt_base (show n / 16 / 16 < 16 by omega)]
    have e : n / 4096 = 0 ∧ n / 256 % 16 = n / 16 / 16 ∧ n / 16 % 16 = n / 16 % 16 := by omega
    simp [e, hz]
  · rw [hstep n h₁, hstep (n / 16) (by omega), hstep (n / 16 / 16) (by omega),
      Nat.toDigits_of_lt_base (show n / 16 / 16 / 16 < 16 by omega)]
    have e : n / 4096 = n / 16 / 16 / 16 ∧ n / 256 % 16 = n / 16 / 16 % 16 := by omega
    simp [e]

theorem hex4_hexDigits {n : ℕ} (h : n < 0x10000) : hex4 (hexDigits 4 n).toList = some n := by
  rw [hexDigits_four h]
  simp [hex4, hexValue_digitChar _ (show n / 4096 < 16 by omega),
    hexValue_digitChar _ (show n / 256 % 16 < 16 by omega),
    hexValue_digitChar _ (show n / 16 % 16 < 16 by omega), hexValue_digitChar _ (Nat.mod_lt n (by norm_num))]
  omega

theorem length_hexDigits {n : ℕ} (h : n < 0x10000) : (hexDigits 4 n).toList.length = 4 := by
  rw [hexDigits_four h]
  rfl

/-! ## Stand-ins -/

/-- The stand-in of a high surrogate. -/
def HighStandIn (c : Char) : Prop := ∃ n, surrogateOf? c = some n ∧ isHighSurrogate n = true

/-- The stand-in of a low surrogate. -/
def LowStandIn (c : Char) : Prop := ∃ n, surrogateOf? c = some n ∧ isLowSurrogate n = true

/-- Text with no high surrogate's stand-in right before a low one's. -/
def Unpaired (s : String) : Prop := s.toList.IsChain (fun a b => ¬ (HighStandIn a ∧ LowStandIn b))

theorem isHighSurrogate_iff {n : ℕ} : isHighSurrogate n = true ↔ 0xD800 ≤ n ∧ n < 0xDC00 := by
  simp [isHighSurrogate]

theorem isLowSurrogate_iff {n : ℕ} : isLowSurrogate n = true ↔ 0xDC00 ≤ n ∧ n < 0xE000 := by
  simp [isLowSurrogate]

theorem lt_of_isHighSurrogate {n : ℕ} (h : isHighSurrogate n = true) : n < 0x10000 := by
  have := isHighSurrogate_iff.mp h
  omega

theorem lt_of_isLowSurrogate {n : ℕ} (h : isLowSurrogate n = true) : n < 0x10000 := by
  have := isLowSurrogate_iff.mp h
  omega

theorem toNat_valid (c : Char) : c.toNat < 0xD800 ∨ (0xDFFF < c.toNat ∧ c.toNat < 0x110000) :=
  c.valid

theorem ofCodeUnit_of_surrogateOf {c : Char} {n : ℕ} (h : surrogateOf? c = some n) :
    ofCodeUnit n = c ∧ 0xD800 ≤ n ∧ n < 0xE000 := by
  unfold surrogateOf? at h
  unfold standInBase at h
  split_ifs at h with hc
  obtain rfl := Option.some.inj h
  refine ⟨?_, by omega, by omega⟩
  unfold ofCodeUnit standInBase
  rw [if_pos (by omega), show 1112064 + (55296 + (c.toNat - 1112064) - 55296) = c.toNat by omega,
    Char.ofNat_toNat]

theorem surrogateOf_ofCodeUnit {n : ℕ} (h : 0xD800 ≤ n ∧ n < 0xE000) :
    surrogateOf? (ofCodeUnit n) = some n := by
  have hv : (0x10F800 + (n - 0xD800)).isValidChar := by
    unfold Nat.isValidChar
    omega
  have hc : (ofCodeUnit n).toNat = 0x10F800 + (n - 0xD800) := by
    unfold ofCodeUnit standInBase
    rw [if_pos h, Char.toNat_ofNat, if_pos hv]
  unfold surrogateOf? standInBase
  rw [hc, if_pos (by omega)]
  exact congrArg some (by omega)

theorem ofCodeUnit_toNat {c : Char} (h : c.toNat < 0x10000) : ofCodeUnit c.toNat = c := by
  unfold ofCodeUnit
  rw [if_neg (fun hs => by rcases toNat_valid c with hv | hv <;> omega), Char.ofNat_toNat]

/-! ## Escapes -/

theorem toList_unicodeEscape : "\\u".toList = ['\\', 'u'] := by simp

/-- How a character is written in an escaped string: as itself, by a letter escape, by a `\u`
escape of one code unit, or by two for a surrogate pair. -/
inductive Escaped (c : Char) : List Char → Prop
  | plain : c ≠ '"' → c ≠ '\\' → 0x1f < c.toNat → Escaped c [c]
  | letter (e : Char) : e ≠ 'u' → simpleEscape e = some c → Escaped c ['\\', e]
  | unit (m : ℕ) : m < 0x10000 → ofCodeUnit m = c → Escaped c ('\\' :: 'u' :: (hexDigits 4 m).toList)
  | pair (h l : ℕ) : isHighSurrogate h = true → isLowSurrogate l = true →
      Char.ofNat (0x10000 + (h - 0xD800) * 0x400 + (l - 0xDC00)) = c →
      Escaped c ('\\' :: 'u' :: (hexDigits 4 h).toList ++ '\\' :: 'u' :: (hexDigits 4 l).toList)

theorem Escaped.of_pair {c : Char} {h l : ℕ} (hh : isHighSurrogate h = true)
    (hl : isLowSurrogate l = true) (hc : Char.ofNat (0x10000 + (h - 0xD800) * 0x400 + (l - 0xDC00)) = c) :
    Escaped c ("\\u" ++ hexDigits 4 h ++ "\\u" ++ hexDigits 4 l).toList := by
  simp only [String.toList_append, toList_unicodeEscape, List.cons_append, List.nil_append,
    List.append_assoc]
  exact .pair h l hh hl hc

theorem escaped_asciiChar (c : Char) : Escaped c (asciiChar c).toList := by
  unfold asciiChar
  rcases hs : surrogateOf? c with _ | m
  · have hv := toNat_valid c
    simp only
    by_cases h₁ : c = '"'
    · rw [if_pos h₁, h₁]
      exact .letter '"' (by decide) rfl
    rw [if_neg h₁]
    by_cases h₂ : c = '\\'
    · rw [if_pos h₂, h₂]
      exact .letter '\\' (by decide) rfl
    rw [if_neg h₂]
    by_cases h₃ : c = '\n'
    · rw [if_pos h₃, h₃]
      exact .letter 'n' (by decide) rfl
    rw [if_neg h₃]
    by_cases h₄ : c = '\r'
    · rw [if_pos h₄, h₄]
      exact .letter 'r' (by decide) rfl
    rw [if_neg h₄]
    by_cases h₅ : c = '\t'
    · rw [if_pos h₅, h₅]
      exact .letter 't' (by decide) rfl
    rw [if_neg h₅]
    by_cases h₆ : c.toNat = 8
    · rw [if_pos h₆]
      refine .letter 'b' (by decide) ?_
      rw [← Char.ofNat_toNat c, h₆]
      rfl
    rw [if_neg h₆]
    by_cases h₇ : c.toNat = 12
    · rw [if_pos h₇]
      refine .letter 'f' (by decide) ?_
      rw [← Char.ofNat_toNat c, h₇]
      rfl
    rw [if_neg h₇]
    by_cases h₈ : 0x20 ≤ c.toNat ∧ c.toNat < 0x7f
    · rw [if_pos h₈, show c.toString.toList = [c] by simp]
      exact .plain h₁ h₂ (by omega)
    rw [if_neg h₈]
    by_cases h₉ : c.toNat < 0x10000
    · rw [if_pos h₉]
      simp only [String.toList_append, toList_unicodeEscape, List.cons_append,
        List.nil_append]
      exact .unit c.toNat h₉ (ofCodeUnit_toNat h₉)
    rw [if_neg h₉]
    have hlt : c.toNat < 0x110000 := by rcases hv with hv | hv <;> omega
    generalize hw : c.toNat - 0x10000 = w
    have hhigh : isHighSurrogate (0xD800 + w / 0x400) = true := isHighSurrogate_iff.mpr (by omega)
    have hlow : isLowSurrogate (0xDC00 + w % 0x400) = true := isLowSurrogate_iff.mpr (by omega)
    have hjoin : 0x10000 + (0xD800 + w / 0x400 - 0xD800) * 0x400 + (0xDC00 + w % 0x400 - 0xDC00) =
        c.toNat := by
      omega
    exact .of_pair hhigh hlow (by rw [hjoin, Char.ofNat_toNat])
  · obtain ⟨hc, hm₁, hm₂⟩ := ofCodeUnit_of_surrogateOf hs
    simp only [String.toList_append]
    exact .unit m (by omega) hc

theorem Escaped.length_pos {c : Char} {text : List Char} (he : Escaped c text) : 0 < text.length := by
  cases he <;> simp

/-! ## Reading escapes -/

/-- What may follow a high surrogate's escape: if another `\u` escape comes, it is not of a low
surrogate, so the reader does not join the two. -/
def Continues (tail : List Char) : Prop :=
  tail.take 2 = ['\\', 'u'] → ∃ m, hex4 ((tail.drop 2).take 4) = some m ∧ isLowSurrogate m = false

theorem continues_quote (more : List Char) : Continues ('"' :: more) := by
  intro h
  simp at h

theorem take_hexDigits_append {n : ℕ} (hn : n < 0x10000) (tail : List Char) :
    ((hexDigits 4 n).toList ++ tail).take 4 = (hexDigits 4 n).toList :=
  List.take_left' (length_hexDigits hn)

theorem drop_hexDigits_append {n : ℕ} (hn : n < 0x10000) (tail : List Char) :
    ((hexDigits 4 n).toList ++ tail).drop 4 = tail :=
  List.drop_left' (length_hexDigits hn)

theorem continues_escaped {c : Char} {text : List Char} (he : Escaped c text) (hc : ¬ LowStandIn c)
    (rest : List Char) : Continues (text ++ rest) := by
  intro htake
  cases he with
  | plain hq hb _ => simp [hb] at htake
  | letter e he _ => simp [he] at htake
  | unit m hm hcm =>
    refine ⟨m, ?_, ?_⟩
    · simp [take_hexDigits_append hm, hex4_hexDigits hm]
    · by_contra hlow
      rw [Bool.not_eq_false] at hlow
      subst hcm
      have hr := isLowSurrogate_iff.mp hlow
      exact hc ⟨m, surrogateOf_ofCodeUnit (by omega), hlow⟩
  | pair h l hh _ _ =>
    have hlt := lt_of_isHighSurrogate hh
    refine ⟨h, ?_, ?_⟩
    · simp [List.append_assoc, take_hexDigits_append hlt, hex4_hexDigits hlt]
    · rw [Bool.eq_false_iff]
      intro hl
      have := isHighSurrogate_iff.mp hh
      have := isLowSurrogate_iff.mp hl
      omega

theorem readUnicodeEscape_unit {m : ℕ} (hm : m < 0x10000) {tail : List Char} (ht : tail ≠ [])
    (hc : isHighSurrogate m = true → Continues tail) (pos : ℕ) :
    readUnicodeEscape .lenient pos ((hexDigits 4 m).toList ++ tail) = .ok (ofCodeUnit m, tail, pos + 6) := by
  have hlen : ¬ ((hexDigits 4 m).toList ++ tail).length ≤ 4 := by
    rw [List.length_append, length_hexDigits hm]
    have := List.length_pos_iff.mpr ht
    omega
  have hsingle : (if (isHighSurrogate m || isLowSurrogate m) then
      (if Dialect.lenient.loneSurrogates then Except.ok (ofCodeUnit m, tail, pos + 6)
        else .error ⟨.loneSurrogate, pos⟩)
      else Except.ok (Char.ofNat m, tail, pos + 6) : Except ReadFailure (Char × List Char × ℕ)) =
      .ok (ofCodeUnit m, tail, pos + 6) := by
    unfold ofCodeUnit
    by_cases hs : 0xD800 ≤ m ∧ m < 0xE000
    · rw [if_pos (by simp only [Bool.or_eq_true, isHighSurrogate_iff, isLowSurrogate_iff]; omega)]
      rfl
    · rw [if_neg (by simp only [Bool.or_eq_true, isHighSurrogate_iff, isLowSurrogate_iff]; omega),
        if_neg hs]
  unfold readUnicodeEscape
  rw [if_neg hlen, take_hexDigits_append hm, hex4_hexDigits hm]
  simp only [drop_hexDigits_append hm]
  by_cases hlook : (isHighSurrogate m && decide (tail.length > 6) &&
      decide (tail.take 2 = ['\\', 'u'])) = true
  · rw [if_pos hlook]
    simp only [Bool.and_eq_true, decide_eq_true_eq] at hlook
    obtain ⟨m', hm', hlow⟩ := hc hlook.1.1 hlook.2
    rw [hm']
    simp only [hlow, Bool.false_eq_true, if_false]
    exact hsingle
  · rw [if_neg hlook]
    exact hsingle

/-- A surrogate pair's two escapes read back as the pair's character. -/
theorem readUnicodeEscape_pair {h l : ℕ} (hh : isHighSurrogate h = true) (hl : isLowSurrogate l = true)
    {tail : List Char} (ht : tail ≠ []) (pos : ℕ) :
    readUnicodeEscape .lenient pos
        ((hexDigits 4 h).toList ++ '\\' :: 'u' :: ((hexDigits 4 l).toList ++ tail)) =
      .ok (Char.ofNat (0x10000 + (h - 0xD800) * 0x400 + (l - 0xDC00)), tail, pos + 12) := by
  have hh' := lt_of_isHighSurrogate hh
  have hl' := lt_of_isLowSurrogate hl
  have hpos := List.length_pos_iff.mpr ht
  unfold readUnicodeEscape
  rw [if_neg (by simp [length_hexDigits hh']), take_hexDigits_append hh',
    hex4_hexDigits hh', drop_hexDigits_append hh']
  have hlook : (isHighSurrogate h && decide (('\\' :: 'u' :: ((hexDigits 4 l).toList ++ tail)).length > 6) &&
      decide (List.take 2 ('\\' :: 'u' :: ((hexDigits 4 l).toList ++ tail)) = ['\\', 'u'])) = true := by
    simp [hh, length_hexDigits hl']
    omega
  simp only
  rw [if_pos hlook]
  simp [take_hexDigits_append hl', hex4_hexDigits hl', hl, drop_hexDigits_append hl']

/-! ## Reading strings -/

/-- One step of the string reader: an escaped character is read back whatever follows it, except
that a high surrogate's stand-in needs no low surrogate's escape right after it. -/
theorem readStringBody_escaped {c : Char} {text tail : List Char} (he : Escaped c text)
    (ht : tail ≠ []) (hc : HighStandIn c → Continues tail) (start fuel : ℕ) (acc : Array Char)
    (pos : ℕ) :
    readStringBody .lenient start (fuel + 1) acc (text ++ tail) pos =
      readStringBody .lenient start fuel (acc.push c) tail (pos + text.length) := by
  cases he with
  | plain hq hb hctl =>
    simp only [List.singleton_append, readStringBody, if_neg hq, if_neg hb, List.length_singleton]
    rw [if_neg (by omega)]
  | letter e he hs =>
    simp [readStringBody, he, hs]
  | unit m hm hcm =>
    have hc' : isHighSurrogate m = true → Continues tail := by
      intro hh
      have hr := isHighSurrogate_iff.mp hh
      exact hc ⟨m, hcm ▸ surrogateOf_ofCodeUnit (by omega), hh⟩
    simp only [List.cons_append, readStringBody, Char.reduceEq, if_false, if_true,
      readUnicodeEscape_unit hm ht hc', hcm, List.length_cons, length_hexDigits hm]
  | pair h l hh hl hcp =>
    simp only [List.cons_append, List.append_assoc, readStringBody, Char.reduceEq, if_false, if_true,
      readUnicodeEscape_pair hh hl ht, hcp, List.length_cons, List.length_append,
      length_hexDigits (lt_of_isHighSurrogate hh), length_hexDigits (lt_of_isLowSurrogate hl)]

/-- The escaped text of characters, each by `asciiChar`. -/
def asciiChars (l : List Char) : List Char := l.flatMap fun c => (asciiChar c).toList

theorem length_le_asciiChars (l : List Char) : l.length ≤ (asciiChars l).length := by
  induction l with
  | nil => simp [asciiChars]
  | cons c l ih =>
    have := (escaped_asciiChar c).length_pos
    simp only [asciiChars, List.flatMap_cons, List.length_append, List.length_cons] at ih ⊢
    omega

/-- The body of an escaped string reads back as its characters, up to the closing quote, when no
high surrogate's stand-in comes right before a low one's. By induction on the characters: each
step is `readStringBody_escaped`, the next character's escape being what follows. -/
theorem readStringBody_asciiChars (more : List Char) (start : ℕ) :
    ∀ (l : List Char), l.IsChain (fun a b => ¬ (HighStandIn a ∧ LowStandIn b)) →
      ∀ (fuel : ℕ) (acc : Array Char) (pos : ℕ), l.length < fuel →
      readStringBody .lenient start fuel acc (asciiChars l ++ '"' :: more) pos =
        .ok (String.ofList (acc.toList ++ l), more, pos + (asciiChars l).length + 1)
  | [], _, fuel + 1, acc, pos, _ => by simp [asciiChars, readStringBody]
  | c :: l, hl, fuel + 1, acc, pos, hf => by
    have hcont : HighStandIn c → Continues (asciiChars l ++ '"' :: more) := by
      intro hhigh
      cases l with
      | nil => exact continues_quote more
      | cons c' l' =>
        rw [asciiChars, List.flatMap_cons, List.append_assoc]
        exact continues_escaped (escaped_asciiChar c') (fun hlow => (List.isChain_cons_cons.mp hl).1
          ⟨hhigh, hlow⟩) _
    have hstep := readStringBody_escaped (escaped_asciiChar c) (by simp) hcont start fuel acc pos
    rw [asciiChars, List.flatMap_cons, List.append_assoc, ← asciiChars, hstep,
      readStringBody_asciiChars more start l hl.tail fuel (acc.push c) _ (by simpa using hf)]
    simp [asciiChars, Array.toList_push, Nat.add_assoc]

theorem toList_escapeAscii (s : String) : (escapeAscii s).toList = '"' :: asciiChars s.toList ++ ['"'] := by
  simp [escapeAscii, String.toList_join, asciiChars, List.flatMap_map]

theorem length_escapeAscii (s : String) :
    (escapeAscii s).length = (asciiChars s.toList).length + 2 := by
  rw [← String.length_toList, toList_escapeAscii]
  simp

/-- A string written by `escapeAscii` is read back as itself, after its opening quote. -/
theorem readString_escapeAscii {s : String} (hs : Unpaired s) (rest : List Char) (pos : ℕ) :
    readString .lenient pos (asciiChars s.toList ++ '"' :: rest) =
      .ok (s, rest, pos + (escapeAscii s).length) := by
  have hlen := length_escapeAscii s
  unfold readString
  rw [readStringBody_asciiChars rest pos s.toList hs _ #[] (pos + 1)
    (by simp only [List.length_append, List.length_cons]; have := length_le_asciiChars s.toList; omega)]
  simp [hlen]
  omega

/-! ## Heads of compact text -/

/-- A character a value's text may start with: no blank, no closing bracket and no byte-order
mark, so the reader neither skips it, nor ends a container at it, nor refuses the text. -/
def Opens (c : Char) : Prop := isBlank c = false ∧ c ≠ ']' ∧ c ≠ '}' ∧ c ≠ '\uFEFF'

instance (c : Char) : Decidable (Opens c) :=
  inferInstanceAs (Decidable (isBlank c = false ∧ c ≠ ']' ∧ c ≠ '}' ∧ c ≠ '\uFEFF'))

theorem opens_of_isDigit {c : Char} (h : isDigit c = true) : Opens c := by
  have hne : ∀ x, isDigit x = false → c ≠ x := by
    rintro x hx rfl
    rw [h] at hx
    exact absurd hx (by decide)
  refine ⟨?_, hne ']' (by decide), hne '}' (by decide), hne '\uFEFF' (by decide)⟩
  simp [isBlank, hne ' ' (by decide), hne '\t' (by decide), hne '\n' (by decide),
    hne '\r' (by decide)]

theorem NumberToken.opens {t : NumberToken} (ht : t.Plain) : ∃ c cs, t.chars = c :: cs ∧ Opens c := by
  obtain ⟨c, cs, hcs, hc⟩ := NumberToken.chars_lead ht
  refine ⟨c, cs, hcs, ?_⟩
  rcases hc with hd | ⟨rfl, -⟩
  · exact opens_of_isDigit hd
  · decide

/-- The text of a double: `NaN`, a signed infinity, or the characters of a plain number token. -/
theorem write_cases (x : Float) :
    (Decimal.FloatStyle.document.write x).toList = ['N', 'a', 'N'] ∨
      (Decimal.FloatStyle.document.write x).toList = ['I', 'n', 'f', 'i', 'n', 'i', 't', 'y'] ∨
      (Decimal.FloatStyle.document.write x).toList = ['-', 'I', 'n', 'f', 'i', 'n', 'i', 't', 'y'] ∨
      ∃ t : NumberToken, t.Plain ∧ (Decimal.FloatStyle.document.write x).toList = t.chars := by
  unfold Decimal.FloatStyle.write
  by_cases hnan : x.isNaN = true
  · rw [if_pos hnan]
    exact .inl rfl
  rw [if_neg hnan]
  dsimp only
  by_cases hinf : x.isInf = true
  · rw [if_pos hinf]
    cases (Decimal.Binary.ofFloat x).negative
    · exact .inr (.inl rfl)
    · exact .inr (.inr (.inl rfl))
  rw [if_neg hinf]
  simp only [Bool.not_eq_true] at hnan hinf
  obtain ⟨t, ht⟩ := magnitude_token (Decimal.Binary.ofFloat x).negative
    (shortestOf_digits hnan hinf)
  refine .inr (.inr (.inr ⟨t, ht.plain, ?_⟩))
  rw [ht.chars]
  cases (Decimal.Binary.ofFloat x).negative <;> simp

theorem write_opens (x : Float) :
    ∃ c cs, (Decimal.FloatStyle.document.write x).toList = c :: cs ∧ Opens c := by
  rcases write_cases x with h | h | h | ⟨t, ht, h⟩ <;> rw [h]
  · exact ⟨'N', _, rfl, by decide⟩
  · exact ⟨'I', _, rfl, by decide⟩
  · exact ⟨'-', _, rfl, by decide⟩
  · exact NumberToken.opens ht

theorem compact_opens (v : Json) : ∃ c cs, (compact v).toList = c :: cs ∧ Opens c := by
  cases v with
  | null => exact ⟨'n', _, rfl, by decide⟩
  | bool b => cases b
              · exact ⟨'f', _, rfl, by decide⟩
              · exact ⟨'t', _, rfl, by decide⟩
  | int n =>
    rw [compact, compactWith, ← intToken_chars]
    exact NumberToken.opens (intToken_plain n)
  | float x => exact write_opens x
  | str s =>
    refine ⟨'"', asciiChars s.toList ++ ['"'], ?_, by decide⟩
    rw [compact, compactWith, toList_escapeAscii, List.cons_append]
  | arr items =>
    refine ⟨'[', (compactItems escapeAscii items).toList ++ [']'], ?_, by decide⟩
    simp [compact, compactWith]
  | obj fields =>
    refine ⟨'{', (compactFields escapeAscii fields).toList ++ ['}'], ?_, by decide⟩
    simp [compact, compactWith]

theorem skipBlanks_cons {c : Char} (hc : isBlank c = false) (cs : List Char) (pos : ℕ) :
    skipBlanks (c :: cs) pos = (c :: cs, pos) := by
  simp [skipBlanks, hc]

/-! ## Documents the reader gives back -/

mutual

/-- A document the reader gives back from its compact text within `room` nested containers:
integers of at most 4300 digits, strings and keys `Unpaired`, and each object's keys distinct. -/
def Storable : ℕ → Json → Prop
  | _, .null => True
  | _, .bool _ => True
  | _, .int n => Decimal.digitCount n.natAbs ≤ 4300
  | _, .float _ => True
  | _, .str s => Unpaired s
  | 0, .arr _ => False
  | room + 1, .arr items => ItemsStorable room items
  | 0, .obj _ => False
  | room + 1, .obj fields => (fields.map Prod.fst).Nodup ∧ FieldsStorable room fields

/-- Items each `Storable` within `room`. -/
def ItemsStorable (room : ℕ) : List Json → Prop
  | [] => True
  | j :: items => Storable room j ∧ ItemsStorable room items

/-- Members with `Unpaired` keys and values `Storable` within `room`. -/
def FieldsStorable (room : ℕ) : List (String × Json) → Prop
  | [] => True
  | (k, v) :: fields => Unpaired k ∧ Storable room v ∧ FieldsStorable room fields

end

theorem fieldsStorable_iff {room : ℕ} : ∀ fields : List (String × Json),
    FieldsStorable room fields ↔ ∀ f ∈ fields, Unpaired f.1 ∧ f.2.Storable room
  | [] => by simp [FieldsStorable]
  | (k, v) :: fields => by simp [FieldsStorable, fieldsStorable_iff fields, and_assoc]

/-! ## Containers -/

/-- An array whose first item opens at once is read item by item, one level deeper. -/
theorem readValue_array {depth : ℕ} (hd : depth < 970) {c : Char} (hc : Opens c)
    (fuel : ℕ) (cs : List Char) (pos : ℕ) :
    readValue .lenient (fuel + 1) depth ('[' :: c :: cs) pos =
      match readItems .lenient fuel (depth + 1) #[] (c :: cs) (pos + 1) with
      | .ok (items, more, pos') => .ok (.arr items.toList, more, pos')
      | .error f => .error f := by
  rw [readValue]
  simp [Dialect.lenient, skipBlanks_cons hc.1, Nat.not_le.mpr hd]
  split
  · rename_i heq
    exact absurd (List.cons.inj heq).1 hc.2.1
  · rfl

/-- An object whose first member opens at once is read member by member, one level deeper. -/
theorem readValue_object {depth : ℕ} (hd : depth < 970) {c : Char} (hc : Opens c)
    (fuel : ℕ) (cs : List Char) (pos : ℕ) :
    readValue .lenient (fuel + 1) depth ('{' :: c :: cs) pos =
      match readMembers .lenient fuel (depth + 1) [] (c :: cs) (pos + 1) with
      | .ok (fields, more, pos') => .ok (.obj fields, more, pos')
      | .error f => .error f := by
  rw [readValue]
  simp [Dialect.lenient, skipBlanks_cons hc.1, Nat.not_le.mpr hd]
  split
  · rename_i heq
    exact absurd (List.cons.inj heq).1 hc.2.2.1
  · rfl

theorem setField_of_not_mem {fields : List (String × Json)} {k : String}
    (h : k ∉ fields.map Prod.fst) (v : Json) : setField fields k v = fields ++ [(k, v)] := by
  induction fields with
  | nil => rfl
  | cons f fields ih =>
    obtain ⟨k', v'⟩ := f
    simp only [List.map_cons, List.mem_cons, not_or] at h
    simp [setField, Ne.symm h.1, ih h.2]

theorem compactItems_opens (j : Json) (items : List Json) :
    ∃ c cs, (compactItems escapeAscii (j :: items)).toList = c :: cs ∧ Opens c := by
  obtain ⟨c, cs, hcs, hc⟩ := compact_opens j
  cases items with
  | nil => exact ⟨c, cs, hcs, hc⟩
  | cons k items =>
    refine ⟨c, cs ++ ',' :: (compactItems escapeAscii (k :: items)).toList, ?_, hc⟩
    rw [compact] at hcs
    simp [compactItems, hcs]

theorem compactFields_opens (f : String × Json) (fields : List (String × Json)) :
    ∃ cs, (compactFields escapeAscii (f :: fields)).toList = '"' :: cs := by
  obtain ⟨k, v⟩ := f
  cases fields with
  | nil => exact ⟨_, by simp only [compactFields, String.toList_append, toList_escapeAscii]; rfl⟩
  | cons g fields => exact ⟨_, by simp only [compactFields, String.toList_append, toList_escapeAscii]; rfl⟩

theorem follows_comma (cs : List Char) : Follows (',' :: cs) := by
  simp [Follows]

theorem follows_bracket (cs : List Char) : Follows (']' :: cs) := by
  simp [Follows]

theorem follows_brace (cs : List Char) : Follows ('}' :: cs) := by
  simp [Follows]

theorem key_not_mem {acc fields : List (String × Json)} {k : String} {v : Json}
    (h : ((acc ++ (k, v) :: fields).map Prod.fst).Nodup) : k ∉ acc.map Prod.fst := by
  rw [List.map_append, List.map_cons, List.nodup_middle, List.nodup_cons] at h
  exact fun hk => h.1 (List.mem_append_left _ hk)

/-! ## Lengths of compact text -/

theorem length_compact_arr (items : List Json) :
    (compact (.arr items)).length = (compactItems escapeAscii items).length + 2 := by
  simp only [compact, compactWith, String.length_append, show "[".length = 1 from rfl,
    show "]".length = 1 from rfl]
  omega

theorem length_compact_obj (fields : List (String × Json)) :
    (compact (.obj fields)).length = (compactFields escapeAscii fields).length + 2 := by
  simp only [compact, compactWith, String.length_append, show "\x7b".length = 1 from rfl,
    show "\x7d".length = 1 from rfl]
  omega

theorem length_compactItems_cons (j k : Json) (items : List Json) :
    (compactItems escapeAscii (j :: k :: items)).length =
      (compact j).length + 1 + (compactItems escapeAscii (k :: items)).length := by
  simp only [compactItems, compact, String.length_append, show ",".length = 1 from rfl]

theorem length_compactFields_single (k : String) (v : Json) :
    (compactFields escapeAscii [(k, v)]).length = (escapeAscii k).length + 1 + (compact v).length := by
  simp only [compactFields, compact, String.length_append, show ":".length = 1 from rfl]

theorem length_compactFields_cons (k : String) (v : Json) (f : String × Json)
    (fields : List (String × Json)) :
    (compactFields escapeAscii ((k, v) :: f :: fields)).length =
      (escapeAscii k).length + 1 + (compact v).length + 1 +
        (compactFields escapeAscii (f :: fields)).length := by
  simp only [compactFields, compact, String.length_append, show ":".length = 1 from rfl,
    show ",".length = 1 from rfl]

/-! ## Reading compact text, one container step at a time

Each lemma takes what the reader gives on the parts (an array's items, a member's value, the
items or members after it) and gives what it does on the whole. -/

section Opening

variable {depth : ℕ} {rest : List Char} {pos : ℕ}

theorem readValue_array_of_items {items : List Json} (hne : items ≠ []) (hd : depth < 970)
    {fuel : ℕ} (hitems : readItems .lenient fuel (depth + 1) #[]
      ((compactItems escapeAscii items).toList ++ ']' :: rest) (pos + 1) =
        .ok (#[] ++ items.toArray, rest, pos + 1 + (compactItems escapeAscii items).length + 1)) :
    readValue .lenient (fuel + 1) depth ((compact (.arr items)).toList ++ rest) pos =
      .ok (.arr items, rest, pos + (compact (.arr items)).length) := by
  obtain ⟨j, items, rfl⟩ := List.exists_cons_of_ne_nil hne
  obtain ⟨c, cs, hcs, hc⟩ := compactItems_opens j items
  have hlen := length_compact_arr (j :: items)
  have htext : (compact (.arr (j :: items))).toList ++ rest = '[' :: c :: (cs ++ ']' :: rest) := by
    simp [compact, compactWith, hcs]
  rw [hcs, List.cons_append] at hitems
  rw [htext, readValue_array hd hc, hitems, hlen]
  simp
  omega

theorem readValue_object_of_members {fields : List (String × Json)} (hne : fields ≠ [])
    (hd : depth < 970) {fuel : ℕ} (hmembers : readMembers .lenient fuel (depth + 1) []
      ((compactFields escapeAscii fields).toList ++ '}' :: rest) (pos + 1) =
        .ok ([] ++ fields, rest, pos + 1 + (compactFields escapeAscii fields).length + 1)) :
    readValue .lenient (fuel + 1) depth ((compact (.obj fields)).toList ++ rest) pos =
      .ok (.obj fields, rest, pos + (compact (.obj fields)).length) := by
  obtain ⟨f, fields, rfl⟩ := List.exists_cons_of_ne_nil hne
  obtain ⟨cs, hcs⟩ := compactFields_opens f fields
  have hlen := length_compact_obj (f :: fields)
  have htext : (compact (.obj (f :: fields))).toList ++ rest = '{' :: '"' :: (cs ++ '}' :: rest) := by
    simp [compact, compactWith, hcs]
  rw [hcs, List.cons_append] at hmembers
  rw [htext, readValue_object hd (show Opens '"' by decide), hmembers, hlen]
  simp
  omega

end Opening

section Items

variable {depth g : ℕ} {rest : List Char} {pos : ℕ} {acc : Array Json}

theorem readItems_last {j : Json}
    (hj : readValue .lenient (g + 1) depth ((compact j).toList ++ ']' :: rest) pos =
      .ok (j, ']' :: rest, pos + (compact j).length)) :
    readItems .lenient (g + 2) depth acc ((compactItems escapeAscii [j]).toList ++ ']' :: rest) pos =
      .ok (acc ++ [j].toArray, rest, pos + (compactItems escapeAscii [j]).length + 1) := by
  unfold compact at hj
  rw [readItems]
  simp only [compactItems]
  rw [hj]
  simp [skipBlanks, isBlank]

theorem readItems_cons {j k : Json} {items : List Json}
    (hj : readValue .lenient (g + 1) depth
      ((compact j).toList ++ ',' :: ((compactItems escapeAscii (k :: items)).toList ++ ']' :: rest)) pos =
        .ok (j, ',' :: ((compactItems escapeAscii (k :: items)).toList ++ ']' :: rest),
          pos + (compact j).length))
    (hrest : readItems .lenient (g + 1) depth (acc.push j)
      ((compactItems escapeAscii (k :: items)).toList ++ ']' :: rest) (pos + (compact j).length + 1) =
        .ok (acc.push j ++ (k :: items).toArray, rest,
          pos + (compact j).length + 1 + (compactItems escapeAscii (k :: items)).length + 1)) :
    readItems .lenient (g + 2) depth acc
        ((compactItems escapeAscii (j :: k :: items)).toList ++ ']' :: rest) pos =
      .ok (acc ++ (j :: k :: items).toArray, rest,
        pos + (compactItems escapeAscii (j :: k :: items)).length + 1) := by
  have hlen := length_compactItems_cons j k items
  obtain ⟨c, cs, hcs, hc⟩ := compactItems_opens k items
  have htext : (compactItems escapeAscii (j :: k :: items)).toList ++ ']' :: rest =
      (compact j).toList ++ ',' :: ((compactItems escapeAscii (k :: items)).toList ++ ']' :: rest) := by
    simp [compactItems, compact]
  rw [readItems, htext, hj]
  simp only [skipBlanks_cons (c := ',') rfl]
  rw [hcs, List.cons_append] at hrest ⊢
  simp only [skipBlanks_cons hc.1]
  rw [hrest, hlen]
  simp
  omega

end Items

section Members

variable {depth g : ℕ} {rest : List Char} {pos : ℕ} {fields acc : List (String × Json)} {k : String}
  {v : Json}

theorem readMembers_last (hk : Unpaired k) (hnew : k ∉ acc.map Prod.fst)
    (hv : readValue .lenient (g + 1) depth ((compact v).toList ++ '}' :: rest)
      (pos + (escapeAscii k).length + 1) =
        .ok (v, '}' :: rest, pos + (escapeAscii k).length + 1 + (compact v).length)) :
    readMembers .lenient (g + 2) depth acc ((compactFields escapeAscii [(k, v)]).toList ++ '}' :: rest)
        pos =
      .ok (acc ++ [(k, v)], rest, pos + (compactFields escapeAscii [(k, v)]).length + 1) := by
  have hlen := length_compactFields_single k v
  obtain ⟨c, cs, hcv, hc⟩ := compact_opens v
  have htext : (compactFields escapeAscii [(k, v)]).toList ++ '}' :: rest =
      '"' :: (asciiChars k.toList ++ '"' :: ':' :: (c :: (cs ++ '}' :: rest))) := by
    rw [compact] at hcv
    simp [compactFields, toList_escapeAscii, hcv]
  rw [hcv, List.cons_append] at hv
  rw [htext, readMembers]
  simp only [readString_escapeAscii hk, skipBlanks_cons (c := ':') rfl, skipBlanks_cons hc.1, hv,
    skipBlanks_cons (c := '}') rfl]
  rw [setField_of_not_mem hnew, hlen]
  simp only [Nat.add_assoc]

theorem readMembers_cons {g' : String × Json} (hk : Unpaired k) (hnew : k ∉ acc.map Prod.fst)
    (hv : readValue .lenient (g + 1) depth
      ((compact v).toList ++ ',' :: ((compactFields escapeAscii (g' :: fields)).toList ++ '}' :: rest))
        (pos + (escapeAscii k).length + 1) =
      .ok (v, ',' :: ((compactFields escapeAscii (g' :: fields)).toList ++ '}' :: rest),
        pos + (escapeAscii k).length + 1 + (compact v).length))
    (hrest : readMembers .lenient (g + 1) depth (acc ++ [(k, v)])
      ((compactFields escapeAscii (g' :: fields)).toList ++ '}' :: rest)
        (pos + (escapeAscii k).length + 1 + (compact v).length + 1) =
      .ok (acc ++ [(k, v)] ++ g' :: fields, rest,
        pos + (escapeAscii k).length + 1 + (compact v).length + 1 +
          (compactFields escapeAscii (g' :: fields)).length + 1)) :
    readMembers .lenient (g + 2) depth acc
        ((compactFields escapeAscii ((k, v) :: g' :: fields)).toList ++ '}' :: rest) pos =
      .ok (acc ++ (k, v) :: g' :: fields, rest,
        pos + (compactFields escapeAscii ((k, v) :: g' :: fields)).length + 1) := by
  have hlen := length_compactFields_cons k v g' fields
  obtain ⟨c, cs, hcv, hc⟩ := compact_opens v
  obtain ⟨ds, hds⟩ := compactFields_opens g' fields
  have htext : (compactFields escapeAscii ((k, v) :: g' :: fields)).toList ++ '}' :: rest =
      '"' :: (asciiChars k.toList ++ '"' :: ':' :: c :: (cs ++ ',' :: '"' :: (ds ++ '}' :: rest))) := by
    rw [compact] at hcv
    simp [compactFields, toList_escapeAscii, hcv, hds]
  rw [hcv, List.cons_append, hds, List.cons_append] at hv
  rw [hds, List.cons_append] at hrest
  rw [htext, readMembers]
  simp only [readString_escapeAscii hk, skipBlanks_cons (c := ':') rfl, skipBlanks_cons hc.1, hv,
    skipBlanks_cons (c := ',') rfl, skipBlanks_cons (c := '"') rfl]
  rw [setField_of_not_mem hnew, hrest, hlen]
  simp only [List.append_assoc, List.singleton_append, Nat.add_assoc]

end Members

/-! ## Reading compact text -/

mutual

/-- The compact text of a storable document reads back as the document, and the reader moves
past exactly its text. Fuel as large as the text suffices, and the document's containers must fit
in the reader's stack above `depth`. By recursion on the document, through its items and
members. -/
theorem readValue_compact : ∀ (v : Json) (room depth fuel : ℕ) (rest : List Char) (pos : ℕ),
    v.Storable room → depth + room ≤ 970 → (compact v).length ≤ fuel → Follows rest →
    readValue .lenient (fuel + 1) depth ((compact v).toList ++ rest) pos =
      .ok (v, rest, pos + (compact v).length)
  | .null, _, _, _, _, _ => fun _ _ _ _ => by
    simp [compact, compactWith, readValue]
    rfl
  | .bool b, _, _, _, _, _ => fun _ _ _ _ => by
    cases b <;> simp [compact, compactWith, readValue] <;> rfl
  | .int n, _, depth, fuel, _, pos => fun hs _ _ hr => readValue_int hs hr fuel depth pos
  | .float x, _, depth, fuel, _, pos => fun _ _ _ hr => readValue_float x hr fuel depth pos
  | .str s, _, depth, fuel, rest, pos => fun hs _ _ _ => by
    rw [compact, compactWith, toList_escapeAscii]
    simp only [List.cons_append, List.append_assoc]
    simp [readValue, readString_escapeAscii hs]
  | .arr _, 0, _, _, _, _ => fun hs _ _ _ => hs.elim
  | .arr [], room + 1, depth, _, _, _ => fun _ hd _ _ => by
    simp [compact, compactWith, compactItems, readValue, skipBlanks, isBlank, Dialect.lenient,
      show ¬ 970 ≤ depth by omega]
    rfl
  | .arr (j :: items), room + 1, depth, fuel, rest, pos => fun hs hd hf _ => by
    have hlen := length_compact_arr (j :: items)
    exact readValue_array_of_items (List.cons_ne_nil _ _) (by omega)
      (readItems_compact (j :: items) room (depth + 1) fuel rest (pos + 1) #[] (List.cons_ne_nil _ _)
        hs (by omega) (by omega))
  | .obj _, 0, _, _, _, _ => fun hs _ _ _ => hs.elim
  | .obj [], room + 1, depth, _, _, _ => fun _ hd _ _ => by
    simp [compact, compactWith, compactFields, readValue, skipBlanks, isBlank, Dialect.lenient,
      show ¬ 970 ≤ depth by omega]
    rfl
  | .obj (f :: fields), room + 1, depth, fuel, rest, pos => fun hs hd hf _ => by
    have hlen := length_compact_obj (f :: fields)
    exact readValue_object_of_members (List.cons_ne_nil _ _) (by omega)
      (readMembers_compact (f :: fields) room (depth + 1) fuel rest (pos + 1) [] (List.cons_ne_nil _ _)
        hs.2 (by simpa using hs.1) (by omega) (by omega))

/-- The items of a storable array read back after its opening bracket, each in turn. -/
theorem readItems_compact : ∀ (items : List Json) (room depth fuel : ℕ) (rest : List Char)
    (pos : ℕ) (acc : Array Json), items ≠ [] → ItemsStorable room items → depth + room ≤ 970 →
    (compactItems escapeAscii items).length + 2 ≤ fuel →
    readItems .lenient fuel depth acc ((compactItems escapeAscii items).toList ++ ']' :: rest) pos =
      .ok (acc ++ items.toArray, rest, pos + (compactItems escapeAscii items).length + 1)
  | [], _, _, _, _, _, _ => fun hne => absurd rfl hne
  | [j], room, depth, fuel, rest, pos, _ => fun _ hs hd hf => by
    have hlen : (compactItems escapeAscii [j]).length = (compact j).length := rfl
    obtain ⟨g, rfl⟩ : ∃ g, fuel = g + 2 := ⟨fuel - 2, by omega⟩
    exact readItems_last
      (readValue_compact j room depth g (']' :: rest) pos hs.1 hd (by omega) (follows_bracket rest))
  | j :: k :: items, room, depth, fuel, rest, pos, acc => fun _ hs hd hf => by
    have hlen := length_compactItems_cons j k items
    obtain ⟨g, rfl⟩ : ∃ g, fuel = g + 2 := ⟨fuel - 2, by omega⟩
    exact readItems_cons
      (readValue_compact j room depth g _ pos hs.1 hd (by omega) (follows_comma _))
      (readItems_compact (k :: items) room depth (g + 1) rest _ (acc.push j) (List.cons_ne_nil _ _)
        hs.2 hd (by omega))

/-- The members of a storable object read back after its opening brace, each in turn, appended
since their keys are new. -/
theorem readMembers_compact : ∀ (fields : List (String × Json)) (room depth fuel : ℕ)
    (rest : List Char) (pos : ℕ) (acc : List (String × Json)), fields ≠ [] →
    FieldsStorable room fields → ((acc ++ fields).map Prod.fst).Nodup → depth + room ≤ 970 →
    (compactFields escapeAscii fields).length + 2 ≤ fuel →
    readMembers .lenient fuel depth acc ((compactFields escapeAscii fields).toList ++ '}' :: rest) pos =
      .ok (acc ++ fields, rest, pos + (compactFields escapeAscii fields).length + 1)
  | [], _, _, _, _, _, _ => fun hne => absurd rfl hne
  | [(k, v)], room, depth, fuel, rest, pos, _ => fun _ hs hk hd hf => by
    have hlen := length_compactFields_single k v
    obtain ⟨g, rfl⟩ : ∃ g, fuel = g + 2 := ⟨fuel - 2, by omega⟩
    exact readMembers_last hs.1 (key_not_mem hk)
      (readValue_compact v room depth g ('}' :: rest) _ hs.2.1 hd (by omega) (follows_brace rest))
  | (k, v) :: f :: fields, room, depth, fuel, rest, pos, acc => fun _ hs hk hd hf => by
    have hlen := length_compactFields_cons k v f fields
    obtain ⟨g, rfl⟩ : ∃ g, fuel = g + 2 := ⟨fuel - 2, by omega⟩
    exact readMembers_cons hs.1 (key_not_mem hk)
      (readValue_compact v room depth g _ _ hs.2.1 hd (by omega) (follows_comma _))
      (readMembers_compact (f :: fields) room depth (g + 1) rest _ (acc ++ [(k, v)])
        (List.cons_ne_nil _ _) hs.2.2 (by simpa using hk) hd (by omega))

end

/-- A storable document's compact text reads back as the document. -/
theorem readText_compact {v : Json} (hv : v.Storable 970) : readText .lenient (compact v) = .ok v := by
  obtain ⟨c, cs, hcs, hc⟩ := compact_opens v
  have hlen : (compact v).length = cs.length + 1 := by
    rw [← String.length_toList, hcs, List.length_cons]
  have hread := readValue_compact v 970 0 (2 * (compact v).length + 1) [] 0 hv (by omega) (by omega)
    (by simp [Follows])
  rw [List.append_nil, hcs] at hread
  unfold readText
  rw [hcs]
  split
  · rename_i heq
    exact absurd (List.cons.inj heq).1 hc.2.2.2
  · unfold readChars
    rw [skipBlanks_cons hc.1, List.length_cons, show 2 * (cs.length + 1) + 2 =
      2 * (compact v).length + 1 + 1 by rw [hlen]]
    simp [hread, skipBlanks]

/-! ## Compact text is one line -/

theorem digitChar_ne_newline : ∀ d < 16, Nat.digitChar d ≠ '\n' := by decide

theorem newline_not_mem_hexDigits {n : ℕ} (hn : n < 0x10000) : '\n' ∉ (hexDigits 4 n).toList := by
  rw [hexDigits_four hn]
  simp only [List.mem_cons, List.not_mem_nil, or_false, not_or]
  exact ⟨(digitChar_ne_newline _ (by omega)).symm, (digitChar_ne_newline _ (by omega)).symm,
    (digitChar_ne_newline _ (by omega)).symm, (digitChar_ne_newline _ (Nat.mod_lt n (by norm_num))).symm⟩

theorem Escaped.newline_not_mem {c : Char} {text : List Char} (he : Escaped c text) :
    '\n' ∉ text := by
  cases he with
  | plain _ _ hctl =>
    rintro h
    rw [List.mem_singleton] at h
    subst h
    exact absurd hctl (by decide)
  | letter e _ hs =>
    rintro h
    simp only [List.mem_cons, List.not_mem_nil, or_false] at h
    rcases h with h | rfl
    · exact absurd h (by decide)
    · simp [simpleEscape] at hs
  | unit m hm _ => simp [newline_not_mem_hexDigits hm]
  | pair h l hh hl _ =>
    simp [newline_not_mem_hexDigits (lt_of_isHighSurrogate hh),
      newline_not_mem_hexDigits (lt_of_isLowSurrogate hl)]

theorem newline_not_mem_asciiChars (l : List Char) : '\n' ∉ asciiChars l := by
  simp only [asciiChars, List.mem_flatMap, not_exists, not_and]
  exact fun c _ => (escaped_asciiChar c).newline_not_mem

theorem NumberToken.newline_not_mem {t : NumberToken} (ht : t.Plain) : '\n' ∉ t.chars := by
  have hd : isDigit '\n' = false := by decide
  obtain ⟨neg, whole, frac, exp⟩ := t
  intro h
  simp only [chars, List.mem_append] at h
  rcases h with ((h | h) | h) | h
  · cases neg <;> simp at h
  · exact absurd (ht.whole_digits _ h) (by simp [hd])
  · rcases frac with _ | f
    · simp at h
    · simp only [List.mem_cons, Char.reduceEq, false_or] at h
      exact absurd ((ht.fraction f rfl).2 _ h) (by simp [hd])
  · rcases exp with _ | ⟨eneg, esw, ed⟩
    · simp at h
    · simp only [List.mem_cons, Char.reduceEq, false_or] at h
      rcases h with h | h
      · cases eneg <;> simp at h
      · exact absurd ((ht.exponent _ rfl).2.2 _ h) (by simp [hd])

mutual

/-- The compact text of a document has no line break, so documents can be written one per line. -/
theorem newline_not_mem_compact : ∀ v : Json, '\n' ∉ (compact v).toList
  | .null => by
    rw [show (compact .null).toList = ['n', 'u', 'l', 'l'] from rfl]
    decide
  | .bool b => by
    cases b
    · rw [show (compact (.bool false)).toList = ['f', 'a', 'l', 's', 'e'] from rfl]
      decide
    · rw [show (compact (.bool true)).toList = ['t', 'r', 'u', 'e'] from rfl]
      decide
  | .int n => by
    rw [compact, compactWith, ← intToken_chars]
    exact NumberToken.newline_not_mem (intToken_plain n)
  | .float x => by
    rcases write_cases x with h | h | h | ⟨t, ht, h⟩ <;> rw [compact, compactWith, h]
    · decide
    · decide
    · decide
    · exact NumberToken.newline_not_mem ht
  | .str s => by
    rw [compact, compactWith, toList_escapeAscii]
    simp [newline_not_mem_asciiChars]
  | .arr items => by
    have h := newline_not_mem_compactItems items
    simp only [compact, compactWith, String.toList_append] at h ⊢
    simp [h]
  | .obj fields => by
    have h := newline_not_mem_compactFields fields
    simp only [compact, compactWith, String.toList_append] at h ⊢
    simp [h]

theorem newline_not_mem_compactItems : ∀ items : List Json,
    '\n' ∉ (compactItems escapeAscii items).toList
  | [] => by simp [compactItems]
  | [j] => newline_not_mem_compact j
  | j :: k :: items => by
    have hj := newline_not_mem_compact j
    have hrest := newline_not_mem_compactItems (k :: items)
    rw [compact] at hj
    simp only [compactItems, String.toList_append, List.mem_append, not_or] at hrest ⊢
    exact ⟨⟨hj, by decide⟩, hrest⟩

theorem newline_not_mem_compactFields : ∀ fields : List (String × Json),
    '\n' ∉ (compactFields escapeAscii fields).toList
  | [] => by simp [compactFields]
  | [(k, v)] => by
    have hv := newline_not_mem_compact v
    rw [compact] at hv
    simp only [compactFields, String.toList_append, List.mem_append, not_or, toList_escapeAscii]
    simp [hv, newline_not_mem_asciiChars]
  | (k, v) :: f :: fields => by
    have hv := newline_not_mem_compact v
    have hrest := newline_not_mem_compactFields (f :: fields)
    rw [compact] at hv
    simp only [compactFields, String.toList_append, List.mem_append, not_or, toList_escapeAscii]
      at hrest ⊢
    simp [hv, hrest, newline_not_mem_asciiChars]

end

end StatementClient.Json
