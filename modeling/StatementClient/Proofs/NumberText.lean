import Mathlib
import StatementClient.Json.Compact
import StatementClient.Json.Reader
import StatementClient.Proofs.ShortestDigits

/-!
# Numbers read back from their text

A number in a document is a token: a sign, the digits before the point, the digits after it, an
exponent. `NumberToken.chars` writes a token, and `scanNumber` reads a written token back when it
is well formed (`NumberToken.Plain`: no leading zero, no empty run) and the text after it cannot
continue it (`Follows`: nothing, a comma or a closing bracket), which is where a compact document
puts its numbers (`scanNumber_chars`, read in the reader's three stages: `scanNumber_whole`,
`fractionPart_digits`, `exponentPart_written`). A token read back gives its value, and the reader moves
past exactly its characters (`readValue_number`).

Every number the compact writer prints is such a token. An integer is its sign and digits
(`intToken`); a double in the document style is one of four shapes, chosen by the position of
its decimal point (`magnitude_token`), and its token denotes the printed shortest digits, which
read back as the double (`nearest_shortestOf`). The words `NaN`, `Infinity` and `-Infinity` are
read as the canonical NaN and the infinities. So every integer of at most 4300 digits reads back
as itself (`readValue_int`), and so does every double (`readValue_float`).
-/

namespace StatementClient.Json

/-! ## Digit runs -/

theorem isDigit_of_mem_toDigits {n : ℕ} {c : Char} (h : c ∈ Nat.toDigits 10 n) :
    isDigit c = true := by
  have hc := Nat.isDigit_of_mem_toDigits (by norm_num) (by norm_num) h
  unfold isDigit
  simp only [Char.isDigit] at hc
  simpa [Char.le_def] using hc

theorem isDigit_of_mem_replicate {k : ℕ} {c : Char} (h : c ∈ List.replicate k '0') :
    isDigit c = true := by
  rw [List.eq_of_mem_replicate h]
  decide

theorem toDigits_lead {n : ℕ} (hn : 0 < n) : ∃ c w, Nat.toDigits 10 n = c :: w ∧ c ≠ '0' := by
  induction n using Nat.strong_induction_on with
  | _ n ih =>
    rcases Nat.lt_or_ge n 10 with hlt | hge
    · have hne : ∀ d < 10, 0 < d → Nat.digitChar d ≠ '0' := by decide
      exact ⟨_, [], Nat.toDigits_of_lt_base hlt, hne n hlt hn⟩
    · obtain ⟨c, w, hw, hc⟩ := ih (n / 10) (by omega) (by omega)
      refine ⟨c, w ++ [(n % 10).digitChar], ?_, hc⟩
      rw [Nat.toDigits_of_base_le (by norm_num) hge, hw, List.cons_append]

section Runs

variable {w tail : List Char} (hw : ∀ c ∈ w, isDigit c = true)
include hw

theorem takeWhile_isDigit_append (ht : tail.head?.all (fun c => !isDigit c) = true) :
    (w ++ tail).takeWhile isDigit = w := by
  induction w with
  | nil => cases tail <;> simp_all
  | cons c w ih => simp_all

theorem dropWhile_isDigit_append (ht : tail.head?.all (fun c => !isDigit c) = true) :
    (w ++ tail).dropWhile isDigit = tail := by
  induction w with
  | nil => cases tail <;> simp_all
  | cons c w ih => simp_all

theorem exists_cons_of_digits (hne : w ≠ []) :
    ∃ c cs, w = c :: cs ∧ isDigit c = true ∧ ∀ x ∈ cs, isDigit x = true := by
  obtain ⟨c, cs, rfl⟩ := List.exists_cons_of_ne_nil hne
  exact ⟨c, cs, rfl, List.forall_mem_cons.1 hw⟩

end Runs

theorem digitsValue_eq (ds : List Char) : digitsValue ds = Nat.ofDigitChars 10 ds 0 := by
  rw [Nat.ofDigitChars_eq_foldl]
  rfl

@[simp]
theorem digitsValue_toDigits (n : ℕ) : digitsValue (Nat.toDigits 10 n) = n := by
  rw [digitsValue_eq, Nat.ofDigitChars_ten_toDigits]

theorem digitsValue_zeros_append (k : ℕ) (ds : List Char) :
    digitsValue (List.replicate k '0' ++ ds) = digitsValue ds := by
  rw [digitsValue_eq, digitsValue_eq, Nat.ofDigitChars_append, Nat.ofDigitChars_replicate_zero]
  simp

theorem digitsValue_append_zeros (ds : List Char) (k : ℕ) :
    digitsValue (ds ++ List.replicate k '0') = 10 ^ k * digitsValue ds := by
  rw [digitsValue_eq, digitsValue_eq, Nat.ofDigitChars_append, Nat.ofDigitChars_replicate_zero]

/-! ## Number tokens -/

/-- The characters of a number token, its exponent written with a sign. -/
def NumberToken.chars (t : NumberToken) : List Char :=
  (if t.negative then ['-'] else []) ++ t.whole ++
    (match t.fraction with | some f => '.' :: f | none => []) ++
    (match t.exponent with
     | some e => 'e' :: (if e.negative then '-' else '+') :: e.digits
     | none => [])

/-- A token as a writer prints it: digit runs that are not empty, no leading zero before the
point, and an exponent with its sign. -/
structure NumberToken.Plain (t : NumberToken) : Prop where
  whole_digits : ∀ c ∈ t.whole, isDigit c = true
  whole_lead : t.whole = ['0'] ∨ ∃ c w, t.whole = c :: w ∧ c ≠ '0'
  fraction : ∀ f, t.fraction = some f → f ≠ [] ∧ ∀ c ∈ f, isDigit c = true
  exponent : ∀ e, t.exponent = some e →
    e.signWritten = true ∧ e.digits ≠ [] ∧ ∀ c ∈ e.digits, isDigit c = true

/-- What may follow a value in compact text: nothing, a comma or a closing bracket. -/
def Follows (rest : List Char) : Prop :=
  ∀ c ∈ rest.head?, c = ',' ∨ c = ']' ∨ c = '}'

theorem NumberToken.length_chars {t : NumberToken} (ht : t.Plain) : t.chars.length = t.length := by
  obtain ⟨neg, whole, frac, exp⟩ := t
  rcases exp with _ | ⟨eneg, esw, ed⟩
  · rcases frac with _ | f <;> cases neg <;> simp [chars, length] <;> omega
  · obtain ⟨rfl, -⟩ := ht.exponent _ rfl
    rcases frac with _ | f <;> cases neg <;> cases eneg <;> simp [chars, length] <;> omega

/-- The fraction `scanNumber` reads after the whole part, and the text it leaves. -/
def fractionPart (rest : List Char) : Option (List Char) × List Char :=
  match rest with
  | '.' :: c :: more =>
    if isDigit c then (some (c :: more.takeWhile isDigit), more.dropWhile isDigit) else (none, rest)
  | _ => (none, rest)

/-- The exponent `scanNumber` reads after the fraction. -/
def exponentPart (rest : List Char) : Option ExponentToken :=
  match rest with
  | e :: more => if e = 'e' || e = 'E' then scanExponent more else none
  | [] => none

theorem Follows.head_not_digit {rest : List Char} (hr : Follows rest) :
    rest.head?.all (fun c => !isDigit c) = true := by
  rcases rest with _ | ⟨c, rs⟩
  · rfl
  · obtain rfl | rfl | rfl := hr c rfl <;> rfl

theorem Follows.head_ne_point {rest : List Char} (hr : Follows rest) : rest.head? ≠ some '.' := by
  rcases rest with _ | ⟨c, rs⟩
  · simp
  · obtain rfl | rfl | rfl := hr c rfl <;> simp

/-- After a sign and a whole part, followed by no digit, `scanNumber` goes on to the fraction and
the exponent. -/
theorem scanNumber_whole (neg : Bool) {whole tail : List Char}
    (hwd : ∀ c ∈ whole, isDigit c = true) (hlead : whole = ['0'] ∨ ∃ c w, whole = c :: w ∧ c ≠ '0')
    (ht : tail.head?.all (fun c => !isDigit c) = true) :
    scanNumber ((if neg then ['-'] else []) ++ (whole ++ tail)) =
      some ⟨neg, whole, (fractionPart tail).1, exponentPart (fractionPart tail).2⟩ := by
  rcases hlead with rfl | ⟨c, w, rfl, hc⟩
  · cases neg <;> rfl
  have hd : isDigit c = true := hwd c List.mem_cons_self
  have hcm : c ≠ '-' := by rintro rfl; exact absurd hd (by decide)
  have htake := takeWhile_isDigit_append hwd ht
  have hdrop := dropWhile_isDigit_append hwd ht
  rw [List.cons_append] at htake hdrop ⊢
  cases neg
  · simp only [Bool.false_eq_true, ↓reduceIte, List.nil_append]
    simp only [scanNumber, List.cons.injEq, hcm, false_and, imp_self, implies_true, hd,
      ↓reduceIte, htake, hdrop]
    rfl
  · simp only [↓reduceIte, List.singleton_append]
    simp only [scanNumber, hd, ↓reduceIte, htake, hdrop]
    rfl

theorem fractionPart_none {tail : List Char} (h : tail.head? ≠ some '.') :
    fractionPart tail = (none, tail) := by
  rcases tail with _ | ⟨c, _ | ⟨c', more⟩⟩
  · rfl
  · simp [fractionPart]
  · have hc : c ≠ '.' := fun hc => h (by rw [hc]; rfl)
    simp [fractionPart, hc]

/-- A point and a digit run, followed by no digit, is the fraction. -/
theorem fractionPart_digits {f tail : List Char} (hne : f ≠ []) (hf : ∀ c ∈ f, isDigit c = true)
    (ht : tail.head?.all (fun c => !isDigit c) = true) :
    fractionPart ('.' :: (f ++ tail)) = (some f, tail) := by
  obtain ⟨f0, fs, rfl, hf0, hfs⟩ := exists_cons_of_digits hf hne
  simp [fractionPart, hf0, takeWhile_isDigit_append hfs ht, dropWhile_isDigit_append hfs ht]

theorem exponentPart_follows {rest : List Char} (hr : Follows rest) : exponentPart rest = none := by
  rcases rest with _ | ⟨c, rs⟩
  · rfl
  · obtain rfl | rfl | rfl := hr c rfl <;> rfl

/-- An exponent written with its sign, followed by what may follow a value, is read back. -/
theorem exponentPart_written {e : ExponentToken} (hsw : e.signWritten = true) (hne : e.digits ≠ [])
    (hd : ∀ c ∈ e.digits, isDigit c = true) {rest : List Char} (hr : Follows rest) :
    exponentPart ('e' :: (if e.negative then '-' else '+') :: (e.digits ++ rest)) = some e := by
  obtain ⟨neg, sw, ds⟩ := e
  simp only at hsw hne hd
  subst hsw
  obtain ⟨d0, ds, rfl, hd0, hds⟩ := exists_cons_of_digits hd hne
  cases neg <;> simp [exponentPart, scanExponent, hd0, takeWhile_isDigit_append hds hr.head_not_digit]

/-- A written token, followed by what may follow a value, is read back: its whole part, then its
fraction, then its exponent. -/
theorem scanNumber_chars {t : NumberToken} (ht : t.Plain) {rest : List Char} (hr : Follows rest) :
    scanNumber (t.chars ++ rest) = some t := by
  obtain ⟨neg, whole, frac, exp⟩ := t
  obtain ⟨hwd, hlead, hfrac, hexp⟩ := ht
  simp only at hwd hlead hfrac hexp
  rcases frac with _ | f <;> rcases exp with _ | e <;>
    simp only [NumberToken.chars, List.append_nil, List.append_assoc, List.cons_append]
  · -- the whole part alone
    rw [scanNumber_whole neg hwd hlead hr.head_not_digit, fractionPart_none hr.head_ne_point,
      exponentPart_follows hr]
  · -- the whole part and an exponent
    obtain ⟨hsw, hne, hd⟩ := hexp e rfl
    rw [scanNumber_whole neg hwd hlead rfl, fractionPart_none (by simp),
      exponentPart_written hsw hne hd hr]
  · -- the whole part and a fraction
    obtain ⟨hne, hd⟩ := hfrac f rfl
    rw [scanNumber_whole neg hwd hlead rfl, fractionPart_digits hne hd hr.head_not_digit,
      exponentPart_follows hr]
  · -- all three
    obtain ⟨hne, hd⟩ := hfrac f rfl
    obtain ⟨hsw, hne', hd'⟩ := hexp e rfl
    rw [scanNumber_whole neg hwd hlead rfl, fractionPart_digits hne hd rfl,
      exponentPart_written hsw hne' hd' hr]

theorem NumberToken.chars_lead {t : NumberToken} (ht : t.Plain) :
    ∃ c cs, t.chars = c :: cs ∧
      (isDigit c = true ∨ c = '-' ∧ ∃ c' cs', cs = c' :: cs' ∧ isDigit c' = true) := by
  obtain ⟨w0, ws, hw⟩ : ∃ w0 ws, t.whole = w0 :: ws := by
    rcases ht.whole_lead with h | ⟨c, w, h, -⟩
    · exact ⟨'0', [], h⟩
    · exact ⟨c, w, h⟩
  have hw0 : isDigit w0 = true := ht.whole_digits w0 (by simp [hw])
  unfold chars
  rw [hw]
  cases hn : t.negative
  · simp only [Bool.false_eq_true, ↓reduceIte, List.nil_append, List.cons_append]
    exact ⟨w0, _, rfl, .inl hw0⟩
  · simp only [↓reduceIte, List.cons_append, List.nil_append]
    exact ⟨'-', _, rfl, .inr ⟨rfl, w0, _, rfl, hw0⟩⟩

/-- A written token is read as its value, and the reader moves past exactly its characters. -/
theorem readValue_number {t : NumberToken} (ht : t.Plain) {rest : List Char} (hr : Follows rest)
    {pos : ℕ} {v : Json} (hv : t.value .lenient pos = .ok v) (fuel depth : ℕ) :
    readValue .lenient (fuel + 1) depth (t.chars ++ rest) pos = .ok (v, rest, pos + t.length) := by
  have hscan := scanNumber_chars ht hr
  have hdrop : (t.chars ++ rest).drop t.length = rest := by
    rw [← NumberToken.length_chars ht, List.drop_left]
  obtain ⟨c, cs, hcs, hc⟩ := NumberToken.chars_lead ht
  rw [hcs, List.cons_append] at hscan hdrop ⊢
  have hne : ∀ x, isDigit x = false → x ≠ '-' → c ≠ x := by
    rintro x hx hxm rfl
    rcases hc with hd | ⟨rfl, -⟩
    · rw [hd] at hx
      exact absurd hx (by decide)
    · exact hxm rfl
  have hword : wordValue (c :: (cs ++ rest)) = none := by
    have hI : c ≠ 'I' := hne 'I' (by decide) (by decide)
    have hN : c ≠ 'N' := hne 'N' (by decide) (by decide)
    unfold wordValue
    rw [show "Infinity".toList = ['I', 'n', 'f', 'i', 'n', 'i', 't', 'y'] from rfl,
      show "-Infinity".toList = ['-', 'I', 'n', 'f', 'i', 'n', 'i', 't', 'y'] from rfl]
    rcases hc with hd | ⟨rfl, c', cs', rfl, hd'⟩
    · have hm : c ≠ '-' := by
        rintro rfl
        exact absurd hd (by decide)
      simp [hI, hN, hm]
    · have hI' : c' ≠ 'I' := by rintro rfl; exact absurd hd' (by decide)
      simp [hI']
  unfold readValue
  simp [hne '"' (by decide) (by decide), hne '{' (by decide) (by decide),
    hne '[' (by decide) (by decide), hne 'n' (by decide) (by decide),
    hne 't' (by decide) (by decide), hne 'f' (by decide) (by decide), hword, hscan, hv, hdrop]

/-- The significand a token denotes: its digits before and after the point. -/
def NumberToken.mantissa (t : NumberToken) : ℕ := digitsValue (t.whole ++ t.fraction.getD [])

/-- The power of ten a token's significand is scaled by: its exponent, less its fraction digits. -/
def NumberToken.scale (t : NumberToken) : ℤ :=
  (match t.exponent with
   | some e => if e.negative then -(digitsValue e.digits : ℤ) else (digitsValue e.digits : ℤ)
   | none => 0) - ((t.fraction.getD []).length : ℤ)

theorem NumberToken.value_float {t : NumberToken} (h : t.fraction.isSome ∨ t.exponent.isSome)
    (pos : ℕ) : t.value .lenient pos = .ok (.float (Decimal.nearest t.negative t.mantissa t.scale)) := by
  obtain ⟨neg, whole, frac, exp⟩ := t
  rcases frac with _ | f <;> rcases exp with _ | e
  · simp at h
  all_goals simp [value, Dialect.lenient, mantissa, scale]

/-! ## Integers -/

/-- The token of an integer: its sign and the digits of its magnitude. -/
def intToken (n : ℤ) : NumberToken := ⟨decide (n < 0), Nat.toDigits 10 n.natAbs, none, none⟩

theorem intToken_plain (n : ℤ) : (intToken n).Plain where
  whole_digits _ hc := isDigit_of_mem_toDigits hc
  whole_lead := by
    rcases Nat.eq_zero_or_pos n.natAbs with h0 | hpos
    · exact .inl (by simp [intToken, h0, Nat.toDigits_zero])
    · exact .inr (toDigits_lead hpos)
  fraction _ h := by simp [intToken] at h
  exponent _ h := by simp [intToken] at h

theorem intToken_chars (n : ℤ) : (intToken n).chars = (toString n).toList := by
  cases n with
  | ofNat m =>
    show _ = (toString m).toList
    simp [intToken, NumberToken.chars]
  | negSucc m =>
    show _ = ("-" ++ toString (m + 1)).toList
    simp [intToken, NumberToken.chars, Int.natAbs_negSucc]

theorem intToken_value {n : ℤ} (h : Decimal.digitCount n.natAbs ≤ 4300) (pos : ℕ) :
    (intToken n).value .lenient pos = .ok (.int n) := by
  have hsign : (if decide (n < 0) = true then -(n.natAbs : ℤ) else (n.natAbs : ℤ)) = n := by
    split_ifs with hn <;> simp at hn <;> omega
  unfold Decimal.digitCount at h
  simp only [NumberToken.value, intToken, Dialect.lenient, Option.any_none, Bool.false_eq_true,
    ↓reduceIte, digitsValue_toDigits, gt_iff_lt, not_lt.2 h, hsign]

theorem readValue_int {n : ℤ} (h : Decimal.digitCount n.natAbs ≤ 4300) {rest : List Char}
    (hr : Follows rest) (fuel depth pos : ℕ) :
    readValue .lenient (fuel + 1) depth ((toString n).toList ++ rest) pos =
      .ok (.int n, rest, pos + (toString n).length) := by
  rw [← intToken_chars, readValue_number (intToken_plain n) hr (intToken_value h pos),
    ← NumberToken.length_chars (intToken_plain n), intToken_chars, String.length_toList]

/-! ## Doubles -/

/-- Token `t` is how the magnitude of digits `d` is printed with sign `neg` as `text`: well formed,
with a point or an exponent, and denoting the digits. -/
structure NumberToken.Prints (t : NumberToken) (neg : Bool) (d : Decimal.Digits)
    (text : List Char) : Prop where
  plain : t.Plain
  negative : t.negative = neg
  float : t.fraction.isSome ∨ t.exponent.isSome
  chars : t.chars = text
  denotes : (t.mantissa : ℚ) * 10 ^ t.scale = d.value

section Magnitude

open Decimal

variable {d : Digits} (neg : Bool)

theorem toString_digits_toList : (toString d.digits).toList = Nat.toDigits 10 d.digits := by
  rw [Nat.toString_eq_ofList_toDigits, String.toList_ofList]

theorem pointPosition_eq : d.pointPosition = ((Nat.toDigits 10 d.digits).length : ℤ) + d.scale := rfl

theorem prints_leadingZeros (hp : d.pointPosition ≤ 0) :
    (⟨neg, ['0'], some (List.replicate (-d.pointPosition).toNat '0' ++ Nat.toDigits 10 d.digits),
      none⟩ : NumberToken).Prints neg d
      ((if neg then ['-'] else []) ++ ("0." ++ zeros (-d.pointPosition).toNat ++ toString d.digits).toList) where
  plain := by
    refine ⟨fun c hc => by simp only [List.mem_singleton] at hc; subst hc; decide, .inl rfl, ?_, by simp⟩
    rintro f ⟨⟩
    refine ⟨by simp [Nat.toDigits_ne_nil], fun c hc => ?_⟩
    rcases List.mem_append.1 hc with hc | hc
    · exact isDigit_of_mem_replicate hc
    · exact isDigit_of_mem_toDigits hc
  negative := rfl
  float := .inl rfl
  chars := by
    cases neg <;> simp [NumberToken.chars, zeros, show "0.".toList = ['0', '.'] from rfl]
  denotes := by
    have hz : ['0'] ++ (List.replicate (-d.pointPosition).toNat '0' ++ Nat.toDigits 10 d.digits) =
        List.replicate ((-d.pointPosition).toNat + 1) '0' ++ Nat.toDigits 10 d.digits := by
      simp [List.replicate_succ]
    simp only [NumberToken.mantissa, NumberToken.scale, Option.getD_some, hz, digitsValue_zeros_append,
      digitsValue_toDigits, Digits.value]
    congr 2
    rw [pointPosition_eq] at hp ⊢
    simp only [List.length_append, List.length_replicate]
    omega

theorem prints_point (hp : 0 < d.pointPosition)
    (hn : d.pointPosition.toNat < (Nat.toDigits 10 d.digits).length) (hd : 0 < d.digits) :
    (⟨neg, (Nat.toDigits 10 d.digits).take d.pointPosition.toNat,
      some ((Nat.toDigits 10 d.digits).drop d.pointPosition.toNat), none⟩ : NumberToken).Prints neg d
      ((if neg then ['-'] else []) ++ (String.ofList ((toString d.digits).toList.take d.pointPosition.toNat) ++
        "." ++ String.ofList ((toString d.digits).toList.drop d.pointPosition.toNat)).toList) where
  plain := by
    obtain ⟨c, w, hcw, hc⟩ := toDigits_lead hd
    refine ⟨fun x hx => isDigit_of_mem_toDigits (List.mem_of_mem_take hx), .inr ?_, ?_, by simp⟩
    · obtain ⟨k, hk⟩ : ∃ k, d.pointPosition.toNat = k + 1 := ⟨d.pointPosition.toNat - 1, by omega⟩
      exact ⟨c, w.take k, by rw [hcw, hk, List.take_succ_cons], hc⟩
    · rintro f ⟨⟩
      refine ⟨by simp; omega, fun x hx => isDigit_of_mem_toDigits (List.mem_of_mem_drop hx)⟩
  negative := rfl
  float := .inl rfl
  chars := by
    cases neg <;> simp [NumberToken.chars]
  denotes := by
    simp only [NumberToken.mantissa, NumberToken.scale, Option.getD_some, List.take_append_drop,
      digitsValue_toDigits, Digits.value, List.length_drop]
    congr 2
    rw [pointPosition_eq] at hp hn ⊢
    omega

theorem prints_trailingZeros (hp : 0 < d.pointPosition)
    (hn : (Nat.toDigits 10 d.digits).length ≤ d.pointPosition.toNat) (hd : 0 < d.digits ∨ d = ⟨0, 0⟩) :
    (⟨neg, Nat.toDigits 10 d.digits ++
      List.replicate (d.pointPosition.toNat - (Nat.toDigits 10 d.digits).length) '0', some ['0'], none⟩ :
      NumberToken).Prints neg d
      ((if neg then ['-'] else []) ++ (toString d.digits ++
        zeros (d.pointPosition.toNat - (toString d.digits).length) ++ ".0").toList) where
  plain := by
    refine ⟨fun x hx => ?_, ?_, ?_, by simp⟩
    · rcases List.mem_append.1 hx with hx | hx
      · exact isDigit_of_mem_toDigits hx
      · exact isDigit_of_mem_replicate hx
    · rcases hd with hd | rfl
      · obtain ⟨c, w, hcw, hc⟩ := toDigits_lead hd
        exact .inr ⟨c, _, by rw [hcw, List.cons_append], hc⟩
      · exact .inl (by simp [Digits.pointPosition, digitCount, Nat.toDigits_zero])
    · rintro f ⟨⟩
      exact ⟨by simp, fun c hc => by simp only [List.mem_singleton] at hc; subst hc; decide⟩
  negative := rfl
  float := .inl rfl
  chars := by
    have hlen : d.digits.repr.length = (Nat.toDigits 10 d.digits).length := by
      rw [← String.length_toList, Nat.toList_repr]
    cases neg <;> simp [NumberToken.chars, zeros, hlen, show ".0".toList = ['.', '0'] from rfl]
  denotes := by
    obtain ⟨k, hk⟩ : ∃ k : ℕ, d.pointPosition.toNat - (Nat.toDigits 10 d.digits).length = k := ⟨_, rfl⟩
    have hz : Nat.toDigits 10 d.digits ++ List.replicate k '0' ++ ['0'] =
        Nat.toDigits 10 d.digits ++ List.replicate (k + 1) '0' := by
      simp [List.replicate_succ']
    have hs : d.scale = k := by
      rw [pointPosition_eq] at hp hn hk
      omega
    simp only [NumberToken.mantissa, NumberToken.scale, Option.getD_some, hk, hz,
      digitsValue_append_zeros, digitsValue_toDigits, Digits.value, hs, List.length_singleton]
    push_cast
    rw [zpow_neg_one, pow_succ, zpow_natCast]
    field_simp

theorem padded_exponent (m : ℕ) :
    (padded 2 m).toList = List.replicate (2 - (Nat.toDigits 10 m).length) '0' ++ Nat.toDigits 10 m ∧
      (∀ c ∈ (padded 2 m).toList, isDigit c = true) ∧ (padded 2 m).toList ≠ [] ∧
      digitsValue (padded 2 m).toList = m := by
  have hrepr : m.repr.length = (Nat.toDigits 10 m).length := by
    rw [← String.length_toList, Nat.toList_repr]
  have h : (padded 2 m).toList = List.replicate (2 - (Nat.toDigits 10 m).length) '0' ++
      Nat.toDigits 10 m := by
    simp [padded, zeros, hrepr]
  refine ⟨h, fun c hc => ?_, by simp [h, Nat.toDigits_ne_nil], by rw [h, digitsValue_zeros_append,
    digitsValue_toDigits]⟩
  rw [h] at hc
  rcases List.mem_append.1 hc with hc | hc
  · exact isDigit_of_mem_replicate hc
  · exact isDigit_of_mem_toDigits hc

/-- Outside the positional range: the first digit, the others after a point, then `e`, a sign
and the exponent. -/
theorem prints_exponent (hd : 0 < d.digits) :
    ∃ t : NumberToken, t.Prints neg d ((if neg then ['-'] else []) ++
      (((if (toString d.digits).length = 1 then toString d.digits
          else String.ofList ((toString d.digits).toList.take 1) ++ "." ++
            String.ofList ((toString d.digits).toList.drop 1)) ++ "e" ++
        (if d.pointPosition - 1 < 0 then "-" else "+")) ++
        padded 2 (d.pointPosition - 1).natAbs).toList) := by
  obtain ⟨c, w, hcw, hc⟩ := toDigits_lead hd
  have hstr : toString d.digits = String.ofList (c :: w) := by
    rw [Nat.toString_eq_ofList_toDigits, hcw]
  have hdig : ∀ x ∈ c :: w, isDigit x = true := fun x hx => isDigit_of_mem_toDigits (hcw ▸ hx)
  have hp : d.pointPosition = ((w.length + 1 : ℕ) : ℤ) + d.scale := by
    rw [pointPosition_eq, hcw, List.length_cons]
  obtain ⟨-, hpadd, hpadne, hpadv⟩ := padded_exponent (d.pointPosition - 1).natAbs
  rw [String.toList_append]
  generalize (padded 2 (d.pointPosition - 1).natAbs).toList = ed at hpadd hpadne hpadv ⊢
  generalize hneg : decide (d.pointPosition - 1 < 0) = eneg
  have hval : (if eneg = true then -(digitsValue ed : ℤ) else (digitsValue ed : ℤ)) =
      d.pointPosition - 1 := by
    rw [hpadv, ← hneg]
    split_ifs with h <;> simp at h <;> omega
  have hsign : (if d.pointPosition - 1 < 0 then "-" else "+") = if eneg then "-" else "+" := by
    rw [← hneg]
    by_cases h : d.pointPosition - 1 < 0 <;> simp [h]
  rw [hsign]
  have hexp : ∀ e, some (⟨eneg, true, ed⟩ : ExponentToken) = some e →
      e.signWritten = true ∧ e.digits ≠ [] ∧ ∀ c ∈ e.digits, isDigit c = true := by
    rintro e ⟨⟩
    exact ⟨rfl, hpadne, hpadd⟩
  rcases w with _ | ⟨w₁, ws⟩
  · refine ⟨⟨neg, [c], none, some ⟨eneg, true, ed⟩⟩, ⟨⟨?_, .inr ⟨c, [], rfl, hc⟩, by simp, hexp⟩,
      rfl, .inr rfl, ?_, ?_⟩⟩
    · simpa using hdig
    · cases neg <;> cases eneg <;> simp [NumberToken.chars, hstr, show "e".toList = ['e'] from rfl]
    · simp only [NumberToken.mantissa, NumberToken.scale, Option.getD_none, List.append_nil,
        Digits.value, hval, List.length_nil, Nat.cast_zero, sub_zero]
      rw [show [c] = Nat.toDigits 10 d.digits from hcw.symm, digitsValue_toDigits]
      congr 2
      simp only [List.length_nil] at hp ⊢
      omega
  · refine ⟨⟨neg, [c], some (w₁ :: ws), some ⟨eneg, true, ed⟩⟩, ⟨⟨?_, .inr ⟨c, [], rfl, hc⟩, ?_,
      hexp⟩, rfl, .inl rfl, ?_, ?_⟩⟩
    · simp at hdig ⊢
      exact hdig.1
    · rintro f ⟨⟩
      exact ⟨by simp, fun x hx => hdig x (List.mem_cons_of_mem c hx)⟩
    · cases neg <;> cases eneg <;> simp [NumberToken.chars, hstr, show "e".toList = ['e'] from rfl]
    · simp only [NumberToken.mantissa, NumberToken.scale, Option.getD_some, Digits.value, hval]
      rw [List.singleton_append, ← hcw, digitsValue_toDigits]
      congr 2
      simp only [List.length_cons] at hp ⊢
      omega

/-- The text of a magnitude is one of the four shapes, as the position of its point decides. -/
theorem magnitude_token (hd : 0 < d.digits ∨ d = ⟨0, 0⟩) :
    ∃ t : NumberToken, t.Prints neg d
      ((if neg then ['-'] else []) ++ (FloatStyle.document.magnitude d).toList) := by
  have hzero : d = ⟨0, 0⟩ → d.pointPosition = 1 := by
    rintro rfl
    simp [Digits.pointPosition, digitCount, Nat.toDigits_zero]
  have hlen : (toString d.digits).length = (Nat.toDigits 10 d.digits).length := by
    rw [← String.length_toList, toString_digits_toList]
  unfold FloatStyle.magnitude
  dsimp only
  have hlow : FloatStyle.document.lowestPoint = -3 := rfl
  have hhigh : FloatStyle.document.highestPoint = 16 := rfl
  have hexpd : FloatStyle.document.exponentDigits = 2 := rfl
  rw [hexpd]
  by_cases hr : FloatStyle.document.lowestPoint ≤ d.pointPosition ∧
      d.pointPosition ≤ FloatStyle.document.highestPoint
  · rw [if_pos hr]
    rw [hlow, hhigh] at hr
    by_cases hp0 : d.pointPosition ≤ 0
    · rw [if_pos hp0]
      exact ⟨_, prints_leadingZeros neg hp0⟩
    · rw [if_neg hp0]
      by_cases hn : d.pointPosition.toNat < (toString d.digits).length
      · rw [if_pos hn]
        have hd' : 0 < d.digits := by
          rcases hd with hd | rfl
          · exact hd
          · exact absurd hn (by decide)
        exact ⟨_, prints_point neg (by omega) (hlen ▸ hn) hd'⟩
      · rw [if_neg hn]
        exact ⟨_, prints_trailingZeros neg (by omega) (by omega) hd⟩
  · rw [if_neg hr]
    rw [hlow, hhigh] at hr
    exact prints_exponent neg (hd.resolve_right (mt hzero (by omega)))

end Magnitude

section Double

open Decimal

variable {x : Float} (hnan : x.isNaN = false) (hinf : x.isInf = false)
include hnan hinf

/-- The printed digits of a finite double are positive, or the zero digits of a zero. -/
theorem shortestOf_digits :
    0 < (shortestOf x).digits ∨ shortestOf x = ⟨0, 0⟩ := by
  by_cases hm : (Binary.ofFloat x).mantissa = 0
  · right
    unfold shortestOf
    simp [hm]
  · left
    have hv := (shortestOf_roundsTo hnan hinf hm).pos (Nat.pos_of_ne_zero hm)
    by_contra h0
    rw [Digits.value, Nat.eq_zero_of_not_pos h0] at hv
    simp at hv

/-- Digits that denote the printed digits of a finite double read back as the double. -/
theorem nearest_of_denotes {c : ℕ} {s : ℤ} (h : (c : ℚ) * 10 ^ s = (shortestOf x).value) :
    nearest (Binary.ofFloat x).negative c s = x := by
  by_cases hm : (Binary.ofFloat x).mantissa = 0
  · have h0 : shortestOf x = ⟨0, 0⟩ := by
      unfold shortestOf
      simp [hm]
    rw [h0] at h
    have hc : c = 0 := by
      have := ten_zpow_pos s
      simp [Digits.value] at h
      rcases h with h | h
      · exact h
      · exact absurd h this.ne'
    unfold nearest
    rw [if_pos hc]
    conv_rhs => rw [Float.eq_assemble x]
    simp [Binary.biased, Binary.fraction, hm]
  · rw [nearest_eq_of_roundsTo (Binary.ofFloat_finite hnan hinf) (Nat.pos_of_ne_zero hm)
      (h ▸ shortestOf_roundsTo hnan hinf hm)]
    exact (Float.eq_assemble x).symm

end Double

/-- A double written in the document style is read back as itself, and the reader moves past
exactly its text. -/
theorem readValue_float (x : Float) {rest : List Char} (hr : Follows rest) (fuel depth pos : ℕ) :
    readValue .lenient (fuel + 1) depth ((Decimal.FloatStyle.document.write x).toList ++ rest) pos =
      .ok (.float x, rest, pos + (Decimal.FloatStyle.document.write x).length) := by
  unfold Decimal.FloatStyle.write
  by_cases hnan : x.isNaN = true
  · rw [if_pos hnan, Decimal.Float.eq_nan x hnan]
    rw [show Decimal.FloatStyle.document.nan.toList = ['N', 'a', 'N'] from rfl]
    simp [readValue, wordValue]
    rfl
  rw [if_neg hnan]
  dsimp only
  by_cases hinf : x.isInf = true
  · rw [if_pos hinf]
    have hx := Decimal.Float.eq_infinity hinf
    rw [show Decimal.FloatStyle.document.infinity = "Infinity" from rfl]
    cases hneg : (Decimal.Binary.ofFloat x).negative <;> rw [hneg] at hx <;> rw [hx]
    · rw [show ((if false = true then "-" else "") ++ "Infinity").toList =
        ['I', 'n', 'f', 'i', 'n', 'i', 't', 'y'] from rfl]
      simp [readValue, wordValue]
      rfl
    · rw [show ((if true = true then "-" else "") ++ "Infinity").toList =
        ['-', 'I', 'n', 'f', 'i', 'n', 'i', 't', 'y'] from rfl]
      simp [readValue, wordValue]
      rfl
  rw [if_neg hinf]
  simp only [Bool.not_eq_true] at hnan hinf
  obtain ⟨t, ht⟩ := magnitude_token (Decimal.Binary.ofFloat x).negative
    (shortestOf_digits hnan hinf)
  have htext : ((if (Decimal.Binary.ofFloat x).negative = true then "-" else "") ++
      Decimal.FloatStyle.document.magnitude (Decimal.shortestOf x)).toList = t.chars := by
    rw [ht.chars]
    cases (Decimal.Binary.ofFloat x).negative <;> simp
  have hread := readValue_number ht.plain hr (t.value_float ht.float pos) fuel depth
  rw [ht.negative, nearest_of_denotes hnan hinf ht.denotes] at hread
  rw [htext, hread, ← String.length_toList, htext, NumberToken.length_chars ht.plain]

end StatementClient.Json
