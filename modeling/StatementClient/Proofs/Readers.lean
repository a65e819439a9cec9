import Mathlib.Tactic.SplitIfs
import StatementClient.Retry.Policy
import StatementClient.Schema.Response

/-!
# Two readers of one body

A statement's body is read twice while a client polls: the polling predicate reads it leniently
for its status (`Json.readBytes`), and the reply reads it strictly and checks it
(`StatementResponse.ofBytes`). The strict reader accepts less, and what it accepts the lenient
one reads to the same document (`Json.readBytes_of_readBytesStrict`):

* the strict dialect is tighter than the lenient one on every rule where they differ
  (`Json.Dialect.strict_looser_lenient`), and a looser dialect reads every text a tighter one
  reads, to the same value (`Json.readChars_looser`);
* a text either reader accepts starts with neither a zero nor a byte-order mark and has no zero
  second, so bytes the strict reader decodes as UTF-8 are taken for UTF-8 by the lenient one too
  (`Json.detectCodec_of_readable`), which then decodes them to the same text.

Hence both read the same status from every body a statement response accepts
(`reportedStatus_of_ofBytes`).

The lenient reader has a stack where the strict one has a depth limit: brackets opened past it run
the reader out of stack at the first that does not fit (`Json.readValue_nested`), so a body of
more than 970 opening brackets does not read leniently (`Json.readBytes_nested`).
-/

namespace StatementClient

namespace Json

/-! ## Dialects -/

/-- Dialect `d₂` reads at least what `d₁` reads: it opens a container wherever `d₁` does, keeps
a lone surrogate whenever `d₁` does, and reads every number token `d₁` reads to the same value. -/
structure Dialect.Looser (d₁ d₂ : Dialect) : Prop where
  opens : ∀ depth, d₁.maxDepth.any (fun m => m ≤ depth) = false →
    d₁.stackDepth.any (fun m => m ≤ depth) = false →
    d₂.maxDepth.any (fun m => m ≤ depth) = false ∧ d₂.stackDepth.any (fun m => m ≤ depth) = false
  surrogates : d₁.loneSurrogates = true → d₂.loneSurrogates = true
  numbers : ∀ (t : NumberToken) (pos : Nat) (v : Json), t.value d₁ pos = .ok v →
    t.value d₂ pos = .ok v

section Looser

variable {d₁ d₂ : Dialect} (hl : d₁.Looser d₂)
include hl

theorem readUnicodeEscape_looser {pos : Nat} {rest : List Char} {r : Char × List Char × Nat}
    (h : readUnicodeEscape d₁ pos rest = .ok r) : readUnicodeEscape d₂ pos rest = .ok r := by
  by_cases hs : d₁.loneSurrogates = d₂.loneSurrogates
  · unfold readUnicodeEscape at h ⊢
    rw [← hs]
    exact h
  -- only a lone half, kept by `d₂` and refused by `d₁`, tells the two apart
  have h₁ : d₁.loneSurrogates = false := by
    cases h₁ : d₁.loneSurrogates
    · rfl
    · exact absurd (h₁.trans (hl.surrogates h₁).symm) hs
  have h₂ : d₂.loneSurrogates = true := by
    cases h₂ : d₂.loneSurrogates
    · exact absurd (h₁.trans h₂.symm) hs
    · rfl
  unfold readUnicodeEscape at h ⊢
  rw [h₁] at h
  rw [h₂]
  rcases hc : hex4 (rest.take 4) with _ | c
  · simp [hc] at h
  simp only [hc, List.drop_drop, Nat.reduceAdd, Bool.false_eq_true, ↓reduceIte] at h ⊢
  split_ifs at h ⊢ <;> try first | exact h | cases h
  rcases hc' : hex4 ((rest.drop 6).take 4) with _ | c'
  · simp [hc'] at h
  · simp only [hc'] at h ⊢
    split_ifs at h ⊢
    exact h

theorem readStringBody_looser {start : Nat} :
    ∀ {fuel : Nat} {acc : Array Char} {cs : List Char} {pos : Nat} {r : String × List Char × Nat},
      readStringBody d₁ start fuel acc cs pos = .ok r →
        readStringBody d₂ start fuel acc cs pos = .ok r
  | 0, _, _, _, _, h => by simp [readStringBody] at h
  | _ + 1, _, [], _, _, h => by simp [readStringBody] at h
  | fuel + 1, acc, c :: rest, pos, r, h => by
    rw [readStringBody.eq_def] at h ⊢
    simp only at h ⊢
    split_ifs at h ⊢ with hq hb
    · exact h
    · rcases rest with _ | ⟨e, rest'⟩
      · exact h
      simp only at h ⊢
      split_ifs at h ⊢ with hu
      · rcases hx : readUnicodeEscape d₁ pos rest' with f | ⟨ch, rest'', pos'⟩
        · simp [hx] at h
        · rw [hx] at h
          rw [readUnicodeEscape_looser hl hx]
          exact readStringBody_looser h
      · split at h
        · exact readStringBody_looser h
        · exact h
    · exact readStringBody_looser h

theorem readString_looser {start : Nat} {cs : List Char} {r : String × List Char × Nat}
    (h : readString d₁ start cs = .ok r) : readString d₂ start cs = .ok r :=
  readStringBody_looser hl h

theorem readValue_looser_step {fuel : Nat}
    (ii : ∀ depth acc cs pos r, readItems d₁ fuel depth acc cs pos = .ok r →
      readItems d₂ fuel depth acc cs pos = .ok r)
    (im : ∀ depth acc cs pos r, readMembers d₁ fuel depth acc cs pos = .ok r →
      readMembers d₂ fuel depth acc cs pos = .ok r)
    {depth : Nat} {cs : List Char} {pos : Nat} {r : Json × List Char × Nat}
    (h : readValue d₁ (fuel + 1) depth cs pos = .ok r) :
    readValue d₂ (fuel + 1) depth cs pos = .ok r := by
  rcases cs with _ | ⟨c, rest⟩
  · simp [readValue] at h
  rw [readValue.eq_3] at h ⊢
  by_cases hq : c = '"'
  · simp only [hq, ↓reduceIte] at h ⊢
    rcases hs : readString d₁ pos rest with f | ⟨s, rest', pos'⟩
    · simp [hs] at h
    · rw [hs] at h
      rw [readString_looser hl hs]
      exact h
  rw [if_neg hq] at h ⊢
  by_cases hbr : (decide (c = '{') || decide (c = '[')) = true
  · rw [if_pos hbr] at h ⊢
    have hm : d₁.maxDepth.any (fun m => m ≤ depth) = false := by
      cases hm : d₁.maxDepth.any (fun m => m ≤ depth)
      · rfl
      · simp [hm] at h
    have hs : d₁.stackDepth.any (fun m => m ≤ depth) = false := by
      cases hs : d₁.stackDepth.any (fun m => m ≤ depth)
      · rfl
      · simp [hm, hs] at h
    obtain ⟨hm₂, hs₂⟩ := hl.opens depth hm hs
    simp only [hm, hs, hm₂, hs₂, Bool.false_eq_true, ↓reduceIte] at h ⊢
    rcases hsb : skipBlanks rest (pos + 1) with ⟨rest', pos'⟩
    simp only [hsb] at h ⊢
    split_ifs at h ⊢ with hbk
    · rcases hi : readItems d₁ fuel (depth + 1) #[] rest' pos' with f | ⟨items, more, pos''⟩
      · simp only [hi] at h
        split at h
        · exact h
        · cases h
      · simp only [hi] at h
        simp only [ii _ _ _ _ _ hi]
        exact h
    · rcases hi : readMembers d₁ fuel (depth + 1) [] rest' pos' with f | ⟨fields, more, pos''⟩
      · simp only [hi] at h
        split at h
        · exact h
        · cases h
      · simp only [hi] at h
        simp only [im _ _ _ _ _ hi]
        exact h
  rw [if_neg hbr] at h ⊢
  split_ifs at h ⊢
  · exact h
  · exact h
  · exact h
  rcases hw : wordValue (c :: rest) with _ | ⟨x, len⟩
  · simp only [hw] at h ⊢
    rcases hn : scanNumber (c :: rest) with _ | t
    · simp [hn] at h
    · simp only [hn] at h ⊢
      rcases hv : t.value d₁ pos with f | v
      · simp [hv] at h
      · simp only [hv] at h
        simp only [hl.numbers t pos v hv]
        exact h
  · simp only [hw] at h ⊢
    exact h

omit hl in
theorem readItems_looser_step {fuel : Nat}
    (iv : ∀ depth cs pos r, readValue d₁ fuel depth cs pos = .ok r →
      readValue d₂ fuel depth cs pos = .ok r)
    (ii : ∀ depth acc cs pos r, readItems d₁ fuel depth acc cs pos = .ok r →
      readItems d₂ fuel depth acc cs pos = .ok r)
    {depth : Nat} {acc : Array Json} {cs : List Char} {pos : Nat}
    {r : Array Json × List Char × Nat} (h : readItems d₁ (fuel + 1) depth acc cs pos = .ok r) :
    readItems d₂ (fuel + 1) depth acc cs pos = .ok r := by
  rw [readItems.eq_2] at h ⊢
  rcases hv : readValue d₁ fuel depth cs pos with f | ⟨v, rest, pos'⟩
  · simp [hv] at h
  simp only [hv] at h
  simp only [iv _ _ _ _ hv]
  rcases hsb : skipBlanks rest pos' with ⟨rest', pos''⟩
  simp only [hsb] at h ⊢
  split at h
  · exact h
  · rename_i more
    rcases hsb' : skipBlanks more (pos'' + 1) with ⟨more', p⟩
    simp only [hsb'] at h ⊢
    exact ii _ _ _ _ _ h
  · cases h

theorem readMembers_looser_step {fuel : Nat}
    (iv : ∀ depth cs pos r, readValue d₁ fuel depth cs pos = .ok r →
      readValue d₂ fuel depth cs pos = .ok r)
    (im : ∀ depth acc cs pos r, readMembers d₁ fuel depth acc cs pos = .ok r →
      readMembers d₂ fuel depth acc cs pos = .ok r)
    {depth : Nat} {acc : List (String × Json)} {cs : List Char} {pos : Nat}
    {r : List (String × Json) × List Char × Nat}
    (h : readMembers d₁ (fuel + 1) depth acc cs pos = .ok r) :
    readMembers d₂ (fuel + 1) depth acc cs pos = .ok r := by
  rcases cs with _ | ⟨c, rest⟩
  · simp [readMembers] at h
  by_cases hq : c = '"'
  · subst hq
    rw [readMembers.eq_2] at h ⊢
    rcases hs : readString d₁ pos rest with f | ⟨key, rest', pos'⟩
    · simp [hs] at h
    simp only [hs] at h
    simp only [readString_looser hl hs]
    rcases hsb : skipBlanks rest' pos' with ⟨rest'', p⟩
    simp only [hsb] at h ⊢
    split at h
    · rename_i more
      rcases hsb' : skipBlanks more (p + 1) with ⟨more', p'⟩
      simp only [hsb'] at h ⊢
      rcases hv : readValue d₁ fuel depth more' p' with f | ⟨v, rest₃, p₃⟩
      · simp [hv] at h
      simp only [hv] at h
      simp only [iv _ _ _ _ hv]
      rcases hsb'' : skipBlanks rest₃ p₃ with ⟨rest₄, p₄⟩
      simp only [hsb''] at h ⊢
      split at h
      · exact h
      · rename_i more''
        rcases hsb₃ : skipBlanks more'' (p₄ + 1) with ⟨more₃, p₅⟩
        simp only [hsb₃] at h ⊢
        exact im _ _ _ _ _ h
      · cases h
    · cases h
  · rw [readMembers.eq_3 _ _ _ _ _ _ (by simpa using hq)] at h
    cases h

/-- The three readers of values, items and members, at once, by induction on the fuel: each
step of `d₁` that succeeds is a step of `d₂` with the same result. -/
theorem read_looser (fuel : Nat) :
    (∀ depth cs pos r, readValue d₁ fuel depth cs pos = .ok r →
      readValue d₂ fuel depth cs pos = .ok r) ∧
    (∀ depth acc cs pos r, readItems d₁ fuel depth acc cs pos = .ok r →
      readItems d₂ fuel depth acc cs pos = .ok r) ∧
    (∀ depth acc cs pos r, readMembers d₁ fuel depth acc cs pos = .ok r →
      readMembers d₂ fuel depth acc cs pos = .ok r) := by
  induction fuel with
  | zero => exact ⟨fun _ _ _ _ h => by simp [readValue] at h,
      fun _ _ _ _ _ h => by simp [readItems] at h, fun _ _ _ _ _ h => by simp [readMembers] at h⟩
  | succ fuel ih =>
    obtain ⟨iv, ii, im⟩ := ih
    exact ⟨fun _ _ _ _ h => readValue_looser_step hl ii im h,
      fun _ _ _ _ _ h => readItems_looser_step iv ii h,
      fun _ _ _ _ _ h => readMembers_looser_step hl iv im h⟩

theorem readChars_looser {cs : List Char} {v : Json} (h : readChars d₁ cs = .ok v) :
    readChars d₂ cs = .ok v := by
  unfold readChars at h ⊢
  rcases hsb : skipBlanks cs 0 with ⟨rest, pos⟩
  simp only [hsb] at h ⊢
  rcases hv : readValue d₁ (2 * cs.length + 2) 0 rest pos with f | ⟨v', rest', pos'⟩
  · simp [hv] at h
  simp only [hv] at h
  simp only [(read_looser hl _).1 _ _ _ _ hv]
  exact h

end Looser

/-- The lenient reader reads every document the strict one reads: its stack outlasts the strict
nesting limit, it keeps the lone surrogates the strict one refuses, and its only digit limit is
the strict one, on integers alone. -/
theorem Dialect.strict_looser_lenient : Dialect.strict.Looser Dialect.lenient where
  opens depth hm _ := by
    simp only [Dialect.strict, Option.any_some, decide_eq_false_iff_not, Nat.not_le] at hm
    simp only [Dialect.lenient, Option.any_none, Option.any_some, decide_eq_false_iff_not,
      Nat.not_le, true_and]
    omega
  surrogates h := by simp [Dialect.strict] at h
  numbers t pos v h := by
    unfold NumberToken.value at h ⊢
    simp only [Dialect.strict, Dialect.lenient, Option.any_some, Option.any_none,
      Bool.false_eq_true, ↓reduceIte, decide_eq_true_eq] at h ⊢
    have hw : ¬4300 < t.whole.length := fun hw => by simp [hw] at h
    rw [if_neg hw] at h
    rcases t with ⟨neg, whole, _ | fraction, _ | exponent⟩
    · simp only at h hw ⊢
      rw [if_neg (by omega)]
      exact h
    all_goals exact h

/-! ## How a document starts -/

section Start

variable {d : Dialect}

theorem readValue_stray {fuel depth pos : Nat} {c : Char} {cs : List Char}
    {r : Json × List Char × Nat} (hc : c = '\x00' ∨ c = '\uFEFF') :
    readValue d fuel depth (c :: cs) pos ≠ .ok r := by
  cases fuel with
  | zero => simp [readValue]
  | succ fuel => rcases hc with rfl | rfl <;> simp [readValue.eq_3, wordValue, scanNumber, isDigit]

theorem readItems_nul {fuel depth pos : Nat} {acc : Array Json} {cs : List Char}
    {r : Array Json × List Char × Nat} : readItems d fuel depth acc ('\x00' :: cs) pos ≠ .ok r := by
  cases fuel with
  | zero => simp [readItems]
  | succ fuel =>
    rw [readItems.eq_2]
    rcases h : readValue d fuel depth ('\x00' :: cs) pos with f | ⟨w, rest, p⟩
    · simp
    · exact absurd h (readValue_stray (.inl rfl))

theorem readString_nul {start : Nat} {cs : List Char} {r : String × List Char × Nat} :
    readString d start ('\x00' :: cs) ≠ .ok r := by
  simp [readString, readStringBody]

theorem wordValue_second_nul {c : Char} {cs : List Char} :
    wordValue (c :: '\x00' :: cs) = none := by
  simp [wordValue]

theorem scanNumber_second_nul {c : Char} {cs : List Char} {t : NumberToken}
    (h : scanNumber (c :: '\x00' :: cs) = some t) : t.length = 1 := by
  unfold scanNumber at h
  by_cases hm : c = '-'
  · subst hm
    simp [isDigit] at h
  by_cases h0 : c = '0'
  · subst h0
    simp at h
    subst h
    simp [NumberToken.length]
  by_cases hd : isDigit c = true
  · have hn : isDigit '\x00' = false := by decide
    simp [hm, hd, hn, List.takeWhile, List.dropWhile] at h
    subst h
    simp [NumberToken.length]
  · simp [hm, hd] at h

theorem readValue_second_nul {fuel depth pos : Nat} {c : Char} {cs : List Char}
    {w : Json} {rest : List Char} {p : Nat}
    (h : readValue d fuel depth (c :: '\x00' :: cs) pos = .ok (w, rest, p)) :
    rest = '\x00' :: cs := by
  cases fuel with
  | zero => simp [readValue] at h
  | succ fuel =>
  rw [readValue.eq_3] at h
  by_cases hq : c = '"'
  · subst hq
    simp only [↓reduceIte] at h
    rcases hs : readString d pos ('\x00' :: cs) with f | r
    · simp [hs] at h
    · exact absurd hs readString_nul
  rw [if_neg hq] at h
  by_cases hbr : (decide (c = '{') || decide (c = '[')) = true
  · rw [if_pos hbr] at h
    have hsb : skipBlanks ('\x00' :: cs) (pos + 1) = ('\x00' :: cs, pos + 1) := by
      simp [skipBlanks, isBlank]
    split_ifs at h with hm hs hk
    all_goals simp only [hsb] at h
    · rcases hi : readItems d fuel (depth + 1) #[] ('\x00' :: cs) (pos + 1) with f | r
      · simp [hi] at h
      · exact absurd hi readItems_nul
    · rcases hi : readMembers d fuel (depth + 1) [] ('\x00' :: cs) (pos + 1) with f | r
      · simp [hi] at h
      · cases fuel <;> simp [readMembers] at hi
  rw [if_neg hbr] at h
  simp only [wordValue_second_nul] at h
  have h4 : (c :: '\x00' :: cs).take 4 = c :: '\x00' :: cs.take 2 := rfl
  have h5 : (c :: '\x00' :: cs).take 5 = c :: '\x00' :: cs.take 3 := rfl
  split_ifs at h with h1 h2 h3
  · simp [h4] at h1
  · simp [h4] at h2
  · simp [h5] at h3
  rcases hn : scanNumber (c :: '\x00' :: cs) with _ | t
  · simp [hn] at h
  simp only [hn] at h
  rcases hv : t.value d pos with f | v
  · simp [hv] at h
  simp only [hv, Except.ok.injEq, Prod.mk.injEq] at h
  rw [← h.2.1, scanNumber_second_nul hn]
  rfl

theorem readChars_stray {c : Char} {cs : List Char} {v : Json}
    (hc : c = '\x00' ∨ c = '\uFEFF') : readChars d (c :: cs) ≠ .ok v := by
  have hsb : skipBlanks (c :: cs) 0 = (c :: cs, 0) := by
    rcases hc with rfl | rfl <;> simp [skipBlanks, isBlank]
  unfold readChars
  simp only [hsb]
  generalize 2 * (c :: cs).length + 2 = fuel
  rcases hv : readValue d fuel 0 (c :: cs) 0 with f | r
  · simp
  · exact absurd hv (readValue_stray hc)

theorem readChars_second_nul {c : Char} {cs : List Char} {v : Json} :
    readChars d (c :: '\x00' :: cs) ≠ .ok v := by
  unfold readChars
  generalize 2 * (c :: '\x00' :: cs).length + 2 = fuel
  by_cases hb : isBlank c = true
  · have hsb : skipBlanks (c :: '\x00' :: cs) 0 = ('\x00' :: cs, 1) := by
      have hn : isBlank '\x00' = false := by decide
      simp only [skipBlanks, hb, hn, ↓reduceIte, Bool.false_eq_true]
    simp only [hsb]
    rcases hv : readValue d fuel 0 ('\x00' :: cs) 1 with f | r
    · simp
    · exact absurd hv (readValue_stray (.inl rfl))
  · have hsb : skipBlanks (c :: '\x00' :: cs) 0 = (c :: '\x00' :: cs, 0) := by
      simp only [skipBlanks, hb, ↓reduceIte, Bool.false_eq_true]
    simp only [hsb]
    rcases hv : readValue d fuel 0 (c :: '\x00' :: cs) 0 with f | ⟨w, rest, p⟩
    · simp
    rw [readValue_second_nul hv]
    simp [skipBlanks, isBlank]

end Start

end Json

/-! ## UTF-8 -/

namespace Bytes

theorem decodeUtf8From_pass {pos : Nat} {acc : Array Char} {b : List UInt8} {r : Array Char}
    (h : decodeUtf8From false pos acc b = .ok r) : decodeUtf8From true pos acc b = .ok r := by
  revert h
  fun_induction decodeUtf8From false pos acc b
  all_goals intro h
  all_goals try (simp at h; done)
  case case1 => simpa [decodeUtf8From] using h
  case case2 pos acc c rest hc ih =>
    rw [decodeUtf8From.eq_def]
    simp only [hc, ↓reduceIte]
    exact ih h
  case case10 => simp_all
  case case5 pos acc c h₁ h₂ h₃ c₁ rest hc₁ n ih =>
    rw [decodeUtf8From]
    simp only [h₁, h₂, h₃, hc₁, ↓reduceIte]
    exact ih h
  case case13 pos acc c h₁ h₂ h₃ h₄ bad c₁ d rest n _ hbad hd ih =>
    rw [decodeUtf8From]
    simp only [h₁, h₂, h₃, h₄, ↓reduceIte]
    split_ifs <;> exact ih h
  case case23 pos acc c h₁ h₂ h₃ h₄ h₅ bad c₁ d e rest hbad hd he n ih =>
    rw [decodeUtf8From]
    simp only [h₁, h₂, h₃, h₄, h₅, ↓reduceIte]
    split_ifs <;> first | exact ih h | simp_all [bad]

theorem decodeUtf8From_ascii {p : Bool} {pos : Nat} {acc : Array Char} {x : UInt8}
    {rest : List UInt8} (hx : x < 0x80) :
    decodeUtf8From p pos acc (x :: rest) =
      decodeUtf8From p (pos + 1) (acc.push (Char.ofNat x.toNat)) rest := by
  rw [decodeUtf8From.eq_def]
  simp [hx]

theorem decodeUtf8From_bom {p : Bool} {pos : Nat} {acc : Array Char} {rest : List UInt8} :
    decodeUtf8From p pos acc (0xEF :: 0xBB :: 0xBF :: rest) =
      decodeUtf8From p (pos + 3) (acc.push '\uFEFF') rest := by
  have hs : (p && (0xEF : UInt8) == 237 && decide ((0xBB : UInt8) ≥ 160) && isContinuation 0xBB &&
      isContinuation 0xBF) = false := by
    cases p <;> decide
  have hb : ((!isContinuation (0xBB : UInt8) ||
      if (0xBB : UInt8) < 160 then (0xEF : UInt8) == 224 else (0xEF : UInt8) == 237) = true) =
      False := by
    decide
  have hc : ((!isContinuation (0xBF : UInt8)) = true) = False := by decide
  have hn : charOf ((0xEF : UInt8).toNat % 16 * 4096 + (0xBB : UInt8).toNat % 64 * 64 +
      (0xBF : UInt8).toNat % 64) = '\uFEFF' := by decide
  rw [decodeUtf8From.eq_def]
  simp only [show ¬(0xEF : UInt8) < 0x80 by decide, show ¬(0xEF : UInt8) < 0xC2 by decide,
    show ¬(0xEF : UInt8) < 0xE0 by decide, show (0xEF : UInt8) < 0xF0 by decide, ↓reduceIte, hs,
    Bool.false_eq_true, hb, hc, hn]

/-- Decoding only appends to what it has. -/
theorem decodeUtf8From_prefix {p : Bool} {pos : Nat} {acc : Array Char} {b : List UInt8}
    {r : Array Char} (h : decodeUtf8From p pos acc b = .ok r) :
    ∃ tail, r.toList = acc.toList ++ tail := by
  revert h
  fun_induction decodeUtf8From p pos acc b
  all_goals intro h
  all_goals try (simp at h; done)
  case case1 => exact ⟨[], by simp_all⟩
  all_goals
    rename_i ih
    obtain ⟨tail, ht⟩ := ih h
    exact ⟨_, by rw [ht, Array.toList_push, List.append_assoc]⟩

theorem decodeUtf8From_zero_second {p : Bool} {pos : Nat} {acc : Array Char} {x : UInt8}
    {rest : List UInt8} {r : Array Char} (hx : 0x80 ≤ x) :
    decodeUtf8From p pos acc (x :: 0 :: rest) ≠ .ok r := by
  rw [decodeUtf8From.eq_def]
  have hc : isContinuation 0 = false := by decide
  have hx' : ¬x < 0x80 := UInt8.not_lt.2 hx
  rcases rest with _ | ⟨d, _ | ⟨e, rest⟩⟩ <;> simp [hc, hx'] <;> split_ifs <;> simp

theorem decodeUtf8From_high {p : Bool} {pos : Nat} {acc : Array Char} {x : UInt8}
    {rest : List UInt8} {r : Array Char} (hx : 0xF5 ≤ x) :
    decodeUtf8From p pos acc (x :: rest) ≠ .ok r := by
  rw [decodeUtf8From.eq_def]
  have h1 : ¬x < 0x80 := UInt8.not_lt.2 (UInt8.le_trans (by decide) hx)
  have h2 : ¬x < 0xC2 := UInt8.not_lt.2 (UInt8.le_trans (by decide) hx)
  have h3 : ¬x < 0xE0 := UInt8.not_lt.2 (UInt8.le_trans (by decide) hx)
  have h4 : ¬x < 0xF0 := UInt8.not_lt.2 (UInt8.le_trans (by decide) hx)
  have h5 : ¬x < 0xF5 := UInt8.not_lt.2 hx
  simp [h1, h2, h3, h4, h5]

end Bytes

namespace Json

open Bytes

/-! ## Choosing the codec -/

/-- Bytes that decode as UTF-8 to a text some reader accepts are taken for UTF-8 by the lenient
reader: they start with no byte-order mark, no zero and no byte UTF-8 refuses, and their second
byte is no zero. -/
theorem detectCodec_of_readable {d : Dialect} {b : List UInt8} {r : Array Char} {v : Json}
    (hd : decodeUtf8From false 0 #[] b = .ok r) (hr : readChars d r.toList = .ok v) :
    detectCodec b = .utf8 := by
  have h0 : ∀ rest, b ≠ 0 :: rest := by
    rintro rest rfl
    rw [decodeUtf8From_ascii (by decide)] at hd
    obtain ⟨tail, ht⟩ := decodeUtf8From_prefix hd
    simp only [List.push_toArray, List.nil_append] at ht
    rw [ht] at hr
    exact readChars_stray (.inl rfl) hr
  have h1 : ∀ x rest, b ≠ x :: 0 :: rest := by
    rintro x rest rfl
    by_cases hx : x < 0x80
    · rw [decodeUtf8From_ascii hx, decodeUtf8From_ascii (by decide)] at hd
      obtain ⟨tail, ht⟩ := decodeUtf8From_prefix hd
      simp only [List.push_toArray, List.nil_append, List.cons_append] at ht
      rw [ht] at hr
      exact readChars_second_nul hr
    · exact decodeUtf8From_zero_second (UInt8.not_lt.1 hx) hd
  have hbom : ∀ rest, b ≠ 0xEF :: 0xBB :: 0xBF :: rest := by
    rintro rest rfl
    rw [decodeUtf8From_bom] at hd
    obtain ⟨tail, ht⟩ := decodeUtf8From_prefix hd
    simp only [List.push_toArray, List.nil_append] at ht
    rw [ht] at hr
    exact readChars_stray (.inr rfl) hr
  have hhigh : ∀ x rest, b = x :: rest → x ≠ 0xFE ∧ x ≠ 0xFF := by
    rintro x rest rfl
    constructor <;> rintro rfl <;> exact decodeUtf8From_high (by decide) hd
  unfold detectCodec
  rcases b with _ | ⟨x0, _ | ⟨x1, _ | ⟨x2, _ | ⟨x3, rest⟩⟩⟩⟩
  · rfl
  · simp [bomUtf32be, bomUtf32le, bomUtf16be, bomUtf16le, bomUtf8]
  · obtain ⟨hfe, hff⟩ := hhigh x0 _ rfl
    have hx0 : x0 ≠ 0 := fun h => h0 [x1] (by rw [h])
    have hx1 : x1 ≠ 0 := fun h => h1 x0 [] (by rw [h])
    simp [bomUtf32be, bomUtf32le, bomUtf16be, bomUtf16le, bomUtf8, hfe, hff, hx0, hx1]
  · obtain ⟨hfe, hff⟩ := hhigh x0 _ rfl
    have hb : ¬(x0 = 0xEF ∧ x1 = 0xBB ∧ x2 = 0xBF) := by
      rintro ⟨rfl, rfl, rfl⟩
      exact hbom [] rfl
    simp [bomUtf32be, bomUtf32le, bomUtf16be, bomUtf16le, bomUtf8, hfe, hff, hb]
  · obtain ⟨hfe, hff⟩ := hhigh x0 _ rfl
    have hx0 : x0 ≠ 0 := fun h => h0 _ (by rw [h])
    have hx1 : x1 ≠ 0 := fun h => h1 x0 _ (by rw [h])
    have hb : ¬(x0 = 0xEF ∧ x1 = 0xBB ∧ x2 = 0xBF) := by
      rintro ⟨rfl, rfl, rfl⟩
      exact hbom _ rfl
    simp [bomUtf32be, bomUtf32le, bomUtf16be, bomUtf16le, bomUtf8, hfe, hff, hx0, hx1, hb]

/-- Every document the strict reader reads from bytes, the lenient reader reads from them too. -/
theorem readBytes_of_readBytesStrict {b : List UInt8} {v : Json} (h : readBytesStrict b = some v) :
    readBytes b = .ok v := by
  unfold readBytesStrict at h
  rcases hd : decodeUtf8From false 0 #[] b with u | r
  · simp [Codec.decode, hd, Except.map] at h
  simp only [Codec.decode, hd, Except.map, String.toList_ofList] at h
  rcases hr : readChars .strict r.toList with f | v'
  · simp [hr] at h
  simp only [hr, Option.some.injEq] at h
  subst h
  unfold readBytes
  rw [detectCodec_of_readable hd hr]
  simp only [Codec.decode, decodeUtf8From_pass hd, Except.map, String.toList_ofList]
  rw [readChars_looser Dialect.strict_looser_lenient hr]

end Json

/-! ## Nesting past the stack -/

namespace Json

section Nesting

variable {d : Dialect}

/-- Brackets opened past the stack run the reader out of it, at the first bracket that does not
fit. -/
theorem readValue_nested (hd : d.maxDepth = none) {k : Nat} (hk : d.stackDepth = some k)
    (j : Nat) : ∀ depth fuel pos rest, depth + j = k → 2 * j < fuel →
      readValue d fuel depth (List.replicate (j + 1) '[' ++ rest) pos =
        .error ⟨.stackExhausted true, pos + j⟩ := by
  induction j with
  | zero =>
    intro depth fuel pos rest hj hf
    obtain ⟨fuel, rfl⟩ : ∃ f, fuel = f + 1 := ⟨fuel - 1, by omega⟩
    have hdepth : k ≤ depth := by omega
    rw [List.replicate_succ, List.cons_append, readValue.eq_3]
    simp [hd, hk, hdepth]
  | succ j ih =>
    intro depth fuel pos rest hj hf
    obtain ⟨fuel, rfl⟩ : ∃ f, fuel = f + 2 := ⟨fuel - 2, by omega⟩
    have hdepth : ¬k ≤ depth := by omega
    have hsb : skipBlanks (List.replicate (j + 1) '[' ++ rest) (pos + 1) =
        (List.replicate (j + 1) '[' ++ rest, pos + 1) := by
      rw [List.replicate_succ, List.cons_append, skipBlanks]
      simp [isBlank]
    rw [List.replicate_succ, List.cons_append, readValue.eq_3]
    have hv := ih (depth + 1) fuel (pos + 1) rest (by omega) (by omega)
    simp only [hd, hk, hsb]
    rw [readItems.eq_2, hv]
    have hpos : pos + 1 + j = pos + (j + 1) := by omega
    simp [hdepth, hpos, List.replicate_succ]

/-- A text of more brackets than the stack holds does not read: the reader runs out of stack at
the first bracket that does not fit. -/
theorem readChars_nested (hd : d.maxDepth = none) {k n : Nat} (hk : d.stackDepth = some k)
    (hn : k < n) (rest : List Char) :
    readChars d (List.replicate n '[' ++ rest) = .error ⟨.stackExhausted true, k⟩ := by
  obtain ⟨m, rfl⟩ : ∃ m, n = k + 1 + m := ⟨n - (k + 1), by omega⟩
  have hsb : skipBlanks (List.replicate (k + 1 + m) '[' ++ rest) 0 =
      (List.replicate (k + 1 + m) '[' ++ rest, 0) := by
    rw [Nat.add_right_comm, List.replicate_succ, List.cons_append, skipBlanks]
    simp [isBlank]
  have hv := readValue_nested hd hk k 0
    (2 * (List.replicate (k + 1 + m) '[' ++ rest).length + 2) 0 (List.replicate m '[' ++ rest)
    (by omega) (by simp; omega)
  rw [← List.append_assoc, List.replicate_append_replicate, Nat.zero_add] at hv
  simp only [readChars, hsb, hv]

end Nesting

end Json

namespace Bytes

theorem decodeUtf8From_ascii_list {p : Bool} {pos : Nat} {acc : Array Char} {bs : List UInt8}
    (h : ∀ x ∈ bs, x < 0x80) :
    decodeUtf8From p pos acc bs = .ok (acc ++ (bs.map fun x => Char.ofNat x.toNat).toArray) := by
  induction bs generalizing pos acc with
  | nil => simp [decodeUtf8From]
  | cons x bs ih =>
    rw [decodeUtf8From_ascii (h x (by simp)), ih fun y hy => h y (by simp [hy])]
    simp

end Bytes

namespace Json

/-- A body of more opening brackets than the lenient reader's stack holds, then any ASCII, does
not read: the reader runs out of stack at the 971st bracket. -/
theorem readBytes_nested {n : Nat} (hn : 970 < n) {rest : List UInt8} (hr : ∀ x ∈ rest, x < 0x80) :
    readBytes (List.replicate n 0x5B ++ rest) =
      .error (.unreadable (List.replicate n '[' ++ rest.map fun x => Char.ofNat x.toNat)
        ⟨.stackExhausted true, 970⟩) := by
  have hascii : ∀ x ∈ List.replicate n (0x5B : UInt8) ++ rest, x < 0x80 := by
    intro x hx
    rcases List.mem_append.1 hx with hx | hx
    · rw [List.eq_of_mem_replicate hx]
      decide
    · exact hr x hx
  obtain ⟨m, rfl⟩ : ∃ m, n = m + 4 := ⟨n - 4, by omega⟩
  have hc : detectCodec (List.replicate (m + 4) 0x5B ++ rest) = .utf8 := by
    simp [detectCodec, List.replicate_succ, Bytes.bomUtf32be, Bytes.bomUtf32le, Bytes.bomUtf16be,
      Bytes.bomUtf16le, Bytes.bomUtf8]
  have hchars : (List.replicate (m + 4) (0x5B : UInt8) ++ rest).map (fun x => Char.ofNat x.toNat) =
      List.replicate (m + 4) '[' ++ rest.map fun x => Char.ofNat x.toNat := by
    simp only [List.map_append, List.map_replicate]
    rfl
  unfold readBytes
  simp only [hc, Bytes.Codec.decode, Bytes.decodeUtf8From_ascii_list hascii, Except.map,
    String.toList_ofList, Array.toList_append, List.nil_append, hchars]
  rw [readChars_nested rfl rfl hn]

end Json

/-! ## Checked fields, and the status of a statement -/

theorem Checked.both_ok {α β : Type} {a : Checked α} {b : Checked β} {p : α × β}
    (h : Checked.both a b = .ok p) : a = .ok p.1 ∧ b = .ok p.2 := by
  unfold Checked.both at h
  split at h
  · cases h
    exact ⟨rfl, rfl⟩
  all_goals cases h

@[simp] theorem Except.ok_bind {ε α β : Type} (a : α) (f : α → Except ε β) :
    (Except.ok a >>= f) = f a := rfl

@[simp] theorem Except.pure_eq_ok {ε α : Type} (a : α) : (pure a : Except ε α) = .ok a := rfl

namespace Checked

variable {α β : Type}

@[simp] theorem both_ok_ok (x : α) (y : β) : Checked.both (.ok x) (.ok y) = .ok (x, y) := rfl

@[simp] theorem under_ok (step : LocStep) (x : α) : Checked.under step (.ok x) = .ok x := rfl

@[simp] theorem members_obj (fs : List (String × Json)) : Checked.members (.obj fs) = .ok fs :=
  rfl

@[simp] theorem optional_null (check : Json → Checked α) :
    Checked.optional check .null = .ok none := rfl

@[simp] theorem optional_str (check : Json → Checked α) (s : String) :
    Checked.optional check (.str s) = (check (.str s)).map some := rfl

/-- The first member of the name is the one checked. -/
@[simp] theorem field_cons_self (name : String) (v : Json) (rest : List (String × Json))
    (check : Json → Checked α) (d : Option α) :
    Checked.field ((name, v) :: rest) name check d = Checked.under (.field name) (check v) := by
  simp [Checked.field, Json.lookup]

@[simp] theorem field_cons_of_ne {k name : String} (h : k ≠ name) (v : Json)
    (rest : List (String × Json)) (check : Json → Checked α) (d : Option α) :
    Checked.field ((k, v) :: rest) name check d = Checked.field rest name check d := by
  simp [Checked.field, Json.lookup, h]

@[simp] theorem field_nil_some (name : String) (check : Json → Checked α) (d : α) :
    Checked.field [] name check (some d) = .ok d := rfl

end Checked

theorem Except.bind_eq_ok {ε α β : Type} {a : Except ε α} {f : α → Except ε β} {x : β}
    (h : a >>= f = .ok x) : ∃ y, a = .ok y ∧ f y = .ok x := by
  rcases ha : a with e | y <;> rw [ha] at h
  · cases h
  · exact ⟨y, rfl, h⟩

theorem Checked.members_bind_eq_ok {α : Type} {v : Json} {f : List (String × Json) → Checked α}
    {x : α} (h : (Checked.members v).bind f = .ok x) : ∃ fs, v = .obj fs ∧ f fs = .ok x := by
  cases v with
  | obj fs => exact ⟨fs, rfl, h⟩
  | _ => cases h

/-- Moving the issues of a check under a field or an item changes none of its successes. -/
@[simp] theorem Checked.under_eq_ok {α : Type} {step : LocStep} {c : Checked α} {x : α} :
    Checked.under step c = .ok x ↔ c = .ok x := by
  unfold Checked.under
  cases c <;> simp [Except.mapError]

theorem Checked.field_eq_ok {α : Type} {fs : List (String × Json)} {name : String}
    {check : Json → Checked α} {default : Option α} {x : α}
    (h : Checked.field fs name check default = .ok x) :
    (∃ w, Json.lookup fs name = some w ∧ check w = .ok x) ∨
      (Json.lookup fs name = none ∧ default = some x) := by
  unfold Checked.field at h
  rcases hl : Json.lookup fs name with _ | w <;> rw [hl] at h
  · cases default with
    | none => simp at h
    | some d =>
      simp only [Except.ok.injEq] at h
      exact .inr ⟨rfl, congrArg some h⟩
  · exact .inl ⟨w, rfl, Checked.under_eq_ok.1 h⟩

theorem Checked.field_present {α : Type} {fs : List (String × Json)} {name : String}
    {check : Json → Checked α} {default : Option α} {x : α}
    (h : Checked.field fs name check default = .ok x) (hd : default ≠ some x) :
    ∃ w, Json.lookup fs name = some w ∧ check w = .ok x := by
  rcases Checked.field_eq_ok h with hw | ⟨-, hdx⟩
  · exact hw
  · exact absurd hdx hd

theorem Check.wire_eq_ok {α : Type} [WireEnum α] {v : Json} {m : α} :
    Check.wire α v = .ok m ↔ ∃ s, v = .str s ∧ WireEnum.ofWire? s = some m := by
  cases v with
  | str s =>
    unfold Check.wire WireEnum.parse
    rcases h : (WireEnum.ofWire? s : Option α) with _ | m'
    · simp [h, Checked.fail]
    · simp [h]
  | _ => simp [Check.wire, Checked.fail]

theorem StatementResponse.check_fields {v : Json} {resp : StatementResponse}
    (h : StatementResponse.check v = .ok resp) :
    ∃ fs, v = .obj fs ∧
      Checked.field fs "statement_id" (Check.textOfLength 1) none = .ok resp.statementId ∧
      Checked.field fs "status" (Check.wire StatementStatus) none = .ok resp.status := by
  unfold StatementResponse.check at h
  obtain ⟨fs, rfl, hm⟩ := Checked.members_bind_eq_ok h
  obtain ⟨p, hb, hp⟩ := Except.bind_eq_ok hm
  cases hp
  exact ⟨fs, rfl, Checked.both_ok (Checked.both_ok hb).1⟩

theorem reportedStatus_of_field {fs : List (String × Json)} {s : StatementStatus}
    (h : Checked.field fs "status" (Check.wire StatementStatus) none = .ok s) :
    reportedStatus (.obj fs) = some s := by
  obtain ⟨sv, hl, hw⟩ := Checked.field_present h (by simp)
  obtain ⟨t, rfl, ht⟩ := Check.wire_eq_ok.1 hw
  simp [reportedStatus, Json.field?, hl, WireEnum.parse, ht]

/-- The status a statement response takes from a body is the status the lenient reader finds in
that body. -/
theorem reportedStatus_of_ofBytes {b : List UInt8} {resp : StatementResponse}
    (h : StatementResponse.ofBytes b = .ok resp) :
    ∃ doc, Json.readBytes b = .ok doc ∧ reportedStatus doc = some resp.status := by
  unfold StatementResponse.ofBytes at h
  rcases hs : Json.readBytesStrict b with _ | v
  · simp [hs, Checked.fail] at h
  rw [hs] at h
  obtain ⟨fs, rfl, -, hf⟩ := StatementResponse.check_fields h
  exact ⟨_, Json.readBytes_of_readBytesStrict hs, reportedStatus_of_field hf⟩

end StatementClient
