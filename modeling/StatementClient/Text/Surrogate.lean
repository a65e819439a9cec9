/-!
# Lone surrogates in text

Text read from documents and bytes may hold a lone surrogate, a code unit from `U+D800` to
`U+DFFF` that is no character by itself. A Lean character cannot be one, so text holds a stand-in
for each: the 2048 code points from `U+10F800` up, at the end of the last private-use plane, in
the order of the surrogates they stand for. Everything that writes text out (`surrogateOf?`)
writes the surrogate again, and everything that checks text for well-formed characters refuses
the stand-ins.

A `String` holds characters only, and there are as many characters as code points that are no
surrogate, so text with lone surrogates cannot be kept in one apart from every character: the
2048 characters `U+10F800` to `U+10FFFF`, the last of the last private-use plane, are read as the
surrogates they stand in for.
-/

namespace StatementClient.Text

/-- The stand-in of the surrogate `U+D800`. -/
def standInBase : Nat := 0x10F800

/-- The character of a UTF-16 code unit: the unit itself, or the stand-in of a surrogate. -/
def ofCodeUnit (n : Nat) : Char :=
  if 0xD800 ≤ n ∧ n < 0xE000 then Char.ofNat (standInBase + (n - 0xD800)) else Char.ofNat n

/-- The surrogate a character stands in for, if it is a stand-in. -/
def surrogateOf? (c : Char) : Option Nat :=
  if standInBase ≤ c.toNat ∧ c.toNat < standInBase + 0x800 then
    some (0xD800 + (c.toNat - standInBase))
  else none

/-- Whether text holds a stand-in for a lone surrogate. -/
def hasSurrogate (s : String) : Bool :=
  s.toList.any fun c => (surrogateOf? c).isSome

example : surrogateOf? (ofCodeUnit 0xDC00) = some 0xDC00 := by decide

end StatementClient.Text
