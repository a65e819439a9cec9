import StatementClient.Text.NameTable

/-!
# Looking up a character by its name

A name is matched as the Unicode character database matches it: letters in either case, the
name of a character or one of its aliases, but never a named sequence. Two families are named by
rule rather than listed, and only in capitals; in any other case such a name names nothing:

* `HANGUL SYLLABLE ` followed by the short names of a leading consonant, a vowel and a trailing
  consonant. Each part is the longest short name that starts the rest of the name, taken from
  left to right with no second try; the silent leading consonant and the missing trailing one are
  empty.
* `CJK UNIFIED IDEOGRAPH-` followed by four or five hex digits that give a unified ideograph.
-/

namespace StatementClient.Text

/-- The short names of the leading consonants of a Hangul syllable, in order. -/
def leadingJamo : List String :=
  ["G", "GG", "N", "D", "DD", "R", "M", "B", "BB", "S", "SS", "", "J", "JJ", "C", "K", "T",
    "P", "H"]

/-- The short names of the vowels of a Hangul syllable, in order. -/
def vowelJamo : List String :=
  ["A", "AE", "YA", "YAE", "EO", "E", "YEO", "YE", "O", "WA", "WAE", "OE", "YO", "U", "WEO", "WE",
    "WI", "YU", "EU", "YI", "I"]

/-- The short names of the trailing consonants of a Hangul syllable, in order, the first for
none. -/
def trailingJamo : List String :=
  ["", "G", "GG", "GS", "N", "NJ", "NH", "D", "L", "LG", "LM", "LB", "LS", "LT", "LP", "LH", "M",
    "B", "BS", "S", "SS", "NG", "J", "C", "K", "T", "P", "H"]

/-- The position and length of the longest short name that starts `s`, the first of them when
two are as long. -/
def longestJamo (shortNames : List String) (s : List Char) : Option (Nat × Nat) :=
  shortNames.zipIdx.foldl (fun best (n, i) =>
    if n.toList.isPrefixOf s && best.all (·.2 < n.length) then some (i, n.length) else best) none

/-- The Hangul syllable that the rest of a name after `HANGUL SYLLABLE ` spells. -/
def hangulSyllableNamed? (s : List Char) : Option Nat := do
  let (l, ln) ← longestJamo leadingJamo s
  let (v, vn) ← longestJamo vowelJamo (s.drop ln)
  let (t, tn) ← longestJamo trailingJamo (s.drop (ln + vn))
  if ln + vn + tn = s.length then some (0xAC00 + (l * 21 + v) * 28 + t) else none

/-- The unified ideographs, as inclusive ranges. -/
def unifiedIdeographs : List (Nat × Nat) :=
  [(0x3400, 0x4DBF), (0x4E00, 0x9FFF), (0x20000, 0x2A6DF), (0x2A700, 0x2B738),
    (0x2B740, 0x2B81D), (0x2B820, 0x2CEA1), (0x2CEB0, 0x2EBE0), (0x30000, 0x3134A)]

/-- The value of a hex digit written as a digit or a capital letter. -/
def capitalHexDigit? (c : Char) : Option Nat :=
  if '0' ≤ c && c ≤ '9' then some (c.toNat - '0'.toNat)
  else if 'A' ≤ c && c ≤ 'F' then some (c.toNat - 'A'.toNat + 10)
  else none

/-- The unified ideograph that the rest of a name after `CJK UNIFIED IDEOGRAPH-` gives. -/
def unifiedIdeographNamed? (s : List Char) : Option Nat :=
  let ds := s.filterMap capitalHexDigit?
  if (s.length = 4 || s.length = 5) && ds.length = s.length then
    let n := ds.foldl (fun n d => 16 * n + d) 0
    if unifiedIdeographs.any fun (lo, hi) => lo ≤ n && n ≤ hi then some n else none
  else none

/-- The names written on one line of the name table, in order. -/
def lineNames (line : String) : List String :=
  let step := fun (acc : List String × List String) (entry : String) =>
    match entry.toList with
    | [] => acc
    | k :: rest =>
      let words := acc.2.take (k.toNat - 'a'.toNat) ++
        (if rest.isEmpty then [] else (String.ofList rest).splitOn " ")
      (" ".intercalate words :: acc.1, words)
  ((line.splitOn ";").foldl step ([], [])).1.reverse

/-- The code point a name in capitals belongs to, among the listed names. -/
def listedName? (name : String) : Option Nat :=
  nameLines.findSome? fun (start, line) => ((lineNames line).findIdx? (· == name)).map (start + ·)

/-- The code point an alias in capitals belongs to. -/
def aliasNamed? (name : String) : Option Nat :=
  (characterAliases.find? (·.2 == name)).map (·.1)

/-- The code point of the character with this name, if any. -/
def codeOfName? (name : List Char) : Option Nat :=
  let syllable := "HANGUL SYLLABLE "
  let ideograph := "CJK UNIFIED IDEOGRAPH-"
  if syllable.toList.isPrefixOf name then hangulSyllableNamed? (name.drop syllable.length)
  else if ideograph.toList.isPrefixOf name then unifiedIdeographNamed? (name.drop ideograph.length)
  else
    let upper := String.ofList (name.map Char.toUpper)
    listedName? upper <|> aliasNamed? upper

example : hangulSyllableNamed? "GAG".toList = some 0xAC01 ∧
    hangulSyllableNamed? "A".toList = some 0xC544 ∧ hangulSyllableNamed? "GX".toList = none ∧
    unifiedIdeographNamed? "4E00".toList = some 0x4E00 ∧
    unifiedIdeographNamed? "4e00".toList = none := by
  decide

end StatementClient.Text
