/-!
# Blank characters

The characters trimmed from the ends of a text: the ASCII blanks and the file, group, record and
unit separators, next line, the no-break spaces, the Unicode space separators, and the line and
paragraph separators. `trim` removes them from both ends.
-/

namespace StatementClient.Text

/-- The blank code points. -/
def blankCodes : List Nat :=
  [0x9, 0xA, 0xB, 0xC, 0xD, 0x1C, 0x1D, 0x1E, 0x1F, 0x20, 0x85, 0xA0, 0x1680,
   0x2000, 0x2001, 0x2002, 0x2003, 0x2004, 0x2005, 0x2006, 0x2007, 0x2008, 0x2009, 0x200A,
   0x2028, 0x2029, 0x202F, 0x205F, 0x3000]

/-- Whether a character is blank. -/
def isBlank (c : Char) : Bool :=
  blankCodes.contains c.toNat

/-- A text without the blanks at both ends. -/
def trim (s : String) : String :=
  String.ofList ((s.toList.dropWhile isBlank).reverse.dropWhile isBlank).reverse

example : trim "   x y　\n" = "x y" := by cbv

end StatementClient.Text
