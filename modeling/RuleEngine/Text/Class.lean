set_option autoImplicit false

/-! # Character classes

A class of characters is a list of inclusive code-point ranges. Blank characters are those with
the Unicode property White_Space; texts are trimmed of them at both ends. -/

namespace RuleEngine.Text

/-- Membership in a list of inclusive code-point ranges. -/
def inRanges (ranges : List (Nat × Nat)) (c : Char) : Bool :=
  ranges.any fun r => r.1 ≤ c.toNat && c.toNat ≤ r.2

/-- Ranges of the property White_Space. -/
def blankRanges : List (Nat × Nat) :=
  [(0x9, 0xD), (0x20, 0x20), (0x85, 0x85), (0xA0, 0xA0), (0x1680, 0x1680), (0x2000, 0x200A),
   (0x2028, 0x2029), (0x202F, 0x202F), (0x205F, 0x205F), (0x3000, 0x3000)]

/-- White space in the sense of Unicode. -/
def isBlank (c : Char) : Bool := inRanges blankRanges c

/-- The characters without the blank ones at both ends. -/
def trimChars (cs : List Char) : List Char :=
  ((cs.dropWhile isBlank).reverse.dropWhile isBlank).reverse

/-- The text without the blank characters at both ends. -/
def trim (s : String) : String := String.ofList (trimChars s.toList)

/-- Nothing but blank characters. -/
def isBlankText (s : String) : Bool := s.toList.all isBlank

/-- An ASCII letter in lower case; every other character as it is. -/
def lowerAscii (s : String) : String := s.map Char.toLower

end RuleEngine.Text
