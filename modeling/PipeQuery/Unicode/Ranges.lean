/-! Sets of characters as ascending lists of closed ranges of code points, and their text form, in
which each range is a number of base 16 or two with a hyphen between them, and spaces or line breaks
stand between ranges. The property White_Space of Unicode 17 is such a set. -/

namespace PipeQuery.Unicode

/-- Closed ranges of code points, ascending and apart. -/
abbrev Ranges := List (Nat × Nat)

/-- A code point lies in one of the ranges; the search stops at the first range above it. -/
def Ranges.contains : Ranges → Nat → Bool
  | [], _ => false
  | (lo, hi) :: rest, n => if n < lo then false else n ≤ hi || contains rest n

/-! ### Ranges as text -/

/-- The value of a digit of base 16 in capitals. -/
def hexValue (c : Char) : Nat := if c ≤ '9' then c.toNat - 48 else c.toNat - 55

/-- The range up to a number, if one was read; without a first number it is the only one. -/
def Ranges.upTo (low : Option Nat) : Option Nat → Ranges
  | none => []
  | some high => [(low.getD high, high)]

/-- The ranges of the characters to come, where `low` is the number before a hyphen and `n`
the number being read. -/
def Ranges.ofChars (low n : Option Nat) : List Char → Ranges
  | [] => upTo low n
  | c :: cs =>
    if c = '-' then ofChars n none cs
    else if c = ' ' || c = '\n' then upTo low n ++ ofChars none none cs
    else ofChars low (some (16 * n.getD 0 + hexValue c)) cs

/-- The ranges of a text. -/
def Ranges.ofText (text : String) : Ranges := ofChars none none text.toList

/-! ### White space -/

/-- The white space characters. -/
def blankRanges : Ranges :=
  [(0x09, 0x0D), (0x20, 0x20), (0x85, 0x85), (0xA0, 0xA0), (0x1680, 0x1680), (0x2000, 0x200A),
   (0x2028, 0x2029), (0x202F, 0x202F), (0x205F, 0x205F), (0x3000, 0x3000)]

/-- The property White_Space. -/
def isBlank (c : Char) : Bool := blankRanges.contains c.toNat

/-- The text without the white space at its two ends. -/
def trim (cs : List Char) : List Char :=
  ((cs.dropWhile isBlank).reverse.dropWhile isBlank).reverse

end PipeQuery.Unicode
