import PipeQuery.Arithmetic.Binary64
import PipeQuery.Unicode.Numeric

/-! Numbers as they are written: an optional sign, digits with at most one point among or
around them, and an optional power of ten. `Numeral.read?` accepts exactly these texts. -/

namespace PipeQuery

/-- The value of a digit. -/
def digitValue (c : Char) : Nat := c.toNat - 48

/-- The number that a run of digits stands for. -/
def digitsValue (cs : List Char) : Nat := cs.foldl (fun n c => 10 * n + digitValue c) 0

/-- A number as it is written: the digits before and behind the point, and the power of ten if
there is one. -/
structure Numeral where
  negative : Bool
  whole : List Char
  fraction : List Char
  exponent : Option Int
deriving DecidableEq, Repr

namespace Numeral

/-- Takes a sign off; without one a number is positive. -/
def splitSign : List Char → Bool × List Char
  | '-' :: cs => (true, cs)
  | '+' :: cs => (false, cs)
  | cs => (false, cs)

/-- Splits at the first character that satisfies `p`, which belongs to neither part. -/
def splitAt (p : Char → Bool) (cs : List Char) : List Char × Option (List Char) :=
  match cs.dropWhile fun c => !p c with
  | [] => (cs, none)
  | _ :: rest => (cs.takeWhile fun c => !p c, some rest)

def isExponentMark (c : Char) : Bool := c = 'e' || c = 'E'

/-- The value of a signed run of digits. -/
def exponent? (cs : List Char) : Option Int :=
  let (negative, digits) := splitSign cs
  if digits.isEmpty || !digits.all Unicode.isDigit then none
  else some (if negative then -(digitsValue digits : Int) else digitsValue digits)

/-- Reads a whole text as a number: at least one digit before the power of ten, and at least
one in it. -/
def read? (cs : List Char) : Option Numeral :=
  let (negative, body) := splitSign cs
  let (mantissa, power) := splitAt isExponentMark body
  let (whole, fraction) := splitAt (· = '.') mantissa
  let fraction := fraction.getD []
  if (whole.isEmpty && fraction.isEmpty) || !whole.all Unicode.isDigit
      || !fraction.all Unicode.isDigit then none
  else
    match power with
    | none => some ⟨negative, whole, fraction, none⟩
    | some cs => (exponent? cs).map fun e => ⟨negative, whole, fraction, some e⟩

/-- The nearest binary number. -/
def toBinary64 (x : Numeral) : Binary64 :=
  .ofScaled x.negative (digitsValue (x.whole ++ x.fraction))
    (x.exponent.getD 0 - x.fraction.length)

end Numeral

/-- Small letters for capital ones among the Latin letters below 128. -/
def latinLower (cs : List Char) : List Char :=
  cs.map fun c => if 'A' ≤ c && c ≤ 'Z' then Char.ofNat (c.toNat + 32) else c

/-- Reads a number, an infinity or NaN; the words for the latter are read in any case. -/
def Binary64.ofText? (text : String) : Option Binary64 :=
  let (negative, body) := Numeral.splitSign text.toList
  let word := String.ofList (latinLower body)
  if word = "inf" ∨ word = "infinity" then some (.infinity negative)
  else if word = "nan" then some .nan
  else (Numeral.read? text.toList).map Numeral.toBinary64

end PipeQuery
