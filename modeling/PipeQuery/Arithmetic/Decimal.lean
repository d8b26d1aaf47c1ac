import PipeQuery.Arithmetic.Numeral

/-! Decimal fractions with a coefficient below `2 ^ 96` and at most 28 places. A numeral is read
exactly if it fits; digits past the last place or the last bit are dropped, and the first of
them rounds. -/

namespace PipeQuery

/-- `coefficient / 10 ^ scale`. -/
structure Decimal where
  coefficient : Int
  scale : Nat
deriving DecidableEq, Repr

namespace Decimal

/-- Coefficients stay below `2 ^ 96`. -/
def limit : Nat := 0x1000000000000000000000000

/-- The largest number of places. -/
def maxScale : Nat := 28

/-- A magnitude before its sign is set. -/
structure Magnitude where
  coefficient : Nat
  scale : Nat
deriving DecidableEq, Repr

def withSign (negative : Bool) (x : Magnitude) : Decimal :=
  ⟨if negative then -(x.coefficient : Int) else x.coefficient, x.scale⟩

/-- Rounds by the first dropped digit. A coefficient that grows too large loses its last digit,
for which there must be a place. -/
def roundBy (coefficient scale digit : Nat) : Option Magnitude :=
  if digit < 5 then some ⟨coefficient, scale⟩
  else if coefficient + 1 < limit then some ⟨coefficient + 1, scale⟩
  else if scale = 0 then none
  else some ⟨(coefficient + 5) / 10, scale - 1⟩

/-- Appends the digits of a fraction as long as there is room for them. -/
def appendFraction (coefficient scale : Nat) : List Char → Option Magnitude
  | [] => some ⟨coefficient, scale⟩
  | c :: cs =>
    let next := 10 * coefficient + digitValue c
    if limit ≤ next then roundBy coefficient scale (digitValue c)
    else
      match cs with
      | [] => some ⟨next, scale + 1⟩
      | d :: _ =>
        if maxScale ≤ scale + 1 then roundBy next (scale + 1) (digitValue d)
        else appendFraction next (scale + 1) cs

/-- The digits of a numeral without its power of ten. -/
def ofDigits? (whole fraction : List Char) : Option Magnitude :=
  if digitsValue whole < limit then appendFraction (digitsValue whole) 0 fraction else none

/-- Multiplies by a power of ten, which moves the point as far as there are places and then
appends zeros. -/
def shift? (x : Magnitude) (power : Int) : Option Magnitude :=
  let k := power.natAbs
  if power < 0 then
    if maxScale < k ∨ maxScale < x.scale + k then none else some ⟨x.coefficient, x.scale + k⟩
  else if k ≤ x.scale then some ⟨x.coefficient, x.scale - k⟩
  else if maxScale < k then none
  else
    let grown := x.coefficient * Nat.pow 10 (k - x.scale)
    if grown < limit then some ⟨grown, 0⟩ else none

/-- Reads a numeral: first its digits, which are rounded if there are too many, and then its power
of ten, which moves the point of what was read. -/
def ofNumeral? (x : Numeral) : Option Decimal :=
  match ofDigits? x.whole x.fraction with
  | none => none
  | some m =>
    match x.exponent with
    | none => some (withSign x.negative m)
    | some power => (shift? m power).map (withSign x.negative)

/-- The order of the values. -/
def order (x y : Decimal) : Ordering :=
  let a := x.coefficient * (Nat.pow 10 y.scale : Nat)
  let b := y.coefficient * (Nat.pow 10 x.scale : Nat)
  if a < b then .lt else if b < a then .gt else .eq

/-- A binary number near the value: the parts before and behind the point are converted apart,
and their sum is rounded to as many places as there are. -/
def toBinary64 (x : Decimal) : Binary64 :=
  let negative := x.coefficient < 0
  let m := x.coefficient.natAbs
  let sign (b : Binary64) : Binary64 := if negative then b.neg else b
  if x.scale = 0 then sign (.ofNat m)
  else
    let unit := Nat.pow 10 x.scale
    let fraction := (Binary64.ofNat (m % unit)).div (.ofNat unit)
    let whole := Binary64.ofNat (m / unit)
    if fraction.isZero then sign whole
    else sign (((whole.addMagnitude fraction).mul (.ofNat unit)).roundHalfAway.div (.ofNat unit))

end Decimal

end PipeQuery
