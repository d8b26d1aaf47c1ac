import PipeQuery.Arithmetic.Binary64

/-! The fewest decimal digits that identify a binary number. On ever finer grids of powers of
ten the two neighbours of the number are read back; the first grid on which one of them gives
the number again decides, and of two the nearer one. The notation says which one a tie goes to. -/

namespace PipeQuery

/-- `digits * 10 ^ exponent`. -/
structure Scaled where
  digits : Nat
  exponent : Int
deriving DecidableEq, Repr

namespace Scaled

/-- Which of two neighbours is taken that are equally near. -/
inductive Tie
  | up
  | toEven
deriving DecidableEq, Repr

/-- The nearest binary number that is not negative. -/
def toBinary64 (x : Scaled) : Binary64 := .ofScaled false x.digits x.exponent

/-- The quotient is nearer to the number below it, or equally near and the tie goes there. -/
def isNearerBelow (tie : Tie) (num den : Nat) : Bool :=
  2 * (num % den) < den ||
    (2 * (num % den) = den && tie = .toEven && num / den % 2 = 0)

/-- Of the two neighbours of `num / den` among the multiples of `10 ^ g`, the nearer one of
those that read back as `x`. -/
def onGrid? (tie : Tie) (x : Binary64) (num den : Nat) (g : Int) : Option Scaled :=
  let n := num * Nat.pow 10 (-g).toNat
  let d := den * Nat.pow 10 g.toNat
  let below : Scaled := ⟨n / d, g⟩
  let above : Scaled := ⟨n / d + 1, g⟩
  if above.toBinary64 = x then
    if below.toBinary64 = x && isNearerBelow tie n d then some below else some above
  else if below.toBinary64 = x then some below
  else none

/-- Tries `steps` grids from `10 ^ g` on, each ten times finer than the one before. -/
def search (tie : Tie) (x : Binary64) (num den : Nat) : Nat → Int → Option Scaled
  | 0, _ => none
  | steps + 1, g =>
    match onGrid? tie x num den g with
    | some s => some s
    | none => search tie x num den steps (g - 1)

/-- A grid coarser than `2 ^ b`; powers of ten are compared with powers of two by the bounds
`3/10 < log 2 < 31/100`. -/
def coarseGrid (b : Int) : Int := if b < 0 then -(-b * 3 / 10) else b * 31 / 100 + 1

/-- All decimal digits of `m * 2 ^ e`. -/
def exact (m : Nat) (e : Int) : Scaled :=
  if e < 0 then ⟨m * Nat.pow 5 (-e).toNat, e⟩ else ⟨m * Nat.pow 2 e.toNat, 0⟩

/-- The fewest digits that read back as `m * 2 ^ e`. -/
def shortest (tie : Tie) (m : Nat) (e : Int) (h : Binary64.Canonical m e) : Scaled :=
  if m = 0 then ⟨0, 0⟩
  else
    let (num, den) := Binary64.magnitude m e
    match search tie (.finite false m e h) num den 40 (coarseGrid (m.log2 + 1 + e)) with
    | some s => s
    | none => exact m e

end Scaled

/-! ### Notation -/

/-- The decimal digits of a natural number. -/
def digitsOf (n : Nat) : List Char := Nat.toDigits 10 n

namespace Scaled

/-- Digits and point without a power of ten; no point stands at the end. -/
def positional (x : Scaled) : List Char :=
  let ds := digitsOf x.digits
  if 0 ≤ x.exponent then ds ++ List.replicate x.exponent.toNat '0'
  else
    let places := (-x.exponent).toNat
    let padded := List.replicate (places + 1 - ds.length) '0' ++ ds
    padded.take (padded.length - places) ++ '.' :: padded.drop (padded.length - places)

/-- One digit before the point and a signed power of ten. -/
def scientific (x : Scaled) : List Char :=
  let ds := digitsOf x.digits
  let power : Int := x.exponent + ds.length - 1
  let mantissa := if ds.length = 1 then ds else ds.take 1 ++ '.' :: ds.drop 1
  mantissa ++ 'e' :: (if power < 0 then '-' else '+') :: digitsOf power.natAbs

end Scaled

namespace Binary64

def signed (negative : Bool) (cs : List Char) : List Char := if negative then '-' :: cs else cs

/-- The text of a number without a power of ten, a tie of its last digit going up. A whole number
below `2 ^ 63` has no sign if it is zero. -/
def text (x : Binary64) : String :=
  match x.whole? with
  | some n => toString n
  | none =>
    match x with
    | .nan => "NaN"
    | .infinity negative => if negative then "-inf" else "inf"
    | .finite negative m e h =>
      String.ofList (signed negative (Scaled.shortest .up m e h).positional)

/-- The text of a finite number in JSON: a fraction even if it is zero, and a power of ten
unless the first digit is at one of the places from `10 ^ (-5)` to `10 ^ 15`. A tie of the last
digit goes to the even one. -/
def jsonText? (x : Binary64) : Option String :=
  match x with
  | .finite negative m e h =>
    let s := Scaled.shortest .toEven m e h
    let power : Int := s.exponent + (digitsOf s.digits).length - 1
    let body :=
      if -5 ≤ power ∧ power ≤ 15 then
        if 0 ≤ s.exponent then s.positional ++ ['.', '0'] else s.positional
      else s.scientific
    some (String.ofList (signed negative body))
  | _ => none

end Binary64

end PipeQuery
