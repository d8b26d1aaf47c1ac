/-! Binary floating-point numbers of 64 bits as exact values. A finite number is a sign, a
mantissa and a power of two in the one form that its bits stand for, so equal numbers of one
sign are equal terms. Every operation is the exact result, rounded once to the nearest number,
a tie going to the even mantissa (`ofRatio`). -/

namespace PipeQuery

/-- `m * 2 ^ e` is written with a mantissa of 53 bits, or with fewer at the least exponent. -/
def Binary64.Canonical (m : Nat) (e : Int) : Prop :=
  m < 0x20000000000000 ∧ -1074 ≤ e ∧ e ≤ 971 ∧ (0x10000000000000 ≤ m ∨ e = -1074)

instance (m : Nat) (e : Int) : Decidable (Binary64.Canonical m e) :=
  inferInstanceAs (Decidable (_ ∧ _ ∧ _ ∧ (_ ∨ _)))

/-- A number, an infinity or no number. A finite one stands for `mantissa * 2 ^ exponent`. -/
inductive Binary64
  | nan
  | infinity (negative : Bool)
  | finite (negative : Bool) (mantissa : Nat) (exponent : Int)
      (canonical : Binary64.Canonical mantissa exponent)
deriving DecidableEq

namespace Binary64

/-! ### Rounding -/

def zero (negative : Bool) : Binary64 := .finite negative 0 (-1074) (by decide)

/-- The quotient rounded to the nearest natural number, a tie to the even one. -/
def roundHalfEven (num den : Nat) : Nat :=
  let q := num / den
  let r := num % den
  if 2 * r < den then q else if den < 2 * r then q + 1 else q + q % 2

/-- Numerator and denominator of `num / den` divided by `2 ^ e`. -/
def scaleDown (num den : Nat) (e : Int) : Nat × Nat :=
  (num * Nat.pow 2 (-e).toNat, den * Nat.pow 2 e.toNat)

/-- The exponent at which `num / den` has 53 bits before the binary point, or the least one. -/
def exponentFor (num den : Nat) : Int :=
  let guess : Int := num.log2 - den.log2 - 53
  let e := if guess < -1074 then -1074 else guess
  let (n, d) := scaleDown num den e
  if n / d < 0x20000000000000 then e else e + 1

/-- The number of a rounded mantissa; one that has no number is infinite. -/
def ofRounded (negative : Bool) (m : Nat) (e : Int) : Binary64 :=
  if h : Canonical m e then .finite negative m e h else .infinity negative

/-- The nearest number to a positive quotient in lowest terms. A mantissa that rounds up to 54
bits is the least one of the next exponent. -/
def ofReduced (negative : Bool) (num den : Nat) : Binary64 :=
  let e := exponentFor num den
  let (n, d) := scaleDown num den e
  let m := roundHalfEven n d
  if m = 0x20000000000000 then ofRounded negative 0x10000000000000 (e + 1)
  else ofRounded negative m e

/-- The nearest number to `num / den`, for a positive `den`. -/
def ofRatio (negative : Bool) (num den : Nat) : Binary64 :=
  if num = 0 then zero negative
  else
    let g := Nat.gcd num den
    ofReduced negative (num / g) (den / g)

def ofNat (n : Nat) : Binary64 := ofRatio false n 1

def ofInt (n : Int) : Binary64 := ofRatio (n < 0) n.natAbs 1

/-- The nearest number to `digits * 10 ^ exponent`. Far outside of the range of finite numbers
the power is not computed: above `10 ^ 400` all is infinite, below `2 ^ (-1200)` all is zero. -/
def ofScaled (negative : Bool) (digits : Nat) (exponent : Int) : Binary64 :=
  if digits = 0 then zero negative
  else if exponent > 400 then .infinity negative
  else if (digits.log2 : Int) + 1 + 3 * exponent < -1200 then zero negative
  else ofRatio negative (digits * Nat.pow 10 exponent.toNat) (Nat.pow 10 (-exponent).toNat)

/-! ### Parts of a number -/

def isNegative : Binary64 → Bool
  | .nan => false
  | .infinity negative => negative
  | .finite negative _ _ _ => negative

def isFinite : Binary64 → Bool
  | .finite .. => true
  | _ => false

/-- Numerator and denominator of `m * 2 ^ e`. -/
def magnitude (m : Nat) (e : Int) : Nat × Nat := (m * Nat.pow 2 e.toNat, Nat.pow 2 (-e).toNat)

def isZero : Binary64 → Bool
  | .finite _ m _ _ => m = 0
  | _ => false

/-- The value of a whole number below `2 ^ 63` in magnitude. -/
def whole? : Binary64 → Option Int
  | .finite negative m e _ =>
    let (n, d) := magnitude m e
    if n % d = 0 ∧ n / d < 0x8000000000000000 then
      some (if negative then -(n / d : Nat) else (n / d : Nat))
    else none
  | _ => none

/-- The 64 bits as a number, but for those of NaN, which is not one bit pattern. -/
def bits : Binary64 → Nat
  | .nan => 0x7FF8000000000000
  | .infinity negative => (if negative then 0x8000000000000000 else 0) + 0x7FF0000000000000
  | .finite negative m e _ =>
    (if negative then 0x8000000000000000 else 0) +
      if m < 0x10000000000000 then m
      else (e + 1075).toNat * 0x10000000000000 + (m - 0x10000000000000)

/-! ### Arithmetic -/

def neg : Binary64 → Binary64
  | .nan => .nan
  | .infinity s => .infinity (!s)
  | .finite s m e h => .finite (!s) m e h

def mul : Binary64 → Binary64 → Binary64
  | .finite s m e _, .finite t n f _ =>
    let (a, b) := magnitude m e
    let (c, d) := magnitude n f
    ofRatio (s != t) (a * c) (b * d)
  | .nan, _ => .nan
  | _, .nan => .nan
  | x, y => if x.isZero || y.isZero then .nan else .infinity (x.isNegative != y.isNegative)

def div : Binary64 → Binary64 → Binary64
  | .finite s m e _, .finite t n f _ =>
    let (a, b) := magnitude m e
    let (c, d) := magnitude n f
    if n = 0 then if m = 0 then .nan else .infinity (s != t)
    else ofRatio (s != t) (a * d) (b * c)
  | .nan, _ => .nan
  | _, .nan => .nan
  | .infinity _, .infinity _ => .nan
  | .infinity s, y => .infinity (s != y.isNegative)
  | x, .infinity t => zero (x.isNegative != t)

/-- The sum of two numbers of one sign. -/
def addMagnitude : Binary64 → Binary64 → Binary64
  | .finite s m e _, .finite _ n f _ =>
    let (a, b) := magnitude m e
    let (c, d) := magnitude n f
    ofRatio s (a * d + c * b) (b * d)
  | .nan, _ => .nan
  | _, .nan => .nan
  | .infinity s, _ => .infinity s
  | _, .infinity t => .infinity t

/-- The nearest whole number, a tie away from zero. -/
def roundHalfAway : Binary64 → Binary64
  | .finite s m e _ =>
    let (n, d) := magnitude m e
    ofRatio s ((2 * n + d) / (2 * d)) 1
  | x => x

/-! ### Comparison -/

/-- Equality of values: the zeros are equal, and NaN equals nothing. -/
def equals : Binary64 → Binary64 → Bool
  | .nan, _ => false
  | _, .nan => false
  | x, y => x = y || (x.isZero && y.isZero)

/-- The place of a number in the order of all bit patterns, where the negative zero stands
just below the positive one. -/
def rank (x : Binary64) : Int :=
  if x.isNegative then -(x.bits - 0x8000000000000000 : Nat) - 1 else x.bits

end Binary64

end PipeQuery
