import PipeQuery.Arithmetic.Binary64
import PipeQuery.Named

/-! The values that a call passes to its tool, by name. Names keep the order in which they
first came, and each holds the value it was given last. -/

namespace PipeQuery

/-- A text, a number or a truth value. -/
inductive Value
  | string (s : String)
  | number (x : Binary64)
  | bool (b : Bool)
deriving DecidableEq

namespace Value

def string? : Value → Option String
  | .string s => some s
  | _ => none

def number? : Value → Option Binary64
  | .number x => some x
  | _ => none

def bool? : Value → Option Bool
  | .bool b => some b
  | _ => none

/-- A number without a fraction and below `2 ^ 63` in magnitude. -/
def isInteger : Value → Bool
  | .number x => x.whole?.isSome
  | _ => false

/-- Equality of values, where numbers are compared as numbers. -/
def equals : Value → Value → Bool
  | .string s, .string t => s = t
  | .number x, .number y => x.equals y
  | .bool a, .bool b => a = b
  | _, _ => false

end Value

/-- The values of a call by name. -/
abbrev Parameters := Named Value

namespace Parameters

/-- The same names with equal values, in any order. -/
def equals (ps qs : Parameters) : Bool :=
  ps.length = qs.length && ps.all fun (name, value) => (qs.get? name).any value.equals

end Parameters

end PipeQuery
