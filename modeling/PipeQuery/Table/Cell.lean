import PipeQuery.Arithmetic.Decimal
import PipeQuery.Unicode.Ranges

/-! Cells as numbers, and the order of cells. A cell that is written as a number is an exact
decimal if it fits one, and a binary number if that is finite; any other cell is a text.
Numbers come before texts, and texts go by the code points of their characters. -/

namespace PipeQuery

/-- A number read from a cell. -/
inductive CellNumber
  | exact (x : Decimal)
  | approximate (x : Binary64)
deriving DecidableEq

namespace CellNumber

/-- Reads a cell as a number; white space around it does not matter. -/
def read? (cell : String) : Option CellNumber :=
  match Numeral.read? (Unicode.trim cell.toList) with
  | none => none
  | some numeral =>
    match Decimal.ofNumeral? numeral with
    | some x => some (.exact x)
    | none =>
      let x := numeral.toBinary64
      if x.isFinite then some (.approximate x) else none

def toBinary64 : CellNumber → Binary64
  | .exact x => x.toBinary64
  | .approximate x => x

/-- The order of whole numbers. -/
def orderInt (a b : Int) : Ordering := if a < b then .lt else if b < a then .gt else .eq

/-- Exact numbers go by value; a pair with a binary number goes by the order of binary
numbers. -/
def order : CellNumber → CellNumber → Ordering
  | .exact x, .exact y => x.order y
  | x, y => orderInt x.toBinary64.rank y.toBinary64.rank

end CellNumber

/-- The order of texts by code points; a text comes after its beginnings. -/
def textOrder : List Char → List Char → Ordering
  | [], [] => .eq
  | [], _ :: _ => .lt
  | _ :: _, [] => .gt
  | c :: cs, d :: ds =>
    if c.toNat < d.toNat then .lt else if d.toNat < c.toNat then .gt else textOrder cs ds

/-- What a row is sorted by. -/
inductive SortKey
  | number (x : CellNumber)
  | text (s : String)
deriving DecidableEq

namespace SortKey

def ofCell (cell : String) : SortKey :=
  match CellNumber.read? cell with
  | some x => .number x
  | none => .text cell

/-- Numbers come before texts. -/
def order : SortKey → SortKey → Ordering
  | .number x, .number y => x.order y
  | .number _, .text _ => .lt
  | .text _, .number _ => .gt
  | .text s, .text t => textOrder s.toList t.toList

end SortKey

end PipeQuery
