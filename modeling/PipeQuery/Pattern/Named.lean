import PipeQuery.Pattern.Basic
import PipeQuery.Unicode.Category
import PipeQuery.Unicode.Property
import PipeQuery.Unicode.Ranges
import PipeQuery.Unicode.Script

/-! Sets of characters that have a name in patterns: properties of Unicode, and the classes of
characters below 128. -/

namespace PipeQuery.CharSet

/-- A property name without what does not matter in it: case, spaces, low lines, hyphens,
characters from 128 on, and the letters "is" at its start. -/
def looseName (name : List Char) : String :=
  let small := name.map fun c => if 'A' ≤ c && c ≤ 'Z' then Char.ofNat (c.toNat + 32) else c
  let (isWordBefore, body) := match small with
    | 'i' :: 's' :: cs => (true, cs)
    | cs => (false, cs)
  let kept := body.filter fun c => c.toNat < 128 && c ≠ ' ' && c ≠ '_' && c ≠ '-'
  if isWordBefore && kept = ['c'] then "isc" else String.ofList kept

def ofCategories (ks : List Unicode.Category) : CharSet :=
  ks.foldr (fun k s => (ofRanges k.ranges).union s) none

/-- The characters that are assigned a meaning, or are set aside for none. -/
def unassigned : CharSet := (ofCategories Unicode.Category.assigned).complement

/-- The set of a general category or a group of them. -/
def ofCategoryName? (name : String) : Option CharSet :=
  if name = "any" then some all
  else if name = "ascii" then some ⟨fun c => c.toNat < 128⟩
  else if name = "cn" ∨ name = "unassigned" then some unassigned
  else if name = "c" ∨ name = "other" then
    some ((ofCategories Unicode.Category.others).union unassigned)
  else (Unicode.Category.names.lookup name).map ofCategories

/-- The set of a property, a category or a script, whichever has the name. The abbreviations of
three categories are also those of properties without a set. -/
def ofPropertyName? (name : List Char) : Option CharSet :=
  let name := looseName name
  let property := if name = "cf" ∨ name = "sc" ∨ name = "lc" then Option.none
    else Unicode.Property.ofName? name
  match property with
  | some p => some (ofRanges p.ranges)
  | .none =>
    match ofCategoryName? name with
    | some s => some s
    | .none => (Unicode.Script.ofName? name).map fun s => ofRanges s.ranges

/-- The set of a value of the category, the script or its extensions. -/
def ofPropertyValue? (property value : List Char) : Option CharSet :=
  let property := looseName property
  let value := looseName value
  if property = "gc" ∨ property = "generalcategory" then ofCategoryName? value
  else if property = "sc" ∨ property = "script" then
    (Unicode.Script.ofName? value).map fun s => ofRanges s.ranges
  else if property = "scx" ∨ property = "scriptextensions" then
    (Unicode.Script.ofName? value).map fun s => ofRanges s.extensions
  else Option.none

def digits : CharSet := ofRanges Unicode.Category.decimalNumber.ranges

def spaces : CharSet := ofRanges Unicode.blankRanges

def words : CharSet := ⟨Unicode.isWord⟩

/-! ### Classes below 128 -/

def latinDigits : CharSet := between '0' '9'

def latinSpaces : CharSet := ⟨fun c => c = ' ' || (9 ≤ c.toNat && c.toNat ≤ 13)⟩

def latinWords : CharSet := ⟨fun c => c.toNat < 128 && Unicode.isLatinWord c⟩

/-- The class of a name between colons. -/
def ofClassName? (name : String) : Option CharSet :=
  [("alnum", (between '0' '9').union ⟨Unicode.isLatinLetter⟩),
   ("alpha", ⟨Unicode.isLatinLetter⟩),
   ("ascii", ⟨fun c => c.toNat < 128⟩),
   ("blank", (single ' ').union (single '\t')),
   ("cntrl", ⟨fun c => c.toNat < 32 || c.toNat = 127⟩),
   ("digit", latinDigits),
   ("graph", between '!' '~'),
   ("lower", between 'a' 'z'),
   ("print", between ' ' '~'),
   ("punct", ((between '!' '/').union (between ':' '@')).union
     ((between '[' (Char.ofNat 96)).union (between '\x7b' '~'))),
   ("space", latinSpaces),
   ("upper", between 'A' 'Z'),
   ("word", latinWords),
   ("xdigit", (latinDigits.union (between 'a' 'f')).union (between 'A' 'F'))].lookup name

end PipeQuery.CharSet
