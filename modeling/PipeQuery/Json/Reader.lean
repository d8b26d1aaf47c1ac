import PipeQuery.Json.Basic
import PipeQuery.Unicode.Numeric

/-! Reading JSON texts. Each function takes the characters still to be read and gives what it
found with the characters behind it, of which there are fewer. A number is read into 64 bits of
digits and a power of ten, and the power is applied by one multiplication or by divisions. -/

namespace PipeQuery.Json

namespace Reader

/-! ### Places of errors -/

/-- A cause, the characters that were not read yet, and how many bytes of these belong to the
place. -/
structure Stop where
  cause : Cause
  rest : List Char
  bytes : Nat

/-- Line and byte column behind one character. -/
def stepPlace (p : Nat × Nat) (c : Char) : Nat × Nat :=
  if c = '\n' then (p.1 + 1, 0) else (p.1, p.2 + c.utf8Size)

/-- The place `n` bytes into `cs`; inside a character each byte takes one column. -/
def placeWithin (p : Nat × Nat) : List Char → Nat → Nat × Nat
  | [], _ => p
  | c :: cs, n =>
    if n < c.utf8Size then (p.1, p.2 + n) else placeWithin (stepPlace p c) cs (n - c.utf8Size)

/-- The error of a whole text. -/
def Stop.toFault (text : List Char) (s : Stop) : Fault :=
  let read := text.take (text.length - s.rest.length)
  let (line, column) := placeWithin (read.foldl stepPlace (1, 0)) s.rest s.bytes
  ⟨s.cause, line, column⟩

/-- An error behind all characters that were read. -/
def stopAt (cause : Cause) (rest : List Char) : Stop := ⟨cause, rest, 0⟩

/-- An error that includes the first byte not yet read. -/
def stopOn (cause : Cause) (rest : List Char) : Stop := ⟨cause, rest, 1⟩

/-! ### Steps -/

/-- What was found at the head of `cs`, and the fewer characters behind it. -/
structure Read (α : Type) (cs : List Char) where
  value : α
  rest : List Char
  shorter : rest.length < cs.length

def isSpace (c : Char) : Bool := c = ' ' || c = '\n' || c = '\t' || c = '\r'

/-- The characters behind leading white space. -/
def skipSpace (cs : List Char) : List Char := cs.dropWhile isSpace

theorem skipSpace_length (cs : List Char) : (skipSpace cs).length ≤ cs.length :=
  (List.dropWhile_sublist _).length_le

/-- Takes the letters of a word, of which the first one has been taken. -/
def word : List Char → List Char → Except Stop (List Char)
  | [], cs => .ok cs
  | _ :: _, [] => .error (stopAt .endInValue [])
  | w :: ws, c :: cs => if c = w then word ws cs else .error (stopOn .expectedWord (c :: cs))

theorem word_length {ws cs rest : List Char} (h : word ws cs = .ok rest) :
    rest.length ≤ cs.length := by
  fun_induction word ws cs with
  | case1 => cases h; exact Nat.le_refl _
  | case2 => cases h
  | case3 ws c cs ih => exact Nat.le_succ_of_le (ih h)
  | case4 => cases h

/-! ### Strings -/

def hexValue? (c : Char) : Option Nat :=
  if '0' ≤ c ∧ c ≤ '9' then some (c.toNat - 48)
  else if 'a' ≤ c ∧ c ≤ 'f' then some (c.toNat - 87)
  else if 'A' ≤ c ∧ c ≤ 'F' then some (c.toNat - 55)
  else none

/-- Takes four digits of base 16. All four bytes are taken even if one is no digit. -/
def hexUnit (cs : List Char) : Except Stop (Read Nat cs) :=
  if ((cs.take 4).foldl (fun n c => n + c.utf8Size) 0) < 4 then .error (stopAt .endInString [])
  else
    match cs with
    | a :: b :: c :: d :: rest =>
      match hexValue? a, hexValue? b, hexValue? c, hexValue? d with
      | some a', some b', some c', some d' =>
        .ok ⟨((a' * 16 + b') * 16 + c') * 16 + d', rest, by simp only [List.length_cons]; omega⟩
      | _, _, _, _ => .error ⟨.invalidEscape, a :: b :: c :: d :: rest, 4⟩
    | cs => .error ⟨.invalidEscape, cs, 4⟩

/-- The character of two surrogates. -/
def joinSurrogates (high low : Nat) : Char :=
  Char.ofNat (0x10000 + (high - 0xD800) * 0x400 + (low - 0xDC00))

/-- Takes the code behind `\u`; a first surrogate takes a second one along. -/
def codePoint (cs : List Char) : Except Stop (Read Char cs) :=
  match hexUnit cs with
  | .error e => .error e
  | .ok ⟨high, rest, h⟩ =>
    if 0xDC00 ≤ high ∧ high ≤ 0xDFFF then .error (stopAt .loneSurrogate rest)
    else if high < 0xD800 ∨ 0xDFFF < high then .ok ⟨Char.ofNat high, rest, h⟩
    else
      match rest, h with
      | [], _ => .error (stopAt .endInString [])
      | ['\\'], _ => .error (stopAt .endInString [])
      | '\\' :: 'u' :: more, h =>
        match hexUnit more with
        | .error e => .error e
        | .ok ⟨low, last, h'⟩ =>
          if 0xDC00 ≤ low ∧ low ≤ 0xDFFF then
            .ok ⟨joinSurrogates high low, last, by simp only [List.length_cons] at h; omega⟩
          else .error (stopAt .loneSurrogate last)
      | '\\' :: more, _ => .error (stopOn .endOfHexEscape more)
      | rest, _ => .error (stopOn .endOfHexEscape rest)

/-- The character that a letter behind a backslash stands for. -/
def escapeOf? : Char → Option Char
  | '"' => some '"'
  | '\\' => some '\\'
  | '/' => some '/'
  | 'b' => some '\x08'
  | 'f' => some '\x0c'
  | 'n' => some '\n'
  | 'r' => some '\r'
  | 't' => some '\t'
  | _ => none

/-- Takes a string behind its opening quote; `before` holds what was read of it, last character
first. -/
def string (before : List Char) (cs : List Char) : Except Stop (Read String cs) :=
  match cs with
  | [] => .error (stopAt .endInString [])
  | '"' :: rest => .ok ⟨String.ofList before.reverse, rest, by simp⟩
  | ['\\'] => .error (stopAt .endInString [])
  | '\\' :: 'u' :: rest =>
    match codePoint rest with
    | .error e => .error e
    | .ok ⟨c, rest', h⟩ =>
      match string (c :: before) rest' with
      | .error e => .error e
      | .ok ⟨s, last, h'⟩ => .ok ⟨s, last, by simp only [List.length_cons]; omega⟩
  | '\\' :: e :: rest =>
    match escapeOf? e with
    | none => .error (stopOn .invalidEscape (e :: rest))
    | some c =>
      match string (c :: before) rest with
      | .error e => .error e
      | .ok ⟨s, last, h'⟩ => .ok ⟨s, last, by simp only [List.length_cons]; omega⟩
  | c :: rest =>
    if c.toNat < 32 then .error (stopOn .controlCharacter (c :: rest))
    else
      match string (c :: before) rest with
      | .error e => .error e
      | .ok ⟨s, last, h'⟩ => .ok ⟨s, last, by simp only [List.length_cons]; omega⟩
termination_by cs.length
decreasing_by all_goals simp only [List.length_cons]; omega

/-! ### Numbers -/

/-- Whole numbers of 64 bits without a sign lie below it. -/
def wordLimit : Nat := 0x10000000000000000

/-- Powers of ten up to this one are numbers. -/
def maxPower : Nat := 308

def powerOfTen (k : Nat) : Binary64 := .ofScaled false 1 k

/-- Divides by a power of ten, in steps of the largest one that is a number. -/
def divideByPower (x : Binary64) (k : Nat) : Binary64 :=
  if k ≤ maxPower then x.div (powerOfTen k)
  else if x.isZero then x
  else divideByPower (x.div (powerOfTen maxPower)) (k - maxPower)
termination_by k
decreasing_by unfold maxPower at *; omega

/-- The number of its digits and a power of ten, if it is finite. -/
def ofParts? (negative : Bool) (digits : Nat) (power : Int) : Option Binary64 :=
  let x := Binary64.ofNat digits
  let magnitude? :=
    if power < 0 then some (divideByPower x power.natAbs)
    else if power ≤ maxPower then
      let y := x.mul (powerOfTen power.toNat)
      if y.isFinite then some y else none
    else if x.isZero then some x else none
  magnitude?.map fun y => if negative then y.neg else y

/-- Reads digits onto those before as long as the number stays below `2 ^ 64`; gives it, how
many digits it took, and the rest. -/
def takeDigits (value taken : Nat) : List Char → Nat × Nat × List Char
  | [] => (value, taken, [])
  | c :: cs =>
    if Unicode.isDigit c && value * 10 + (c.toNat - 48) < wordLimit then
      takeDigits (value * 10 + (c.toNat - 48)) (taken + 1) cs
    else (value, taken, c :: cs)

theorem takeDigits_length (value taken : Nat) (cs : List Char) :
    (takeDigits value taken cs).2.2.length ≤ cs.length := by
  fun_induction takeDigits value taken cs with
  | case1 => exact Nat.le_refl _
  | case2 _ _ c cs _ ih => exact Nat.le_succ_of_le ih
  | case3 => exact Nat.le_refl _

/-- The largest power of ten whose digits are counted; the sum with those of a fraction stays
within 32 bits with a sign. -/
def powerLimit : Nat := 0x7FFFFFFF

/-- Reads the digits of a power of ten. Behind too many of them the number is out of range, or
zero if its digits are or the power is negative; `rest` is then behind the first digit too
many. -/
inductive Power
  | value (k : Nat) (rest : List Char)
  | tooLarge (rest : List Char)

def takePower (value : Nat) : List Char → Power
  | [] => .value value []
  | c :: cs =>
    if Unicode.isDigit c then
      if value * 10 + (c.toNat - 48) ≤ powerLimit then takePower (value * 10 + (c.toNat - 48)) cs
      else .tooLarge cs
    else .value value (c :: cs)

def Power.rest : Power → List Char
  | .value _ rest => rest
  | .tooLarge rest => rest

theorem takePower_length (value : Nat) (cs : List Char) :
    (takePower value cs).rest.length ≤ cs.length := by
  fun_induction takePower value cs with
  | case1 => exact Nat.le_refl _
  | case2 _ c cs _ _ ih => exact Nat.le_succ_of_le ih
  | case3 => simp [Power.rest]
  | case4 => exact Nat.le_refl _

/-- Finishes a number that is not whole. -/
def finish (negative : Bool) (digits : Nat) (power : Int) (rest : List Char) :
    Except Stop (Number × List Char) :=
  match ofParts? negative digits power with
  | some x => .ok (.float x, rest)
  | none => .error (stopAt .numberOutOfRange rest)

/-- Keeps a sum within 32 bits with a sign. -/
def clampPower (k : Int) : Int :=
  if k < -0x80000000 then -0x80000000 else if 0x7FFFFFFF < k then 0x7FFFFFFF else k

/-- Takes the sign of a power of ten, and says whether it is negative. -/
def powerSign : List Char → Bool × List Char
  | '+' :: cs => (false, cs)
  | '-' :: cs => (true, cs)
  | cs => (false, cs)

/-- Reads a power of ten behind its mark. -/
def exponentPart (negative : Bool) (digits : Nat) (power : Int) (cs : List Char) :
    Except Stop (Number × List Char) :=
  let (down, cs) := powerSign cs
  match cs with
  | [] => .error (stopAt .endInValue [])
  | c :: cs =>
    if !Unicode.isDigit c then .error (stopOn .invalidNumber (c :: cs))
    else
      match takePower (c.toNat - 48) cs with
      | .value k rest =>
        finish negative digits (clampPower (if down then power - k else power + k)) rest
      | .tooLarge rest =>
        if digits ≠ 0 ∧ !down then .error (stopAt .numberOutOfRange rest)
        else .ok (.float (.zero negative), rest.dropWhile Unicode.isDigit)

/-- Reads what may follow the digits of a number that is not whole. -/
def tailPart (negative : Bool) (digits : Nat) (power : Int) :
    List Char → Except Stop (Number × List Char)
  | [] => finish negative digits power []
  | c :: cs =>
    if c = 'e' ∨ c = 'E' then exponentPart negative digits power cs
    else finish negative digits power (c :: cs)

/-- Reads a fraction behind its point. Digits past 64 bits are skipped. -/
def fractionPart (negative : Bool) (digits : Nat) (power : Int) (cs : List Char) :
    Except Stop (Number × List Char) :=
  let (value, taken, rest) := takeDigits digits 0 cs
  match rest with
  | [] =>
    if taken = 0 then .error (stopAt .endInValue [])
    else finish negative value (power - taken) []
  | c :: more =>
    if Unicode.isDigit c then
      tailPart negative value (power - taken) (more.dropWhile Unicode.isDigit)
    else if taken = 0 then .error (stopOn .invalidNumber (c :: more))
    else tailPart negative value (power - taken) (c :: more)

/-- The number of digits without point or power: whole if it has 64 bits, a sign included. The
negative zero is not whole. -/
def wholeNumber (negative : Bool) (digits : Nat) : Number :=
  if !negative then .integer digits
  else if 0 < digits ∧ digits ≤ 0x8000000000000000 then .integer (-(digits : Int))
  else .float (Binary64.ofNat digits).neg

/-- Reads on behind the digits of a whole part, of which the last `dropped` did not fit. -/
def behindDigits (negative : Bool) (digits dropped : Nat) (cs : List Char) :
    Except Stop (Number × List Char) :=
  match cs with
  | '.' :: more => fractionPart negative digits dropped more
  | 'e' :: more => exponentPart negative digits dropped more
  | 'E' :: more => exponentPart negative digits dropped more
  | cs =>
    if dropped = 0 then .ok (wholeNumber negative digits, cs)
    else finish negative digits dropped cs

/-- Reads a number behind its sign. A zero is the only digit before a point if it is the first. -/
def number (negative : Bool) : List Char → Except Stop (Number × List Char)
  | [] => .error (stopAt .endInValue [])
  | c :: cs =>
    if c = '0' then
      match cs with
      | [] => behindDigits negative 0 0 []
      | d :: rest =>
        if Unicode.isDigit d then .error (stopOn .invalidNumber (d :: rest))
        else behindDigits negative 0 0 (d :: rest)
    else if Unicode.isDigit c then
      let (value, _, rest) := takeDigits (c.toNat - 48) 0 cs
      behindDigits negative value (rest.takeWhile Unicode.isDigit).length
        (rest.dropWhile Unicode.isDigit)
    else .error (stopOn .invalidNumber (c :: cs))

/-! ### A number leaves fewer characters -/

private theorem dropWhile_length (p : Char → Bool) (cs : List Char) :
    (cs.dropWhile p).length ≤ cs.length :=
  (List.dropWhile_sublist p).length_le

theorem finish_length {negative : Bool} {digits : Nat} {power : Int} {cs rest : List Char}
    {n : Number} (h : finish negative digits power cs = .ok (n, rest)) :
    rest.length ≤ cs.length := by
  unfold finish at h
  split at h
  · cases h; exact Nat.le_refl _
  · cases h

theorem powerSign_length (cs : List Char) : (powerSign cs).2.length ≤ cs.length := by
  unfold powerSign
  split <;> simp

theorem exponentPart_length {negative : Bool} {digits : Nat} {power : Int}
    {cs rest : List Char} {n : Number} (h : exponentPart negative digits power cs = .ok (n, rest)) :
    rest.length ≤ cs.length := by
  unfold exponentPart at h
  have hs := powerSign_length cs
  generalize powerSign cs = sign at h hs
  obtain ⟨down, ds⟩ := sign
  simp only at h hs
  split at h
  · cases h
  · rename_i c es
    simp only [List.length_cons] at hs
    split at h
    · cases h
    · have hp := takePower_length (c.toNat - 48) es
      split at h
      · rename_i hk
        rw [hk] at hp
        have := finish_length h
        simp only [Power.rest] at hp
        omega
      · rename_i hk
        rw [hk] at hp
        split at h
        · cases h
        · cases h
          have := dropWhile_length Unicode.isDigit
          simp only [Power.rest] at hp
          exact Nat.le_trans (this _) (by omega)

theorem tailPart_length {negative : Bool} {digits : Nat} {power : Int} {cs rest : List Char}
    {n : Number} (h : tailPart negative digits power cs = .ok (n, rest)) :
    rest.length ≤ cs.length := by
  unfold tailPart at h
  split at h
  · exact finish_length h
  · split at h
    · exact Nat.le_succ_of_le (exponentPart_length h)
    · exact finish_length h

theorem fractionPart_length {negative : Bool} {digits : Nat} {power : Int}
    {cs rest : List Char} {n : Number} (h : fractionPart negative digits power cs = .ok (n, rest)) :
    rest.length ≤ cs.length := by
  unfold fractionPart at h
  have ht := takeDigits_length digits 0 cs
  generalize takeDigits digits 0 cs = t at h ht
  obtain ⟨value, taken, ds⟩ := t
  simp only at h ht
  split at h
  · split at h
    · cases h
    · exact Nat.le_trans (finish_length h) ht
  · simp only [List.length_cons] at ht
    split at h
    · have := tailPart_length h
      have := dropWhile_length Unicode.isDigit
      exact Nat.le_trans (tailPart_length h) (Nat.le_trans (this _) (by omega))
    · split at h
      · cases h
      · have := tailPart_length h
        simp only [List.length_cons] at this
        omega

theorem behindDigits_length {negative : Bool} {digits dropped : Nat} {cs rest : List Char}
    {n : Number} (h : behindDigits negative digits dropped cs = .ok (n, rest)) :
    rest.length ≤ cs.length := by
  unfold behindDigits at h
  split at h
  · exact Nat.le_succ_of_le (fractionPart_length h)
  · exact Nat.le_succ_of_le (exponentPart_length h)
  · exact Nat.le_succ_of_le (exponentPart_length h)
  · split at h
    · cases h; exact Nat.le_refl _
    · exact finish_length h

theorem number_length {negative : Bool} {cs rest : List Char} {n : Number}
    (h : number negative cs = .ok (n, rest)) : rest.length < cs.length := by
  unfold number at h
  split at h
  · cases h
  · rename_i c ds
    rw [List.length_cons, Nat.lt_succ_iff]
    split at h
    · split at h
      · exact behindDigits_length h
      · split at h
        · cases h
        · exact behindDigits_length h
    · split at h
      · exact Nat.le_trans (behindDigits_length h)
          (Nat.le_trans (dropWhile_length _ _) (takeDigits_length _ _ _))
      · cases h

/-! ### Values -/

/-- How many brackets may be open at once. -/
def maxDepth : Nat := 127

/-- Takes the colon between a name and its value. -/
def colon (cs : List Char) : Except Stop (Read Unit cs) :=
  match h : skipSpace cs with
  | [] => .error (stopAt .endInObject [])
  | c :: rest =>
    if c = ':' then .ok ⟨(), rest, by have := skipSpace_length cs; rw [h] at this; exact this⟩
    else .error (stopOn .expectedColon (c :: rest))

/-- Takes a string together with its opening quote. -/
def name (cs : List Char) : Except Stop (Read String cs) :=
  match cs with
  | [] => .error (stopAt .endInValue [])
  | c :: rest =>
    if c = '"' then
      match string [] rest with
      | .error e => .error e
      | .ok ⟨s, last, h⟩ => .ok ⟨s, last, by simp only [List.length_cons]; omega⟩
    else .error (stopOn .keyNotString (c :: rest))

/-- Takes the letters of a word behind its first one, for the value that it stands for. -/
def literal (x : Json) (letters : List Char) (c : Char) (cs : List Char) :
    Except Stop (Read Json (c :: cs)) :=
  match h : word letters cs with
  | .error e => .error e
  | .ok rest => .ok ⟨x, rest, Nat.lt_succ_of_le (word_length h)⟩

/-- Takes a number behind its sign. -/
def signed (negative : Bool) (cs : List Char) : Except Stop (Read Json cs) :=
  match h : number negative cs with
  | .error e => .error e
  | .ok (n, rest) => .ok ⟨.number n, rest, number_length h⟩

/-- The same value behind more characters. -/
def Read.weaken {α : Type} {cs ds : List Char} (r : Read α cs) (h : cs.length ≤ ds.length) :
    Read α ds :=
  ⟨r.value, r.rest, Nat.lt_of_lt_of_le r.shorter h⟩

/-- What stands inside brackets at the head of `cs`: their end, with the characters behind it, or
the characters at which the next entry starts. -/
inductive Front (cs : List Char)
  | closed (rest : List Char) (shorter : rest.length < cs.length)
  | entry (start : List Char) (le : start.length ≤ cs.length)

/-- Takes the closing bracket or what stands before an entry, which is a comma for all but the
first. No comma stands before the closing bracket. -/
def front (close : Char) (atEnd expected : Cause) (first : Bool) (cs : List Char) :
    Except Stop (Front cs) :=
  match h : skipSpace cs with
  | [] => .error (stopOn atEnd [])
  | c :: rest =>
    have hle : (c :: rest).length ≤ cs.length := h ▸ skipSpace_length cs
    if c = close then .ok (.closed rest hle)
    else if first then .ok (.entry (c :: rest) hle)
    else if c = ',' then
      match hs : skipSpace rest with
      | [] => .error (stopOn .endInValue [])
      | d :: more =>
        have hle' : (d :: more).length ≤ rest.length := hs ▸ skipSpace_length rest
        if d = close then .error (stopOn .trailingComma (d :: more))
        else .ok (.entry (d :: more) (Nat.le_trans hle' (Nat.le_of_lt hle)))
    else .error (stopOn expected (c :: rest))

mutual

/-- Takes a value, inside which `depth` brackets may be open at once. -/
def value (depth : Nat) (cs : List Char) : Except Stop (Read Json cs) :=
  match h : skipSpace cs with
  | [] => .error (stopOn .endInValue [])
  | c :: rest =>
    have hle : (c :: rest).length ≤ cs.length := h ▸ skipSpace_length cs
    (valueAt depth c rest).map (·.weaken hle)
termination_by 3 * cs.length + 1
decreasing_by all_goals simp only [List.length_cons] at *; omega

/-- Takes the value that starts with `c`. -/
def valueAt (depth : Nat) (c : Char) (cs : List Char) : Except Stop (Read Json (c :: cs)) :=
  if c = 'n' then literal .null ['u', 'l', 'l'] c cs
  else if c = 't' then literal (.bool true) ['r', 'u', 'e'] c cs
  else if c = 'f' then literal (.bool false) ['a', 'l', 's', 'e'] c cs
  else if c = '-' then (signed true cs).map (·.weaken (Nat.le_succ _))
  else if Unicode.isDigit c then signed false (c :: cs)
  else if c = '"' then
    (string [] cs).map fun ⟨s, rest, h⟩ => ⟨.string s, rest, Nat.lt_succ_of_lt h⟩
  else if c = '[' then
    match depth with
    | 0 => .error (stopOn .recursionLimit (c :: cs))
    | depth + 1 =>
      (items depth true cs).map fun ⟨xs, rest, h⟩ => ⟨.array xs, rest, Nat.lt_succ_of_lt h⟩
  else if c = '\x7b' then
    match depth with
    | 0 => .error (stopOn .recursionLimit (c :: cs))
    | depth + 1 =>
      (members depth true [] cs).map fun ⟨xs, rest, h⟩ =>
        ⟨.object xs, rest, Nat.lt_succ_of_lt h⟩
  else .error (stopOn .expectedValue (c :: cs))
termination_by 3 * cs.length + 3
decreasing_by all_goals omega

/-- Takes items up to the closing bracket. -/
def items (depth : Nat) (first : Bool) (cs : List Char) : Except Stop (Read (List Json) cs) :=
  match front ']' .endInList .expectedListCommaOrEnd first cs with
  | .error e => .error e
  | .ok (.closed rest h) => .ok ⟨[], rest, h⟩
  | .ok (.entry start h) =>
    match value depth start with
    | .error e => .error e
    | .ok ⟨x, rest, h'⟩ =>
      match items depth false rest with
      | .error e => .error e
      | .ok ⟨xs, last, h''⟩ => .ok ⟨x :: xs, last, by omega⟩
termination_by 3 * cs.length + 2
decreasing_by all_goals omega

/-- Takes members up to the closing brace and adds them to those before. -/
def members (depth : Nat) (first : Bool) (before : Named Json) (cs : List Char) :
    Except Stop (Read (Named Json) cs) :=
  match front '\x7d' .endInObject .expectedObjectCommaOrEnd first cs with
  | .error e => .error e
  | .ok (.closed rest h) => .ok ⟨before, rest, h⟩
  | .ok (.entry start h) =>
    match member depth before start with
    | .error e => .error e
    | .ok ⟨xs, rest, h'⟩ =>
      match members depth false xs rest with
      | .error e => .error e
      | .ok ⟨ys, last, h''⟩ => .ok ⟨ys, last, by omega⟩
termination_by 3 * cs.length + 2
decreasing_by all_goals omega

/-- Takes a name, a colon and a value, and adds the pair to those before. -/
def member (depth : Nat) (before : Named Json) (cs : List Char) :
    Except Stop (Read (Named Json) cs) :=
  match name cs with
  | .error e => .error e
  | .ok ⟨k, rest, h⟩ =>
    match colon rest with
    | .error e => .error e
    | .ok ⟨_, rest', h'⟩ =>
      match value depth rest' with
      | .error e => .error e
      | .ok ⟨x, last, h''⟩ => .ok ⟨before.insert k x, last, by omega⟩
termination_by 3 * cs.length + 1
decreasing_by omega

end

/-- Takes a value that is all there is but for white space. -/
def whole (cs : List Char) : Except Stop Json :=
  match value maxDepth cs with
  | .error e => .error e
  | .ok ⟨x, rest, _⟩ =>
    match skipSpace rest with
    | [] => .ok x
    | c :: more => .error (stopOn .trailingCharacters (c :: more))

end Reader

/-- Reads a text as a JSON value. -/
def parse (text : String) : Except Fault Json :=
  match Reader.whole text.toList with
  | .ok x => .ok x
  | .error stop => .error (stop.toFault text.toList)

end PipeQuery.Json
