import PipeQuery.Pattern.Named

/-! Reading patterns. A text that is no pattern gives none; what is wrong with it is not told.
All functions take the state by value, so a failed attempt leaves nothing behind. Each step
takes a character, and the number of steps is bounded by the length of the text. -/

namespace PipeQuery.Pattern

/-- The switches that may be set inside a pattern. -/
structure Flags where
  caseless : Bool
  multiline : Bool
  dotAll : Bool
  unicode : Bool
  verbose : Bool
  anyLineEnd : Bool

/-- The characters still to be read, the switches in force, and the names of groups so far. -/
structure State where
  rest : List Char
  flags : Flags
  groups : List String

namespace State

/-- The characters behind white space and comments. -/
def afterComments : Nat → List Char → List Char
  | 0, cs => cs
  | _ + 1, [] => []
  | n + 1, c :: cs =>
    if Unicode.isBlank c then afterComments n cs
    else if c = '#' then afterComments n (cs.dropWhile (· ≠ '\n'))
    else c :: cs

/-- Skips white space and comments where these do not count. -/
def skip (s : State) : State :=
  if s.flags.verbose then { s with rest := afterComments s.rest.length s.rest } else s

/-- Behind the next character. -/
def drop (s : State) : State := { s with rest := s.rest.tail }

/-- Behind the next character and white space that does not count. -/
def dropSkip (s : State) : State := s.drop.skip

end State

/-! ### Escapes -/

/-- What one element of a pattern stands for; `byte` marks a character written as two digits of
base 16. -/
inductive Item
  | char (c : Char) (byte : Bool)
  | set (s : CharSet)
  | assertion (a : Assertion)

def hexValue? (c : Char) : Option Nat :=
  if '0' ≤ c ∧ c ≤ '9' then some (c.toNat - 48)
  else if 'a' ≤ c ∧ c ≤ 'f' then some (c.toNat - 87)
  else if 'A' ≤ c ∧ c ≤ 'F' then some (c.toNat - 55)
  else none

/-- The character of a number, if it is one. -/
def charOf? (n : Nat) : Option Char :=
  if n < 0xD800 ∨ (0xDFFF < n ∧ n < 0x110000) then some (Char.ofNat n) else none

/-- Reads a fixed number of digits of base 16. -/
def hexDigits (value : Nat) : Nat → State → Option (Nat × State)
  | 0, s => some (value, s)
  | n + 1, s =>
    match s.rest with
    | [] => none
    | c :: _ =>
      match hexValue? c with
      | none => none
      | some d => hexDigits (16 * value + d) n s.dropSkip

/-- Reads digits of base 16 up to a closing brace; `fuel` bounds their number. -/
def hexUntilBrace (fuel : Nat) (value : Option Nat) (s : State) : Option (Nat × State) :=
  match fuel, s.rest with
  | fuel + 1, c :: _ =>
    if c = '\x7d' then value.map fun n => (n, s.dropSkip)
    else
      match hexValue? c with
      | none => none
      | some d =>
        let n := 16 * value.getD 0 + d
        if n < 0x100000000 then hexUntilBrace fuel (some n) s.dropSkip else none
  | _, _ => none

/-- Reads the number of a character; `width` is the number of its digits without braces. -/
def hexEscape (width : Nat) (s : State) : Option (Item × State) :=
  let s := s.dropSkip
  match s.rest with
  | [] => none
  | '\x7b' :: cs => do
    let (n, s) ← hexUntilBrace (cs.length + 1) none s.dropSkip
    let c ← charOf? n
    some (.char c false, s)
  | _ => do
    let (n, s) ← hexDigits 0 width s
    let c ← charOf? n
    some (.char c (width = 2), s)

/-- The characters up to the first place where `mark` stands, and those behind it. -/
def splitOn? (mark : List Char) : List Char → Option (List Char × List Char)
  | [] => none
  | c :: cs =>
    if mark.isPrefixOf (c :: cs) then some ([], (c :: cs).drop mark.length)
    else (splitOn? mark cs).map fun (before, after) => (c :: before, after)

/-- Reads up to a closing brace; `fuel` bounds the number of characters. -/
def nameUntilBrace (fuel : Nat) (name : List Char) (s : State) : Option (List Char × State) :=
  match fuel, s.rest with
  | fuel + 1, c :: _ =>
    if c = '\x7d' then some (name.reverse, s.drop) else nameUntilBrace fuel (c :: name) s.dropSkip
  | _, _ => none

/-- The set of a property as it is written between braces. An exclamation mark before the equals
sign makes no difference. -/
def propertySet? (name : List Char) : Option CharSet :=
  match splitOn? ['!', '='] name with
  | some (p, v) => CharSet.ofPropertyValue? p v
  | none =>
    match splitOn? [':'] name with
    | some (p, v) => CharSet.ofPropertyValue? p v
    | none =>
      match splitOn? ['='] name with
      | some (p, v) => CharSet.ofPropertyValue? p v
      | none => CharSet.ofPropertyName? name

/-- With each character those that differ in case only, where case does not count. -/
def Flags.foldSet (f : Flags) (s : CharSet) : CharSet :=
  if f.caseless then if f.unicode then s.caseless else s.latinCaseless else s

/-- The complement of a set, which only characters have and bytes have not. -/
def Flags.negateSet? (f : Flags) (negated : Bool) (s : CharSet) : Option CharSet :=
  if negated then if f.unicode then some s.complement else none else some s

/-- Reads the name of a property behind its letter. -/
def propertyEscape (negated : Bool) (s : State) : Option (Item × State) := do
  let s := s.dropSkip
  let (name, s) ← match s.rest with
    | [] => none
    | '\x7b' :: cs => nameUntilBrace (cs.length + 1) [] s.dropSkip
    | '\\' :: _ => none
    | c :: _ => some ([c], s.dropSkip)
  let set ← propertySet? name
  if s.flags.unicode then
    let set ← s.flags.negateSet? negated (s.flags.foldSet set)
    some (.set set, s)
  else none

/-- The sets of the letters d, s and w; a capital stands for the complement. -/
def letterSet? (f : Flags) (c : Char) : Option CharSet :=
  match c with
  | 'd' => some (if f.unicode then .digits else .latinDigits)
  | 's' => some (if f.unicode then .spaces else .latinSpaces)
  | 'w' => some (if f.unicode then .words else .latinWords)
  | 'D' => f.negateSet? true .digits
  | 'S' => f.negateSet? true .spaces
  | 'W' => f.negateSet? true .words
  | _ => none

/-- Reads the letters of a word edge in braces. Braces that do not start with a letter or a
hyphen are left for a repetition. -/
def wordEdge (s : State) : Option (WordEdge × State) :=
  let isLetter : Char → Bool := fun c => Unicode.isLatinLetter c || c = '-'
  match s.rest with
  | '\x7b' :: _ =>
    let inner := s.dropSkip
    match inner.rest with
    | [] => none
    | c :: _ =>
      if !isLetter c then some (.boundary, s)
      else
        let rec letters : Nat → List Char → State → List Char × State
          | 0, word, s => (word.reverse, s)
          | n + 1, word, s =>
            match s.rest with
            | c :: _ => if isLetter c then letters n (c :: word) s.dropSkip else (word.reverse, s)
            | [] => (word.reverse, s)
        let (word, s) := letters inner.rest.length [] inner
        match s.rest with
        | '\x7d' :: _ =>
          ([("start", WordEdge.start), ("end", .stop), ("start-half", .startHalf),
            ("end-half", .stopHalf)].lookup (String.ofList word)).map fun e => (e, s.drop)
        | _ => none
  | _ => some (.boundary, s)

/-- The characters that may stand behind a backslash for themselves: those below 128 but for
letters, digits and angle brackets. -/
def isEscapable (c : Char) : Bool :=
  c.toNat < 128 && !Unicode.isLatinLetter c && !Unicode.isDigit c && c ≠ '<' && c ≠ '>'

/-- Reads behind a backslash. -/
def escape (s : State) : Option (Item × State) :=
  match s.rest with
  | [] => none
  | c :: _ =>
    if c = 'x' then hexEscape 2 s
    else if c = 'u' then hexEscape 4 s
    else if c = 'U' then hexEscape 8 s
    else if c = 'p' then propertyEscape false s
    else if c = 'P' then propertyEscape true s
    else if c ∈ ['d', 's', 'w', 'D', 'S', 'W'] then
      (letterSet? s.flags c).map fun set => (.set set, s.drop)
    else
      let s := s.drop
      let word := fun edge => Item.assertion (.word s.flags.unicode edge)
      if isEscapable c then some (.char c false, s)
      else
        match c with
        | 'a' => some (.char '\x07' false, s)
        | 'f' => some (.char '\x0c' false, s)
        | 't' => some (.char '\t' false, s)
        | 'n' => some (.char '\n' false, s)
        | 'r' => some (.char '\r' false, s)
        | 'v' => some (.char '\x0b' false, s)
        | 'A' => some (.assertion .textStart, s)
        | 'z' => some (.assertion .textEnd, s)
        | 'b' => (wordEdge s).map fun (edge, s) => (word edge, s)
        | 'B' => some (word .noBoundary, s)
        | '<' => some (word .start, s)
        | '>' => some (word .stop, s)
        | _ => none

/-! ### Bracketed sets -/

inductive SetOperation
  | intersection | difference | symmetricDifference

def SetOperation.apply : SetOperation → CharSet → CharSet → CharSet
  | .intersection => .intersection
  | .difference => .difference
  | .symmetricDifference => .symmetricDifference

/-- A character inside brackets; without Unicode only those below 128 are allowed. -/
def Flags.setChar? (f : Flags) (c : Char) : Option Char :=
  if f.unicode || c.toNat < 128 then some c else none

/-- The set of a single element inside brackets. -/
def Flags.itemSet? (f : Flags) : Item → Option CharSet
  | .char c _ => (f.setChar? c).map .single
  | .set s => some s
  | .assertion _ => none

/-- Reads one element inside brackets. -/
def setItem (s : State) : Option (Item × State) :=
  match s.rest with
  | [] => none
  | '\\' :: _ => escape s.drop
  | c :: _ => some (.char c false, s.drop)

/-- The next character behind white space that does not count. -/
def second? (s : State) : Option Char := s.dropSkip.rest.head?

/-- Reads an element or a range of characters. -/
def setRange (s : State) : Option (CharSet × State) := do
  let (first, s) ← setItem s
  let s := s.skip
  match s.rest with
  | [] => none
  | c :: _ =>
    if c ≠ '-' || second? s = some ']' || second? s = some '-' then
      (s.flags.itemSet? first).map (·, s)
    else
      let s := s.dropSkip
      let (last, s) ← setItem s
      match first, last with
      | .char a _, .char b _ =>
        let a ← s.flags.setChar? a
        let b ← s.flags.setChar? b
        if a ≤ b then some (.between a b, s) else none
      | _, _ => none

/-- Reads a class name with its brackets and colons, if there is one. -/
def className? (s : State) : Option (String × Bool × State) :=
  match s.rest with
  | '[' :: ':' :: cs =>
    let (negated, body) := match cs with
      | '^' :: body => (true, body)
      | body => (false, body)
    let name := body.takeWhile (· ≠ ':')
    match body.dropWhile (· ≠ ':') with
    | ':' :: ']' :: rest => some (String.ofList name, negated, { s with rest })
    | _ => none
  | _ => none

/-- A set being read: the elements since the last operator, and what they will be joined to. -/
structure SetState where
  elements : CharSet
  pending : Option (SetOperation × CharSet)

/-- Joins the elements to the left side of an operator that waits for them. -/
def SetState.close (u : SetState) (f : Flags) : CharSet :=
  match u.pending with
  | none => u.elements
  | some (op, left) => op.apply (f.foldSet left) (f.foldSet u.elements)

/-- Opens brackets: a complement sign, then hyphens and perhaps a closing bracket that stand for
themselves. -/
def openSet (s : State) : Option (Bool × CharSet × State) :=
  let s := s.dropSkip
  let (negated, s) := match s.rest with
    | '^' :: _ => (true, s.dropSkip)
    | _ => (false, s)
  let rec hyphens : Nat → CharSet → State → CharSet × State
    | 0, set, s => (set, s)
    | n + 1, set, s =>
      match s.rest with
      | '-' :: _ => hyphens n (set.union (.single '-')) s.dropSkip
      | _ => (set, s)
  let (set, t) := hyphens s.rest.length .none s
  match t.rest with
  | [] => none
  | ']' :: _ =>
    if t.rest.length = s.rest.length then
      let t := t.dropSkip
      if t.rest.isEmpty then none else some (negated, .single ']', t)
    else some (negated, set, t)
  | _ => some (negated, set, t)

/-- Reads brackets from the opening one on. `fuel` bounds the number of elements and operators,
and `inner` tells whether other brackets stand around. -/
def bracketed (fuel : Nat) (s : State) : Option (CharSet × State) :=
  match fuel with
  | 0 => none
  | fuel + 1 => do
    let (negated, set, s) ← openSet s
    elements fuel negated ⟨set, none⟩ s
where
  /-- Reads elements up to the closing bracket. -/
  elements (fuel : Nat) (negated : Bool) (u : SetState) (s : State) : Option (CharSet × State) :=
    match fuel with
    | 0 => none
    | fuel + 1 =>
      let s := s.skip
      let f := s.flags
      let operator := fun op => elements fuel negated ⟨.none, some (op, u.close f)⟩ s.drop.drop
      match s.rest with
      | [] => none
      | '[' :: _ =>
        match className? s with
        | some (name, inverted, t) =>
          match CharSet.ofClassName? name with
          | some set => do
            let set ← f.negateSet? inverted (f.foldSet set)
            elements fuel negated { u with elements := u.elements.union set } t
          | none => do
            let (set, s) ← bracketed fuel s
            elements fuel negated { u with elements := u.elements.union set } s
        | none => do
          let (set, s) ← bracketed fuel s
          elements fuel negated { u with elements := u.elements.union set } s
      | ']' :: _ => do
        let set ← f.negateSet? negated (f.foldSet (u.close f))
        some (set, s.drop)
      | '&' :: '&' :: _ => operator .intersection
      | '-' :: '-' :: _ => operator .difference
      | '~' :: '~' :: _ => operator .symmetricDifference
      | _ => do
        let (set, s) ← setRange s
        elements fuel negated { u with elements := u.elements.union set } s

/-! ### Groups -/

/-- Reads switches up to a colon or a closing parenthesis: each at most once, and a minus sign
before those that are turned off. -/
def switches (seen : List Char) (off : Bool) (f : Flags) :
    List Char → Option (Flags × List Char × List Char)
  | [] => none
  | c :: cs =>
    if c = ':' ∨ c = ')' then
      if seen.head? = some '-' then none else some (f, seen, c :: cs)
    else if c ∈ seen then none
    else
      let on := !off
      match c with
      | '-' => switches (c :: seen) true f cs
      | 'i' => switches (c :: seen) off { f with caseless := on } cs
      | 'm' => switches (c :: seen) off { f with multiline := on } cs
      | 's' => switches (c :: seen) off { f with dotAll := on } cs
      | 'U' => switches (c :: seen) off f cs
      | 'u' => switches (c :: seen) off { f with unicode := on } cs
      | 'R' => switches (c :: seen) off { f with anyLineEnd := on } cs
      | 'x' => switches (c :: seen) off { f with verbose := on } cs
      | _ => none

/-- Reads the name of a group up to its angle bracket. -/
def groupName (s : State) (cs : List Char) : Option State :=
  let name := cs.takeWhile (· ≠ '>')
  match name, cs.dropWhile (· ≠ '>') with
  | c :: more, _ :: rest =>
    let isFirst := c = '_' || Unicode.isAlphabetic c
    let isPart : Char → Bool := fun c =>
      c = '_' || c = '.' || c = '[' || c = ']' || Unicode.isAlphanumeric c
    let word := String.ofList name
    if isFirst && more.all isPart && !s.groups.contains word then
      some { s with rest, groups := word :: s.groups }
    else none
  | _, _ => none

/-- What an opening parenthesis starts. -/
inductive Opening
  | group (s : State)
  | switches (s : State)

/-- Reads behind an opening parenthesis. Looking ahead or behind is not supported. -/
def opening (s : State) : Option Opening :=
  let s := s.skip
  match s.rest with
  | '?' :: '=' :: _ => none
  | '?' :: '!' :: _ => none
  | '?' :: '<' :: '=' :: _ => none
  | '?' :: '<' :: '!' :: _ => none
  | '?' :: 'P' :: '<' :: cs => (groupName s cs).map .group
  | '?' :: '<' :: cs => (groupName s cs).map .group
  | '?' :: cs => do
    let (flags, seen, rest) ← switches [] false s.flags cs
    match rest with
    | ')' :: rest =>
      if seen.isEmpty then none else some (.switches { s with flags, rest })
    | _ :: rest => some (.group { s with flags, rest })
    | [] => none
  | _ => some (.group s)

/-! ### Repetitions -/

/-- Counts lie below `2 ^ 32`. -/
def countLimit : Nat := 0x100000000

/-- Reads digits, of which white space may stand before and behind. -/
def count (s : State) : Option (Nat × State) :=
  let rec blanks : Nat → State → State
    | 0, s => s
    | n + 1, s =>
      match s.rest with
      | c :: _ => if Unicode.isBlank c then blanks n s.dropSkip else s
      | [] => s
  let rec digits : Nat → Option Nat → State → Option Nat × State
    | 0, value, s => (value, s)
    | n + 1, value, s =>
      match s.rest with
      | c :: _ =>
        if Unicode.isDigit c then
          digits n (some (10 * value.getD 0 + (c.toNat - 48))) s.dropSkip
        else (value, s)
      | [] => (value, s)
  let s := blanks s.rest.length s
  let (value, s) := digits s.rest.length none s
  let s := blanks s.rest.length s
  match value with
  | some n => if n < countLimit then some (n, s) else none
  | none => none

/-- Drops the sign of a reluctant repetition, which matches in the same texts. -/
def dropReluctant (s : State) : State :=
  match s.rest with
  | '?' :: _ => s.drop
  | _ => s

/-- Reads the counts of a repetition from the opening brace on. -/
def counts (s : State) : Option (Nat × Option Nat × State) := do
  let (least, s) ← count s.dropSkip
  match s.rest with
  | '\x7d' :: _ => some (least, some least, dropReluctant s.dropSkip)
  | ',' :: _ =>
    let s := s.dropSkip
    match s.rest with
    | '\x7d' :: _ => some (least, none, dropReluctant s.dropSkip)
    | _ =>
      let (most, s) ← count s
      match s.rest with
      | '\x7d' :: _ =>
        if least ≤ most then some (least, some most, dropReluctant s.dropSkip) else none
      | _ => none
  | _ => none

/-! ### Patterns -/

/-- A part of a pattern and how deeply groups, repetitions, sequences and alternatives are nested
in it. Switches are a part too, but one that cannot be repeated. -/
structure Part where
  pattern : Pattern
  depth : Nat
  repeatable : Bool

/-- The depth of the deepest part. -/
def deepest (xs : List Part) : Nat :=
  xs.foldl (fun n x => if n < x.depth then x.depth else n) 0

/-- Joins parts, of which the last one stands first. A single part stays what it is. -/
def joined (join : Pattern → Pattern → Pattern) : List Part → Part
  | [] => ⟨.empty, 0, false⟩
  | [x] => x
  | x :: xs =>
    ⟨xs.foldl (fun p y => join y.pattern p) x.pattern, deepest (x :: xs) + 1, true⟩

/-- The branches before the present one and the parts of that, each list with the last one
first. -/
structure Branches where
  earlier : List Part
  parts : List Part

namespace Branches

def start : Branches := ⟨[], []⟩

/-- The present branch. -/
def current (b : Branches) : Part := joined .seq b.parts

def whole (b : Branches) : Part := joined .alt (b.current :: b.earlier)

def next (b : Branches) : Branches := ⟨b.current :: b.earlier, []⟩

/-- Appends a part. -/
def push (b : Branches) (pattern : Pattern) (depth : Nat) : Branches :=
  { b with parts := ⟨pattern, depth, true⟩ :: b.parts }

/-- Appends switches. -/
def settle (b : Branches) : Branches := { b with parts := ⟨.empty, 0, false⟩ :: b.parts }

/-- Repeats the last part, if there is one. -/
def repeated (b : Branches) (least : Nat) (most : Option Nat) : Option Branches :=
  match b.parts with
  | [] => none
  | x :: xs =>
    if x.repeatable then
      some { b with parts := ⟨.repeated x.pattern least most, x.depth + 1, true⟩ :: xs }
    else none

end Branches

/-- The pattern of one character. A byte from 128 on is no character. -/
def Flags.literal? (f : Flags) (c : Char) (byte : Bool) : Option Pattern :=
  if byte && !f.unicode && 127 < c.toNat then none
  else some (.one (f.foldSet (.single c)))

def Flags.item? (f : Flags) : Item → Option Pattern
  | .char c byte => f.literal? c byte
  | .set s => some (.one s)
  | .assertion a => some (.assertion a)

/-- Any character, line ends apart unless they are meant too; bytes are not. -/
def Flags.dot? (f : Flags) : Option Pattern :=
  if !f.unicode then none
  else if f.dotAll then some (.one .all)
  else if f.anyLineEnd then some (.one ⟨fun c => c ≠ '\n' && c ≠ '\r'⟩)
  else some (.one (CharSet.single '\n').complement)

def Flags.startAssertion (f : Flags) : Assertion :=
  if f.multiline then if f.anyLineEnd then .anyLineStart else .lineStart else .textStart

def Flags.endAssertion (f : Flags) : Assertion :=
  if f.multiline then if f.anyLineEnd then .anyLineEnd else .lineEnd else .textEnd

/-- Reads branches up to a closing parenthesis or the end; `fuel` bounds the number of
elements. -/
def branches (fuel : Nat) (b : Branches) (s : State) : Option (Part × State) :=
  match fuel with
  | 0 => none
  | fuel + 1 =>
    let s := s.skip
    match s.rest with
    | [] => some (b.whole, s)
    | ')' :: _ => some (b.whole, s)
    | '|' :: _ => branches fuel b.next s.drop
    | '(' :: _ => do
      match ← opening s.drop with
      | .switches t => branches fuel b.settle t
      | .group t =>
        let (x, t) ← branches fuel .start t
        match t.rest with
        | ')' :: rest =>
          branches fuel (b.push x.pattern (x.depth + 1)) { t with rest, flags := s.flags }
        | _ => none
    | '[' :: _ => do
      let (set, t) ← bracketed (2 * s.rest.length + 2) s
      branches fuel (b.push (.one set) 1) t
    | '?' :: _ => do branches fuel (← b.repeated 0 (some 1)) (dropReluctant s.drop)
    | '*' :: _ => do branches fuel (← b.repeated 0 none) (dropReluctant s.drop)
    | '+' :: _ => do branches fuel (← b.repeated 1 none) (dropReluctant s.drop)
    | '\x7b' :: _ => do
      let (least, most, t) ← counts s
      branches fuel (← b.repeated least most) t
    | '\\' :: _ => do
      let (item, t) ← escape s.drop
      branches fuel (b.push (← s.flags.item? item) 0) t
    | '.' :: _ => do branches fuel (b.push (← s.flags.dot?) 0) s.drop
    | '^' :: _ => branches fuel (b.push (.assertion s.flags.startAssertion) 0) s.drop
    | '$' :: _ => branches fuel (b.push (.assertion s.flags.endAssertion) 0) s.drop
    | c :: _ => do branches fuel (b.push (← s.flags.literal? c false) 0) s.drop

/-- How deeply a pattern may be nested. -/
def maxDepth : Nat := 250

/-- How many characters and assertions a pattern may have with its counted repetitions written
out. -/
def maxSize : Nat := 0x20000

/-- Reads a whole text as a pattern in which case does not count, unless the pattern itself
says otherwise. -/
def ofText? (text : String) : Option Pattern :=
  let cs := text.toList
  match branches (2 * cs.length + 1) .start ⟨cs, ⟨true, false, false, true, false, false⟩, []⟩ with
  | some (x, s) =>
    if s.rest.isEmpty && decide (x.depth ≤ maxDepth) && decide (x.pattern.size ≤ maxSize) then
      some x.pattern
    else none
  | none => none

end PipeQuery.Pattern
