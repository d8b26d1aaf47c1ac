import PipeQuery.Unicode.Folding
import PipeQuery.Unicode.Word

/-! Patterns of texts and where they match. The places of a text are before, between and behind
its characters; a set of places is a list with one truth value for each. `Pattern.ends` takes
the places where a match may begin to those where it may end, so alternatives are unions and a
repetition grows its set until nothing new is reached. -/

namespace PipeQuery

/-! ### Sets of characters -/

/-- A set of characters by its membership test. -/
structure CharSet where
  contains : Char → Bool

namespace CharSet

def none : CharSet := ⟨fun _ => false⟩

def all : CharSet := ⟨fun _ => true⟩

def single (c : Char) : CharSet := ⟨fun d => d = c⟩

/-- The characters from `lo` to `hi`. -/
def between (lo hi : Char) : CharSet := ⟨fun c => lo ≤ c && c ≤ hi⟩

def ofRanges (rs : Unicode.Ranges) : CharSet := ⟨fun c => rs.contains c.toNat⟩

def union (s t : CharSet) : CharSet := ⟨fun c => s.contains c || t.contains c⟩

def intersection (s t : CharSet) : CharSet := ⟨fun c => s.contains c && t.contains c⟩

def difference (s t : CharSet) : CharSet := ⟨fun c => s.contains c && !t.contains c⟩

def symmetricDifference (s t : CharSet) : CharSet := ⟨fun c => s.contains c != t.contains c⟩

def complement (s : CharSet) : CharSet := ⟨fun c => !s.contains c⟩

/-- With each character those that differ in case only. -/
def caseless (s : CharSet) : CharSet := ⟨fun c => (Unicode.sameLetter c).any s.contains⟩

/-- With each Latin letter below 128 the other case of it. -/
def latinCaseless (s : CharSet) : CharSet :=
  ⟨fun c => s.contains c ||
    ('a' ≤ c && c ≤ 'z' && s.contains (Char.ofNat (c.toNat - 32))) ||
    ('A' ≤ c && c ≤ 'Z' && s.contains (Char.ofNat (c.toNat + 32)))⟩

end CharSet

/-! ### Assertions -/

/-- Conditions on the word characters on the two sides of a place. -/
inductive WordEdge
  | boundary | noBoundary | start | stop | startHalf | stopHalf
deriving DecidableEq, Repr

/-- Conditions on a place that take no character. Lines end at a line feed, or also at a
carriage return, where the two together are one end. -/
inductive Assertion
  | textStart | textEnd
  | lineStart | lineEnd
  | anyLineStart | anyLineEnd
  | word (unicode : Bool) (edge : WordEdge)
deriving DecidableEq, Repr

/-- The condition holds between two characters, of which one is missing at an end of the
text. -/
def Assertion.holds (before after : Option Char) : Assertion → Bool
  | .textStart => before.isNone
  | .textEnd => after.isNone
  | .lineStart => before.isNone || before = some '\n'
  | .lineEnd => after.isNone || after = some '\n'
  | .anyLineStart =>
    before.isNone || before = some '\n' || (before = some '\r' && after ≠ some '\n')
  | .anyLineEnd =>
    after.isNone || after = some '\r' || (after = some '\n' && before ≠ some '\r')
  | .word unicode edge =>
    let isWord : Char → Bool := fun c =>
      if unicode then Unicode.isWord c else c.toNat < 128 && Unicode.isLatinWord c
    let b := before.any isWord
    let a := after.any isWord
    match edge with
    | .boundary => b != a
    | .noBoundary => b == a
    | .start => !b && a
    | .stop => b && !a
    | .startHalf => !b
    | .stopHalf => !a

/-! ### Patterns -/

/-- A pattern. A repetition has a least and perhaps a greatest number of turns. -/
inductive Pattern
  | empty
  | one (s : CharSet)
  | assertion (a : Assertion)
  | seq (p q : Pattern)
  | alt (p q : Pattern)
  | repeated (p : Pattern) (least : Nat) (most : Option Nat)

/-- The number of characters and assertions of a pattern with all counted repetitions written
out. -/
def Pattern.size : Pattern → Nat
  | .empty => 0
  | .one _ => 1
  | .assertion _ => 1
  | .seq p q => p.size + q.size
  | .alt p q => p.size + q.size
  | .repeated p least none => if least = 0 then p.size else least * p.size
  | .repeated p _ (some most) => most * p.size

/-- Sets of places, from the first to the last. -/
abbrev Places := List Bool

namespace Pattern

def union (s t : Places) : Places := List.zipWith (· || ·) s t

/-- The places of a text with the characters on both sides of each. -/
def surroundings (before : Option Char) : List Char → List (Option Char × Option Char)
  | [] => [(before, none)]
  | c :: cs => (before, some c) :: surroundings (some c) cs

/-- Takes `n` turns, or as many of them as change the set. -/
def turns (f : Places → Places) : Nat → Places → Places
  | 0, s => s
  | n + 1, s =>
    let next := f s
    if next = s then s else turns f n next

/-- Adds what further turns reach, at most `n` of them; `reached` holds all places so far and
`new` those of the last turn. -/
def moreTurns (f : Places → Places) : Nat → Places → Places → Places
  | 0, reached, _ => reached
  | n + 1, reached, new =>
    let next := f new
    let grown := union reached next
    if grown = reached then reached else moreTurns f n grown next

/-- The places where a match may end that begins in `start`. As many turns as there are places
reach all that any number of turns does. -/
def ends (text : List Char) (sides : List (Option Char × Option Char)) :
    Pattern → Places → Places
  | .empty, start => start
  | .one s, start => false :: List.zipWith (fun b c => b && s.contains c) start text
  | .assertion a, start => List.zipWith (fun b (x, y) => b && a.holds x y) start sides
  | .seq p q, start => ends text sides q (ends text sides p start)
  | .alt p q, start => union (ends text sides p start) (ends text sides q start)
  | .repeated p least most, start =>
    let first := turns (ends text sides p) least start
    match most with
    | none => moreTurns (ends text sides p) (text.length + 1) first first
    | some n => moreTurns (ends text sides p) (n - least) first first

/-- The pattern matches somewhere in the text. -/
def matchesIn (p : Pattern) (text : List Char) : Bool :=
  let sides := surroundings none text
  (p.ends text sides (sides.map fun _ => true)).any id

end Pattern

end PipeQuery
