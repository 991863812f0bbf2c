import QuotedLiteral.Text.WordCharacter

/-!
# Patterns

Patterns are regular expressions whose repetitions are over single characters,
with assertions about the neighbourhood of a place.  A place in a text is given
by the character before it and the text behind it.
-/

namespace QuotedLiteral

structure Place where
  before : Option CodePoint
  rest : Text
deriving DecidableEq

namespace Place

def next? (p : Place) : Option CodePoint :=
  p.rest.head?

def isWord (c : Option CodePoint) : Bool :=
  c.any CodePoint.isWordCharacter

/-- A word begins or ends here. -/
def isWordBoundary (p : Place) : Bool :=
  isWord p.before != isWord p.next?

def isStart (p : Place) : Bool :=
  p.before.isNone

end Place

inductive Pattern where
  | empty
  | character (accepts : CodePoint → Bool)
  | many (accepts : CodePoint → Bool)
  | sequence (first second : Pattern)
  | choice (left right : Pattern)
  | wordBoundary
  | start

namespace Pattern

def literal (t : Text) : Pattern :=
  t.foldr (fun c p => sequence (character (· = c)) p) empty

def times : Nat → Pattern → Pattern
  | 0, _ => empty
  | n + 1, p => sequence p (times n p)

def optional (p : Pattern) : Pattern :=
  choice p empty

/-- The places reached over accepted characters, as few as none and as many as there are. -/
def manyEnds (accepts : CodePoint → Bool) (before : Option CodePoint) : Text → List Place
  | [] => [⟨before, []⟩]
  | c :: rest =>
      ⟨before, c :: rest⟩ :: if accepts c then manyEnds accepts (some c) rest else []

/-- The places where a match that begins at the given place can end. -/
def ends : Pattern → Place → List Place
  | empty, p => [p]
  | character accepts, p =>
      match p.rest with
      | [] => []
      | c :: rest => if accepts c then [⟨some c, rest⟩] else []
  | many accepts, p => manyEnds accepts p.before p.rest
  | sequence first second, p => (first.ends p).flatMap second.ends
  | choice left right, p => left.ends p ++ right.ends p
  | wordBoundary, p => if p.isWordBoundary then [p] else []
  | start, p => if p.isStart then [p] else []

def matchesAt (pattern : Pattern) (p : Place) : Bool :=
  !(pattern.ends p).isEmpty

def foundFrom (pattern : Pattern) (before : Option CodePoint) : Text → Bool
  | [] => pattern.matchesAt ⟨before, []⟩
  | c :: rest => pattern.matchesAt ⟨before, c :: rest⟩ || foundFrom pattern (some c) rest

/-- Whether the pattern matches somewhere in the text. -/
def found (pattern : Pattern) (t : Text) : Bool :=
  pattern.foundFrom none t

end Pattern
end QuotedLiteral
