import QuotedLiteral.Literal.State

/-!
# Reading literals

A run takes the reader from a place in the source to the closing quote or to a
fault, and keeps every step it made.
-/

namespace QuotedLiteral

/-- The content of a literal and the index of its closing quote. -/
structure Literal where
  close : Nat
  content : Text
deriving DecidableEq

/-- A completed step. -/
structure Entry where
  index : Nat
  char : CodePoint
  state : State
  move : Move
deriving DecidableEq

structure Run where
  trace : List Entry
  outcome : Except Fault Literal

namespace Run

def fail (fault : Fault) : Run where
  trace := []
  outcome := .error fault

/-- The run that makes one step more at its beginning. -/
def after (entry : Entry) (run : Run) : Run where
  trace := entry :: run.trace
  outcome := run.outcome.map fun l =>
    { l with content := entry.move.emitted.toList ++ l.content }

/-- The run from a state over the rest of a source that starts at the index. -/
def ofRest (d : Dialect) (s : State) (index : Nat) : Text → Run
  | [] => fail ⟨.unterminated, index, s.stage⟩
  | c :: rest =>
      if s = .body ∧ c = .doubleQuote then
        { trace := [], outcome := .ok ⟨index, []⟩ }
      else
        match found : s.step d c with
        | .error cause => fail ⟨cause, index, s.stage⟩
        | .ok move =>
            if consumed : move.consumes then
              after ⟨index, c, s, move⟩ (ofRest d move.next (index + 1) rest)
            else
              after ⟨index, c, s, move⟩ (ofRest d move.next index (c :: rest))
termination_by rest => (rest.length, s.rereads)
decreasing_by
  · exact Prod.Lex.left _ _ (by simp)
  · exact Prod.Lex.right _ (State.rereads_lt_of_step found (by simpa using consumed))

end Run

/-- The run over the literal whose opening quote is at the index. -/
def read (d : Dialect) (source : Text) (index : Int) : Run :=
  if 0 ≤ index ∧ index < source.length then
    Run.ofRest d .outside index.toNat (source.drop index.toNat)
  else
    .fail ⟨.outsideSource, index, .outside⟩

def parse (d : Dialect) (source : Text) (index : Int) : Except Fault Literal :=
  (read d source index).outcome

end QuotedLiteral
