import QuotedLiteral.Literal.State

/-!
# Reader configurations

A configuration is a state together with the place in the source and the
content gathered so far.  It can be advanced one step at a time, under a
different dialect at each step.
-/

namespace QuotedLiteral

structure Configuration where
  state : State
  index : Int
  content : Text
deriving DecidableEq

inductive Halt where
  | fault (f : Fault)
  | noCharacter
deriving DecidableEq

namespace Configuration

/-- The character that the next step sees.  Negative indexes count back from the end. -/
def char? (source : Text) (config : Configuration) : Option CodePoint :=
  if config.index < 0 then source.at? (source.length + config.index)
  else source.at? config.index

def advance (d : Dialect) (source : Text) (config : Configuration) :
    Except Halt Configuration :=
  match config.char? source with
  | none => .error .noCharacter
  | some c =>
      match config.state.step d c with
      | .error cause => .error (.fault ⟨cause, config.index, config.state.stage⟩)
      | .ok move =>
          .ok
            { state := move.next
              index := if move.consumes then config.index + 1 else config.index
              content := config.content ++ move.emitted.toList }

/-- The configurations reached by one step for each dialect, and what stopped them early. -/
def advances (source : Text) (config : Configuration) :
    List Dialect → List Configuration × Option Halt
  | [] => ([], none)
  | d :: ds =>
      match config.advance d source with
      | .error halt => ([], some halt)
      | .ok next =>
          let later := next.advances source ds
          (next :: later.1, later.2)

end Configuration
end QuotedLiteral
