import QuotedLiteral.Fault
import QuotedLiteral.Literal.Escape

/-!
# Reader states

The reader of a literal is a transducer.  A step sees one character and the
state, and says which state follows, which character of the content is emitted,
and whether the character seen is consumed or read again.

Two steps leave their character to be read again: the one that enters an octal
escape, whose selector is its first digit, and the one that leaves an octal
escape of fewer than three digits.
-/

namespace QuotedLiteral

/-- Digits are kept as they stand in the source. -/
inductive State where
  | outside
  | body
  | escape
  | octal (digits : Text)
  | hex (digits : Text)
  | unicode (digits : Text)
deriving DecidableEq

structure Move where
  next : State
  emitted : Option CodePoint
  consumes : Bool
deriving DecidableEq

namespace State

def octalWidth : Nat := 3

def hexWidth : Nat := 2

def unicodeWidth : Nat := 4

def stage : State → Stage
  | outside => .outside
  | body => .body
  | escape => .escape
  | octal _ => .octal
  | hex _ => .hex
  | unicode _ => .unicode

def digits : State → Text
  | octal ds | hex ds | unicode ds => ds
  | _ => []

/-- A digit of an escape with exactly so many digits: the last one completes it. -/
def stepDigit (width : Nat) (more : Text → State) (bad : Cause) (ds : Text) (c : CodePoint) :
    Except Cause Move :=
  if Numeral.isHexDigit c then
    let read := ds ++ [c]
    if read.length < width then .ok ⟨more read, none, true⟩
    else .ok ⟨.body, some (.ofNat (Numeral.value 16 read)), true⟩
  else
    .error bad

def stepEscape (d : Dialect) (c : CodePoint) : Except Cause Move :=
  match selection? c with
  | none => .error (.unsupportedEscape c)
  | some (flag, announced) =>
      if d.has flag then
        match announced with
        | .character denoted => .ok ⟨.body, some denoted, true⟩
        | .octal => .ok ⟨.octal [], none, false⟩
        | .hex => .ok ⟨.hex [], none, true⟩
        | .unicode => .ok ⟨.unicode [], none, true⟩
      else
        .error (.unsupportedEscape c)

def stepOctal (ds : Text) (c : CodePoint) : Except Cause Move :=
  if Numeral.isOctalDigit c then
    let read := ds ++ [c]
    if read.length < octalWidth then .ok ⟨.octal read, none, true⟩
    else .ok ⟨.body, some (.ofNat (Numeral.value 8 read)), true⟩
  else if ds = [] then
    .error .octalWithoutDigit
  else
    .ok ⟨.body, some (.ofNat (Numeral.value 8 ds)), false⟩

/-- A double quote in the body is content here; closing the literal is left to the run. -/
def step (d : Dialect) (c : CodePoint) : State → Except Cause Move
  | outside =>
      if c = .doubleQuote then .ok ⟨.body, none, true⟩ else .error (.missingQuote c)
  | body =>
      if c = .backslash then .ok ⟨.escape, none, true⟩ else .ok ⟨.body, some c, true⟩
  | escape => stepEscape d c
  | octal ds => stepOctal ds c
  | hex ds => stepDigit hexWidth .hex (.badHexDigit c) ds c
  | unicode ds => stepDigit unicodeWidth .unicode (.badUnicodeDigit c) ds c

/-- How many steps can follow each other on one character. -/
def rereads : State → Nat
  | escape => 2
  | octal _ => 1
  | _ => 0

theorem rereads_lt_of_step {d : Dialect} {c : CodePoint} {s : State} {m : Move}
    (h : step d c s = .ok m) (again : m.consumes = false) : m.next.rereads < s.rereads := by
  cases s with
  | outside =>
      simp only [step] at h
      split at h <;> cases h
      cases again
  | body =>
      simp only [step] at h
      split at h <;> cases h <;> cases again
  | escape =>
      simp only [step, stepEscape] at h
      split at h
      · cases h
      · split at h
        · split at h <;> cases h
          · cases again
          · simp [rereads]
          · cases again
          · cases again
        · cases h
  | octal ds =>
      simp only [step, stepOctal] at h
      split at h
      · split at h <;> cases h <;> cases again
      · split at h <;> cases h
        simp [rereads]
  | hex ds =>
      simp only [step, stepDigit] at h
      split at h
      · split at h <;> cases h <;> cases again
      · cases h
  | unicode ds =>
      simp only [step, stepDigit] at h
      split at h
      · split at h <;> cases h <;> cases again
      · cases h

end State
end QuotedLiteral
