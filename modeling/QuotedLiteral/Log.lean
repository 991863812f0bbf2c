import QuotedLiteral.Literal.Reading
import QuotedLiteral.Literal.Writing

/-!
# Log

Messages have levels, and a logger lets through those at or below its own.  At
the level of debugging the steps of the codec are traced.
-/

namespace QuotedLiteral

inductive Severity where
  | silent
  | error
  | warning
  | info
  | debug
deriving DecidableEq, Repr

namespace Severity

def all : List Severity :=
  [silent, error, warning, info, debug]

def label : Severity → String
  | silent => "SILENT"
  | error => "ERROR"
  | warning => "WARNING"
  | info => "INFO"
  | debug => "DEBUG"

def level : Severity → Int
  | silent => 0
  | error => 3
  | warning => 6
  | info => 10
  | debug => 30

end Severity

/-- The level up to which messages are written, and whether time and severity stand before
them. -/
structure LogSetting where
  level : Int := Severity.warning.level
  rich : Bool := false
deriving DecidableEq

/-- A logger without a setting has the usual one, but it never traces. -/
structure Logger where
  setting : Option LogSetting
  time : Text
deriving DecidableEq

namespace Logger

def settingInForce (l : Logger) : LogSetting :=
  l.setting.getD {}

def admits (l : Logger) (level : Int) : Bool :=
  level ≤ l.settingInForce.level

def isTracing (l : Logger) : Bool :=
  match l.setting with
  | some setting => Severity.debug.level ≤ setting.level
  | none => false

/-- Only the levels of the four severities above silence have a heading. -/
def heading (l : Logger) (level : Int) : Text :=
  if l.settingInForce.rich then
    match [Severity.error, .warning, .info, .debug].find? fun s => s.level = level with
    | some s =>
        l.time ++ Text.ofString " [" ++ Text.ofString s.label ++ Text.ofString "] "
    | none => []
  else
    []

/-- What a message adds to the log: one line, or nothing. -/
def write (l : Logger) (level : Int) (message : Text) : Text :=
  if l.admits level then l.heading level ++ message ++ [.lineFeed] else []

def debug (l : Logger) (message : Text) : Text :=
  l.write Severity.debug.level message

end Logger

/-!
## Trace messages
-/

def Entry.message (e : Entry) : Text :=
  Numeral.decimal e.index ++ Text.ofString ": " ++ e.char.quoted ++ Text.ofString " "
    ++ Text.ofString e.state.stage.label ++ Text.ofString " -> "
    ++ Text.ofString e.move.next.stage.label
    ++ (if e.move.consumes then [] else Text.ofString " (reread)")

def Literal.closingMessage (l : Literal) : Text :=
  Text.ofString "closing quote at " ++ Numeral.decimal l.close ++ Text.ofString ", decoded "
    ++ Numeral.decimal l.content.length ++ Text.ofString " character(s)"

def Writing.Change.message (change : Writing.Change) : Text :=
  Numeral.decimal change.index ++ Text.ofString ": " ++ change.char.quoted
    ++ Text.ofString " -> " ++ change.piece

/-!
## The codec at work

A logger that does not trace is spared the messages about steps and changes.
The closing of a literal is announced in any case.
-/

namespace Logger

/-- Reading on from a state, at an index with so much of the source left.  The content gathered
and the lines logged so far are in reverse. -/
def readFrom (l : Logger) (d : Dialect) (s : State) (index : Nat) (gathered : Text)
    (logged : List Text) : Text → Except Fault Literal × List Text
  | [] => (.error ⟨.unterminated, index, s.stage⟩, logged)
  | c :: rest =>
      if s = .body ∧ c = .doubleQuote then
        let literal : Literal := ⟨index, gathered.reverse⟩
        (.ok literal, l.debug literal.closingMessage :: logged)
      else
        match found : s.step d c with
        | .error cause => (.error ⟨cause, index, s.stage⟩, logged)
        | .ok move =>
            let gathered := move.emitted.toList ++ gathered
            let logged :=
              if l.isTracing then l.debug (Entry.message ⟨index, c, s, move⟩) :: logged else logged
            if consumed : move.consumes then
              readFrom l d move.next (index + 1) gathered logged rest
            else
              readFrom l d move.next index gathered logged (c :: rest)
termination_by rest => (rest.length, s.rereads)
decreasing_by
  · exact Prod.Lex.left _ _ (by simp)
  · exact Prod.Lex.right _ (State.rereads_lt_of_step found (by simpa using consumed))

/-- Writing on from the character at an index.  The pieces written and the lines logged so far are
in reverse. -/
def writeFrom (l : Logger) (asciiOnly : Bool) (d : Dialect) (index : Nat)
    (pieces logged : List Text) : Text → Except Fault Text × List Text
  | [] => (.ok (([.doubleQuote] :: pieces).reverse.flatten), logged)
  | c :: rest =>
      match Writing.piece? asciiOnly d c with
      | none => (.error ⟨.notAscii c, index, .writing⟩, logged)
      | some piece =>
          let logged :=
            if l.isTracing ∧ piece ≠ [c] then
              l.debug (Writing.Change.message ⟨index, c, piece⟩) :: logged
            else
              logged
          writeFrom l asciiOnly d (index + 1) (piece :: pieces) logged rest

end Logger

/-- The outcome of reading a literal, and what was logged meanwhile. -/
def parseLogged (l : Logger) (d : Dialect) (source : Text) (index : Int) :
    Except Fault Literal × Text :=
  if 0 ≤ index ∧ index < source.length then
    let (outcome, logged) :=
      l.readFrom d .outside index.toNat [] [] (source.drop index.toNat)
    (outcome, logged.reverse.flatten)
  else
    (.error ⟨.outsideSource, index, .outside⟩, [])

/-- The outcome of writing a literal, and what was logged meanwhile. -/
def formatLogged (l : Logger) (asciiOnly : Bool) (d : Dialect) (raw : Text) :
    Except Fault Text × Text :=
  let (outcome, logged) := l.writeFrom asciiOnly d 0 [[.doubleQuote]] [] raw
  (outcome, logged.reverse.flatten)

end QuotedLiteral
