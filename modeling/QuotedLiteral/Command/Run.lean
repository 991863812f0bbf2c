import QuotedLiteral.Command.Invocation
import QuotedLiteral.Text.Encoding

/-!
# Running a command

A command reads its operand or the input, and answers with an exit code and
what it writes to the two outputs.  The outputs have an encoding.  Of literals,
their content and error messages, what the encoding cannot hold is written as
escapes.  The description of a dialect has to fit as it is.

A command breaks down without an answer if such a description does not fit, or
if the dialect or the index it needs was asked for without a value.
-/

namespace QuotedLiteral

/-- What surrounds a command. -/
structure Session where
  environment : Variables
  input : Text
  encoding : Encoding
  time : Text

structure Answer where
  exit : Int
  output : Text
  errors : Text
deriving DecidableEq

inductive Breakdown where
  | dialectWithoutValue
  | indexWithoutValue
  | unwritable (u : Unheld)
deriving DecidableEq

def Breakdown.message : Breakdown → Text
  | dialectWithoutValue => Text.ofString "'list' object has no attribute 'replace'"
  | indexWithoutValue =>
      Text.ofString "'<' not supported between instances of 'list' and 'int'"
  | unwritable u => u.message

namespace Session

def log (session : Session) (settings : Settings) : Logger where
  setting := some settings.log
  time := session.time

def answer (session : Session) (exit : Int) (output errors : Text) : Answer where
  exit := exit
  output := session.encoding.escapeUnheld output
  errors := session.encoding.escapeUnheld errors

def errorMessage (text : Text) : Text :=
  Text.ofString "error: " ++ text

def dialectName (d : Dialect) : Text :=
  match d.preset? with
  | some p => p.name
  | none => Numeral.decimal d.mask

def parse (session : Session) (settings : Settings) (index : Int) (showIndex : Bool)
    (source : Text) : Answer :=
  let logger := session.log settings
  let opening :=
    logger.write Severity.info.level
      (Text.ofString "Parsing with dialect " ++ dialectName settings.dialect)
  let (outcome, trace) := parseLogged logger settings.dialect source index
  match outcome with
  | .ok l =>
      let position := if showIndex then Numeral.decimal l.close ++ [.lineFeed] else []
      session.answer 0 (position ++ l.content ++ [.lineFeed]) (opening ++ trace)
  | .error fault =>
      let message :=
        match fault.complaint source with
        | .malformed d => errorMessage d.format
        | .internal e => e.format
      session.answer 1 [] (opening ++ trace ++ logger.write Severity.error.level message)

def format (session : Session) (settings : Settings) (verbatim : Bool) (raw : Text) : Answer :=
  let logger := session.log settings
  let asciiOnly := settings.asciiOnly && !verbatim
  let opening :=
    logger.write Severity.info.level
      (Text.ofString "Formatting " ++ Numeral.decimal raw.length
        ++ Text.ofString " character(s), ascii_only="
        ++ Text.ofString (if asciiOnly then "True" else "False"))
  let (outcome, trace) := formatLogged logger asciiOnly settings.dialect raw
  match outcome with
  | .ok literal => session.answer 0 (literal ++ [.lineFeed]) (opening ++ trace)
  | .error fault =>
      session.answer 1 []
        (opening ++ trace
          ++ logger.write Severity.error.level (errorMessage (fault.complaint raw).format))

/-- An answer that is written as it is, or not at all. -/
def exactAnswer (session : Session) (output : Text) : Except Breakdown Answer :=
  match Unheld.find? session.encoding output with
  | some u => .error (.unwritable u)
  | none => .ok (session.answer 0 output [])

/-- A dialect that equals a preset goes by the preset's name. -/
def flags (session : Session) (settings : Settings) : Option Text → Except Breakdown Answer
  | none =>
      session.exactAnswer (Text.unlines (Preset.all.map fun p => p.dialect.describe p.name))
  | some spec =>
      match Dialect.ofSpec spec with
      | .error unknown =>
          .ok
            (session.answer 2 []
              ((session.log settings).write Severity.error.level (errorMessage unknown.message)))
      | .ok d =>
          let name := (d.preset?.map Preset.name).getD spec
          session.exactAnswer (d.describe name ++ [.lineFeed])

def perform (session : Session) (settings : Settings) : Task → Except Breakdown Answer
  | .parse none _ _ => .error .indexWithoutValue
  | .parse (some index) showIndex literal =>
      .ok (session.parse settings index showIndex (literal.getD session.input))
  | .format verbatim raw =>
      .ok (session.format settings verbatim (raw.getD session.input.dropFinalNewline))
  | .flags spec => session.flags settings spec

def misuse (session : Session) (page : Page) (message : Text) : Answer :=
  session.answer 2 [] (page.error message)

/-- The answer to an argument vector. -/
def run (session : Session) (words : List Text) : Except Breakdown Answer :=
  match Invocation.ofArguments words with
  | .error (.help page) => .ok (session.answer 0 page.help [])
  | .error (.misuse page problem) => .ok (session.misuse page problem.message)
  | .ok invocation =>
      match invocation.preferences? with
      | none => .error .dialectWithoutValue
      | some preferences =>
          match preferences.settings session.environment with
          | .error unknown => .ok (session.misuse .program unknown.message)
          | .ok settings => session.perform settings invocation.task

end Session

/-- Whether the answer to an argument vector can depend on the input. -/
def Invocation.readsInput (words : List Text) : Bool :=
  match ofArguments words with
  | .ok invocation =>
      match invocation.task with
      | .parse _ _ literal => literal.isNone
      | .format _ raw => raw.isNone
      | .flags _ => false
  | .error _ => false

end QuotedLiteral
