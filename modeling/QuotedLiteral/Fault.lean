import QuotedLiteral.Text.LetterCase
import QuotedLiteral.Text.Quoted

/-!
# Faults

Why a literal cannot be read or written, where, and in which stage of the
work.  A diagnostic is a fault in words, together with the whole source.
-/

namespace QuotedLiteral

/-!
## Diagnostic codes
-/

inductive Code where
  | missingQuote
  | unterminated
  | unsupportedEscape
  | badHexDigit
  | badUnicodeDigit
  | notAscii
deriving DecidableEq, Repr

namespace Code

def all : List Code :=
  [missingQuote, unterminated, unsupportedEscape, badHexDigit, badUnicodeDigit, notAscii]

def label : Code → String
  | missingQuote => "STR-0010"
  | unterminated => "STR-0020"
  | unsupportedEscape => "STR-0030"
  | badHexDigit => "STR-0040"
  | badUnicodeDigit => "STR-0041"
  | notAscii => "STR-0050"

def summary : Code → String
  | missingQuote => "string literal does not begin with a double quote"
  | unterminated => "unterminated string literal"
  | unsupportedEscape => "unsupported escape character"
  | badHexDigit => "bad character in hex escape"
  | badUnicodeDigit => "bad character in unicode escape"
  | notAscii => "cannot format as ASCII, no unicode escape available"

/-- A message opens with its code in brackets. -/
def opening (code : Code) : Text :=
  Text.ofString "[" ++ Text.ofString code.label ++ Text.ofString "] "

end Code

/-!
## Stages and causes
-/

inductive Stage where
  | outside
  | body
  | escape
  | octal
  | hex
  | unicode
  | writing
deriving DecidableEq, Repr

def Stage.label : Stage → String
  | outside => "NoQuote"
  | body => "InQuote"
  | escape => "AfterSlash"
  | octal => "AtOctal"
  | hex => "AtHex"
  | unicode => "AtUnicode"
  | writing => "Format"

inductive Cause where
  | missingQuote (found : CodePoint)
  | outsideSource
  | unterminated
  | unsupportedEscape (selector : CodePoint)
  | badHexDigit (found : CodePoint)
  | badUnicodeDigit (found : CodePoint)
  | notAscii (found : CodePoint)
  | octalWithoutDigit
deriving DecidableEq

/-- The diagnostic code of a cause.  An octal escape without a digit has none: no source leads
to it, and it is an error of the codec. -/
def Cause.code? : Cause → Option Code
  | missingQuote _ => some .missingQuote
  | outsideSource => some .missingQuote
  | unterminated => some .unterminated
  | unsupportedEscape _ => some .unsupportedEscape
  | badHexDigit _ => some .badHexDigit
  | badUnicodeDigit _ => some .badUnicodeDigit
  | notAscii _ => some .notAscii
  | octalWithoutDigit => none

structure Fault where
  cause : Cause
  index : Int
  stage : Stage
deriving DecidableEq

namespace Fault

def message (f : Fault) : Text :=
  match f.cause with
  | .missingQuote found =>
      Code.missingQuote.opening ++ Text.ofString "a string literal must begin with '\"', not "
        ++ found.quoted
  | .outsideSource =>
      Code.missingQuote.opening
        ++ Text.ofString "a string literal must begin with '\"', but index "
        ++ Numeral.decimal f.index ++ Text.ofString " is outside the source"
  | .unterminated =>
      Code.unterminated.opening ++ Text.ofString "unterminated string literal"
  | .unsupportedEscape selector =>
      Code.unsupportedEscape.opening ++ Text.ofString "unsupported escape character: "
        ++ selector.quoted
  | .badHexDigit found =>
      Code.badHexDigit.opening
        ++ Text.ofString "bad character found in hex escape, not a hex digit: " ++ found.quoted
  | .badUnicodeDigit found =>
      Code.badUnicodeDigit.opening
        ++ Text.ofString "bad character found in unicode escape, not a hex digit: "
        ++ found.quoted
  | .notAscii found =>
      Code.notAscii.opening ++ Text.ofString "cannot format " ++ found.quoted
        ++ Text.ofString " (U+" ++ Text.upper (Numeral.padded 16 4 found.value)
        ++ Text.ofString ") as ASCII, no unicode escape available"
  | .octalWithoutDigit =>
      Text.ofString "[ICE-0010] octal escape entered at index " ++ Numeral.decimal f.index
        ++ Text.ofString " without an octal digit"

end Fault

/-!
## Diagnostics
-/

structure Diagnostic where
  message : Text
  char : Option CodePoint
  source : Text
  index : Int
  state : Text
deriving DecidableEq

namespace Diagnostic

/-- The message, then the source, the index and the state in brackets. -/
def format (d : Diagnostic) : Text :=
  d.message ++ Text.ofString " [source=" ++ d.source.quoted ++ Text.ofString ", index="
    ++ Numeral.decimal d.index ++ Text.ofString ", state=" ++ d.state ++ Text.ofString "]"

end Diagnostic

structure InternalError where
  message : Text
  state : Option Text
deriving DecidableEq

namespace InternalError

/-- A message without a code of its own gets the general one; an empty state is not named. -/
def format (e : InternalError) : Text :=
  let message :=
    if Text.includes (Text.ofString "[ICE-") e.message then e.message
    else Text.ofString "[ICE-9999] " ++ e.message
  match e.state with
  | some (c :: rest) =>
      Text.ofString "internal codec error in state " ++ (c :: rest) ++ Text.ofString ": " ++ message
  | _ => Text.ofString "internal codec error: " ++ message

end InternalError

inductive Complaint where
  | malformed (d : Diagnostic)
  | internal (e : InternalError)
deriving DecidableEq

/-- The offending character is the one at the fault's index, if the source has one there. -/
def Fault.complaint (source : Text) (f : Fault) : Complaint :=
  match f.cause.code? with
  | some _ =>
      .malformed
        { message := f.message
          char := source.at? f.index
          source := source
          index := f.index
          state := Text.ofString f.stage.label }
  | none => .internal { message := f.message, state := some (Text.ofString f.stage.label) }

def Complaint.format : Complaint → Text
  | malformed d => d.format
  | internal e => e.format

end QuotedLiteral
