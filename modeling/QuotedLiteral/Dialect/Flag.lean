import QuotedLiteral.Text.LetterCase

/-!
# Escape flags

Each flag stands for one kind of escape.  A flag's bit is a stable contract: a
dialect stored as a number keeps its meaning.
-/

namespace QuotedLiteral

inductive Flag where
  | bell
  | backspace
  | formFeed
  | newline
  | carriageReturn
  | tab
  | unicode
  | verticalTab
  | hex
  | backslash
  | singleQuote
  | doubleQuote
  | questionMark
  | octal
  | escapeLower
  | escapeUpper
deriving DecidableEq, Repr

namespace Flag

def all : List Flag :=
  [bell, backspace, formFeed, newline, carriageReturn, tab, unicode, verticalTab, hex,
   backslash, singleQuote, doubleQuote, questionMark, octal, escapeLower, escapeUpper]

def bit : Flag → Nat
  | bell => 0
  | backspace => 1
  | formFeed => 2
  | newline => 3
  | carriageReturn => 4
  | tab => 5
  | unicode => 6
  | verticalTab => 7
  | hex => 8
  | backslash => 9
  | singleQuote => 10
  | doubleQuote => 11
  | questionMark => 12
  | octal => 13
  | escapeLower => 14
  | escapeUpper => 15

def value (f : Flag) : Nat :=
  1 <<< f.bit

def label : Flag → String
  | bell => "BEL"
  | backspace => "BACKSPACE"
  | formFeed => "FORM_FEED"
  | newline => "NEWLINE"
  | carriageReturn => "CARRIAGE_RETURN"
  | tab => "TAB"
  | unicode => "UNICODE"
  | verticalTab => "VERTICAL_TAB"
  | hex => "HEX"
  | backslash => "BACKSLASH"
  | singleQuote => "SINGLE_QUOTE"
  | doubleQuote => "DOUBLE_QUOTE"
  | questionMark => "QUESTION_MARK"
  | octal => "OCTAL"
  | escapeLower => "ESCAPE_LOWER"
  | escapeUpper => "ESCAPE_UPPER"

/-- The name is the label in lower case. -/
def name (f : Flag) : Text :=
  Text.lower (Text.ofString f.label)

theorem mem_all (f : Flag) : f ∈ all := by
  cases f <;> decide

theorem bit_injective {f g : Flag} (h : f.bit = g.bit) : f = g := by
  cases f <;> cases g <;> first | rfl | cases h

end Flag
end QuotedLiteral
