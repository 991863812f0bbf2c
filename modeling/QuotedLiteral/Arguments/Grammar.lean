import QuotedLiteral.Text.Quoted

/-!
# Argument grammars

A grammar lists the options of a command line and says what the words that are
no options are for.
-/

namespace QuotedLiteral
namespace Arguments

def dash : CodePoint := CodePoint.ofChar '-'

def equalsSign : CodePoint := CodePoint.ofChar '='

/-- The word behind which no word is an option. -/
def terminator : Text := [dash, dash]

/-- Long names start with two dashes, one-letter names with one. -/
def isLong (name : Text) : Bool :=
  terminator.isPrefixOf name

/-- An option: its names, short and long, in the order of their listing, and whether it takes
a value. -/
structure Switch (κ : Type) where
  key : κ
  names : List Text
  takesValue : Bool

namespace Switch

variable {κ : Type}

/-- How messages call the option. -/
def title (s : Switch κ) : Text :=
  Text.join (Text.ofString "/") s.names

end Switch

inductive Operands where
  | optional
  | command
deriving DecidableEq

/-- At most one operand may be given, or a command that takes all words behind it. -/
structure Grammar (κ : Type) where
  switches : List (Switch κ)
  operands : Operands

namespace Grammar

variable {κ : Type}

def spellings (g : Grammar κ) : List (Text × Switch κ) :=
  g.switches.flatMap fun s => s.names.map fun name => (name, s)

def find? (g : Grammar κ) (name : Text) : Option (Switch κ) :=
  (g.spellings.find? fun spelling => spelling.1 = name).map Prod.snd

end Grammar

inductive Problem where
  | ambiguous (word : Text) (candidates : List Text)
  | missingValue (title : Text)
  | unusedValue (title value : Text)
  | badInteger (title value : Text)
  | unknownChoice (title word : Text) (choices : List Text)
  | missingOperand (title : Text)
  | unrecognized (words : List Text)
deriving DecidableEq

def Problem.message : Problem → Text
  | ambiguous word candidates =>
      Text.ofString "ambiguous option: " ++ word ++ Text.ofString " could match "
        ++ Text.join (Text.ofString ", ") candidates
  | missingValue title =>
      Text.ofString "argument " ++ title ++ Text.ofString ": expected one argument"
  | unusedValue title value =>
      Text.ofString "argument " ++ title ++ Text.ofString ": ignored explicit argument "
        ++ value.quoted
  | badInteger title value =>
      Text.ofString "argument " ++ title ++ Text.ofString ": invalid int value: " ++ value.quoted
  | unknownChoice title word choices =>
      Text.ofString "argument " ++ title ++ Text.ofString ": invalid choice: " ++ word.quoted
        ++ Text.ofString " (choose from "
        ++ Text.join (Text.ofString ", ") (choices.map Text.quoted) ++ Text.ofString ")"
  | missingOperand title =>
      Text.ofString "the following arguments are required: " ++ title
  | unrecognized words =>
      Text.ofString "unrecognized arguments: " ++ Text.join (Text.ofString " ") words

end Arguments
end QuotedLiteral
