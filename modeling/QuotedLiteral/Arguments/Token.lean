import QuotedLiteral.Arguments.Grammar
import QuotedLiteral.Text.DecimalDigit
import QuotedLiteral.Text.Line

/-!
# Argument tokens

Each word of an argument vector is an operand, an option or the terminator.  A
word that starts with a dash is an operand all the same if it is the dash
alone, looks like a negative number or contains a space, unless it spells an
option.  A long option may be cut short as long as no other option starts so.
-/

namespace QuotedLiteral
namespace Arguments

/-- What stands in the word behind the option: nothing, a value behind the equals sign of a long
option, or the tail of a one-letter option, in which further options or a value follow. -/
inductive Attachment where
  | nothing
  | assigned (value : Text)
  | tail (rest : Text)
deriving DecidableEq

inductive Token (κ : Type) where
  | operand
  | terminator
  | switch (s : Switch κ) (attachment : Attachment)
  | unknown

namespace Token

variable {κ : Type}

def looksNegative (word : Text) : Bool :=
  match word.dropFinalNewline with
  | [] => false
  | c :: rest =>
      c = dash
        && match rest.dropWhile CodePoint.isDecimalDigit with
          | [] => rest ≠ []
          | point :: fraction =>
              point = '.' && fraction ≠ [] && fraction.all CodePoint.isDecimalDigit

/-- The name before the first equals sign, and what stands behind it if there is one. -/
def splitAssignment (word : Text) : Text × Option Text :=
  let isNameCharacter (c : CodePoint) : Bool := c ≠ equalsSign
  match word.dropWhile isNameCharacter with
  | [] => (word, none)
  | _ :: behind => (word.takeWhile isNameCharacter, some behind)

/-- An equals sign directly behind a one-letter option is passed over. -/
def attachment (name : Text) : Option Text → Attachment
  | none => .nothing
  | some behind => if isLong name then .assigned behind else .tail behind

/-- The options that a word spells in short: a long name cut short, or a one-letter name with
a tail. -/
def abbreviated (g : Grammar κ) (word : Text) : List (Text × Switch κ × Attachment) :=
  if isLong word then
    let (start, behind) := splitAssignment word
    (g.spellings.filter fun spelling => start.isPrefixOf spelling.1).map fun spelling =>
      (spelling.1, spelling.2, attachment start behind)
  else
    (g.spellings.filter fun spelling => spelling.1 = word.take 2).map fun spelling =>
      (spelling.1, spelling.2, .tail (word.drop 2))

def assigned? (g : Grammar κ) (word : Text) : Option (Token κ) :=
  match splitAssignment word with
  | (_, none) => none
  | (name, some behind) =>
      (g.find? name).map fun s => .switch s (attachment name (some behind))

def ofDashed (g : Grammar κ) (word : Text) : Except Problem (Token κ) :=
  match g.find? word with
  | some s => .ok (.switch s .nothing)
  | none =>
      match assigned? g word with
      | some token => .ok token
      | none =>
          match abbreviated g word with
          | [(_, s, attachment)] => .ok (.switch s attachment)
          | [] =>
              if looksNegative word || word.contains (CodePoint.ofChar ' ') then .ok .operand
              else .ok .unknown
          | candidates => .error (.ambiguous word (candidates.map Prod.fst))

def ofWord (g : Grammar κ) (word : Text) : Except Problem (Token κ) :=
  match word with
  | [] => .ok .operand
  | [_] => .ok .operand
  | c :: _ :: _ => if c = dash then ofDashed g word else .ok .operand

/-- The words with their tokens; behind the terminator all words are operands. -/
def ofWords (g : Grammar κ) : List Text → Except Problem (List (Text × Token κ))
  | [] => .ok []
  | word :: words =>
      if word = Arguments.terminator then
        .ok ((word, .terminator) :: words.map fun later => (later, .operand))
      else
        match ofWord g word with
        | .error problem => .error problem
        | .ok token => (ofWords g words).map ((word, token) :: ·)

end Token
end Arguments
end QuotedLiteral
