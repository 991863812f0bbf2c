import QuotedLiteral.Fault
import QuotedLiteral.Literal.Escape

/-!
# Writing literals

Each character is written on its own: by a mnemonic if the dialect has one;
else, where only ASCII is wanted and the character is not ASCII, by a unicode
escape or not at all; else, if it is a control, by an octal, hexadecimal or
unicode escape; else as it is.
-/

namespace QuotedLiteral

def isControl (code : Int) : Bool :=
  code ≤ 0x1F || code = 0x7F

namespace Writing

def octalEscape (c : CodePoint) : Text :=
  .backslash :: Numeral.fixed 8 3 c.value

def hexEscape (c : CodePoint) : Text :=
  .backslash :: 'x' :: Numeral.fixed 16 2 c.value

def unicodeEscape (c : CodePoint) : Text :=
  .backslash :: 'u' :: Numeral.fixed 16 4 c.value

/-- Neither a mnemonic nor an escape for the sake of ASCII is at hand. -/
def plain (d : Dialect) (c : CodePoint) : Text :=
  if isControl c.value then
    if d.has .octal then octalEscape c
    else if d.has .hex then hexEscape c
    else if d.has .unicode then unicodeEscape c
    else [c]
  else
    [c]

/-- How a character is written; none if it has to be ASCII and cannot be. -/
def piece? (asciiOnly : Bool) (d : Dialect) (c : CodePoint) : Option Text :=
  match mnemonic? d c with
  | some m => some [.backslash, m.selector]
  | none =>
      if asciiOnly ∧ 0x7F < c.value then
        if d.has .unicode ∧ c.value ≤ 0xFFFF then some (unicodeEscape c) else none
      else
        some (plain d c)

/-- The text between the quotes, for characters of which the first has the index. -/
def bodyFrom (asciiOnly : Bool) (d : Dialect) (index : Nat) : Text → Except Fault Text
  | [] => .ok []
  | c :: rest =>
      match piece? asciiOnly d c with
      | none => .error ⟨.notAscii c, index, .writing⟩
      | some piece => (bodyFrom asciiOnly d (index + 1) rest).map (piece ++ ·)

end Writing

def format (asciiOnly : Bool) (d : Dialect) (raw : Text) : Except Fault Text :=
  (Writing.bodyFrom asciiOnly d 0 raw).map fun body =>
    .doubleQuote :: body ++ [.doubleQuote]

namespace Writing

/-- A character that is not written as it is. -/
structure Change where
  index : Nat
  char : CodePoint
  piece : Text
deriving DecidableEq

end Writing
end QuotedLiteral
