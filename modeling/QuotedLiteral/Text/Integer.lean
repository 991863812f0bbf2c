import QuotedLiteral.Text.DecimalDigit
import QuotedLiteral.Text.Whitespace

/-!
# Integers in text

White space around an integer is ignored, except the information separators.
After an optional sign stand decimal digits of any script; one underscore may
separate two of them.
-/

namespace QuotedLiteral
namespace Integer

/-- Longer numerals are refused. -/
def maxDigits : Nat := 4300

def isBlank (c : CodePoint) : Bool :=
  c.isWhitespace && !(0x1C ≤ c.value && c.value ≤ 0x1F)

def trim (t : Text) : Text :=
  ((t.dropWhile isBlank).reverse.dropWhile isBlank).reverse

/-- The digits of a numeral; the flag tells whether an underscore may stand here. -/
def readDigits? : Bool → Text → Option (List Nat)
  | afterDigit, [] => if afterDigit then some [] else none
  | afterDigit, c :: rest =>
      if c = CodePoint.ofChar '_' then
        if afterDigit then readDigits? false rest else none
      else
        match c.decimalDigit? with
        | some d => (readDigits? true rest).map (d :: ·)
        | none => none

def readNat? (t : Text) : Option Nat :=
  match readDigits? false t with
  | some ds =>
      if ds.length ≤ maxDigits then some (ds.foldl (fun total d => total * 10 + d) 0) else none
  | none => none

def read? (t : Text) : Option Int :=
  match trim t with
  | [] => none
  | c :: rest =>
      if c = CodePoint.ofChar '-' then (readNat? rest).map fun n => -(n : Int)
      else if c = CodePoint.ofChar '+' then (readNat? rest).map Int.ofNat
      else (readNat? (c :: rest)).map Int.ofNat

end Integer
end QuotedLiteral
