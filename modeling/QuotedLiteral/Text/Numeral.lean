import QuotedLiteral.Text.CodePoint

/-!
# Numerals

Digits of numbers in base eight, ten and sixteen, and the values of digits read
back.  Hexadecimal digits are written in lower case and read in either case.
-/

namespace QuotedLiteral
namespace Numeral

def digit (n : Nat) : CodePoint :=
  CodePoint.ofChar n.digitChar

/-- The digits of a number without leading zeros; zero has one digit. -/
def digits (base n : Nat) : Text :=
  (Nat.toDigits base n).map CodePoint.ofChar

/-- Zeros in front bring the digits up to the width; a longer numeral keeps its length. -/
def padded (base width n : Nat) : Text :=
  (digits base n).leftpad width (digit 0)

/-- The lowest digits of a number, as many as the width says. -/
def fixed (base : Nat) : Nat → Nat → Text
  | 0, _ => []
  | width + 1, n => fixed base width (n / base) ++ [digit (n % base)]

@[simp]
theorem length_fixed (base width n : Nat) : (fixed base width n).length = width := by
  induction width generalizing n with
  | zero =>
      rfl
  | succ width ih =>
      simp [fixed, ih]

def decimal (n : Int) : Text :=
  if n < 0 then CodePoint.ofChar '-' :: digits 10 n.natAbs else digits 10 n.natAbs

/-- A sign, the mark of base sixteen, then digits padded so that all reach the width. -/
def hexadecimal (width : Nat) (n : Int) : Text :=
  let sign := if n < 0 then [CodePoint.ofChar '-'] else []
  sign ++ Text.ofString "0x" ++ padded 16 (width - 2 - sign.length) n.natAbs

/-!
## Reading digits
-/

def hexDigit? (c : CodePoint) : Option Nat :=
  if 0x30 ≤ c.value ∧ c.value ≤ 0x39 then some (c.value - 0x30)
  else if 0x41 ≤ c.value ∧ c.value ≤ 0x46 then some (c.value - 0x37)
  else if 0x61 ≤ c.value ∧ c.value ≤ 0x66 then some (c.value - 0x57)
  else none

def octalDigit? (c : CodePoint) : Option Nat :=
  if 0x30 ≤ c.value ∧ c.value ≤ 0x37 then some (c.value - 0x30) else none

def isHexDigit (c : CodePoint) : Bool :=
  (hexDigit? c).isSome

def isOctalDigit (c : CodePoint) : Bool :=
  (octalDigit? c).isSome

theorem hexDigit?_lt {c : CodePoint} {n : Nat} (h : hexDigit? c = some n) : n < 16 := by
  unfold hexDigit? at h
  split at h
  · cases h
    omega
  · split at h
    · cases h
      omega
    · split at h
      · cases h
        omega
      · cases h

theorem octalDigit?_lt {c : CodePoint} {n : Nat} (h : octalDigit? c = some n) : n < 8 := by
  unfold octalDigit? at h
  split at h
  · cases h
    omega
  · cases h

theorem isHexDigit_of_isOctalDigit {c : CodePoint} (h : isOctalDigit c = true) :
    isHexDigit c = true := by
  unfold isOctalDigit octalDigit? at h
  split at h
  · next bounds =>
      simp [isHexDigit, hexDigit?, bounds.1, Nat.le_trans bounds.2]
  · cases h

/-- The value of digits in a base of at most sixteen, most significant first. -/
def value (base : Nat) (ds : Text) : Nat :=
  ds.foldl (fun total d => total * base + (hexDigit? d).getD 0) 0

@[simp]
theorem value_nil (base : Nat) : value base [] = 0 := by
  rfl

theorem value_append_singleton (base : Nat) (ds : Text) (d : CodePoint) :
    value base (ds ++ [d]) = value base ds * base + (hexDigit? d).getD 0 := by
  simp [value]

/-!
## Escapes that name a code point by its number
-/

/-- The shortest of two, four and eight hexadecimal digits that can name the code point. -/
def escape (c : CodePoint) : Text :=
  if c.value < 0x100 then CodePoint.backslash :: CodePoint.ofChar 'x' :: fixed 16 2 c.value
  else if c.value < 0x10000 then CodePoint.backslash :: CodePoint.ofChar 'u' :: fixed 16 4 c.value
  else CodePoint.backslash :: CodePoint.ofChar 'U' :: fixed 16 8 c.value

end Numeral
end QuotedLiteral
