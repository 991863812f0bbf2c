/-!
# Code points

Text is a list of Unicode code points.  Surrogates are code points like any
other, so that a decoded escape such as U+D800 is a character of the content
even though no Unicode text encoding can write it.
-/

namespace QuotedLiteral

structure CodePoint where
  value : Nat
  value_lt : value < 0x110000
deriving DecidableEq

namespace CodePoint

theorem value_injective {c d : CodePoint} (h : c.value = d.value) : c = d := by
  cases c
  cases d
  cases h
  rfl

def ofNat? (n : Nat) : Option CodePoint :=
  if h : n < 0x110000 then some ⟨n, h⟩ else none

/-- U+FFFD stands for whatever is not a character. -/
def replacement : CodePoint := ⟨0xFFFD, by decide⟩

/-- The code point of a number, U+FFFD beyond the code space. -/
def ofNat (n : Nat) : CodePoint :=
  (ofNat? n).getD replacement

theorem value_ofNat {n : Nat} (h : n < 0x110000) : (ofNat n).value = n := by
  simp [ofNat, ofNat?, h]

@[simp]
theorem ofNat_value (c : CodePoint) : ofNat c.value = c := by
  simp [ofNat, ofNat?, c.value_lt]

def ofChar (c : Char) : CodePoint where
  value := c.toNat
  value_lt := by
    have h := c.valid
    simp only [UInt32.isValidChar, Nat.isValidChar] at h
    simp only [Char.toNat]
    omega

instance : Coe Char CodePoint where
  coe := ofChar

def tab : CodePoint := ⟨0x09, by decide⟩

def lineFeed : CodePoint := ⟨0x0A, by decide⟩

def carriageReturn : CodePoint := ⟨0x0D, by decide⟩

def doubleQuote : CodePoint := ⟨0x22, by decide⟩

def apostrophe : CodePoint := ⟨0x27, by decide⟩

def backslash : CodePoint := ⟨0x5C, by decide⟩

def isSurrogate (c : CodePoint) : Bool :=
  0xD800 ≤ c.value && c.value ≤ 0xDFFF

/-- The scalar value as a character; surrogates have none. -/
def toChar? (c : CodePoint) : Option Char :=
  if h : c.value.isValidChar then some (Char.ofNatAux c.value h) else none

/-- Membership in a list of closed ranges. -/
def within (ranges : List (Nat × Nat)) (c : CodePoint) : Bool :=
  ranges.any fun range => range.1 ≤ c.value && c.value ≤ range.2

end CodePoint

abbrev Text := List CodePoint

namespace Text

def ofString (s : String) : Text :=
  s.toList.map CodePoint.ofChar

/-- Surrogates have no place in a string, so text that holds one has no string. -/
def toString? (t : Text) : Option String :=
  (t.mapM CodePoint.toChar?).map String.ofList

/-- The code point at an index; none outside the text, negative indexes included. -/
def at? (t : Text) (index : Int) : Option CodePoint :=
  if 0 ≤ index then t[index.toNat]? else none

/-- Order by code point, a proper prefix first. -/
def le : Text → Text → Bool
  | [], _ => true
  | _ :: _, [] => false
  | a :: s, b :: t => if a = b then le s t else a.value < b.value

/-- Whether the part occurs somewhere in the text. -/
def includes (part : Text) : Text → Bool
  | [] => part = []
  | c :: rest => part.isPrefixOf (c :: rest) || includes part rest

def join (separator : Text) (pieces : List Text) : Text :=
  separator.intercalate pieces

def unlines (lines : List Text) : Text :=
  lines.flatMap (· ++ [CodePoint.lineFeed])

end Text
end QuotedLiteral
