import QuotedLiteral.Text.CodePoint

/-!
# Letter case

Names are compared without regard to case, and every name is ASCII.  The
mappings below are therefore those of the ASCII letters and those that lead
into ASCII, directly or through a second mapping; any other code point is its
own image.  One code point may map to several, and the two mappings are not
inverse to each other.
-/

namespace QuotedLiteral
namespace CodePoint

def lowerOutsideAscii : List (Nat × List Nat) :=
  [(0x130, [0x69, 0x307]), (0x1E9E, [0xDF]), (0x212A, [0x6B])]

def upperOutsideAscii : List (Nat × List Nat) :=
  [(0xDF, [0x53, 0x53]), (0x131, [0x49]), (0x149, [0x2BC, 0x4E]), (0x17F, [0x53]),
   (0x1F0, [0x4A, 0x30C]), (0x1E96, [0x48, 0x331]), (0x1E97, [0x54, 0x308]),
   (0x1E98, [0x57, 0x30A]), (0x1E99, [0x59, 0x30A]), (0x1E9A, [0x41, 0x2BE]),
   (0xFB00, [0x46, 0x46]), (0xFB01, [0x46, 0x49]), (0xFB02, [0x46, 0x4C]),
   (0xFB03, [0x46, 0x46, 0x49]), (0xFB04, [0x46, 0x46, 0x4C]), (0xFB05, [0x53, 0x54]),
   (0xFB06, [0x53, 0x54])]

def image (table : List (Nat × List Nat)) (c : CodePoint) : Text :=
  match table.lookup c.value with
  | some values => values.map ofNat
  | none => [c]

def lower (c : CodePoint) : Text :=
  if 0x41 ≤ c.value ∧ c.value ≤ 0x5A then [ofNat (c.value + 0x20)]
  else c.image lowerOutsideAscii

def upper (c : CodePoint) : Text :=
  if 0x61 ≤ c.value ∧ c.value ≤ 0x7A then [ofNat (c.value - 0x20)]
  else c.image upperOutsideAscii

end CodePoint

namespace Text

def lower (t : Text) : Text :=
  t.flatMap CodePoint.lower

def upper (t : Text) : Text :=
  t.flatMap CodePoint.upper

theorem lower_append (s t : Text) : lower (s ++ t) = lower s ++ lower t := by
  simp [lower]

theorem upper_append (s t : Text) : upper (s ++ t) = upper s ++ upper t := by
  simp [upper]

end Text
end QuotedLiteral
