import QuotedLiteral.Text.CodePoint

/-!
# White space

White space is what Unicode calls so, together with the four information
separators U+001C to U+001F.
-/

namespace QuotedLiteral
namespace CodePoint

def whitespaceRanges : List (Nat × Nat) :=
  [(0x9, 0xD), (0x1C, 0x20), (0x85, 0x85), (0xA0, 0xA0), (0x1680, 0x1680), (0x2000, 0x200A),
   (0x2028, 0x2029), (0x202F, 0x202F), (0x205F, 0x205F), (0x3000, 0x3000)]

def isWhitespace (c : CodePoint) : Bool :=
  c.within whitespaceRanges

end CodePoint

namespace Text

def stripLeft (t : Text) : Text :=
  t.dropWhile CodePoint.isWhitespace

def stripRight (t : Text) : Text :=
  (stripLeft t.reverse).reverse

/-- The text without the white space at its two ends. -/
def strip (t : Text) : Text :=
  stripRight (stripLeft t)

end Text
end QuotedLiteral
