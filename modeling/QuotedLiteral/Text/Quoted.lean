import QuotedLiteral.Text.Numeral
import QuotedLiteral.Text.Printable

/-!
# Quoted text in messages

A message shows text between quotation marks on one line: the mark and the
backslash are preceded by a backslash, and a character that is not printable
is named by an escape.
-/

namespace QuotedLiteral
namespace Text

/-- Apostrophes surround the text, unless it holds one and no double quote. -/
def quotationMark (t : Text) : CodePoint :=
  if t.contains CodePoint.apostrophe && !t.contains CodePoint.doubleQuote then
    CodePoint.doubleQuote
  else
    CodePoint.apostrophe

def quotedCharacter (mark c : CodePoint) : Text :=
  if c = mark ∨ c = CodePoint.backslash then [CodePoint.backslash, c]
  else if c = CodePoint.lineFeed then ofString "\\n"
  else if c = CodePoint.carriageReturn then ofString "\\r"
  else if c = CodePoint.tab then ofString "\\t"
  else if c.isPrintable then [c]
  else Numeral.escape c

def quoted (t : Text) : Text :=
  quotationMark t :: t.flatMap (quotedCharacter (quotationMark t)) ++ [quotationMark t]

end Text

def CodePoint.quoted (c : CodePoint) : Text :=
  Text.quoted [c]

end QuotedLiteral
