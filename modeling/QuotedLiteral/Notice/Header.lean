import QuotedLiteral.Text.Line
import QuotedLiteral.Text.Pattern
import QuotedLiteral.Text.Whitespace

/-!
# Copyright notices

A file carries a notice if one of its first lines does.  White space in a
notice may be missing and may run over line ends; the year may be a range.
-/

namespace QuotedLiteral
namespace Notice

def spaces : Pattern :=
  .many CodePoint.isWhitespace

def year : Pattern :=
  .times 4 (.character CodePoint.isDecimalDigit)

def opening : Pattern :=
  .sequence (.literal (Text.ofString "Copyright"))
    (.sequence spaces (.sequence (.literal (Text.ofString "(c)")) spaces))

def pattern : Pattern :=
  .sequence opening
    (.sequence year
      (.sequence (.optional (.sequence (.literal (Text.ofString "-")) year)) .wordBoundary))

/-- A first line that hands the file to a shell. -/
def shellPattern : Pattern :=
  .sequence .start
    (.sequence (.literal (Text.ofString "#!"))
      (.sequence (.many (· ≠ CodePoint.lineFeed))
        (.sequence .wordBoundary
          (.sequence
            (.choice (.literal (Text.ofString "bash"))
              (.choice (.literal (Text.ofString "sh")) (.literal (Text.ofString "zsh"))))
            .wordBoundary))))

/-- Lines behind these are not looked at. -/
def scannedLines : Nat := 80

def head (t : Text) : Text :=
  (t.lines.take scannedLines).flatten

def isPresent (t : Text) : Bool :=
  pattern.found (head t)

def isShellScript (t : Text) : Bool :=
  shellPattern.found (t.lines.take 1).flatten

end Notice
end QuotedLiteral
