import QuotedLiteral.Text.CodePoint

/-!
# Lines

A line ends with its line feed.  Outside text may end lines with a carriage
return, alone or before a line feed; both are read as one line feed.
-/

namespace QuotedLiteral
namespace Text

/-- The flag tells whether the preceding character was a carriage return. -/
def normalizeNewlinesFrom : Bool → Text → Text
  | _, [] => []
  | afterReturn, c :: rest =>
      if c = CodePoint.carriageReturn then
        CodePoint.lineFeed :: normalizeNewlinesFrom true rest
      else if afterReturn ∧ c = CodePoint.lineFeed then
        normalizeNewlinesFrom false rest
      else
        c :: normalizeNewlinesFrom false rest

def normalizeNewlines (t : Text) : Text :=
  normalizeNewlinesFrom false t

/-- The lines of a text, each with its line feed; only the last may lack one. -/
def lines : Text → List Text
  | [] => []
  | c :: rest =>
      if c = CodePoint.lineFeed then [c] :: lines rest
      else
        match lines rest with
        | [] => [[c]]
        | line :: more => (c :: line) :: more

@[simp]
theorem flatten_lines (t : Text) : (lines t).flatten = t := by
  induction t with
  | nil =>
      rfl
  | cons c rest ih =>
      rw [lines]
      split
      · simp [ih]
      · split
        · next empty =>
            rw [empty] at ih
            simp [← ih]
        · next line more found =>
            rw [found] at ih
            simp [← ih]

/-- The text without its last character if that is a line feed. -/
def dropFinalNewline (t : Text) : Text :=
  if t.getLast? = some CodePoint.lineFeed then t.dropLast else t

end Text
end QuotedLiteral
