import QuotedLiteral.Literal.Writing
import QuotedLiteral.Proofs.Isolation

/-!
# Dialects with the same flags

Reading and writing ask of a dialect only which flags it has.  Two numbers with
the same flags are the same dialect to them, whatever other bits the numbers have.
-/

namespace QuotedLiteral

variable {d e : Dialect}

/-!
# Reading
-/

theorem Stuck.of_same_flags {rest : Text} {offset : Nat} {cause : Cause} {stage : Stage}
    (hstuck : Stuck d rest offset cause stage) (hflags : ∀ f, d.has f = e.has f) :
    Stuck e rest offset cause stage := by
  by_cases hcode : cause.code? = some .unsupportedEscape
  · cases hstuck with
    | refused rest hrefused =>
        refine Stuck.refused rest ?_
        rintro ⟨f, announced, hselection, hhas⟩
        exact hrefused ⟨f, announced, hselection, (hflags f).trans hhas⟩
    | @fixedBad kind digits c rest hhas hdigits hshort hc =>
        cases kind <;> cases hcode
    | _ =>
        cases hcode
  · refine hstuck.mono ?_ hcode
    intro f hhas
    exact (hflags f).symm.trans hhas

theorem parse_congr (hflags : ∀ f, d.has f = e.has f) (source : Text) (index : Int) :
    parse d source index = parse e source index := by
  have hmore : ∀ f, d.has f = true → e.has f = true := by
    intro f hhas
    exact (hflags f).symm.trans hhas
  cases parsing_total d source index with
  | outside hinside =>
      rw [parse_outside hinside, parse_outside hinside]
  | missing before rest hc =>
      rw [parse_missing hc, parse_missing hc]
  | closed before hlegal hadmits =>
      rw [parse_closed hlegal hadmits, parse_closed hlegal (hadmits.mono hmore)]
  | stuck before hlegal hadmits hstuck =>
      rw [parse_stuck hlegal hadmits hstuck,
        parse_stuck hlegal (hadmits.mono hmore) (hstuck.of_same_flags hflags)]

/-!
# Writing
-/

namespace Writing

theorem piece?_congr (hflags : ∀ f, d.has f = e.has f) (asciiOnly : Bool) (c : CodePoint) :
    piece? asciiOnly d c = piece? asciiOnly e c := by
  have hmnemonic : mnemonic? d c = mnemonic? e c := by
    simp only [mnemonic?, hflags]
  have hplain : plain d c = plain e c := by
    simp only [plain, hflags]
  simp only [piece?, hmnemonic, hplain, hflags]

theorem bodyFrom_congr (hflags : ∀ f, d.has f = e.has f) (asciiOnly : Bool) (index : Nat)
    (raw : Text) : bodyFrom asciiOnly d index raw = bodyFrom asciiOnly e index raw := by
  induction raw generalizing index with
  | nil =>
      rfl
  | cons c raw ih =>
      rw [bodyFrom, bodyFrom, piece?_congr hflags asciiOnly c, ih (index + 1)]

end Writing

theorem format_congr (hflags : ∀ f, d.has f = e.has f) (asciiOnly : Bool) (raw : Text) :
    format asciiOnly d raw = format asciiOnly e raw := by
  rw [format, format, Writing.bodyFrom_congr hflags]

end QuotedLiteral
