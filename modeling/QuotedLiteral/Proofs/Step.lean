import QuotedLiteral.Literal.State
import QuotedLiteral.Proofs.Selector

/-!
# Steps of the reader

What a step does in each state, by the kind of the character that it sees.
-/

namespace QuotedLiteral

namespace FixedEscape

/-- The state of the reader inside the escape. -/
def state : FixedEscape → Text → State
  | hex => .hex
  | unicode => .unicode

def stage : FixedEscape → Stage
  | hex => .hex
  | unicode => .unicode

/-- What is wrong with a character that should have been a digit of the escape. -/
def bad : FixedEscape → CodePoint → Cause
  | hex => .badHexDigit
  | unicode => .badUnicodeDigit

@[simp]
theorem stage_state (kind : FixedEscape) (digits : Text) :
    (kind.state digits).stage = kind.stage := by
  cases kind <;> rfl

theorem state_ne_body (kind : FixedEscape) (digits : Text) : kind.state digits ≠ .body := by
  cases kind <;> exact State.noConfusion

end FixedEscape

namespace State

/-!
## Outside and in the body
-/

theorem step_outside_quote (d : Dialect) :
    outside.step d .doubleQuote = .ok ⟨.body, none, true⟩ := by
  rfl

theorem step_outside_other {d : Dialect} {c : CodePoint} (hc : c ≠ .doubleQuote) :
    outside.step d c = .error (.missingQuote c) := by
  rw [step, if_neg hc]

theorem step_body_backslash (d : Dialect) :
    body.step d .backslash = .ok ⟨.escape, none, true⟩ := by
  rfl

theorem step_body_verbatim {d : Dialect} {c : CodePoint} (hc : c ≠ .backslash) :
    body.step d c = .ok ⟨.body, some c, true⟩ := by
  rw [step, if_neg hc]

/-!
## After a backslash
-/

theorem step_escape_mnemonic {d : Dialect} {m : Mnemonic} (hm : m ∈ mnemonics)
    (hhas : d.has m.flag = true) :
    escape.step d m.selector = .ok ⟨.body, some m.denoted, true⟩ := by
  rw [step, stepEscape, selection?_mnemonic hm]
  exact if_pos hhas

theorem step_escape_letter {d : Dialect} {kind : FixedEscape} (hhas : d.has kind.flag = true) :
    escape.step d kind.letter = .ok ⟨kind.state [], none, true⟩ := by
  rw [step, stepEscape, selection?_letter]
  simp only [hhas, if_true]
  cases kind <;> rfl

theorem step_escape_octal {d : Dialect} {c : CodePoint} (hc : Numeral.isOctalDigit c = true)
    (hhas : d.has .octal = true) :
    escape.step d c = .ok ⟨.octal [], none, false⟩ := by
  rw [step, stepEscape, selection?_octalDigit hc]
  exact if_pos hhas

theorem step_escape_refused {d : Dialect} {c : CodePoint} (hc : ¬d.Enables c) :
    escape.step d c = .error (.unsupportedEscape c) := by
  rw [step, stepEscape]
  cases hselection : selection? c with
  | none =>
      rfl
  | some found =>
      have hlacks : ¬d.has found.1 = true := by
        intro hhas
        exact hc ⟨found.1, found.2, hselection, hhas⟩
      exact if_neg hlacks

/-!
## Inside a hexadecimal escape
-/

theorem step_fixed {d : Dialect} {c : CodePoint} (kind : FixedEscape) (digits : Text) :
    (kind.state digits).step d c =
      stepDigit kind.width kind.state (kind.bad c) digits c := by
  cases kind <;> rfl

theorem step_fixed_more {d : Dialect} {kind : FixedEscape} {digits : Text} {c : CodePoint}
    (hc : Numeral.isHexDigit c = true) (hmore : digits.length + 1 < kind.width) :
    (kind.state digits).step d c = .ok ⟨kind.state (digits ++ [c]), none, true⟩ := by
  rw [step_fixed, stepDigit, if_pos hc]
  exact if_pos (by simpa using hmore)

theorem step_fixed_last {d : Dialect} {kind : FixedEscape} {digits : Text} {c : CodePoint}
    (hc : Numeral.isHexDigit c = true) (hlast : digits.length + 1 = kind.width) :
    (kind.state digits).step d c =
      .ok ⟨.body, some (.ofNat (Numeral.value 16 (digits ++ [c]))), true⟩ := by
  rw [step_fixed, stepDigit, if_pos hc]
  exact if_neg (by simp [hlast])

theorem step_fixed_bad {d : Dialect} {kind : FixedEscape} {digits : Text} {c : CodePoint}
    (hc : Numeral.isHexDigit c = false) :
    (kind.state digits).step d c = .error (kind.bad c) := by
  rw [step_fixed, stepDigit, hc]
  rfl

/-!
## Inside an octal escape
-/

theorem step_octal_more {d : Dialect} {digits : Text} {c : CodePoint}
    (hc : Numeral.isOctalDigit c = true) (hmore : digits.length + 1 < 3) :
    (octal digits).step d c = .ok ⟨.octal (digits ++ [c]), none, true⟩ := by
  rw [step, stepOctal, if_pos hc]
  exact if_pos (by simpa [octalWidth] using hmore)

theorem step_octal_last {d : Dialect} {digits : Text} {c : CodePoint}
    (hc : Numeral.isOctalDigit c = true) (hlast : digits.length + 1 = 3) :
    (octal digits).step d c =
      .ok ⟨.body, some (.ofNat (Numeral.value 8 (digits ++ [c]))), true⟩ := by
  rw [step, stepOctal, if_pos hc]
  exact if_neg (by simp [octalWidth, hlast])

/-- The character that ends a short octal escape is left to the body. -/
theorem step_octal_short {d : Dialect} {digits : Text} {c : CodePoint}
    (hdigits : digits ≠ []) (hc : Numeral.isOctalDigit c = false) :
    (octal digits).step d c =
      .ok ⟨.body, some (.ofNat (Numeral.value 8 digits)), false⟩ := by
  rw [step, stepOctal, hc]
  exact if_neg hdigits

end State
end QuotedLiteral
