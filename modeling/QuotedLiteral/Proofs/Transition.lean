import QuotedLiteral.Proofs.Step

/-!
# The moves and rejections of a step

Every step is one of a few moves or rejections.  What holds of all steps is shown
of each of them once, without going back to how a step is computed.
-/

namespace QuotedLiteral

variable {d : Dialect} {c : CodePoint} {s : State} {move : Move} {cause : Cause}

namespace Move

/-- What the move adds to the text before the reader. -/
def taken (move : Move) (c : CodePoint) : Text :=
  if move.consumes then [c] else []

/-- What the move leaves of the text after the reader. -/
def left (move : Move) (c : CodePoint) (rest : Text) : Text :=
  if move.consumes then rest else c :: rest

theorem taken_append_left (move : Move) (c : CodePoint) (rest : Text) :
    move.taken c ++ move.left c rest = c :: rest := by
  unfold taken left
  split <;> rfl

theorem length_taken_le (move : Move) (c : CodePoint) : (move.taken c).length ≤ 1 := by
  unfold taken
  split
  · exact Nat.le_refl 1
  · exact Nat.zero_le 1

end Move

/-- The moves that the reader makes, by the character that it sees and the state. -/
inductive Transition (d : Dialect) : CodePoint → State → Move → Prop where
  | opening : Transition d .doubleQuote .outside ⟨.body, none, true⟩
  | slash : Transition d .backslash .body ⟨.escape, none, true⟩
  | verbatim {c : CodePoint} (hc : c ≠ .backslash) : Transition d c .body ⟨.body, some c, true⟩
  | mnemonic {m : Mnemonic} (hm : m ∈ mnemonics) (hhas : d.has m.flag = true) :
      Transition d m.selector .escape ⟨.body, some m.denoted, true⟩
  | letter (kind : FixedEscape) (hhas : d.has kind.flag = true) :
      Transition d kind.letter .escape ⟨kind.state [], none, true⟩
  | octalEntry {c : CodePoint} (hc : Numeral.isOctalDigit c = true) (hhas : d.has .octal = true) :
      Transition d c .escape ⟨.octal [], none, false⟩
  | fixedMore (kind : FixedEscape) {digits : Text} {c : CodePoint}
      (hc : Numeral.isHexDigit c = true) (hmore : digits.length + 1 < kind.width) :
      Transition d c (kind.state digits) ⟨kind.state (digits ++ [c]), none, true⟩
  | fixedLast (kind : FixedEscape) {digits : Text} {c : CodePoint}
      (hc : Numeral.isHexDigit c = true) (hlast : kind.width ≤ digits.length + 1) :
      Transition d c (kind.state digits)
        ⟨.body, some (.ofNat (Numeral.value 16 (digits ++ [c]))), true⟩
  | octalMore {digits : Text} {c : CodePoint} (hc : Numeral.isOctalDigit c = true)
      (hmore : digits.length + 1 < 3) :
      Transition d c (.octal digits) ⟨.octal (digits ++ [c]), none, true⟩
  | octalLast {digits : Text} {c : CodePoint} (hc : Numeral.isOctalDigit c = true)
      (hlast : 3 ≤ digits.length + 1) :
      Transition d c (.octal digits) ⟨.body, some (.ofNat (Numeral.value 8 (digits ++ [c]))), true⟩
  | octalShort {digits : Text} {c : CodePoint} (hne : digits ≠ [])
      (hc : Numeral.isOctalDigit c = false) :
      Transition d c (.octal digits) ⟨.body, some (.ofNat (Numeral.value 8 digits)), false⟩

/-- What the reader rejects, and why. -/
inductive Rejection (d : Dialect) : CodePoint → State → Cause → Prop where
  | missing {c : CodePoint} (hc : c ≠ .doubleQuote) : Rejection d c .outside (.missingQuote c)
  | escape {c : CodePoint} (hc : ¬d.Enables c) : Rejection d c .escape (.unsupportedEscape c)
  | fixed (kind : FixedEscape) {digits : Text} {c : CodePoint}
      (hc : Numeral.isHexDigit c = false) : Rejection d c (kind.state digits) (kind.bad c)
  | octal {c : CodePoint} (hc : Numeral.isOctalDigit c = false) :
      Rejection d c (.octal []) .octalWithoutDigit

/-- What a step comes to. -/
def Settled (d : Dialect) (c : CodePoint) (s : State) : Except Cause Move → Prop
  | .ok move => Transition d c s move
  | .error cause => Rejection d c s cause

theorem settled_escape (d : Dialect) (c : CodePoint) :
    Settled d c .escape (State.escape.step d c) := by
  by_cases henables : d.Enables c
  · rcases henables with ⟨f, announced, hselection, hhas⟩
    rcases selection?_eq_some hselection with
      ⟨m, hm, rfl, rfl, -⟩ | ⟨kind, rfl, rfl, -⟩ | ⟨hc, rfl, -⟩
    · rw [State.step_escape_mnemonic hm hhas]
      exact Transition.mnemonic hm hhas
    · rw [State.step_escape_letter hhas]
      exact Transition.letter kind hhas
    · rw [State.step_escape_octal hc hhas]
      exact Transition.octalEntry hc hhas
  · rw [State.step_escape_refused henables]
    exact Rejection.escape henables

theorem settled_fixed (d : Dialect) (c : CodePoint) (kind : FixedEscape) (digits : Text) :
    Settled d c (kind.state digits) ((kind.state digits).step d c) := by
  cases hc : Numeral.isHexDigit c with
  | false =>
      rw [State.step_fixed_bad hc]
      exact Rejection.fixed kind hc
  | true =>
      rw [State.step_fixed, State.stepDigit, if_pos hc]
      by_cases hmore : digits.length + 1 < kind.width
      · rw [if_pos (by simpa using hmore)]
        exact Transition.fixedMore kind hc hmore
      · rw [if_neg (by simpa using hmore)]
        exact Transition.fixedLast kind hc (Nat.le_of_not_lt hmore)

theorem settled_octal (d : Dialect) (c : CodePoint) (digits : Text) :
    Settled d c (.octal digits) ((State.octal digits).step d c) := by
  cases hc : Numeral.isOctalDigit c with
  | false =>
      by_cases hne : digits = []
      · rw [hne, State.step, State.stepOctal, hc]
        exact Rejection.octal hc
      · rw [State.step_octal_short hne hc]
        exact Transition.octalShort hne hc
  | true =>
      rw [State.step, State.stepOctal, if_pos hc]
      by_cases hmore : digits.length + 1 < 3
      · rw [if_pos (by simpa [State.octalWidth] using hmore)]
        exact Transition.octalMore hc hmore
      · rw [if_neg (by simpa [State.octalWidth] using hmore)]
        exact Transition.octalLast hc (Nat.le_of_not_lt hmore)

theorem settled (d : Dialect) (c : CodePoint) (s : State) : Settled d c s (s.step d c) := by
  cases s with
  | outside =>
      by_cases hc : c = .doubleQuote
      · rw [hc, State.step_outside_quote]
        exact Transition.opening
      · rw [State.step_outside_other hc]
        exact Rejection.missing hc
  | body =>
      by_cases hc : c = .backslash
      · rw [hc, State.step_body_backslash]
        exact Transition.slash
      · rw [State.step_body_verbatim hc]
        exact Transition.verbatim hc
  | escape =>
      exact settled_escape d c
  | octal digits =>
      exact settled_octal d c digits
  | hex digits =>
      exact settled_fixed d c .hex digits
  | unicode digits =>
      exact settled_fixed d c .unicode digits

theorem transition_of_step (h : s.step d c = .ok move) : Transition d c s move := by
  have hsettled := settled d c s
  rw [h] at hsettled
  exact hsettled

theorem rejection_of_step (h : s.step d c = .error cause) : Rejection d c s cause := by
  have hsettled := settled d c s
  rw [h] at hsettled
  exact hsettled

end QuotedLiteral
