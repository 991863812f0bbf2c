import QuotedLiteral.Proofs.Transition

/-!
# States and the text around them

Inside an escape the reader's state repeats what it has consumed: the letters
that announce the escape and its first digits are the end of the text before the
place where the reader is.  Every step keeps this up, under any dialect.  An
octal escape has no digit yet only where one stands next, so that the fault of an
octal escape without a digit never comes up.
-/

namespace QuotedLiteral

variable {d : Dialect} {c : CodePoint} {s : State} {move : Move} {cause : Cause}
  {before rest : Text}

/-- The state is that of a reader between the two texts. -/
def State.AgreesWith (before after : Text) : State → Prop
  | outside => before = []
  | body => True
  | escape => [CodePoint.backslash] <:+ before
  | octal digits =>
      digits.length < octalWidth ∧ (∀ x ∈ digits, Numeral.isOctalDigit x = true) ∧
        .backslash :: digits <:+ before ∧
        (digits = [] → after.head?.any Numeral.isOctalDigit = true)
  | hex digits =>
      digits.length < hexWidth ∧ (∀ x ∈ digits, Numeral.isHexDigit x = true) ∧
        .backslash :: CodePoint.ofChar 'x' :: digits <:+ before
  | unicode digits =>
      digits.length < unicodeWidth ∧ (∀ x ∈ digits, Numeral.isHexDigit x = true) ∧
        .backslash :: CodePoint.ofChar 'u' :: digits <:+ before

namespace State

theorem agreesWith_fixed {kind : FixedEscape} {digits after : Text} :
    (kind.state digits).AgreesWith before after ↔
      digits.length < kind.width ∧ (∀ x ∈ digits, Numeral.isHexDigit x = true) ∧
        .backslash :: kind.letter :: digits <:+ before := by
  cases kind <;> exact Iff.rfl

end State

/-!
# What a step keeps
-/

theorem forall_mem_concat {isDigit : CodePoint → Bool} {digits : Text}
    (hdigits : ∀ x ∈ digits, isDigit x = true) (hc : isDigit c = true) :
    ∀ x ∈ digits ++ [c], isDigit x = true := by
  intro x hx
  rcases List.mem_append.mp hx with hdigit | hlast
  · exact hdigits x hdigit
  · rw [List.mem_singleton.mp hlast]
    exact hc

theorem suffix_concat {front : Text} (h : front <:+ before) (c : CodePoint) :
    front ++ [c] <:+ before ++ [c] :=
  (List.suffix_append_self_iff).mpr h

theorem State.AgreesWith.of_transition (hagrees : s.AgreesWith before (c :: rest))
    (htransition : Transition d c s move) :
    move.next.AgreesWith (before ++ move.taken c) (move.left c rest) := by
  cases htransition with
  | opening =>
      exact trivial
  | slash =>
      exact List.suffix_append before [.backslash]
  | verbatim hc =>
      exact trivial
  | mnemonic hm hhas =>
      exact trivial
  | letter kind hhas =>
      apply State.agreesWith_fixed.mpr
      refine ⟨?_, by simp, suffix_concat hagrees kind.letter⟩
      cases kind <;> decide
  | octalEntry hc hhas =>
      change State.AgreesWith (before ++ []) (c :: rest) (.octal [])
      rw [List.append_nil]
      exact ⟨by decide, by simp, hagrees, fun _ => hc⟩
  | fixedMore kind hc hmore =>
      rcases State.agreesWith_fixed.mp hagrees with ⟨-, hdigits, hsuffix⟩
      apply State.agreesWith_fixed.mpr
      refine ⟨?_, forall_mem_concat hdigits hc, suffix_concat hsuffix c⟩
      simpa using hmore
  | fixedLast kind hc hlast =>
      exact trivial
  | octalMore hc hmore =>
      rcases hagrees with ⟨-, hdigits, hsuffix, -⟩
      refine ⟨?_, forall_mem_concat hdigits hc, suffix_concat hsuffix c, ?_⟩
      · simpa [State.octalWidth] using hmore
      · intro hnil
        simp at hnil
  | octalLast hc hlast =>
      exact trivial
  | octalShort hne hc =>
      exact trivial

/-- A reader that agrees with its text is refused for the literal's fault only, never its own. -/
theorem State.AgreesWith.code?_of_rejection (hagrees : s.AgreesWith before (c :: rest))
    (hrejection : Rejection d c s cause) : ∃ code, cause.code? = some code := by
  cases hrejection with
  | missing hc =>
      exact ⟨_, rfl⟩
  | escape hc =>
      exact ⟨_, rfl⟩
  | fixed kind hc =>
      cases kind <;> exact ⟨_, rfl⟩
  | octal hc =>
      have hdigit : Numeral.isOctalDigit c = true := hagrees.2.2.2 rfl
      rw [hc] at hdigit
      cases hdigit

/-!
# What a step emits
-/

/-- The largest number that an escape can name which is read in the state. -/
def State.limit : State → Nat
  | octal _ => 0o777
  | _ => 0xFFFF

/-- The character is that of an escape of the grammar, which ends between the two texts and names a
number up to the limit. -/
def Denotes (limit : Nat) (before after : Text) (emitted : CodePoint) : Prop :=
  ∃ (item : Item) (f : Flag), item.guard? = some f ∧ item.LegalBefore after ∧
    item.text <:+ before ∧ emitted = item.denoted ∧ item.code ≤ limit

theorem State.AgreesWith.denotes_fixed {kind : FixedEscape} {digits : Text}
    (hagrees : (kind.state digits).AgreesWith before (c :: rest))
    (hc : Numeral.isHexDigit c = true) (hlast : kind.width ≤ digits.length + 1) :
    Denotes 0xFFFF (before ++ [c]) rest (.ofNat (Numeral.value 16 (digits ++ [c]))) := by
  rcases State.agreesWith_fixed.mp hagrees with ⟨hshort, hdigits, hsuffix⟩
  have hlength : (digits ++ [c]).length = kind.width := by
    rw [List.length_append, List.length_singleton]
    lia
  have hlegal : (Item.fixed kind (digits ++ [c])).LegalBefore rest :=
    ⟨hlength, forall_mem_concat hdigits hc⟩
  exact ⟨_, _, rfl, hlegal, suffix_concat hsuffix c, rfl, hlegal.code_le rfl⟩

theorem denotes_octal {digits after : Text} (hlegal : (Item.octal digits).LegalBefore after)
    (hsuffix : .backslash :: digits <:+ before) :
    Denotes 0o777 before after (.ofNat (Numeral.value 8 digits)) :=
  ⟨.octal digits, .octal, rfl, hlegal, hsuffix, rfl, Nat.le_of_lt_succ hlegal.octal_code_lt⟩

theorem State.AgreesWith.denotes_octal_full {digits : Text}
    (hagrees : (State.octal digits).AgreesWith before (c :: rest))
    (hc : Numeral.isOctalDigit c = true) (hlast : 3 ≤ digits.length + 1) :
    Denotes 0o777 (before ++ [c]) rest (.ofNat (Numeral.value 8 (digits ++ [c]))) := by
  rcases hagrees with ⟨hshort, hdigits, hsuffix, -⟩
  rw [State.octalWidth] at hshort
  have hlength : (digits ++ [c]).length = 3 := by
    rw [List.length_append, List.length_singleton]
    lia
  have hlegal : (Item.octal (digits ++ [c])).LegalBefore rest :=
    ⟨by lia, by lia, forall_mem_concat hdigits hc, by lia⟩
  exact denotes_octal hlegal (suffix_concat hsuffix c)

theorem State.AgreesWith.denotes_octal_short {digits : Text}
    (hagrees : (State.octal digits).AgreesWith before (c :: rest)) (hne : digits ≠ [])
    (hc : Numeral.isOctalDigit c = false) :
    Denotes 0o777 before (c :: rest) (.ofNat (Numeral.value 8 digits)) := by
  rcases hagrees with ⟨hshort, hdigits, hsuffix, -⟩
  have hlegal : (Item.octal digits).LegalBefore (c :: rest) :=
    ⟨List.length_pos_iff.mpr hne, Nat.le_of_lt hshort, hdigits, fun _ => by simp [hc]⟩
  exact denotes_octal hlegal hsuffix

/-- Outside the body only escapes emit, each the character that it is spelled for. -/
theorem State.AgreesWith.denotes_of_transition {emitted : CodePoint}
    (hagrees : s.AgreesWith before (c :: rest)) (htransition : Transition d c s move)
    (hbody : s ≠ .body) (hemitted : move.emitted = some emitted) :
    Denotes s.limit (before ++ move.taken c) (move.left c rest) emitted := by
  cases htransition with
  | slash =>
      cases hemitted
  | verbatim hc =>
      exact absurd rfl hbody
  | @mnemonic m hm hhas =>
      cases hemitted
      have hlegal : (Item.mnemonic m).LegalBefore rest := hm
      have hdenoted : (Item.mnemonic m).denoted = m.denoted := CodePoint.ofNat_value m.denoted
      exact ⟨.mnemonic m, m.flag, rfl, hlegal, suffix_concat hagrees m.selector, hdenoted.symm,
        hlegal.code_le rfl⟩
  | @fixedLast kind digits _ hc hlast =>
      cases hemitted
      have hlimit : (kind.state digits).limit = 0xFFFF := by
        cases kind <;> rfl
      rw [hlimit]
      exact hagrees.denotes_fixed hc hlast
  | octalLast hc hlast =>
      cases hemitted
      exact hagrees.denotes_octal_full hc hlast
  | octalShort hne hc =>
      cases hemitted
      change Denotes 0o777 (before ++ []) (c :: rest) _
      rw [List.append_nil]
      exact hagrees.denotes_octal_short hne hc
  | _ =>
      cases hemitted

end QuotedLiteral
