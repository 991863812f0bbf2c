import QuotedLiteral.Proofs.Run

/-!
# Where reading a body ends

From the boundary of an item a text closes the literal, begins with an item that
the dialect admits, or gets reading stuck at an offset.  Hence every text is a
body as far as it goes, and then a closing quote or such a place.
-/

namespace QuotedLiteral

/-- Reading the text from the boundary of an item stops within the next item, at the offset. -/
inductive Stuck (d : Dialect) : Text → Nat → Cause → Stage → Prop where
  | ended : Stuck d [] 0 .unterminated .body
  | escapeEnded : Stuck d [.backslash] 1 .unterminated .escape
  | refused {c : CodePoint} (rest : Text) (hrefused : ¬d.Enables c) :
      Stuck d (.backslash :: c :: rest) 1 (.unsupportedEscape c) .escape
  | fixedEnded {kind : FixedEscape} {digits : Text} (hhas : d.has kind.flag = true)
      (hdigits : ∀ x ∈ digits, Numeral.isHexDigit x = true) (hshort : digits.length < kind.width) :
      Stuck d (.backslash :: kind.letter :: digits) (2 + digits.length) .unterminated kind.stage
  | fixedBad {kind : FixedEscape} {digits : Text} {c : CodePoint} (rest : Text)
      (hhas : d.has kind.flag = true) (hdigits : ∀ x ∈ digits, Numeral.isHexDigit x = true)
      (hshort : digits.length < kind.width) (hc : Numeral.isHexDigit c = false) :
      Stuck d (.backslash :: kind.letter :: (digits ++ c :: rest)) (2 + digits.length)
        (kind.bad c) kind.stage
  | octalEnded {digits : Text} (hhas : d.has .octal = true) (hne : digits ≠ [])
      (hdigits : ∀ x ∈ digits, Numeral.isOctalDigit x = true) (hshort : digits.length < 3) :
      Stuck d (.backslash :: digits) (1 + digits.length) .unterminated .octal

/-!
# The front of a text
-/

/-- The text closes the literal, begins with an item, or is stuck. -/
inductive Front (d : Dialect) : Text → Prop where
  | quote (after : Text) : Front d (.doubleQuote :: after)
  | item (item : Item) {after : Text} (hlegal : item.LegalBefore after)
      (hadmits : ∀ f, item.guard? = some f → d.has f = true) : Front d (item.text ++ after)
  | stuck {rest : Text} {offset : Nat} {cause : Cause} {stage : Stage}
      (hstuck : Stuck d rest offset cause stage) : Front d rest

theorem digits_cases (isDigit : CodePoint → Bool) (width : Nat) (rest : Text) :
    (∃ digits after, rest = digits ++ after ∧ (∀ x ∈ digits, isDigit x = true) ∧
        digits.length = width) ∨
      ((∀ x ∈ rest, isDigit x = true) ∧ rest.length < width) ∨
      (∃ digits c after, rest = digits ++ c :: after ∧ (∀ x ∈ digits, isDigit x = true) ∧
        digits.length < width ∧ isDigit c = false) := by
  induction width generalizing rest with
  | zero =>
      exact Or.inl ⟨[], rest, rfl, by simp, rfl⟩
  | succ width ih =>
      cases rest with
      | nil =>
          exact Or.inr (Or.inl ⟨by simp, Nat.succ_pos width⟩)
      | cons x rest =>
          cases hx : isDigit x with
          | false =>
              exact Or.inr (Or.inr ⟨[], x, rest, rfl, by simp, Nat.succ_pos width, hx⟩)
          | true =>
              rcases ih rest with ⟨digits, after, rfl, hdigits, hlength⟩ | ⟨hdigits, hshort⟩ |
                ⟨digits, c, after, rfl, hdigits, hshort, hc⟩
              · refine Or.inl ⟨x :: digits, after, rfl, ?_, ?_⟩
                · exact List.forall_mem_cons.mpr ⟨hx, hdigits⟩
                · rw [List.length_cons, hlength]
              · refine Or.inr (Or.inl ⟨?_, ?_⟩)
                · exact List.forall_mem_cons.mpr ⟨hx, hdigits⟩
                · exact Nat.succ_lt_succ hshort
              · refine Or.inr (Or.inr ⟨x :: digits, c, after, rfl, ?_, ?_, hc⟩)
                · exact List.forall_mem_cons.mpr ⟨hx, hdigits⟩
                · exact Nat.succ_lt_succ hshort

theorem front_fixed {d : Dialect} {kind : FixedEscape} (hhas : d.has kind.flag = true)
    (rest : Text) : Front d (.backslash :: kind.letter :: rest) := by
  rcases digits_cases Numeral.isHexDigit kind.width rest with
    ⟨digits, after, rfl, hdigits, hlength⟩ | ⟨hdigits, hshort⟩ |
    ⟨digits, c, after, rfl, hdigits, hshort, hc⟩
  · apply Front.item (.fixed kind digits) ⟨hlength, hdigits⟩
    intro f hf
    cases hf
    exact hhas
  · exact Front.stuck (Stuck.fixedEnded hhas hdigits hshort)
  · exact Front.stuck (Stuck.fixedBad after hhas hdigits hshort hc)

theorem front_octal {d : Dialect} {c : CodePoint} (hhas : d.has .octal = true)
    (hc : Numeral.isOctalDigit c = true) (rest : Text) : Front d (.backslash :: c :: rest) := by
  have hadmits : ∀ digits f, (Item.octal digits).guard? = some f → d.has f = true := by
    intro digits f hf
    cases hf
    exact hhas
  rcases digits_cases Numeral.isOctalDigit 3 (c :: rest) with
    ⟨digits, after, hrest, hdigits, hlength⟩ | ⟨hdigits, hshort⟩ |
    ⟨digits, next, after, hrest, hdigits, hshort, hnext⟩
  · rw [hrest]
    apply Front.item (.octal digits) _ (hadmits digits)
    exact ⟨by lia, by lia, hdigits, by lia⟩
  · exact Front.stuck (Stuck.octalEnded hhas (List.cons_ne_nil c rest) hdigits hshort)
  · have hpos : 0 < digits.length := by
      cases digits with
      | nil =>
          cases hrest
          rw [hc] at hnext
          cases hnext
      | cons x digits =>
          exact Nat.succ_pos digits.length
    rw [hrest]
    apply Front.item (.octal digits) _ (hadmits digits)
    exact ⟨hpos, Nat.le_of_lt hshort, hdigits, fun _ => by simp [hnext]⟩

theorem front_escape (d : Dialect) (c : CodePoint) (rest : Text) :
    Front d (.backslash :: c :: rest) := by
  by_cases henables : d.Enables c
  · rcases henables with ⟨f, announced, hselection, hhas⟩
    rcases selection?_eq_some hselection with
      ⟨m, hm, rfl, rfl, -⟩ | ⟨kind, rfl, rfl, -⟩ | ⟨hc, rfl, -⟩
    · apply Front.item (.mnemonic m) hm
      intro f hf
      cases hf
      exact hhas
    · exact front_fixed hhas rest
    · exact front_octal hhas hc rest
  · exact Front.stuck (Stuck.refused rest henables)

theorem front_total (d : Dialect) (rest : Text) : Front d rest := by
  cases rest with
  | nil =>
      exact Front.stuck Stuck.ended
  | cons c rest =>
      by_cases hquote : c = .doubleQuote
      · rw [hquote]
        exact Front.quote rest
      · by_cases hslash : c = .backslash
        · rw [hslash]
          cases rest with
          | nil =>
              exact Front.stuck Stuck.escapeEnded
          | cons selector rest =>
              exact front_escape d selector rest
        · apply Front.item (.verbatim c) ⟨hquote, hslash⟩
          intro f hf
          cases hf

/-!
# The fault of a stuck text
-/

namespace Stuck

variable {d : Dialect} {rest : Text} {offset : Nat} {cause : Cause} {stage : Stage}

theorem outcome_eq (hstuck : Stuck d rest offset cause stage) (index : Nat) :
    (Run.ofRest d .body index rest).outcome = .error ⟨cause, (index + offset : Nat), stage⟩ := by
  cases hstuck with
  | ended =>
      rw [Run.ofRest_nil]
      rfl
  | escapeEnded =>
      rw [Run.outcome_backslash, Run.ofRest_nil]
      rfl
  | refused rest hrefused =>
      rw [Run.outcome_backslash, Run.outcome_of_step_error (by simp)
        (State.step_escape_refused hrefused)]
      rfl
  | @fixedEnded kind digits hhas hdigits hshort =>
      have hgather := Run.outcome_fixed_gather (d := d) hdigits hshort (index + 1 + 1) []
      rw [List.append_nil] at hgather
      rw [Run.outcome_backslash, Run.outcome_letter hhas, hgather, Run.ofRest_nil,
        kind.stage_state, Nat.add_assoc index, Nat.add_assoc index]
      rfl
  | @fixedBad kind digits c rest hhas hdigits hshort hc =>
      have hopen : ¬(kind.state digits = .body ∧ c = .doubleQuote) := by
        intro h
        exact kind.state_ne_body digits h.1
      rw [Run.outcome_backslash, Run.outcome_letter hhas, Run.outcome_fixed_gather hdigits hshort,
        Run.outcome_of_step_error hopen (State.step_fixed_bad hc), kind.stage_state,
        Nat.add_assoc index, Nat.add_assoc index]
  | @octalEnded digits hhas hne hdigits hshort =>
      have hgather := Run.outcome_octal_gather (d := d) hdigits hshort (index + 1) []
      rw [List.append_nil] at hgather
      rw [Run.outcome_backslash]
      cases hdigits' : digits with
      | nil =>
          exact absurd hdigits' hne
      | cons c more =>
          have hc : Numeral.isOctalDigit c = true :=
            hdigits c (by rw [hdigits']; exact List.mem_cons_self)
          rw [Run.outcome_octal_entry hhas hc, ← hdigits', hgather, Run.ofRest_nil, Nat.add_assoc]
          rfl

end Stuck

/-!
# Bodies as far as they go
-/

/-- The text after an opening quote is a body that the dialect admits, up to a closing quote or
to where reading gets stuck. -/
inductive Reading (d : Dialect) : Text → Prop where
  | closed (body : Body) {after : Text} (hlegal : body.LegalBefore (.doubleQuote :: after))
      (hadmits : d.Admits body) : Reading d (body.text ++ .doubleQuote :: after)
  | stuck (body : Body) {rest : Text} {offset : Nat} {cause : Cause} {stage : Stage}
      (hlegal : body.LegalBefore rest) (hadmits : d.Admits body)
      (hstuck : Stuck d rest offset cause stage) : Reading d (body.text ++ rest)

theorem Item.length_text_pos (item : Item) : 0 < item.text.length := by
  cases item <;> exact Nat.succ_pos _

theorem Reading.cons {d : Dialect} {item : Item} {after : Text} (hlegal : item.LegalBefore after)
    (hadmits : ∀ f, item.guard? = some f → d.has f = true) (hreading : Reading d after) :
    Reading d (item.text ++ after) := by
  cases hreading with
  | closed body hbody hlater =>
      rw [← List.append_assoc, ← Body.text_cons]
      exact Reading.closed (item :: body) ⟨hlegal, hbody⟩
        (Dialect.admits_cons.mpr ⟨hadmits, hlater⟩)
  | stuck body hbody hlater hstuck =>
      rw [← List.append_assoc, ← Body.text_cons]
      exact Reading.stuck (item :: body) ⟨hlegal, hbody⟩
        (Dialect.admits_cons.mpr ⟨hadmits, hlater⟩) hstuck

theorem reading_total (d : Dialect) (rest : Text) : Reading d rest := by
  induction hlength : rest.length using Nat.strongRecOn generalizing rest with
  | ind length ih =>
      cases front_total d rest with
      | quote after =>
          exact Reading.closed [] trivial d.admits_nil
      | @item item after hlegal hadmits =>
          have hshorter : after.length < length := by
            rw [← hlength, List.length_append]
            exact Nat.lt_add_of_pos_left item.length_text_pos
          exact Reading.cons hlegal hadmits (ih after.length hshorter after rfl)
      | stuck hstuck =>
          exact Reading.stuck [] trivial d.admits_nil hstuck

theorem outcome_stuck {d : Dialect} {body : Body} {rest : Text} {offset : Nat} {cause : Cause}
    {stage : Stage} (hlegal : body.LegalBefore rest) (hadmits : d.Admits body)
    (hstuck : Stuck d rest offset cause stage) (index : Nat) :
    (Run.ofRest d .body index (body.text ++ rest)).outcome =
      .error ⟨cause, (index + body.text.length + offset : Nat), stage⟩ := by
  rw [Run.outcome_body hlegal hadmits, hstuck.outcome_eq]
  rfl

end QuotedLiteral
