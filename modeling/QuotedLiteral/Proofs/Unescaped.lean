import QuotedLiteral.Proofs.Containment
import QuotedLiteral.Proofs.Spelling

/-!
# Marks without an escape

A double quote or a backslash that the dialect has no escape for is written as
it is, and then closes the literal too early or begins an escape out of the
characters that follow.  Reading such a literal back fails or loses characters:
each character that is read accounts for one character written at least, and
each such mark for one more.
-/

namespace QuotedLiteral

/-- The character is a mark of the literal that the dialect can only write as it is. -/
def Dialect.LeavesBare (d : Dialect) (c : CodePoint) : Prop :=
  (c = .doubleQuote ∧ d.has .doubleQuote = false) ∨ (c = .backslash ∧ d.has .backslash = false)

namespace Writing

variable {asciiOnly : Bool} {d : Dialect} {c : CodePoint} {item : Item}

/-!
# What the writer makes of a mark
-/

theorem Written.legal_of_not_bare (hwritten : Written d c item) (hbare : ¬d.LeavesBare c)
    (after : Text) : item.LegalBefore after := by
  apply hwritten.legalBefore
  · intro hc
    by_contra hlacks
    exact hbare (Or.inl ⟨hc, Bool.eq_false_iff.mpr hlacks⟩)
  · intro hc
    by_contra hlacks
    exact hbare (Or.inr ⟨hc, Bool.eq_false_iff.mpr hlacks⟩)

theorem mnemonic?_eq_none_of_bare (hbare : d.LeavesBare c) : mnemonic? d c = none := by
  apply List.find?_eq_none.mpr
  intro m hm hfound
  rw [Bool.and_eq_true, decide_eq_true_eq] at hfound
  rcases hfound with ⟨hdenoted, hhas⟩
  have hall : ∀ n ∈ mnemonics, (n.denoted = .doubleQuote → n.flag = .doubleQuote) ∧
      (n.denoted = .backslash → n.flag = .backslash) := by
    decide
  rcases hbare with ⟨hc, hlacks⟩ | ⟨hc, hlacks⟩
  · rw [(hall m hm).1 (hdenoted.trans hc), hlacks] at hhas
    cases hhas
  · rw [(hall m hm).2 (hdenoted.trans hc), hlacks] at hhas
    cases hhas

theorem item?_of_bare (hbare : d.LeavesBare c) : item? asciiOnly d c = some (.verbatim c) := by
  have hmark : c.value ≤ 0x7F ∧ isControl c.value = false := by
    rcases hbare with ⟨rfl, -⟩ | ⟨rfl, -⟩ <;> decide
  have hascii : ¬(asciiOnly = true ∧ 0x7F < c.value) := by
    intro h
    exact Nat.not_lt.mpr hmark.1 h.2
  rw [item?, mnemonic?_eq_none_of_bare hbare]
  simp only [if_neg hascii, plainItem, hmark.2]
  rfl

/-- An item that is no escape is the character itself. -/
theorem Written.text_cases (hwritten : Written d c item) :
    (item.text = [c] ∧ mnemonic? d c = none) ∨ ∃ rest, item.text = .backslash :: rest := by
  cases hwritten with
  | mnemonic hm hdenoted hhas =>
      exact Or.inr ⟨_, rfl⟩
  | fixed kind hhas hlt =>
      exact Or.inr ⟨_, rfl⟩
  | octal hhas hlt =>
      exact Or.inr ⟨_, rfl⟩
  | verbatim hmnemonic =>
      exact Or.inl ⟨rfl, hmnemonic⟩

namespace Writes

variable {raw : Text} {body : Body} {xs after : Text}

/-- Where no mark stands, the characters written are the characters of the text. -/
theorem split_of_plain (hwrites : Writes asciiOnly d raw body)
    (hplain : ∀ x ∈ xs, x ≠ .doubleQuote ∧ x ≠ .backslash)
    (htext : body.text ++ [.doubleQuote] = xs ++ after) :
    ∃ raw' body', raw = xs ++ raw' ∧ Writes asciiOnly d raw' body' ∧
      after = body'.text ++ [.doubleQuote] := by
  induction xs generalizing raw body with
  | nil =>
      exact ⟨raw, body, rfl, hwrites, htext.symm⟩
  | cons x xs ih =>
      rcases List.forall_mem_cons.mp hplain with ⟨hx, hxs⟩
      cases hwrites with
      | nil =>
          exact absurd (List.cons.inj htext).1.symm hx.1
      | @cons c item rest later hitem hlater =>
          rw [Body.text_cons, List.append_assoc] at htext
          rcases (written_of_item? hitem).text_cases with ⟨hverbatim, -⟩ | ⟨more, hescape⟩
          · rw [hverbatim] at htext
            rcases List.cons.inj htext with ⟨rfl, hrest⟩
            rcases ih hlater hxs hrest with ⟨raw', body', rfl, hwrites', hafter⟩
            exact ⟨raw', body', rfl, hwrites', hafter⟩
          · rw [hescape] at htext
            exact absurd (List.cons.inj htext).1.symm hx.2

/-- No item that the dialect admits begins at the closing quote or at a mark that it escapes. -/
theorem eq_nil_of_quote (hwrites : Writes asciiOnly d raw body) (hhas : d.has .doubleQuote = true)
    (htext : body.text ++ [.doubleQuote] = .doubleQuote :: after) : after = [] := by
  cases hwrites with
  | nil =>
      exact (List.cons.inj htext).2.symm
  | @cons c item rest later hitem hlater =>
      rw [Body.text_cons, List.append_assoc] at htext
      rcases (written_of_item? hitem).text_cases with ⟨hverbatim, hmnemonic⟩ | ⟨more, hescape⟩
      · rw [hverbatim] at htext
        have hlacks := lacks_of_mnemonic?_eq_none
          (m := ⟨.doubleQuote, .doubleQuote, .doubleQuote⟩) hmnemonic (by decide)
          (List.cons.inj htext).1.symm
        rw [hhas] at hlacks
        cases hlacks
      · rw [hescape] at htext
        cases (List.cons.inj htext).1

end Writes
end Writing

/-!
# What is read of a written body
-/

section Reading

open Writing

variable {asciiOnly : Bool} {d : Dialect} {raw : Text} {body : Body} {index : Nat} {l : Literal}

theorem exists_later_of_item {item : Item} {after : Text} (hlegal : item.LegalBefore after)
    (hadmits : ∀ f, item.guard? = some f → d.has f = true)
    (hrun : (Run.ofRest d .body index (item.text ++ after)).outcome = .ok l) :
    ∃ l', (Run.ofRest d .body (index + item.text.length) after).outcome = .ok l' ∧
      l.content = item.denoted :: l'.content := by
  rw [Run.outcome_item hlegal hadmits] at hrun
  cases hlater : (Run.ofRest d .body (index + item.text.length) after).outcome with
  | error fault =>
      rw [hlater] at hrun
      cases hrun
  | ok l' =>
      rw [hlater] at hrun
      cases hrun
      exact ⟨l', rfl, rfl⟩

/-- A bare backslash makes an escape out of characters written as they are, or reading fails. -/
theorem exists_later_of_bare_backslash (hwrites : Writes asciiOnly d raw body)
    (hlacks : d.has .backslash = false)
    (hrun : (Run.ofRest d .body index (.backslash :: (body.text ++ [.doubleQuote]))).outcome =
      .ok l) :
    ∃ raw' body' index' l', Writes asciiOnly d raw' body' ∧ raw'.length < raw.length ∧
      (Run.ofRest d .body index' (body'.text ++ [.doubleQuote])).outcome = .ok l' ∧
      l.content.length = l'.content.length + 1 := by
  have hfront := front_total d (.backslash :: (body.text ++ [.doubleQuote]))
  generalize htext : (.backslash :: (body.text ++ [.doubleQuote]) : Text) = text at hrun hfront
  cases hfront with
  | quote after =>
      cases (List.cons.inj htext).1
  | stuck hstuck =>
      rw [hstuck.outcome_eq] at hrun
      cases hrun
  | @item item after hlegal hadmits =>
      rcases exists_later_of_item hlegal hadmits hrun with ⟨l', hlater, hcontent⟩
      rcases hlegal.text_cases with ⟨c, rfl, -, hslash⟩ | ⟨c, more, hitem⟩
      · exact absurd (List.cons.inj htext).1.symm hslash
      · rw [hitem] at htext
        have hrest : body.text ++ [.doubleQuote] = (c :: more) ++ after :=
          (List.cons.inj htext).2
        rcases hlegal.plain_or_mark hitem with hplain | ⟨hmark, hguard⟩ | ⟨-, hguard⟩
        · rcases hwrites.split_of_plain hplain hrest with ⟨raw', body', rfl, hwrites', rfl⟩
          refine ⟨raw', body', _, l', hwrites', ?_, hlater, ?_⟩
          · rw [List.length_append, List.length_cons]
            lia
          · rw [hcontent, List.length_cons]
        · -- the escape has taken the closing quote, and nothing is left to close the literal
          rw [hmark] at hrest
          have hafter : after = [] := hwrites.eq_nil_of_quote (hadmits _ hguard) hrest
          rw [hafter, Run.ofRest_nil] at hlater
          cases hlater
        · rw [hadmits _ hguard] at hlacks
          cases hlacks

theorem length_content_le (hwrites : Writes asciiOnly d raw body)
    (hrun : (Run.ofRest d .body index (body.text ++ [.doubleQuote])).outcome = .ok l) :
    l.content.length ≤ raw.length ∧
      ((∃ c ∈ raw, d.LeavesBare c) → l.content.length < raw.length) := by
  induction hlength : raw.length using Nat.strongRecOn generalizing raw body index l with
  | ind length ih =>
      cases hwrites with
      | nil =>
          rw [Body.text_nil, List.nil_append, Run.ofRest_quote] at hrun
          cases hrun
          exact ⟨Nat.zero_le length, by simp⟩
      | @cons c item rest later hitem hlater =>
          rw [Body.text_cons, List.append_assoc] at hrun
          rw [List.length_cons] at hlength
          by_cases hbare : d.LeavesBare c
          · -- a quote ends the literal, a backslash takes characters behind it
            have hless : l.content.length < length := by
              rw [item?_of_bare hbare] at hitem
              cases hitem
              rcases hbare with ⟨rfl, -⟩ | ⟨rfl, hlacks⟩
              · change (Run.ofRest d .body index (.doubleQuote :: _)).outcome = _ at hrun
                rw [Run.ofRest_quote] at hrun
                cases hrun
                rw [← hlength]
                exact Nat.succ_pos _
              · rcases exists_later_of_bare_backslash hlater hlacks hrun with
                  ⟨raw', body', index', l', hwrites', hshorter, hrun', hcontent⟩
                have hle := (ih raw'.length (by lia) hwrites' hrun' rfl).1
                lia
            exact ⟨Nat.le_of_lt hless, fun _ => hless⟩
          · have hwritten := written_of_item? hitem
            rcases exists_later_of_item (hwritten.legal_of_not_bare hbare _)
              (fun f hguard => hwritten.has_of_guard? hguard) hrun with ⟨l', hrun', hcontent⟩
            rcases ih rest.length (by lia) hlater hrun' rfl with ⟨hle, hlt⟩
            rw [hcontent, List.length_cons]
            refine ⟨by lia, ?_⟩
            rintro ⟨x, hx, hxBare⟩
            rcases List.mem_cons.mp hx with rfl | hxRest
            · exact absurd hxBare hbare
            · have hshorter := hlt ⟨x, hxRest, hxBare⟩
              lia

end Reading

/-!
# No false success
-/

/-- A literal in which a mark could not be escaped is not read, or is read as a shorter text. -/
theorem parse_of_bare_format (asciiOnly : Bool) (d : Dialect) (raw literal : Text)
    (hbare : (.doubleQuote ∈ raw ∧ d.has .doubleQuote = false) ∨
      (.backslash ∈ raw ∧ d.has .backslash = false))
    (hformat : format asciiOnly d raw = .ok literal) :
    (∃ fault, parse d literal 0 = .error fault ∧
        fault.complaint literal = .malformed (fault.diagnostic literal)) ∨
      ∃ l, parse d literal 0 = .ok l ∧ l.content.length < raw.length := by
  rcases parse_ok_or_malformed d literal 0 with ⟨l, hparse⟩ | hfault
  · rcases exists_body_of_format hformat with ⟨body, hwrites, rfl⟩
    have hmember : ∃ c ∈ raw, d.LeavesBare c := by
      rcases hbare with ⟨hmem, hlacks⟩ | ⟨hmem, hlacks⟩
      · exact ⟨_, hmem, Or.inl ⟨rfl, hlacks⟩⟩
      · exact ⟨_, hmem, Or.inr ⟨rfl, hlacks⟩⟩
    have hquote := parse_quote d [] (body.text ++ [CodePoint.doubleQuote])
    have hrun := hquote.symm.trans hparse
    exact Or.inr ⟨l, hparse, (length_content_le hwrites hrun).2 hmember⟩
  · exact Or.inl hfault

/-- A backslash and a letter that together spell the escape of a line feed. -/
theorem parse_of_bare_format_newline :
    ((.doubleQuote ∈ [CodePoint.backslash, 'n'] ∧ Dialect.has ⟨8⟩ .doubleQuote = false) ∨
        (.backslash ∈ [CodePoint.backslash, 'n'] ∧ Dialect.has ⟨8⟩ .backslash = false)) ∧
      format true ⟨8⟩ [.backslash, 'n'] = .ok [.doubleQuote, .backslash, 'n', .doubleQuote] ∧
      ((∃ fault, parse ⟨8⟩ [.doubleQuote, .backslash, 'n', .doubleQuote] 0 = .error fault ∧
          fault.complaint [.doubleQuote, .backslash, 'n', .doubleQuote] =
            .malformed (fault.diagnostic [.doubleQuote, .backslash, 'n', .doubleQuote])) ∨
        ∃ l, parse ⟨8⟩ [.doubleQuote, .backslash, 'n', .doubleQuote] 0 = .ok l ∧
          l.content.length < 2) := by
  have hbare : (.doubleQuote ∈ [CodePoint.backslash, 'n'] ∧
        Dialect.has ⟨8⟩ .doubleQuote = false) ∨
      (.backslash ∈ [CodePoint.backslash, 'n'] ∧ Dialect.has ⟨8⟩ .backslash = false) :=
    Or.inr (by decide)
  have hformat : format true ⟨8⟩ [.backslash, 'n'] =
      .ok [.doubleQuote, .backslash, 'n', .doubleQuote] := by
    decide
  exact ⟨hbare, hformat, parse_of_bare_format true ⟨8⟩ _ _ hbare hformat⟩

end QuotedLiteral
