import QuotedLiteral.Proofs.Selector

/-!
# The grammar is unambiguous

A text begins with one legal item at most, and is a legal body before a closing
quote in one way at most.
-/

namespace QuotedLiteral

namespace Mnemonic

theorem eq_of_selector_eq {m n : Mnemonic} (hm : m ∈ mnemonics) (hn : n ∈ mnemonics)
    (hselector : m.selector = n.selector) : m = n := by
  have hall : ∀ x ∈ mnemonics, ∀ y ∈ mnemonics, x.selector = y.selector → x = y := by
    decide
  exact hall m hm n hn hselector

end Mnemonic

namespace Item

variable {item item' : Item} {after after' : Text}

theorem LegalBefore.text_append_ne_quote_cons (hlegal : item.LegalBefore after)
    (rest rest' : Text) : item.text ++ rest ≠ .doubleQuote :: rest' := by
  intro heq
  rcases hlegal.text_cases with ⟨c, rfl, hquote, -⟩ | ⟨c, more, htext⟩
  · cases heq
    exact hquote rfl
  · rw [htext] at heq
    cases heq

theorem eq_verbatim_of_announced? (h : item.announced? = none) : ∃ c, item = .verbatim c := by
  cases item with
  | verbatim c =>
      exact ⟨c, rfl⟩
  | mnemonic m =>
      cases h
  | fixed kind digits =>
      cases h
  | octal digits =>
      cases h

theorem eq_mnemonic_of_announced? {f : Flag} {denoted : CodePoint}
    (h : item.announced? = some (f, .character denoted)) : ∃ m, item = .mnemonic m := by
  cases item with
  | verbatim c =>
      cases h
  | mnemonic m =>
      exact ⟨m, rfl⟩
  | fixed kind digits =>
      cases kind <;> cases h
  | octal digits =>
      cases h

theorem eq_fixed_of_announced? {f : Flag} {kind : FixedEscape}
    (h : item.announced? = some (f, kind.announced)) : ∃ digits, item = .fixed kind digits := by
  cases item with
  | verbatim c =>
      cases h
  | mnemonic m =>
      cases kind <;> cases h
  | fixed kind' digits =>
      refine ⟨digits, ?_⟩
      cases kind <;> cases kind' <;> first | rfl | cases h
  | octal digits =>
      cases kind <;> cases h

theorem eq_octal_of_announced? {f : Flag} (h : item.announced? = some (f, .octal)) :
    ∃ digits, item = .octal digits := by
  cases item with
  | verbatim c =>
      cases h
  | mnemonic m =>
      cases h
  | fixed kind digits =>
      cases kind <;> cases h
  | octal digits =>
      exact ⟨digits, rfl⟩

/-!
# How far an escape reaches
-/

theorem fixed_digits_unique {kind : FixedEscape} {digits digits' : Text}
    (hlegal : (Item.fixed kind digits).LegalBefore after)
    (hlegal' : (Item.fixed kind digits').LegalBefore after')
    (heq : digits ++ after = digits' ++ after') : digits = digits' ∧ after = after' := by
  have hlength : digits.length = digits'.length := by
    rw [hlegal.1, hlegal'.1]
  exact List.append_inj heq hlength

/-- A legal octal escape that is not full takes every octal digit that follows it. -/
theorem octal_digits_maximal {digits more : Text}
    (hlegal : (Item.octal digits).LegalBefore (more ++ after))
    (hlegal' : (Item.octal (digits ++ more)).LegalBefore after) : more = [] := by
  cases more with
  | nil =>
      rfl
  | cons c more =>
      rcases hlegal with ⟨-, -, -, hnext⟩
      rcases hlegal' with ⟨-, hle, hdigits, -⟩
      rw [List.length_append, List.length_cons] at hle
      have hc : Numeral.isOctalDigit c = true :=
        hdigits c (List.mem_append_right digits List.mem_cons_self)
      have hstop : Numeral.isOctalDigit c = false := by
        simpa using hnext (by lia)
      rw [hc] at hstop
      cases hstop

example : (Item.octal ['1']).LegalBefore ['8'] ∧ ¬(Item.octal ['1']).LegalBefore ['7'] := by
  decide

theorem octal_digits_unique {digits digits' : Text}
    (hlegal : (Item.octal digits).LegalBefore after)
    (hlegal' : (Item.octal digits').LegalBefore after')
    (heq : digits ++ after = digits' ++ after') : digits = digits' ∧ after = after' := by
  rcases List.append_eq_append_iff.mp heq with ⟨more, rfl, rfl⟩ | ⟨more, rfl, rfl⟩
  · have hnil : more = [] := octal_digits_maximal hlegal hlegal'
    rw [hnil]
    exact ⟨(List.append_nil digits).symm, rfl⟩
  · have hnil : more = [] := octal_digits_maximal hlegal' hlegal
    rw [hnil]
    exact ⟨List.append_nil digits', rfl⟩

/-!
# Items and bodies at the front of a text
-/

theorem announced?_eq_of_text_append_eq (hlegal : item.LegalBefore after)
    (hlegal' : item'.LegalBefore after') (heq : item.text ++ after = item'.text ++ after') :
    item.announced? = item'.announced? := by
  rcases hlegal.text_cases with ⟨c, rfl, -, hslash⟩ | ⟨c, rest, htext⟩
  · rcases hlegal'.text_cases with ⟨c', rfl, -⟩ | ⟨c', rest', htext'⟩
    · rfl
    · rw [htext'] at heq
      cases heq
      exact absurd rfl hslash
  · rcases hlegal'.text_cases with ⟨c', rfl, -, hslash⟩ | ⟨c', rest', htext'⟩
    · rw [htext] at heq
      cases heq
      exact absurd rfl hslash
    · rw [← hlegal.selection?_eq htext, ← hlegal'.selection?_eq htext']
      rw [htext, htext', List.cons_append, List.cons_append, List.cons_append,
        List.cons_append] at heq
      rw [(List.cons.inj (List.cons.inj heq).2).1]

theorem eq_of_text_append_eq (hlegal : item.LegalBefore after) (hlegal' : item'.LegalBefore after')
    (heq : item.text ++ after = item'.text ++ after') : item = item' ∧ after = after' := by
  have hsame := announced?_eq_of_text_append_eq hlegal hlegal' heq
  cases item with
  | verbatim c =>
      rcases eq_verbatim_of_announced? hsame.symm with ⟨c', rfl⟩
      cases heq
      exact ⟨rfl, rfl⟩
  | mnemonic m =>
      rcases eq_mnemonic_of_announced? hsame.symm with ⟨m', rfl⟩
      have hparts : m.selector = m'.selector ∧ after = after' := by
        simpa [text] using heq
      rw [Mnemonic.eq_of_selector_eq hlegal hlegal' hparts.1]
      exact ⟨rfl, hparts.2⟩
  | fixed kind digits =>
      rcases eq_fixed_of_announced? hsame.symm with ⟨digits', rfl⟩
      have hdigits : digits ++ after = digits' ++ after' := by
        simpa [text] using heq
      rcases fixed_digits_unique hlegal hlegal' hdigits with ⟨rfl, rfl⟩
      exact ⟨rfl, rfl⟩
  | octal digits =>
      rcases eq_octal_of_announced? hsame.symm with ⟨digits', rfl⟩
      have hdigits : digits ++ after = digits' ++ after' := by
        simpa [text] using heq
      rcases octal_digits_unique hlegal hlegal' hdigits with ⟨rfl, rfl⟩
      exact ⟨rfl, rfl⟩

end Item

namespace Body

theorem eq_of_text_append_quote_eq {body body' : Body} {after after' : Text}
    (hlegal : body.LegalBefore (.doubleQuote :: after))
    (hlegal' : body'.LegalBefore (.doubleQuote :: after'))
    (heq : body.text ++ .doubleQuote :: after = body'.text ++ .doubleQuote :: after') :
    body = body' ∧ after = after' := by
  induction body generalizing body' with
  | nil =>
      cases body' with
      | nil =>
          cases heq
          exact ⟨rfl, rfl⟩
      | cons item' later' =>
          rw [text_cons, List.append_assoc] at heq
          exact absurd heq.symm (hlegal'.1.text_append_ne_quote_cons _ _)
  | cons item later ih =>
      rw [text_cons, List.append_assoc] at heq
      cases body' with
      | nil =>
          exact absurd heq (hlegal.1.text_append_ne_quote_cons _ _)
      | cons item' later' =>
          rw [text_cons, List.append_assoc] at heq
          rcases Item.eq_of_text_append_eq hlegal.1 hlegal'.1 heq with ⟨rfl, hlater⟩
          rcases ih hlegal.2 hlegal'.2 hlater with ⟨rfl, rfl⟩
          exact ⟨rfl, rfl⟩

end Body
end QuotedLiteral
