import QuotedLiteral.Proofs.Containment
import QuotedLiteral.Proofs.ReadingLog

/-!
# How many steps reading takes

The steps that leave their character to be read again are paid for out of a
reserve.  Each character that is consumed pays for two steps, and what a state has
in reserve covers the two steps of an octal escape that consume nothing.  Hence
reading ends within twice as many steps as it goes over characters.
-/

namespace QuotedLiteral

variable {d : Dialect} {c : CodePoint} {s : State} {move : Move}

/-!
# What a step costs
-/

/-- The steps that are paid for and not yet made.  Reading begins one short, since the opening
quote takes one step only. -/
def State.reserve : State → Int
  | outside => -1
  | escape => 1
  | octal digits => if digits = [] then 0 else 1
  | body | hex _ | unicode _ => 0

theorem FixedEscape.reserve_state (kind : FixedEscape) (digits : Text) :
    (kind.state digits).reserve = 0 := by
  cases kind <;> rfl

theorem State.reserve_octal_nonneg (digits : Text) : 0 ≤ (octal digits).reserve := by
  change (0 : Int) ≤ if digits = [] then 0 else 1
  split <;> decide

theorem State.reserve_octal_of_ne_nil {digits : Text} (hne : digits ≠ []) :
    (octal digits).reserve = 1 :=
  if_neg hne

theorem State.neg_one_le_reserve (s : State) : -1 ≤ s.reserve := by
  cases s with
  | octal digits =>
      exact Int.le_trans (by decide) (reserve_octal_nonneg digits)
  | _ =>
      simp [reserve]

/-- A step takes one from the reserve, and two are put into it for a character consumed. -/
theorem Transition.reserve_le (htransition : Transition d c s move) :
    1 + move.next.reserve ≤ 2 * (move.taken c).length + s.reserve := by
  cases htransition with
  | opening =>
      decide
  | slash =>
      decide
  | verbatim hc =>
      exact (by decide : (1 + 0 : Int) ≤ 2 * 1 + 0)
  | mnemonic hm hhas =>
      exact (by decide : (1 + 0 : Int) ≤ 2 * 1 + 1)
  | letter kind hhas =>
      rw [kind.reserve_state]
      exact (by decide : (1 + 0 : Int) ≤ 2 * 1 + 1)
  | octalEntry hc hhas =>
      exact (by decide : (1 + 0 : Int) ≤ 2 * 0 + 1)
  | fixedMore kind hc hmore =>
      rw [kind.reserve_state, kind.reserve_state]
      exact (by decide : (1 + 0 : Int) ≤ 2 * 1 + 0)
  | fixedLast kind hc hlast =>
      rw [kind.reserve_state]
      exact (by decide : (1 + 0 : Int) ≤ 2 * 1 + 0)
  | @octalMore digits c hc hmore =>
      have hnonneg := State.reserve_octal_nonneg digits
      change 1 + (State.octal (digits ++ [c])).reserve ≤ 2 * 1 + _
      rw [State.reserve_octal_of_ne_nil (by simp)]
      lia
  | @octalLast digits c hc hlast =>
      have hnonneg := State.reserve_octal_nonneg digits
      change 1 + 0 ≤ 2 * 1 + (State.octal digits).reserve
      lia
  | octalShort hne hc =>
      rw [State.reserve_octal_of_ne_nil hne]
      exact (by decide : (1 + 0 : Int) ≤ 2 * 0 + 1)

/-- A character is left to be read again by the step into an octal escape and by the step out of a
short one. -/
theorem Transition.reread_cases (htransition : Transition d c s move)
    (hreread : move.consumes = false) :
    (s = .escape ∧ move.next = .octal []) ∨
      ∃ digits, s = .octal digits ∧ digits ≠ [] ∧ move.next = .body := by
  cases htransition with
  | octalEntry hc hhas =>
      exact Or.inl ⟨rfl, rfl⟩
  | octalShort hne hc =>
      exact Or.inr ⟨_, rfl, hne, rfl⟩
  | _ =>
      cases hreread

/-- Neither of these steps leads to a state that can make another of them. -/
theorem Transition.consumes_after_reread {c' : CodePoint} {move' : Move}
    (htransition : Transition d c s move) (hreread : move.consumes = false)
    (hnext : Transition d c' move.next move') : move'.consumes = true := by
  by_contra hconsumes
  have hnextCases := hnext.reread_cases (Bool.eq_false_iff.mpr hconsumes)
  rcases htransition.reread_cases hreread with ⟨-, hoctal⟩ | ⟨-, -, -, hbody⟩
  · rw [hoctal] at hnextCases
    rcases hnextCases with ⟨hescape, -⟩ | ⟨digits, hdigits, hne, -⟩
    · cases hescape
    · cases hdigits
      exact hne rfl
  · rw [hbody] at hnextCases
    rcases hnextCases with ⟨hescape, -⟩ | ⟨digits, hdigits, -⟩
    · cases hescape
    · cases hdigits

/-!
# What a run costs
-/

/-- The index that a step leads to. -/
def Entry.nextIndex (e : Entry) : Nat :=
  e.index + (e.move.taken e.char).length

/-- The second step goes on from where the first one ended, and one of the two goes on by a
character. -/
def Entry.Precedes (first second : Entry) : Prop :=
  second.index = first.nextIndex ∧
    ¬(first.nextIndex = first.index ∧ second.nextIndex = second.index)

theorem Entry.nextIndex_eq_index_iff (e : Entry) :
    e.nextIndex = e.index ↔ e.move.consumes = false := by
  unfold nextIndex Move.taken
  cases e.move.consumes <;> simp

namespace Leads

variable {source : Text} {s' : State} {index index' : Int} {entries : List Entry}

theorem length_add_reserve_le (hleads : Leads d source s index entries s' index') :
    entries.length + s'.reserve ≤ 2 * (index' - index) + s.reserve := by
  induction hleads with
  | done s index =>
      rw [Int.sub_self, List.length_nil]
      exact Int.le_refl _
  | @step s s' index index' c move entries hchar hopen hstep hlater ih =>
      have hpaid := (transition_of_step hstep).reserve_le
      rw [← move.natCast_add_length_taken c] at ih
      rw [List.length_cons]
      lia

theorem isChain_precedes (hleads : Leads d source s index entries s' index') :
    entries.IsChain Entry.Precedes := by
  induction hleads with
  | done s index =>
      exact List.IsChain.nil
  | @step s s' index index' c move entries hchar hopen hstep hlater ih =>
      rw [← move.natCast_add_length_taken c] at hlater
      generalize hnext : ((index + (move.taken c).length : Nat) : Int) = next at hlater
      cases hlater with
      | done =>
          exact List.IsChain.singleton _
      | @step _ _ index₂ _ c₂ move₂ later hchar₂ hopen₂ hstep₂ hlater₂ =>
          refine List.IsChain.cons_cons ⟨?_, ?_⟩ ih
          · exact (Int.ofNat_inj.mp hnext).symm
          · rw [Entry.nextIndex_eq_index_iff, Entry.nextIndex_eq_index_iff]
            rintro ⟨hreread, hreread₂⟩
            change move.consumes = false at hreread
            change move₂.consumes = false at hreread₂
            rw [(transition_of_step hstep).consumes_after_reread hreread
              (transition_of_step hstep₂)] at hreread₂
            cases hreread₂

end Leads

/-!
# The bound
-/

/-- Reading goes on by a character in one of any two steps that follow each other.  It ends in a
literal, after fewer steps than twice the number of characters that it went over, or in a fault of
the literal, after no more than that. -/
theorem read_ends_within (d : Dialect) (source : Text) (index : Int) :
    (read d source index).trace.IsChain Entry.Precedes ∧
      ((∃ l, parse d source index = .ok l ∧
          ((read d source index).trace.length : Int) ≤ 2 * (l.close - index) - 1) ∨
        ∃ fault, parse d source index = .error fault ∧
          fault.complaint source = .malformed (fault.diagnostic source) ∧
          ((read d source index).trace.length : Int) ≤ 2 * (fault.index - index)) := by
  rcases leads_read d source index with ⟨s', index', hleads, hends⟩
  have hlength := hleads.length_add_reserve_le
  refine ⟨hleads.isChain_precedes, ?_⟩
  rcases parse_ok_or_malformed d source index with ⟨l, hparse⟩ | ⟨fault, hparse, hcomplaint⟩
  · rw [hparse] at hends
    rcases hends with ⟨rfl, rfl, -⟩
    refine Or.inl ⟨l, hparse, ?_⟩
    change _ + 0 ≤ 2 * ((l.close : Int) - index) + -1 at hlength
    lia
  · rw [hparse] at hends
    rcases hends with ⟨-, rfl, -⟩
    have hreserve := s'.neg_one_le_reserve
    refine Or.inr ⟨fault, hparse, hcomplaint, ?_⟩
    change _ ≤ 2 * (fault.index - index) + -1 at hlength
    lia

/-- An octal escape of one digit takes two steps for each of its characters. -/
example :
    ((read ⟨0x2000⟩ [.doubleQuote, .backslash, '1', .doubleQuote] 0).trace.length : Int) =
      2 * (3 - 0) - 1 := by
  cbv

end QuotedLiteral
