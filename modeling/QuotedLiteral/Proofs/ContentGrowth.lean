import QuotedLiteral.Proofs.Reach

/-!
# What a run adds to the content

Steps add to the content and never take from it, one character at a time, and
characters consumed pay for the characters added.  A short octal escape adds its
character on a step that consumes none: its backslash has paid.  So a state
inside an escape has one character in hand, and the reader outside a literal owes
one, since the opening quote adds nothing.  Over a run the content grows by no
more than what was consumed and what the first state had in hand.
-/

namespace QuotedLiteral

variable {d : Dialect} {c emitted : CodePoint} {s : State} {move : Move} {before after : Text}

/-!
# States of an unfinished escape
-/

namespace State

/-- The digits of the state are of its kind, and too few to complete an escape of full width. -/
def IsPartial : State → Prop
  | outside | body | escape => True
  | octal digits =>
      digits.length < octalWidth ∧ ∀ x ∈ digits, Numeral.isOctalDigit x = true
  | hex digits =>
      digits.length < hexWidth ∧ ∀ x ∈ digits, Numeral.isHexDigit x = true
  | unicode digits =>
      digits.length < unicodeWidth ∧ ∀ x ∈ digits, Numeral.isHexDigit x = true

instance : (s : State) → Decidable s.IsPartial
  | outside | body | escape => inferInstanceAs (Decidable True)
  | octal digits =>
      inferInstanceAs (Decidable
        (digits.length < octalWidth ∧ ∀ x ∈ digits, Numeral.isOctalDigit x = true))
  | hex digits =>
      inferInstanceAs (Decidable
        (digits.length < hexWidth ∧ ∀ x ∈ digits, Numeral.isHexDigit x = true))
  | unicode digits =>
      inferInstanceAs (Decidable
        (digits.length < unicodeWidth ∧ ∀ x ∈ digits, Numeral.isHexDigit x = true))

theorem AgreesWith.isPartial (hagrees : s.AgreesWith before after) : s.IsPartial := by
  cases s with
  | octal digits =>
      exact ⟨hagrees.1, hagrees.2.1⟩
  | hex digits =>
      exact ⟨hagrees.1, hagrees.2.1⟩
  | unicode digits =>
      exact ⟨hagrees.1, hagrees.2.1⟩
  | _ =>
      exact trivial

end State

/-- An octal escape that has no digit yet goes on with one. -/
theorem Transition.isOctalDigit_of_octal_nil (htransition : Transition d c s move)
    (hs : s = .octal []) : Numeral.isOctalDigit c = true := by
  cases htransition with
  | octalMore hc hmore =>
      exact hc
  | octalLast hc hlast =>
      exact hc
  | octalShort hne hc =>
      cases hs
      exact absurd rfl hne
  | fixedMore kind hc hmore =>
      cases kind <;> cases hs
  | fixedLast kind hc hlast =>
      cases kind <;> cases hs
  | _ =>
      cases hs

/-- In the body a step adds the character that it sees. -/
theorem Transition.emitted_eq_of_body (htransition : Transition d c s move) (hs : s = .body)
    (hemitted : move.emitted = some emitted) : emitted = c := by
  cases htransition with
  | verbatim hc =>
      cases hemitted
      rfl
  | fixedLast kind hc hlast =>
      exact absurd hs (kind.state_ne_body _)
  | slash =>
      cases hemitted
  | fixedMore kind hc hmore =>
      cases hemitted
  | _ =>
      cases hs

namespace State.IsPartial

/-- Where a step is made, the state is that of a reader behind the beginning of its escape. -/
theorem exists_agreesWith (hpartial : s.IsPartial) (htransition : Transition d c s move) :
    ∃ before, s.AgreesWith before [c] := by
  cases s with
  | outside =>
      exact ⟨[], rfl⟩
  | body =>
      exact ⟨[], trivial⟩
  | escape =>
      exact ⟨[.backslash], List.suffix_rfl⟩
  | octal digits =>
      refine ⟨.backslash :: digits, hpartial.1, hpartial.2, List.suffix_rfl, ?_⟩
      intro hnil
      exact htransition.isOctalDigit_of_octal_nil (congrArg State.octal hnil)
  | hex digits =>
      exact ⟨_, hpartial.1, hpartial.2, List.suffix_rfl⟩
  | unicode digits =>
      exact ⟨_, hpartial.1, hpartial.2, List.suffix_rfl⟩

theorem of_transition (hpartial : s.IsPartial) (htransition : Transition d c s move) :
    move.next.IsPartial := by
  rcases hpartial.exists_agreesWith htransition with ⟨before, hagrees⟩
  exact (hagrees.of_transition htransition).isPartial

theorem emitted_cases (hpartial : s.IsPartial) (htransition : Transition d c s move)
    (hemitted : move.emitted = some emitted) : emitted = c ∨ emitted.value ≤ 0xFFFF := by
  by_cases hbody : s = .body
  · exact Or.inl (htransition.emitted_eq_of_body hbody hemitted)
  -- The run may have started with these digits, so the text before them is one made up for them.
  · rcases hpartial.exists_agreesWith htransition with ⟨before, hagrees⟩
    rcases hagrees.denotes_of_transition htransition hbody hemitted with
      ⟨item, f, hguard, hlegal, -, rfl, -⟩
    rw [hlegal.value_denoted]
    exact Or.inr (hlegal.code_le hguard)

end State.IsPartial

/-!
# What a step pays
-/

/-- The characters consumed that have not been added to the content and may still pay for one.
The backslash of an escape is such a character.  The opening quote will never be one. -/
def State.inHand : State → Int
  | outside => -1
  | body => 0
  | escape | octal _ | hex _ | unicode _ => 1

theorem State.inHand_le_one (s : State) : s.inHand ≤ 1 := by
  cases s <;> simp [inHand]

theorem FixedEscape.inHand_state (kind : FixedEscape) (digits : Text) :
    (kind.state digits).inHand = 1 := by
  cases kind <;> rfl

namespace Transition

theorem inHand_next_nonneg (htransition : Transition d c s move) : 0 ≤ move.next.inHand := by
  cases htransition with
  | letter kind hhas =>
      rw [kind.inHand_state]
      decide
  | fixedMore kind hc hmore =>
      rw [kind.inHand_state]
      decide
  | _ =>
      simp [State.inHand]

/-- What a step adds is paid for by what it consumes and what the state has in hand. -/
theorem length_emitted_add_inHand_le (htransition : Transition d c s move) :
    move.emitted.toList.length + move.next.inHand ≤ (move.taken c).length + s.inHand := by
  cases htransition with
  | letter kind hhas =>
      rw [kind.inHand_state]
      exact (by decide : (0 + 1 : Int) ≤ 1 + 1)
  | fixedMore kind hc hmore =>
      rw [kind.inHand_state, kind.inHand_state]
      exact (by decide : (0 + 1 : Int) ≤ 1 + 1)
  | fixedLast kind hc hlast =>
      rw [kind.inHand_state]
      exact (by decide : (1 + 0 : Int) ≤ 1 + 1)
  | _ =>
      simp [Move.taken, State.inHand]

/-- A character is added by every step into the body but the one over the opening quote. -/
theorem isSome_emitted_iff (htransition : Transition d c s move) :
    move.emitted.isSome = true ↔ move.next = .body ∧ s ≠ .outside := by
  cases htransition with
  | letter kind hhas =>
      simp [kind.state_ne_body]
  | fixedMore kind hc hmore =>
      simp [kind.state_ne_body]
  | fixedLast kind hc hlast =>
      cases kind <;> simp [FixedEscape.state]
  | _ =>
      simp

end Transition

/-!
# Steps and runs
-/

namespace Configuration

variable {source : Text} {config next reached : Configuration}

/-- The index stays or becomes the next one.  The content grows with the steps into the body from
elsewhere than outside the literal, by one character: the one at the index, or one that sixteen
bits can hold. -/
structure Appends (source : Text) (config next : Configuration) : Prop where
  index_cases : next.index = config.index ∨ next.index = config.index + 1
  content_cases : next.content = config.content ∨
    ∃ added, next.content = config.content ++ [added] ∧
      (config.char? source = some added ∨ added.value ≤ 0xFFFF)
  grows_iff : next.content ≠ config.content ↔ next.state = .body ∧ config.state ≠ .outside

/-- What was added to the content from one configuration to the other is paid for by what was
consumed and what the first one has in hand, and the rest is in hand. -/
def Affords (config reached : Configuration) : Prop :=
  ∃ added, reached.content = config.content ++ added ∧
    added.length + reached.state.inHand ≤ reached.index - config.index + config.state.inHand

theorem Affords.refl (config : Configuration) : config.Affords config :=
  ⟨[], (List.append_nil config.content).symm, by simp⟩

theorem Affords.trans (hnext : config.Affords next) (hreached : next.Affords reached) :
    config.Affords reached := by
  rcases hnext with ⟨first, hfirst, hpaid⟩
  rcases hreached with ⟨second, hsecond, hpaid'⟩
  refine ⟨first ++ second, ?_, ?_⟩
  · rw [hsecond, hfirst, List.append_assoc]
  · rw [List.length_append, Int.natCast_add]
    lia

namespace Follows

theorem exists_transition (hfollows : Follows source config next) :
    ∃ d c move, config.char? source = some c ∧ Transition d c config.state move ∧
      next = ⟨move.next, config.index + (move.taken c).length,
        config.content ++ move.emitted.toList⟩ := by
  rcases hfollows with ⟨d, hadvance⟩
  cases hchar : config.char? source with
  | none =>
      rw [advance, hchar] at hadvance
      cases hadvance
  | some c =>
      cases hstep : config.state.step d c with
      | error cause =>
          rw [advance_of_step_error hchar hstep] at hadvance
          cases hadvance
      | ok move =>
          rw [advance_of_step_ok hchar hstep] at hadvance
          cases hadvance
          exact ⟨d, c, move, rfl, transition_of_step hstep, rfl⟩

theorem isPartial (hfollows : Follows source config next) (hpartial : config.state.IsPartial) :
    next.state.IsPartial := by
  rcases hfollows.exists_transition with ⟨d, c, move, -, htransition, rfl⟩
  exact hpartial.of_transition htransition

theorem appends (hfollows : Follows source config next) (hpartial : config.state.IsPartial) :
    Appends source config next := by
  rcases hfollows.exists_transition with ⟨d, c, move, hchar, htransition, rfl⟩
  refine ⟨?_, ?_, ?_⟩
  · have htaken := move.length_taken_le c
    change config.index + _ = _ ∨ config.index + _ = _
    lia
  · cases hemitted : move.emitted with
    | none =>
        exact Or.inl (List.append_nil config.content)
    | some emitted =>
        refine Or.inr ⟨emitted, rfl, ?_⟩
        rcases hpartial.emitted_cases htransition hemitted with hseen | hsmall
        · rw [hseen]
          exact Or.inl hchar
        · exact Or.inr hsmall
  · rw [← htransition.isSome_emitted_iff]
    cases move.emitted <;> simp

theorem affords (hfollows : Follows source config next) :
    config.Affords next ∧ 0 ≤ next.state.inHand := by
  rcases hfollows.exists_transition with ⟨d, c, move, -, htransition, rfl⟩
  refine ⟨⟨move.emitted.toList, rfl, ?_⟩, htransition.inHand_next_nonneg⟩
  have hpaid := htransition.length_emitted_add_inHand_le
  change _ ≤ config.index + _ - config.index + _
  lia

end Follows

theorem isPartial_of_mem_advances (hpartial : config.state.IsPartial) (dialects : List Dialect) :
    ∀ reached ∈ config :: (config.advances source dialects).1, reached.state.IsPartial := by
  refine (isChain_advances source config dialects).induction
    (fun reached => reached.state.IsPartial) _ ?_ (fun _ => hpartial)
  intro first second hfollows hfirst
  exact hfollows.isPartial hfirst

theorem affords_of_mem_advances (source : Text) (config : Configuration)
    (dialects : List Dialect) :
    ∀ reached ∈ config :: (config.advances source dialects).1,
      config.Affords reached ∧ (reached = config ∨ 0 ≤ reached.state.inHand) := by
  refine (isChain_advances source config dialects).induction
    (fun reached => config.Affords reached ∧ (reached = config ∨ 0 ≤ reached.state.inHand)) _
    ?_ (fun _ => ⟨Affords.refl config, Or.inl rfl⟩)
  -- Only the first configuration can owe a character: no step leads outside the literal.
  intro first second hfollows hfirst
  exact ⟨hfirst.1.trans hfollows.affords.1, Or.inr hfollows.affords.2⟩

/-!
# The bound
-/

/-- A run may start in any state, in an escape with fewer digits than the escape may have, and each
of its steps has a dialect of its own.  Every step leaves the index or goes on to the next one, and
adds at most one character to the content.  Wherever the run gets, it has added at most one
character more than it went over.  From outside a literal it has added at least one less, or none
where it has made no step. -/
theorem advances_only_append (source : Text) (config : Configuration) (dialects : List Dialect)
    (hpartial : config.state.IsPartial) :
    (config :: (config.advances source dialects).1).IsChain (Appends source) ∧
      ∀ reached ∈ config :: (config.advances source dialects).1,
        ∃ added, reached.content = config.content ++ added ∧
          added.length ≤ reached.index - config.index + 1 ∧
          (config.state = .outside →
            added.length ≤ max (reached.index - config.index - 1) 0) := by
  constructor
  · apply List.IsChain.imp_of_mem_imp _ (isChain_advances source config dialects)
    intro first second hfirst hsecond hfollows
    exact hfollows.appends (isPartial_of_mem_advances hpartial dialects first hfirst)
  · intro reached hreached
    rcases affords_of_mem_advances source config dialects reached hreached with
      ⟨⟨added, hcontent, hpaid⟩, hstart⟩
    have hle := config.state.inHand_le_one
    refine ⟨added, hcontent, ?_, ?_⟩
    · rcases hstart with rfl | hnonneg
      · lia
      · lia
    · intro houtside
      rw [houtside, State.inHand] at hpaid
      rcases hstart with rfl | hnonneg
      · rw [houtside, State.inHand] at hpaid
        lia
      · lia

/-- From the first digit of a short octal escape two characters are added and one is gone over, as
many as there may be.  From before the literal two are added and four gone over. -/
theorem advances_only_append_shortOctal :
    ((State.octal ['1']).IsPartial ∧
        (⟨.body, 4, ['7', .ofNat 1, '8']⟩ : Configuration) ∈
          (⟨.octal ['1'], 3, ['7']⟩ : Configuration) ::
            (advances [.doubleQuote, .backslash, '1', '8'] ⟨.octal ['1'], 3, ['7']⟩
              [⟨0⟩, ⟨0⟩]).1 ∧
        ∃ added : Text, (['7', .ofNat 1, '8'] : Text) = [.ofChar '7'] ++ added ∧
          (added.length : Int) ≤ 4 - 3 + 1) ∧
      State.outside.IsPartial ∧
        (⟨.body, 4, [.ofNat 1, '8']⟩ : Configuration) ∈
          entering 0 :: ((entering 0).advances [.doubleQuote, .backslash, '1', '8']
            [⟨0⟩, ⟨0⟩, ⟨0x2000⟩, ⟨0⟩, ⟨0⟩, ⟨0⟩]).1 ∧
        ∃ added : Text, ([.ofNat 1, '8'] : Text) = [] ++ added ∧
          (added.length : Int) ≤ max (4 - 0 - 1) 0 := by
  have hoctal : (State.octal ['1']).IsPartial := by
    decide
  have houtside : State.outside.IsPartial := by
    decide
  have hshort : (⟨.body, 4, ['7', .ofNat 1, '8']⟩ : Configuration) ∈
      (⟨.octal ['1'], 3, ['7']⟩ : Configuration) ::
        (advances [.doubleQuote, .backslash, '1', '8'] ⟨.octal ['1'], 3, ['7']⟩
          [⟨0⟩, ⟨0⟩]).1 := by
    decide
  have hwhole : (⟨.body, 4, [.ofNat 1, '8']⟩ : Configuration) ∈
      entering 0 :: ((entering 0).advances [.doubleQuote, .backslash, '1', '8']
        [⟨0⟩, ⟨0⟩, ⟨0x2000⟩, ⟨0⟩, ⟨0⟩, ⟨0⟩]).1 := by
    decide
  rcases (advances_only_append _ _ _ hoctal).2 _ hshort with ⟨added, hcontent, hbound, -⟩
  rcases (advances_only_append _ _ _ houtside).2 _ hwhole with ⟨added', hcontent', -, hbound'⟩
  exact ⟨⟨hoctal, hshort, added, hcontent, hbound⟩, houtside, hwhole, added', hcontent',
    hbound' rfl⟩

end Configuration

end QuotedLiteral
