import Mathlib.Data.List.Basic
import QuotedLiteral.Text.Pattern

/-!
# What patterns match

A pattern matches a part of a text that can be cut up as the pattern says, where
an assertion matches nothing between two texts that bear it out.  The places that
the search for a match reaches are the ends of such parts, no more and no less.
-/

namespace QuotedLiteral
namespace Pattern

/-- The pattern matches a text that stands between two others. -/
inductive Matches : Pattern → Text → Text → Text → Prop where
  | empty (before after : Text) : Matches empty before [] after
  | character {accepts : CodePoint → Bool} {c : CodePoint} (haccepts : accepts c = true)
      (before after : Text) : Matches (character accepts) before [c] after
  | many {accepts : CodePoint → Bool} {matched : Text} (haccepts : ∀ c ∈ matched, accepts c = true)
      (before after : Text) : Matches (many accepts) before matched after
  | sequence {first second : Pattern} {before front back after : Text}
      (hfirst : Matches first before front (back ++ after))
      (hsecond : Matches second (before ++ front) back after) :
      Matches (sequence first second) before (front ++ back) after
  | left {left right : Pattern} {before matched after : Text}
      (hleft : Matches left before matched after) : Matches (choice left right) before matched after
  | right {left right : Pattern} {before matched after : Text}
      (hright : Matches right before matched after) :
      Matches (choice left right) before matched after
  | wordBoundary {before after : Text}
      (hboundary : Place.isWord before.getLast? ≠ Place.isWord after.head?) :
      Matches wordBoundary before [] after
  | start (after : Text) : Matches start [] [] after

/-- The pattern matches a part of the text. -/
def OccursIn (pattern : Pattern) (t : Text) : Prop :=
  ∃ before matched after, t = before ++ (matched ++ after) ∧ pattern.Matches before matched after

end Pattern

/-- The place between two texts. -/
def Place.between (before after : Text) : Place where
  before := before.getLast?
  rest := after

theorem Place.between_concat (before : Text) (c : CodePoint) (after : Text) :
    between (before ++ [c]) after = ⟨some c, after⟩ := by
  rw [between, List.getLast?_concat]

namespace Pattern

theorem mem_manyEnds_iff {accepts : CodePoint → Bool} {before rest : Text} {p : Place} :
    p ∈ manyEnds accepts before.getLast? rest ↔
      ∃ matched after, rest = matched ++ after ∧ (∀ c ∈ matched, accepts c = true) ∧
        p = .between (before ++ matched) after := by
  induction rest generalizing before with
  | nil =>
      simp [manyEnds, Place.between]
  | cons c rest ih =>
      have hlater := @ih (before ++ [c])
      rw [List.getLast?_concat] at hlater
      rw [manyEnds, List.mem_cons]
      constructor
      · rintro (rfl | hmem)
        · exact ⟨[], c :: rest, rfl, by simp, by simp [Place.between]⟩
        · split at hmem
          · next hc =>
              rcases hlater.mp hmem with ⟨matched, after, rfl, haccepts, rfl⟩
              exact ⟨c :: matched, after, rfl, List.forall_mem_cons.mpr ⟨hc, haccepts⟩,
                by rw [List.append_cons before c matched]⟩
          · cases hmem
      · rintro ⟨matched, after, hrest, haccepts, rfl⟩
        cases matched with
        | nil =>
            left
            rw [hrest, List.append_nil]
            rfl
        | cons d matched =>
            right
            cases hrest
            rw [if_pos (haccepts c List.mem_cons_self), hlater]
            exact ⟨matched, after, rfl, fun e he => haccepts e (List.mem_cons_of_mem c he),
              by rw [List.append_cons before c matched]⟩

theorem mem_ends_iff {pattern : Pattern} {before rest : Text} {p : Place} :
    p ∈ pattern.ends (.between before rest) ↔
      ∃ matched after, rest = matched ++ after ∧ pattern.Matches before matched after ∧
        p = .between (before ++ matched) after := by
  induction pattern generalizing before rest p with
  | empty =>
      rw [ends, List.mem_singleton]
      constructor
      · rintro rfl
        exact ⟨[], rest, rfl, .empty before rest, by rw [List.append_nil]⟩
      · rintro ⟨matched, after, rfl, hmatches, rfl⟩
        cases hmatches
        rw [List.append_nil]
        rfl
  | character accepts =>
      constructor
      · intro hmem
        cases rest with
        | nil =>
            cases hmem
        | cons c rest =>
            change p ∈ (if accepts c then [⟨some c, rest⟩] else []) at hmem
            split at hmem
            · next hc =>
                rw [List.mem_singleton.mp hmem, ← Place.between_concat before c rest]
                exact ⟨[c], rest, rfl, .character hc before rest, rfl⟩
            · cases hmem
      · rintro ⟨matched, after, rfl, hmatches, rfl⟩
        cases hmatches with
        | @character _ c hc =>
            change Place.between (before ++ [c]) after ∈
              if accepts c then [Place.mk (some c) after] else []
            rw [if_pos hc, Place.between_concat, List.mem_singleton]
  | many accepts =>
      change p ∈ manyEnds accepts before.getLast? rest ↔ _
      rw [mem_manyEnds_iff]
      constructor
      · rintro ⟨matched, after, hrest, haccepts, hp⟩
        exact ⟨matched, after, hrest, .many haccepts before after, hp⟩
      · rintro ⟨matched, after, hrest, hmatches, hp⟩
        cases hmatches with
        | many haccepts =>
            exact ⟨matched, after, hrest, haccepts, hp⟩
  | sequence first second ihFirst ihSecond =>
      rw [ends, List.mem_flatMap]
      constructor
      · rintro ⟨q, hq, hp⟩
        rcases ihFirst.mp hq with ⟨front, later, rfl, hfirst, rfl⟩
        rcases ihSecond.mp hp with ⟨back, after, rfl, hsecond, rfl⟩
        exact ⟨front ++ back, after, (List.append_assoc ..).symm, .sequence hfirst hsecond,
          by rw [List.append_assoc]⟩
      · rintro ⟨matched, after, rfl, hmatches, rfl⟩
        cases hmatches with
        | @sequence _ _ _ front back _ hfirst hsecond =>
            refine ⟨.between (before ++ front) (back ++ after), ?_, ?_⟩
            · exact ihFirst.mpr ⟨front, back ++ after, List.append_assoc .., hfirst, rfl⟩
            · exact ihSecond.mpr ⟨back, after, rfl, hsecond, by rw [List.append_assoc]⟩
  | choice left right ihLeft ihRight =>
      rw [ends, List.mem_append, ihLeft, ihRight]
      constructor
      · rintro (⟨matched, after, hrest, hmatches, hp⟩ | ⟨matched, after, hrest, hmatches, hp⟩)
        · exact ⟨matched, after, hrest, .left hmatches, hp⟩
        · exact ⟨matched, after, hrest, .right hmatches, hp⟩
      · rintro ⟨matched, after, hrest, hmatches, hp⟩
        cases hmatches with
        | left hleft =>
            exact Or.inl ⟨matched, after, hrest, hleft, hp⟩
        | right hright =>
            exact Or.inr ⟨matched, after, hrest, hright, hp⟩
  | wordBoundary =>
      rw [ends]
      constructor
      · intro hmem
        split at hmem
        · next hboundary =>
            rw [List.mem_singleton.mp hmem]
            exact ⟨[], rest, rfl, .wordBoundary (bne_iff_ne.mp hboundary), by rw [List.append_nil]⟩
        · cases hmem
      · rintro ⟨matched, after, rfl, hmatches, rfl⟩
        cases hmatches with
        | wordBoundary hboundary =>
            have hplace : (Place.between before after).isWordBoundary = true :=
              bne_iff_ne.mpr hboundary
            rw [List.nil_append, if_pos hplace, List.append_nil, List.mem_singleton]
  | start =>
      rw [ends]
      constructor
      · intro hmem
        split at hmem
        · next hstart =>
            have hnil : before = [] := by
              simpa [Place.isStart, Place.between] using hstart
            rw [List.mem_singleton.mp hmem, hnil]
            exact ⟨[], rest, rfl, .start rest, rfl⟩
        · cases hmem
      · rintro ⟨matched, after, rfl, hmatches, rfl⟩
        cases hmatches
        exact List.mem_singleton.mpr rfl

theorem matchesAt_iff {pattern : Pattern} {before rest : Text} :
    pattern.matchesAt (.between before rest) = true ↔
      ∃ matched after, rest = matched ++ after ∧ pattern.Matches before matched after := by
  rw [matchesAt, Bool.not_eq_true', List.isEmpty_eq_false_iff_exists_mem]
  constructor
  · rintro ⟨p, hp⟩
    rcases mem_ends_iff.mp hp with ⟨matched, after, hrest, hmatches, -⟩
    exact ⟨matched, after, hrest, hmatches⟩
  · rintro ⟨matched, after, hrest, hmatches⟩
    exact ⟨_, mem_ends_iff.mpr ⟨matched, after, hrest, hmatches, rfl⟩⟩

theorem foundFrom_iff {pattern : Pattern} {before rest : Text} :
    pattern.foundFrom before.getLast? rest = true ↔
      ∃ skipped matched after, rest = skipped ++ (matched ++ after) ∧
        pattern.Matches (before ++ skipped) matched after := by
  induction rest generalizing before with
  | nil =>
      change pattern.matchesAt (.between before []) = true ↔ _
      rw [matchesAt_iff]
      constructor
      · rintro ⟨matched, after, hrest, hmatches⟩
        exact ⟨[], matched, after, hrest, by rwa [List.append_nil]⟩
      · rintro ⟨skipped, matched, after, hrest, hmatches⟩
        rcases List.append_eq_nil_iff.mp hrest.symm with ⟨rfl, hlater⟩
        rw [List.append_nil] at hmatches
        exact ⟨matched, after, hlater.symm, hmatches⟩
  | cons c rest ih =>
      have hlater := @ih (before ++ [c])
      rw [List.getLast?_concat] at hlater
      change (pattern.matchesAt (.between before (c :: rest)) ||
        pattern.foundFrom (some c) rest) = true ↔ _
      rw [Bool.or_eq_true, matchesAt_iff, hlater]
      constructor
      · rintro (⟨matched, after, hrest, hmatches⟩ | ⟨skipped, matched, after, rfl, hmatches⟩)
        · exact ⟨[], matched, after, hrest, by rwa [List.append_nil]⟩
        · exact ⟨c :: skipped, matched, after, rfl, by rwa [List.append_cons]⟩
      · rintro ⟨skipped, matched, after, hrest, hmatches⟩
        cases skipped with
        | nil =>
            rw [List.append_nil] at hmatches
            exact Or.inl ⟨matched, after, hrest, hmatches⟩
        | cons d skipped =>
            cases hrest
            rw [List.append_cons] at hmatches
            exact Or.inr ⟨skipped, matched, after, rfl, hmatches⟩

/-- The search for a pattern finds it exactly in the texts that it occurs in. -/
theorem found_iff {pattern : Pattern} {t : Text} : pattern.found t = true ↔ pattern.OccursIn t :=
  @foundFrom_iff pattern [] t

end Pattern
end QuotedLiteral
