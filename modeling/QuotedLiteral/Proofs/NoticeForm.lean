import QuotedLiteral.Notice.Header
import QuotedLiteral.Proofs.Matching

/-!
# The form of a notice

A notice is recognized by its opening and its first year.  Whatever stands behind
the year, a second year included, only has to begin with no word character.
-/

namespace QuotedLiteral

theorem Place.isWord_eq_false_iff {c : Option CodePoint} :
    isWord c = false ↔ ∀ d, c = some d → d.isWordCharacter = false := by
  rw [isWord, Option.any_eq_false]

namespace Pattern

/-!
# What the parts of a pattern match
-/

variable {before matched after : Text}

theorem matches_many_iff {accepts : CodePoint → Bool} :
    (many accepts).Matches before matched after ↔ ∀ c ∈ matched, accepts c = true := by
  constructor
  · intro h
    cases h with
    | many haccepts =>
        exact haccepts
  · intro haccepts
    exact .many haccepts before after

theorem matches_sequence_iff {first second : Pattern} :
    (sequence first second).Matches before matched after ↔
      ∃ front back, matched = front ++ back ∧ first.Matches before front (back ++ after) ∧
        second.Matches (before ++ front) back after := by
  constructor
  · intro h
    cases h with
    | @sequence _ _ _ front back _ hfirst hsecond =>
        exact ⟨front, back, rfl, hfirst, hsecond⟩
  · intro h
    rcases h with ⟨front, back, rfl, hfirst, hsecond⟩
    exact .sequence hfirst hsecond

theorem matches_literal_iff {t : Text} :
    (literal t).Matches before matched after ↔ matched = t := by
  induction t generalizing before matched with
  | nil =>
      constructor
      · intro h
        cases h
        rfl
      · intro h
        cases h
        exact .empty before after
  | cons c rest ih =>
      change (sequence (character (· = c)) (literal rest)).Matches before matched after ↔ _
      rw [matches_sequence_iff]
      constructor
      · intro h
        rcases h with ⟨front, back, rfl, hfirst, hsecond⟩
        cases hfirst with
        | character haccepts =>
            rw [ih.mp hsecond, of_decide_eq_true haccepts]
            rfl
      · intro h
        cases h
        exact ⟨[c], rest, rfl, .character (decide_eq_true rfl) before _, ih.mpr rfl⟩

theorem matches_times_character_iff {accepts : CodePoint → Bool} {count : Nat} :
    (times count (character accepts)).Matches before matched after ↔
      matched.length = count ∧ ∀ c ∈ matched, accepts c = true := by
  induction count generalizing before matched with
  | zero =>
      constructor
      · intro h
        cases h
        exact ⟨rfl, nofun⟩
      · intro h
        rcases h with ⟨hlength, -⟩
        rw [List.length_eq_zero_iff.mp hlength]
        exact .empty before after
  | succ count ih =>
      change (sequence (character accepts) (times count (character accepts))).Matches before
        matched after ↔ _
      rw [matches_sequence_iff]
      constructor
      · intro h
        rcases h with ⟨front, back, rfl, hfirst, hsecond⟩
        rcases ih.mp hsecond with ⟨hlength, haccepts⟩
        cases hfirst with
        | character hc =>
            exact ⟨congrArg Nat.succ hlength, List.forall_mem_cons.mpr ⟨hc, haccepts⟩⟩
      · intro h
        rcases h with ⟨hlength, haccepts⟩
        cases matched with
        | nil =>
            cases hlength
        | cons c rest =>
            rcases List.forall_mem_cons.mp haccepts with ⟨hc, hrest⟩
            exact ⟨[c], rest, rfl, .character hc before _, ih.mpr ⟨Nat.succ.inj hlength, hrest⟩⟩

/-!
# Places where a pattern matches
-/

theorem matchesAt_sequence_iff {first second : Pattern} {rest : Text} :
    (sequence first second).matchesAt (.between before rest) = true ↔
      ∃ front later, rest = front ++ later ∧ first.Matches before front later ∧
        second.matchesAt (.between (before ++ front) later) = true := by
  rw [matchesAt_iff]
  constructor
  · intro h
    rcases h with ⟨matched, after, rfl, hmatches⟩
    rcases matches_sequence_iff.mp hmatches with ⟨front, back, rfl, hfirst, hsecond⟩
    exact ⟨front, back ++ after, List.append_assoc .., hfirst,
      matchesAt_iff.mpr ⟨back, after, rfl, hsecond⟩⟩
  · intro h
    rcases h with ⟨front, later, rfl, hfirst, hsecond⟩
    rcases matchesAt_iff.mp hsecond with ⟨back, after, rfl, hback⟩
    exact ⟨front ++ back, after, (List.append_assoc ..).symm, .sequence hfirst hback⟩

theorem found_iff_matchesAt {pattern : Pattern} {t : Text} :
    pattern.found t = true ↔
      ∃ before rest, t = before ++ rest ∧ pattern.matchesAt (.between before rest) = true := by
  rw [found_iff]
  constructor
  · intro h
    rcases h with ⟨before, matched, after, rfl, hmatches⟩
    exact ⟨before, matched ++ after, rfl, matchesAt_iff.mpr ⟨matched, after, rfl, hmatches⟩⟩
  · intro h
    rcases h with ⟨before, rest, rfl, hmatches⟩
    rcases matchesAt_iff.mp hmatches with ⟨matched, after, rfl, hmatched⟩
    exact ⟨before, matched, after, rfl, hmatched⟩

/-- Behind a digit a word ends just where no word character follows. -/
theorem matchesAt_wordBoundary_iff {digits rest : Text} (hne : digits ≠ [])
    (hdigits : ∀ c ∈ digits, c.isDecimalDigit = true) :
    wordBoundary.matchesAt (.between (before ++ digits) rest) = true ↔
      Place.isWord rest.head? = false := by
  have hlast : Place.isWord (before ++ digits).getLast? = true := by
    rw [List.getLast?_append, List.getLast?_eq_some_getLast hne]
    exact CodePoint.isWordCharacter_of_isDecimalDigit (hdigits _ (List.getLast_mem hne))
  rw [matchesAt_iff]
  constructor
  · intro h
    rcases h with ⟨matched, after, rfl, hmatches⟩
    cases hmatches with
    | wordBoundary hboundary =>
        rw [hlast] at hboundary
        exact Bool.eq_false_iff.mpr hboundary.symm
  · intro hrest
    refine ⟨[], rest, rfl, .wordBoundary ?_⟩
    rw [hlast, hrest]
    exact nofun

end Pattern

namespace Notice

open Pattern

/-!
# Notices
-/

/-- The pattern of notices without a second year. -/
def singleYearPattern : Pattern :=
  .sequence opening (.sequence year .wordBoundary)

/-- What stands behind the first year in the pattern of notices. -/
def ending : Pattern :=
  .sequence (.optional (.sequence (.literal (Text.ofString "-")) year)) .wordBoundary

/-- Somewhere in the text stand the word, white space or none, the mark, white space or none, and
four decimal digits, behind which the text ends or something other than a word character follows. -/
def Bears (t : Text) : Prop :=
  ∃ before gap gap' digits after : Text,
    t = before ++ Text.ofString "Copyright" ++ gap ++ Text.ofString "(c)" ++ gap' ++ digits ++
        after ∧
      (∀ c ∈ gap, c.isWhitespace = true) ∧ (∀ c ∈ gap', c.isWhitespace = true) ∧
      digits.length = 4 ∧ (∀ c ∈ digits, c.isDecimalDigit = true) ∧
      ∀ c, after.head? = some c → c.isWordCharacter = false

theorem matches_opening_iff {before matched after : Text} :
    opening.Matches before matched after ↔
      ∃ gap gap', matched =
          Text.ofString "Copyright" ++ (gap ++ (Text.ofString "(c)" ++ gap')) ∧
        (∀ c ∈ gap, c.isWhitespace = true) ∧ ∀ c ∈ gap', c.isWhitespace = true := by
  simp only [opening, spaces, matches_sequence_iff, matches_literal_iff, matches_many_iff]
  constructor
  · intro h
    rcases h with ⟨word, rest, rfl, rfl, gap, back, rfl, hgap, mark, gap', rfl, rfl, hgap'⟩
    exact ⟨gap, gap', rfl, hgap, hgap'⟩
  · intro h
    rcases h with ⟨gap, gap', rfl, hgap, hgap'⟩
    exact ⟨_, _, rfl, rfl, gap, _, rfl, hgap, _, gap', rfl, rfl, hgap'⟩

theorem isWordCharacter_hyphen : CodePoint.isWordCharacter (CodePoint.ofChar '-') = false := by
  decide +kernel

/-- A second year behind the first one is of no account: where it begins, the first one ends. -/
theorem matchesAt_ending_iff {before digits rest : Text} (hne : digits ≠ [])
    (hdigits : ∀ c ∈ digits, c.isDecimalDigit = true) :
    ending.matchesAt (.between (before ++ digits) rest) = true ↔
      wordBoundary.matchesAt (.between (before ++ digits) rest) = true := by
  rw [ending, matchesAt_sequence_iff]
  constructor
  · intro h
    rcases h with ⟨front, later, rfl, hfront, hlater⟩
    cases hfront with
    | left hrange =>
        rcases matches_sequence_iff.mp hrange with ⟨hyphen, year, rfl, hhyphen, -⟩
        have hhead : (hyphen ++ year ++ later).head? = some (CodePoint.ofChar '-') := by
          rw [matches_literal_iff.mp hhyphen]
          rfl
        rw [matchesAt_wordBoundary_iff hne hdigits, hhead, Place.isWord_eq_false_iff]
        intro c hc
        cases hc
        exact isWordCharacter_hyphen
    | right hnothing =>
        cases hnothing
        rwa [List.append_nil] at hlater
  · intro hrest
    exact ⟨[], rest, rfl, .right (.empty _ _), by rwa [List.append_nil]⟩

/-- With an ending that matches where the first year ends, the pattern is found in the texts that
bear a notice. -/
theorem found_dated_iff {tail : Pattern}
    (htail : ∀ {before digits rest : Text}, digits ≠ [] →
      (∀ c ∈ digits, c.isDecimalDigit = true) →
      (tail.matchesAt (.between (before ++ digits) rest) = true ↔
        wordBoundary.matchesAt (.between (before ++ digits) rest) = true)) {t : Text} :
    (sequence opening (sequence year tail)).found t = true ↔ Bears t := by
  have hend : ∀ {before digits after : Text}, digits.length = 4 →
      (∀ c ∈ digits, c.isDecimalDigit = true) →
      (tail.matchesAt (.between (before ++ digits) after) = true ↔
        ∀ c, after.head? = some c → c.isWordCharacter = false) := by
    intro before digits after hlength hdigits
    have hne : digits ≠ [] := by
      intro h
      cases h
      cases hlength
    rw [htail hne hdigits, matchesAt_wordBoundary_iff hne hdigits, Place.isWord_eq_false_iff]
  rw [found_iff_matchesAt]
  constructor
  · intro h
    rcases h with ⟨before, rest, rfl, hmatches⟩
    rcases matchesAt_sequence_iff.mp hmatches with ⟨front, later, rfl, hopening, hyear⟩
    rcases matches_opening_iff.mp hopening with ⟨gap, gap', rfl, hgap, hgap'⟩
    rcases matchesAt_sequence_iff.mp hyear with ⟨digits, after, rfl, hdigits, hafter⟩
    rcases matches_times_character_iff.mp hdigits with ⟨hlength, hdecimal⟩
    exact ⟨before, gap, gap', digits, after, by simp only [List.append_assoc], hgap, hgap',
      hlength, hdecimal, (hend hlength hdecimal).mp hafter⟩
  · intro h
    rcases h with ⟨before, gap, gap', digits, after, rfl, hgap, hgap', hlength, hdecimal, hafter⟩
    refine ⟨before, _, ?_, matchesAt_sequence_iff.mpr
      ⟨_, digits ++ after, rfl, matches_opening_iff.mpr ⟨gap, gap', rfl, hgap, hgap'⟩, ?_⟩⟩
    · simp only [List.append_assoc]
    · exact matchesAt_sequence_iff.mpr ⟨digits, after, rfl,
        matches_times_character_iff.mpr ⟨hlength, hdecimal⟩, (hend hlength hdecimal).mpr hafter⟩

/-- The pattern of notices is found just in the texts that bear a notice with its first year.  So
the pattern without the second year is found in the same texts. -/
theorem found_pattern_iff (t : Text) :
    (pattern.found t = true ↔ Bears t) ∧ pattern.found t = singleYearPattern.found t := by
  have hrange := @found_dated_iff ending matchesAt_ending_iff t
  have hsingle := @found_dated_iff .wordBoundary (fun _ _ => Iff.rfl) t
  exact ⟨hrange, Bool.eq_iff_iff.mpr (hrange.trans hsingle.symm)⟩

/-- The second year is too long, and goes on in a word; the first one is enough. -/
example : pattern.found (Text.ofString "Copyright\t\n(c)2024-20256th") = true := by
  decide +kernel

end Notice
end QuotedLiteral
