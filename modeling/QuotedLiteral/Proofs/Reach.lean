import Mathlib.Data.List.Chain
import QuotedLiteral.Literal.Configuration
import QuotedLiteral.Proofs.Agreement
import QuotedLiteral.Proofs.Recognition

/-!
# Where the reader can get

A reader that enters a source at an index stays between that index and the end
of the source, and its state agrees with the text that it has consumed since.
This holds of all steps, under dialects that may change on the way.
-/

namespace QuotedLiteral

/-- The text from one index to another. -/
def Text.slice (text : Text) (start index : Int) : Text :=
  (text.take index.toNat).drop start.toNat

/-- The state fits a reader at the index that entered the source at the start. -/
structure State.FitsAt (source : Text) (start index : Int) (s : State) : Prop where
  start_nonneg : 0 ≤ start
  start_le : start ≤ index
  le_length : index ≤ source.length
  agrees : s.AgreesWith (source.slice start index) (source.drop index.toNat)

theorem Text.slice_add {source front rest : Text} {start index : Int} (hnonneg : 0 ≤ index)
    (hstart : start ≤ index) (hlength : index ≤ source.length)
    (hrest : source.drop index.toNat = front ++ rest) :
    source.slice start (index + front.length) = source.slice start index ++ front ∧
      source.drop (index + front.length).toNat = rest := by
  have hindex : (index + front.length).toNat = index.toNat + front.length := by
    lia
  have htake : source.take (index.toNat + front.length) = source.take index.toNat ++ front := by
    rw [List.take_add, hrest, List.take_left]
  rw [slice, slice, hindex, htake]
  constructor
  · apply List.drop_append_of_le_length
    rw [List.length_take]
    lia
  · rw [← List.drop_drop, hrest, List.drop_left]

theorem Text.slice_after (before : Text) (c : CodePoint) (rest : Text) (count : Nat) :
    Text.slice (before ++ c :: rest) (before.length + 1) (before.length + 1 + count : Nat) =
      rest.take count := by
  have hstart : ((before.length : Int) + 1).toNat = before.length + 1 := by
    lia
  rw [slice, hstart, Int.toNat_natCast, List.drop_take, Nat.add_sub_cancel_left,
    List.drop_length_add_append, List.drop_succ_cons, List.drop_zero]

namespace State.FitsAt

variable {source rest : Text} {start index : Int} {s : State} {c : CodePoint} {d : Dialect}

theorem outside (hstart : 0 ≤ start ∧ start < source.length) :
    State.outside.FitsAt source start start where
  start_nonneg := hstart.1
  start_le := Int.le_refl start
  le_length := Int.le_of_lt hstart.2
  agrees := by
    simp [AgreesWith, Text.slice]

theorem index_nonneg (hfits : s.FitsAt source start index) : 0 ≤ index :=
  Int.le_trans hfits.start_nonneg hfits.start_le

theorem index_lt (hfits : s.FitsAt source start index)
    (hrest : source.drop index.toNat = c :: rest) : index < source.length := by
  have hnonneg := hfits.index_nonneg
  have hlength : (source.drop index.toNat).length = rest.length + 1 := by
    rw [hrest, List.length_cons]
  rw [List.length_drop] at hlength
  lia

theorem agrees_cons (hfits : s.FitsAt source start index)
    (hrest : source.drop index.toNat = c :: rest) :
    s.AgreesWith (source.slice start index) (c :: rest) := by
  rw [← hrest]
  exact hfits.agrees

/-- What is taken adds to the text consumed, and what is left stays ahead. -/
theorem texts_of_move (hfits : s.FitsAt source start index)
    (hrest : source.drop index.toNat = c :: rest) (move : Move) :
    source.slice start (index + (move.taken c).length) =
        source.slice start index ++ move.taken c ∧
      source.drop (index + (move.taken c).length).toNat = move.left c rest := by
  apply Text.slice_add hfits.index_nonneg hfits.start_le hfits.le_length
  rw [hrest, Move.taken_append_left]

theorem of_step {move : Move} (hfits : s.FitsAt source start index)
    (hrest : source.drop index.toNat = c :: rest) (hstep : s.step d c = .ok move) :
    move.next.FitsAt source start (index + (move.taken c).length) := by
  rcases hfits.texts_of_move hrest move with ⟨hbefore, hafter⟩
  have hlt := hfits.index_lt hrest
  have hle := hfits.start_le
  have htaken := move.length_taken_le c
  refine ⟨hfits.start_nonneg, by lia, by lia, ?_⟩
  rw [hbefore, hafter]
  exact (hfits.agrees_cons hrest).of_transition (transition_of_step hstep)

theorem code?_of_step {cause : Cause} (hfits : s.FitsAt source start index)
    (hrest : source.drop index.toNat = c :: rest) (hstep : s.step d c = .error cause) :
    ∃ code, cause.code? = some code :=
  (hfits.agrees_cons hrest).code?_of_rejection (rejection_of_step hstep)

end State.FitsAt

/-!
# Configurations
-/

namespace Configuration

variable {source : Text} {start : Int} {config next : Configuration} {d : Dialect}

/-- The reader before its first step. -/
def entering (start : Int) : Configuration where
  state := .outside
  index := start
  content := []

theorem advance_of_step_ok {c : CodePoint} {move : Move} (hchar : config.char? source = some c)
    (hstep : config.state.step d c = .ok move) :
    config.advance d source =
      .ok ⟨move.next, config.index + (move.taken c).length,
        config.content ++ move.emitted.toList⟩ := by
  rw [advance, hchar]
  simp only [hstep, Move.taken]
  split <;> simp

theorem advance_of_step_error {c : CodePoint} {cause : Cause}
    (hchar : config.char? source = some c) (hstep : config.state.step d c = .error cause) :
    config.advance d source =
      .error (.fault ⟨cause, config.index, config.state.stage⟩) := by
  rw [advance, hchar]
  simp only [hstep]

/-- A step leads from one configuration to the next, under some dialect. -/
def Follows (source : Text) (config next : Configuration) : Prop :=
  ∃ d, config.advance d source = .ok next

theorem isChain_advances (source : Text) (config : Configuration) (dialects : List Dialect) :
    (config :: (config.advances source dialects).1).IsChain (Follows source) := by
  induction dialects generalizing config with
  | nil =>
      exact List.IsChain.singleton config
  | cons d dialects ih =>
      rw [advances]
      cases hadvance : config.advance d source with
      | error halt =>
          exact List.IsChain.singleton config
      | ok next =>
          exact List.IsChain.cons_cons ⟨d, hadvance⟩ (ih next)

end Configuration

end QuotedLiteral
