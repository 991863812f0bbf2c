import Mathlib.Order.Bounds.Basic
import QuotedLiteral.Proofs.Containment
import QuotedLiteral.Proofs.Stability

/-!
# What cannot be written

Writing stops at the first character that is to be ASCII and has no escape, and
at no other place.  The fault is about that character and its index.
-/

namespace QuotedLiteral
namespace Writing

variable {asciiOnly : Bool} {d : Dialect} {c : CodePoint} {raw : Text} {index : Nat}

/-!
# Characters that cannot be written
-/

/-- The character is to be ASCII, is not, and no unicode escape of the dialect names it. -/
def Unwritable (asciiOnly : Bool) (d : Dialect) (c : CodePoint) : Prop :=
  asciiOnly = true ∧ 0x7F < c.value ∧ (0xFFFF < c.value ∨ d.has .unicode = false)

theorem item?_eq_none_iff : item? asciiOnly d c = none ↔ Unwritable asciiOnly d c := by
  by_cases hascii : asciiOnly = true ∧ 0x7F < c.value
  · rw [item?, mnemonic?_eq_none_of_lt hascii.2]
    simp only [if_pos hascii]
    by_cases hunicode : d.has .unicode = true ∧ c.value ≤ 0xFFFF
    · rw [if_pos hunicode]
      refine iff_of_false nofun ?_
      rintro ⟨-, -, hbeyond | hlacks⟩
      · exact absurd hunicode.2 (Nat.not_le.mpr hbeyond)
      · rw [hunicode.1] at hlacks
        cases hlacks
    · rw [if_neg hunicode]
      refine iff_of_true rfl ⟨hascii.1, hascii.2, ?_⟩
      rw [Classical.not_and_iff_not_or_not, Bool.not_eq_true, Nat.not_le] at hunicode
      exact hunicode.symm
  · rw [item?]
    refine iff_of_false ?_ (fun h => hascii ⟨h.1, h.2.1⟩)
    split
    · exact nofun
    · rw [if_neg hascii]
      exact nofun

/-!
# Texts that cannot be written
-/

/-- The character at the index is the first of the text that cannot be written. -/
inductive Breaks (asciiOnly : Bool) (d : Dialect) : Text → Nat → CodePoint → Prop where
  | here {c : CodePoint} (rest : Text) (hc : Unwritable asciiOnly d c) :
      Breaks asciiOnly d (c :: rest) 0 c
  | later {x c : CodePoint} {rest : Text} {index : Nat} (hx : ¬Unwritable asciiOnly d x)
      (hrest : Breaks asciiOnly d rest index c) : Breaks asciiOnly d (x :: rest) (index + 1) c

theorem writes_or_breaks (asciiOnly : Bool) (d : Dialect) (raw : Text) :
    (∃ body, Writes asciiOnly d raw body) ∨ ∃ index c, Breaks asciiOnly d raw index c := by
  induction raw with
  | nil =>
      exact Or.inl ⟨[], List.Forall₂.nil⟩
  | cons x rest ih =>
      cases hitem : item? asciiOnly d x with
      | none =>
          exact Or.inr ⟨0, x, Breaks.here rest (item?_eq_none_iff.mp hitem)⟩
      | some item =>
          have hx : ¬Unwritable asciiOnly d x := by
            rw [← item?_eq_none_iff, hitem]
            exact nofun
          rcases ih with ⟨body, hwrites⟩ | ⟨index, c, hbreaks⟩
          · exact Or.inl ⟨item :: body, List.Forall₂.cons hitem hwrites⟩
          · exact Or.inr ⟨index + 1, c, Breaks.later hx hbreaks⟩

theorem Writes.not_unwritable {body : Body} (hwrites : Writes asciiOnly d raw body) :
    ∀ c ∈ raw, ¬Unwritable asciiOnly d c := by
  induction hwrites with
  | nil =>
      exact nofun
  | cons hitem hlater ih =>
      refine List.forall_mem_cons.mpr ⟨?_, ih⟩
      rw [← item?_eq_none_iff, hitem]
      exact nofun

namespace Breaks

theorem bodyFrom_eq (hbreaks : Breaks asciiOnly d raw index c) (start : Nat) :
    bodyFrom asciiOnly d start raw = .error ⟨.notAscii c, (start + index : Nat), .writing⟩ := by
  induction hbreaks generalizing start with
  | here rest hc =>
      rw [bodyFrom, piece?_eq_map_item?, item?_eq_none_iff.mpr hc]
      rfl
  | @later x c rest index hx hrest ih =>
      cases hitem : item? asciiOnly d x with
      | none =>
          exact absurd (item?_eq_none_iff.mp hitem) hx
      | some item =>
          rw [bodyFrom, piece?_eq_map_item?, hitem]
          simp only [Option.map_some, ih (start + 1)]
          rw [Nat.add_right_comm, Nat.add_assoc start index 1]
          rfl

theorem unwritable (hbreaks : Breaks asciiOnly d raw index c) : Unwritable asciiOnly d c := by
  induction hbreaks with
  | here rest hc =>
      exact hc
  | later hx hrest ih =>
      exact ih

theorem getElem?_eq (hbreaks : Breaks asciiOnly d raw index c) : raw[index]? = some c := by
  induction hbreaks with
  | here rest hc =>
      rfl
  | later hx hrest ih =>
      exact ih

theorem not_unwritable_of_lt (hbreaks : Breaks asciiOnly d raw index c) {i : Nat} {x : CodePoint}
    (hi : i < index) (hx : raw[i]? = some x) : ¬Unwritable asciiOnly d x := by
  induction hbreaks generalizing i with
  | here rest hc =>
      exact absurd hi (Nat.not_lt_zero i)
  | later hy hrest ih =>
      cases i with
      | zero =>
          cases hx
          exact hy
      | succ i =>
          exact ih (Nat.lt_of_succ_lt_succ hi) hx

theorem isLeast (hbreaks : Breaks asciiOnly d raw index c) :
    IsLeast {i | ∃ x, raw[i]? = some x ∧ Unwritable asciiOnly d x} index := by
  constructor
  · exact ⟨c, hbreaks.getElem?_eq, hbreaks.unwritable⟩
  · rintro i ⟨x, hx, hunwritable⟩
    by_contra hlt
    exact hbreaks.not_unwritable_of_lt (Nat.not_le.mp hlt) hx hunwritable

theorem append (hbreaks : Breaks asciiOnly d raw index c) (raw' : Text) :
    Breaks asciiOnly d (raw ++ raw') index c := by
  induction hbreaks with
  | here rest hc =>
      exact Breaks.here (rest ++ raw') hc
  | later hx hrest ih =>
      exact Breaks.later hx ih

theorem behind (hbreaks : Breaks asciiOnly d raw index c) {front : Text}
    (hfront : ∀ x ∈ front, ¬Unwritable asciiOnly d x) :
    Breaks asciiOnly d (front ++ raw) (front.length + index) c := by
  induction front with
  | nil =>
      rw [List.nil_append, List.length_nil, Nat.zero_add]
      exact hbreaks
  | cons x front ih =>
      rcases List.forall_mem_cons.mp hfront with ⟨hx, hlater⟩
      rw [List.cons_append, List.length_cons, Nat.add_right_comm]
      exact Breaks.later hx (ih hlater)

end Breaks
end Writing

/-!
# Faults of writing
-/

open Writing

variable {asciiOnly : Bool} {d : Dialect} {raw : Text}

theorem format_of_breaks {index : Nat} {c : CodePoint} (hbreaks : Breaks asciiOnly d raw index c) :
    format asciiOnly d raw = .error ⟨.notAscii c, index, .writing⟩ := by
  rw [format, hbreaks.bodyFrom_eq 0, Nat.zero_add]
  rfl

theorem breaks_of_format {fault : Fault} (hformat : format asciiOnly d raw = .error fault) :
    ∃ (index : Nat) (c : CodePoint), Breaks asciiOnly d raw index c ∧
      fault = ⟨.notAscii c, index, .writing⟩ := by
  rcases writes_or_breaks asciiOnly d raw with ⟨body, hwrites⟩ | ⟨index, c, hbreaks⟩
  · rw [format_of_writes hwrites] at hformat
    cases hformat
  · rw [format_of_breaks hbreaks] at hformat
    cases hformat
    exact ⟨index, c, hbreaks, rfl⟩

theorem exists_unwritable_iff :
    (∃ c ∈ raw, Unwritable asciiOnly d c) ↔ ∃ fault, format asciiOnly d raw = .error fault := by
  constructor
  · rintro ⟨c, hc, hunwritable⟩
    rcases writes_or_breaks asciiOnly d raw with ⟨body, hwrites⟩ | ⟨index, x, hbreaks⟩
    · exact absurd hunwritable (hwrites.not_unwritable c hc)
    · exact ⟨_, format_of_breaks hbreaks⟩
  · rintro ⟨fault, hformat⟩
    rcases breaks_of_format hformat with ⟨index, c, hbreaks, -⟩
    exact ⟨c, List.mem_of_getElem? hbreaks.getElem?_eq, hbreaks.unwritable⟩

/-- What is told of a text that breaks at an index depends on the character there alone. -/
theorem complaint_of_breaks {index : Nat} {c : CodePoint}
    (hbreaks : Breaks asciiOnly d raw index c) :
    Fault.complaint raw ⟨.notAscii c, index, .writing⟩ =
      .malformed
        { message := Fault.message ⟨.notAscii c, 0, .writing⟩
          char := some c
          source := raw
          index := index
          state := Text.ofString "Format" } := by
  rw [Fault.complaint_eq_malformed rfl, Fault.diagnostic, at?_natCast, hbreaks.getElem?_eq]
  rfl

end QuotedLiteral
