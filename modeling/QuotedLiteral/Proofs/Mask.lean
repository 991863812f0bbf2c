import Mathlib.Data.Int.Bitwise
import QuotedLiteral.Dialect.Basic

/-!
# Flags as bits of a mask

A dialect has a flag exactly when its number has the flag's bit, whatever the
other bits of the number are, and it has all bits of a mask exactly when it has
the flags that the mask is made of.
-/

namespace QuotedLiteral

theorem exists_conjunction_natCast (x : Int) (n : Nat) :
    ∃ r : Nat, conjunction x n = r ∧ ∀ k, r.testBit k = (x.testBit k && n.testBit k) := by
  cases x with
  | ofNat m =>
      refine ⟨m &&& n, rfl, ?_⟩
      intro k
      exact Nat.testBit_and m n k
  | negSucc m =>
      refine ⟨n ^^^ (n &&& m), rfl, ?_⟩
      intro k
      change (n ^^^ (n &&& m)).testBit k = (!m.testBit k && n.testBit k)
      rw [Nat.testBit_xor, Nat.testBit_and]
      cases n.testBit k <;> cases m.testBit k <;> rfl

theorem conjunction_eq_self_iff (x : Int) (n : Nat) :
    conjunction x n = n ↔ ∀ k, n.testBit k = true → x.testBit k = true := by
  rcases exists_conjunction_natCast x n with ⟨r, hr, hbits⟩
  rw [hr, Int.ofNat_inj]
  constructor
  · intro heq k hk
    have hand := hbits k
    rw [heq, hk, Bool.and_true] at hand
    exact hand.symm
  · intro hall
    apply Nat.eq_of_testBit_eq
    intro k
    rw [hbits k]
    cases hk : n.testBit k with
    | false =>
        exact Bool.and_false _
    | true =>
        rw [hall k hk]
        rfl

theorem conjunction_ne_zero_iff (x : Int) (n : Nat) :
    conjunction x n ≠ 0 ↔ ∃ k, x.testBit k = true ∧ n.testBit k = true := by
  rcases exists_conjunction_natCast x n with ⟨r, hr, hbits⟩
  rw [hr, Int.natCast_ne_zero]
  constructor
  · intro hne
    rcases Nat.exists_testBit_of_ne_zero hne with ⟨k, hk⟩
    rw [hbits k, Bool.and_eq_true] at hk
    exact ⟨k, hk⟩
  · rintro ⟨k, hx, hn⟩ rfl
    have hzero := hbits k
    rw [hx, hn, Nat.zero_testBit] at hzero
    cases hzero

theorem exists_emod_two_pow (x : Int) (n : Nat) :
    ∃ r : Nat, x % 2 ^ n = r ∧ ∀ k, r.testBit k = (decide (k < n) && x.testBit k) := by
  cases x with
  | ofNat m =>
      refine ⟨m % 2 ^ n, by simp, ?_⟩
      intro k
      exact Nat.testBit_mod_two_pow m n k
  | negSucc m =>
      have hlt : m % 2 ^ n < 2 ^ n := Nat.mod_lt m (Nat.two_pow_pos n)
      refine ⟨2 ^ n - (m % 2 ^ n + 1), ?_, ?_⟩
      · rw [Int.negSucc_emod m (Int.pow_pos (by decide)), Int.natCast_sub hlt]
        push_cast
        lia
      · intro k
        rw [Nat.testBit_two_pow_sub_succ hlt, Nat.testBit_mod_two_pow]
        change _ = (decide (k < n) && !m.testBit k)
        cases decide (k < n) <;> rfl

namespace Flag

theorem testBit_value (f : Flag) (k : Nat) : f.value.testBit k = decide (f.bit = k) := by
  rw [value, Nat.one_shiftLeft, Nat.testBit_two_pow]

theorem value_lt (f : Flag) : f.value < 2 ^ 16 := by
  cases f <;> decide

theorem exists_bit_eq {k : Nat} (hk : k < 16) : ∃ f : Flag, f.bit = k := by
  have hall : ∀ k < 16, ∃ f ∈ all, f.bit = k := by
    decide
  rcases hall k hk with ⟨f, -, hf⟩
  exact ⟨f, hf⟩

theorem bit_lt (f : Flag) : f.bit < 16 := by
  cases f <;> decide

end Flag

namespace Dialect

theorem has_iff_testBit (d : Dialect) (f : Flag) :
    d.has f = true ↔ d.mask.testBit f.bit = true := by
  rw [has, meets, decide_eq_true_eq, conjunction_ne_zero_iff]
  constructor
  · rintro ⟨k, hmask, hflag⟩
    rw [f.testBit_value, decide_eq_true_eq] at hflag
    rw [hflag]
    exact hmask
  · intro hmask
    refine ⟨f.bit, hmask, ?_⟩
    rw [f.testBit_value, decide_eq_true_eq]

/-!
## Masks made of flags
-/

theorem testBit_maskOf (flags : List Flag) (k : Nat) :
    (maskOf flags).testBit k = true ↔ ∃ f ∈ flags, f.bit = k := by
  induction flags with
  | nil =>
      simp [maskOf]
  | cons f flags ih =>
      change (f.value ||| maskOf flags).testBit k = true ↔ _
      rw [Nat.testBit_or, Bool.or_eq_true, ih, f.testBit_value, decide_eq_true_eq]
      simp

theorem maskOf_lt (flags : List Flag) : maskOf flags < 2 ^ 16 := by
  induction flags with
  | nil =>
      decide
  | cons f flags ih =>
      exact Nat.or_lt_two_pow f.value_lt ih

theorem conjunction_maskOf_iff (d : Dialect) (flags : List Flag) :
    conjunction d.mask (maskOf flags) = maskOf flags ↔ ∀ f ∈ flags, d.has f = true := by
  rw [conjunction_eq_self_iff]
  constructor
  · intro hall f hf
    rw [d.has_iff_testBit]
    exact hall f.bit ((testBit_maskOf flags f.bit).mpr ⟨f, hf, rfl⟩)
  · intro hall k hk
    rcases (testBit_maskOf flags k).mp hk with ⟨f, hf, rfl⟩
    exact (d.has_iff_testBit f).mp (hall f hf)

/-!
## The mask of a dialect's own flags
-/

/-- The flags of a dialect make up the sixteen low bits of its number. -/
theorem maskOf_eq_emod {d : Dialect} {flags : List Flag}
    (hflags : ∀ f, f ∈ flags ↔ d.has f = true) : (maskOf flags : Int) = d.mask % 2 ^ 16 := by
  rcases exists_emod_two_pow d.mask 16 with ⟨r, hr, hbits⟩
  rw [hr, Int.ofNat_inj]
  apply Nat.eq_of_testBit_eq
  intro k
  rw [Bool.eq_iff_iff, testBit_maskOf, hbits k, Bool.and_eq_true, decide_eq_true_eq]
  constructor
  · rintro ⟨f, hf, rfl⟩
    exact ⟨f.bit_lt, (d.has_iff_testBit f).mp ((hflags f).mp hf)⟩
  · rintro ⟨hk, hbit⟩
    rcases Flag.exists_bit_eq hk with ⟨f, rfl⟩
    exact ⟨f, (hflags f).mpr ((d.has_iff_testBit f).mpr hbit), rfl⟩

theorem has_ofFlags {d : Dialect} {flags : List Flag} (hflags : ∀ f, f ∈ flags ↔ d.has f = true)
    (f : Flag) : (ofFlags flags).has f = d.has f := by
  rw [Bool.eq_iff_iff, ← hflags f, has_iff_testBit]
  change (maskOf flags).testBit f.bit = true ↔ _
  rw [testBit_maskOf]
  constructor
  · rintro ⟨g, hg, hbit⟩
    rw [← Flag.bit_injective hbit]
    exact hg
  · intro hf
    exact ⟨f, hf, rfl⟩

theorem mem_flags_iff (d : Dialect) (f : Flag) : f ∈ d.flags ↔ d.has f = true := by
  rw [flags, List.mem_filter, and_iff_right f.mem_all]

end Dialect
end QuotedLiteral
