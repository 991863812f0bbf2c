import Mathlib.Algebra.Group.Nat.Defs
import Mathlib.Data.List.Induction
import QuotedLiteral.Text.Numeral

/-!
# Values of digits

Reading back the digits that a number is written with gives its lowest digits,
and a text of so many digits stands for less than the base to that power.
-/

namespace QuotedLiteral
namespace Numeral

theorem hexDigit?_digit {n : Nat} (hn : n < 16) : hexDigit? (digit n) = some n := by
  have hall : ∀ m < 16, hexDigit? (digit m) = some m := by
    decide
  exact hall n hn

theorem octalDigit?_digit {n : Nat} (hn : n < 8) : octalDigit? (digit n) = some n := by
  have hall : ∀ m < 8, octalDigit? (digit m) = some m := by
    decide
  exact hall n hn

theorem eq_digit_of_octalDigit? {c : CodePoint} {n : Nat} (h : octalDigit? c = some n) :
    c = digit n := by
  have hall : ∀ m < 8, (digit m).value = 0x30 + m := by
    decide
  have hdigit : (digit n).value = 0x30 + n := hall n (octalDigit?_lt h)
  apply CodePoint.value_injective
  rw [hdigit]
  unfold octalDigit? at h
  split at h
  · next hbounds =>
      cases h
      lia
  · cases h

theorem hexDigit?_of_octalDigit? {c : CodePoint} {n : Nat} (h : octalDigit? c = some n) :
    hexDigit? c = some n := by
  unfold octalDigit? at h
  split at h
  · next hbounds =>
      have hnine : c.value ≤ 0x39 := Nat.le_trans hbounds.2 (by decide)
      rw [hexDigit?, if_pos ⟨hbounds.1, hnine⟩]
      exact h
  · cases h

/-!
## The value of a text of digits
-/

theorem value_fixed {base : Nat} (hpos : 0 < base) (hbase : base ≤ 16) (width n : Nat) :
    value base (fixed base width n) = n % base ^ width := by
  induction width generalizing n with
  | zero =>
      simp [fixed, Nat.mod_one]
  | succ width ih =>
      have hlast : n % base < 16 := Nat.lt_of_lt_of_le (Nat.mod_lt n hpos) hbase
      rw [fixed, value_append_singleton, ih, hexDigit?_digit hlast, Option.getD_some,
        Nat.pow_succ', Nat.mod_mul, Nat.mul_comm, Nat.add_comm]

theorem value_lt_pow {base : Nat} (ds : Text)
    (hdigits : ∀ d ∈ ds, (hexDigit? d).getD 0 < base) :
    value base ds < base ^ ds.length := by
  induction ds using List.reverseRecOn with
  | nil =>
      simp
  | append_singleton ds d ih =>
      have hrest : value base ds < base ^ ds.length := by
        apply ih
        intro x hx
        exact hdigits x (List.mem_append_left [d] hx)
      have hlast : (hexDigit? d).getD 0 < base :=
        hdigits d (List.mem_append_right ds (List.mem_singleton.mpr rfl))
      rw [value_append_singleton, List.length_append, List.length_singleton, Nat.pow_succ]
      calc value base ds * base + (hexDigit? d).getD 0
          < value base ds * base + base := Nat.add_lt_add_left hlast _
        _ = (value base ds + 1) * base := by rw [Nat.add_mul, Nat.one_mul]
        _ ≤ base ^ ds.length * base := Nat.mul_le_mul_right base hrest

theorem value_hex_lt {ds : Text} (hdigits : ∀ d ∈ ds, isHexDigit d = true) :
    value 16 ds < 16 ^ ds.length := by
  apply value_lt_pow
  intro d hd
  rcases Option.isSome_iff_exists.mp (hdigits d hd) with ⟨n, hn⟩
  rw [hn]
  exact hexDigit?_lt hn

theorem value_octal_lt {ds : Text} (hdigits : ∀ d ∈ ds, isOctalDigit d = true) :
    value 8 ds < 8 ^ ds.length := by
  apply value_lt_pow
  intro d hd
  rcases Option.isSome_iff_exists.mp (hdigits d hd) with ⟨n, hn⟩
  rw [hexDigit?_of_octalDigit? hn]
  exact octalDigit?_lt hn

/-!
## The digits written
-/

theorem exists_digit_of_mem_fixed {base width n : Nat} {d : CodePoint} (hpos : 0 < base)
    (hd : d ∈ fixed base width n) : ∃ m < base, d = digit m := by
  induction width generalizing n with
  | zero =>
      cases hd
  | succ width ih =>
      rw [fixed] at hd
      rcases List.mem_append.mp hd with hfront | hlast
      · exact ih hfront
      · exists n % base
        exact ⟨Nat.mod_lt n hpos, List.mem_singleton.mp hlast⟩

theorem fixed_zero (base width : Nat) : fixed base width 0 = List.replicate width (digit 0) := by
  induction width with
  | zero =>
      rfl
  | succ width ih =>
      rw [fixed, Nat.zero_div, Nat.zero_mod, ih, List.replicate_succ']

/-- Padded to a width that the number fits, the digits are the number's lowest ones. -/
theorem padded_eq_fixed {base width n : Nat} (hbase : 1 < base) (hwidth : 0 < width)
    (hn : n < base ^ width) : padded base width n = fixed base width n := by
  induction width generalizing n with
  | zero =>
      cases hwidth
  | succ width ih =>
      rw [padded, digits, Nat.toDigits_eq_if hbase, fixed]
      split
      · next hlt =>
          rw [Nat.div_eq_of_lt hlt, Nat.mod_eq_of_lt hlt, fixed_zero]
          rfl
      · next hge =>
          have hrest : n / base < base ^ width := by
            rw [Nat.pow_succ] at hn
            exact Nat.div_lt_of_lt_mul (by rwa [Nat.mul_comm])
          have hpos : 0 < width := by
            rw [Nat.pos_iff_ne_zero]
            intro hzero
            rw [hzero] at hn
            lia
          rw [← ih hpos hrest, padded, digits, List.map_append, List.map_singleton,
            List.leftpad, List.leftpad, List.length_append, List.length_singleton,
            Nat.add_sub_add_right, List.append_assoc]
          rfl

theorem isHexDigit_of_mem_fixed {width n : Nat} {d : CodePoint} (hd : d ∈ fixed 16 width n) :
    isHexDigit d = true := by
  rcases exists_digit_of_mem_fixed (by decide) hd with ⟨m, hm, rfl⟩
  rw [isHexDigit, hexDigit?_digit hm]
  rfl

theorem isOctalDigit_of_mem_fixed {width n : Nat} {d : CodePoint} (hd : d ∈ fixed 8 width n) :
    isOctalDigit d = true := by
  rcases exists_digit_of_mem_fixed (by decide) hd with ⟨m, hm, rfl⟩
  rw [isOctalDigit, octalDigit?_digit hm]
  rfl

end Numeral
end QuotedLiteral
