import Mathlib.Data.Nat.Basic
import QuotedLiteral.Fault
import QuotedLiteral.Proofs.Numeral

/-!
# Printable messages

Numerals are plain ASCII, and whatever a text holds, its quotation is printable.
Hence a message that is put together from fixed words, numerals and quotations
stands on one line.
-/

namespace QuotedLiteral

/-- The characters of ASCII that are printed, from the space to the tilde. -/
def CodePoint.IsPlain (c : CodePoint) : Prop :=
  0x20 ≤ c.value ∧ c.value < 0x7F

instance (c : CodePoint) : Decidable c.IsPlain :=
  inferInstanceAs (Decidable (0x20 ≤ c.value ∧ c.value < 0x7F))

namespace Text

def IsPlain (t : Text) : Prop :=
  ∀ c ∈ t, c.IsPlain

def IsPrintable (t : Text) : Prop :=
  ∀ c ∈ t, c.isPrintable = true

instance (t : Text) : Decidable t.IsPlain :=
  inferInstanceAs (Decidable (∀ c ∈ t, c.IsPlain))

instance (t : Text) : Decidable t.IsPrintable :=
  inferInstanceAs (Decidable (∀ c ∈ t, c.isPrintable = true))

variable {s t : Text}

theorem isPrintable_append : IsPrintable (s ++ t) ↔ s.IsPrintable ∧ t.IsPrintable :=
  List.forall_mem_append

theorem isPrintable_cons {c : CodePoint} :
    IsPrintable (c :: t) ↔ c.isPrintable = true ∧ t.IsPrintable :=
  List.forall_mem_cons

theorem IsPlain.isPrintable (h : t.IsPlain) : t.IsPrintable := by
  intro c hc
  exact CodePoint.isPrintable_of_ascii (h c hc).1 (h c hc).2

theorem IsPrintable.lineFeed_notMem (h : t.IsPrintable) : .lineFeed ∉ t := by
  intro hmem
  have hprintable : CodePoint.lineFeed.isPrintable = true := h .lineFeed hmem
  cases hprintable

end Text

/-!
# Numerals
-/

namespace Numeral

theorem isPlain_digit {n : Nat} (hn : n < 16) : (digit n).IsPlain := by
  have hall : ∀ m < 16, (digit m).IsPlain := by
    decide
  exact hall n hn

theorem exists_digit_of_mem_digits {base n : Nat} {c : CodePoint} (hbase : 1 < base)
    (hc : c ∈ digits base n) : ∃ m < base, c = digit m := by
  induction n using Nat.strongRecOn with
  | ind n ih =>
      rw [digits, Nat.toDigits_eq_if hbase] at hc
      split at hc
      · next hlt =>
          exact ⟨n, hlt, List.mem_singleton.mp hc⟩
      · next hge =>
          rw [List.map_append] at hc
          rcases List.mem_append.mp hc with hfront | hlast
          · exact ih (n / base) (Nat.div_lt_self (by lia) hbase) hfront
          · exact ⟨n % base, Nat.mod_lt n (by lia), List.mem_singleton.mp hlast⟩

theorem isPlain_digits {base : Nat} (hbase : 1 < base) (hle : base ≤ 16) (n : Nat) :
    (digits base n).IsPlain := by
  intro c hc
  rcases exists_digit_of_mem_digits hbase hc with ⟨m, hm, rfl⟩
  exact isPlain_digit (Nat.lt_of_lt_of_le hm hle)

theorem isPlain_decimal (n : Int) : (decimal n).IsPlain := by
  have hdigits : (digits 10 n.natAbs).IsPlain := isPlain_digits (by decide) (by decide) n.natAbs
  unfold decimal
  split
  · exact List.forall_mem_cons.mpr ⟨by decide, hdigits⟩
  · exact hdigits

theorem isPlain_fixed {base : Nat} (hpos : 0 < base) (hle : base ≤ 16) (width n : Nat) :
    (fixed base width n).IsPlain := by
  intro c hc
  rcases exists_digit_of_mem_fixed hpos hc with ⟨m, hm, rfl⟩
  exact isPlain_digit (Nat.lt_of_lt_of_le hm hle)

theorem isPlain_escape (c : CodePoint) : (escape c).IsPlain := by
  have hfixed : ∀ (letter : CodePoint) (width : Nat), letter.IsPlain →
      Text.IsPlain (.backslash :: letter :: fixed 16 width c.value) := by
    intro letter width hletter
    exact List.forall_mem_cons.mpr ⟨by decide,
      List.forall_mem_cons.mpr ⟨hletter, isPlain_fixed (by decide) (by decide) width c.value⟩⟩
  unfold escape
  split
  · exact hfixed 'x' 2 (by decide)
  · split
    · exact hfixed 'u' 4 (by decide)
    · exact hfixed 'U' 8 (by decide)

/-- The digits of a numeral in base sixteen stay plain when they are written in upper case. -/
theorem isPlain_upper_padded (width n : Nat) : (Text.upper (padded 16 width n)).IsPlain := by
  intro c hc
  rcases List.mem_flatMap.mp hc with ⟨d, hd, hupper⟩
  have hdigit : ∃ m < 16, d = digit m := by
    rcases List.mem_append.mp hd with hzero | hdigits
    · exact ⟨0, by decide, List.eq_of_mem_replicate hzero⟩
    · exact exists_digit_of_mem_digits (by decide) hdigits
  rcases hdigit with ⟨m, hm, rfl⟩
  have hall : ∀ m < 16, (CodePoint.upper (digit m)).all (fun c => decide c.IsPlain) = true := by
    decide
  exact of_decide_eq_true (List.all_eq_true.mp (hall m hm) c hupper)

end Numeral

/-!
# Quotations
-/

namespace Text

theorem isPrintable_quotedCharacter {mark : CodePoint} (hmark : mark.isPrintable = true)
    (c : CodePoint) : (quotedCharacter mark c).IsPrintable := by
  unfold quotedCharacter
  split
  · next hescaped =>
      have hc : c.isPrintable = true := by
        rcases hescaped with rfl | rfl
        · exact hmark
        · decide
      exact isPrintable_cons.mpr ⟨by decide, isPrintable_cons.mpr ⟨hc, by simp [IsPrintable]⟩⟩
  · split
    · exact IsPlain.isPrintable (by decide)
    · split
      · exact IsPlain.isPrintable (by decide)
      · split
        · exact IsPlain.isPrintable (by decide)
        · split
          · next hprintable =>
              exact isPrintable_cons.mpr ⟨hprintable, by simp [IsPrintable]⟩
          · exact (Numeral.isPlain_escape c).isPrintable

theorem isPrintable_quotationMark (t : Text) : (quotationMark t).isPrintable = true := by
  unfold quotationMark
  split <;> decide

theorem isPrintable_quoted (t : Text) : t.quoted.IsPrintable := by
  have hmark := isPrintable_quotationMark t
  have hbody : IsPrintable (t.flatMap (quotedCharacter (quotationMark t))) := by
    intro c hc
    rcases List.mem_flatMap.mp hc with ⟨x, -, hx⟩
    exact isPrintable_quotedCharacter hmark x c hx
  exact isPrintable_cons.mpr ⟨hmark, isPrintable_append.mpr
    ⟨hbody, isPrintable_cons.mpr ⟨hmark, by simp [IsPrintable]⟩⟩⟩

end Text

/-!
# Diagnostics
-/

theorem Stage.isPlain_label (s : Stage) : (Text.ofString s.label).IsPlain := by
  cases s <;> decide

theorem Fault.isPrintable_message (fault : Fault) : fault.message.IsPrintable := by
  have hquoted := fun c : CodePoint => Text.isPrintable_quoted [c]
  have hindex := (Numeral.isPlain_decimal fault.index).isPrintable
  have hnumber := fun n => (Numeral.isPlain_upper_padded 4 n).isPrintable
  rcases fault with ⟨cause, index, stage⟩
  unfold message
  cases cause <;>
    simp +decide only [Text.isPrintable_append, hquoted, hindex, hnumber, CodePoint.quoted,
      and_self]

theorem Diagnostic.isPrintable_format {diagnostic : Diagnostic}
    (hmessage : diagnostic.message.IsPrintable) (hstate : diagnostic.state.IsPrintable) :
    diagnostic.format.IsPrintable := by
  have hsource := Text.isPrintable_quoted diagnostic.source
  have hindex := (Numeral.isPlain_decimal diagnostic.index).isPrintable
  unfold format
  simp +decide only [Text.isPrintable_append, hmessage, hstate, hsource, hindex, and_self]

end QuotedLiteral
