import QuotedLiteral.Proofs.LetterCase
import QuotedLiteral.Proofs.SameFlags
import QuotedLiteral.Proofs.SpecUnion

/-!
# Dialects stored by name

The names of a dialect's flags are a spec of the dialect, in any order and letter
case.  What it stands for is the number without the bits that are no flags, and
nothing that is read, written or listed tells the two apart.
-/

namespace QuotedLiteral

/-!
# Letters in either case
-/

namespace CodePoint

/-- The second character is the first one, or the capital of that small letter of ASCII. -/
def InEitherCase (c c' : CodePoint) : Prop :=
  c' = c ∨ 0x61 ≤ c.value ∧ c.value ≤ 0x7A ∧ c'.value + 0x20 = c.value

instance (c c' : CodePoint) : Decidable (c.InEitherCase c') :=
  inferInstanceAs (Decidable
    (c' = c ∨ 0x61 ≤ c.value ∧ c.value ≤ 0x7A ∧ c'.value + 0x20 = c.value))

theorem lower_of_inEitherCase {c c' : CodePoint} (hcase : c.InEitherCase c') :
    c'.lower = c.lower := by
  rcases hcase with rfl | ⟨hlow, hhigh, hcapital⟩
  · rfl
  · rw [lower, lower, if_pos (by lia), if_neg (by lia), hcapital, ofNat_value,
      image_of_ascii (by decide) (by lia)]

end CodePoint

/-- The word is the text, with small letters of ASCII turned into capitals at will. -/
def Text.InEitherCase : Text → Text → Prop :=
  List.Forall₂ CodePoint.InEitherCase

theorem Text.lower_of_inEitherCase {t word : Text} (hcase : t.InEitherCase word) :
    lower word = lower t := by
  induction hcase with
  | nil =>
      rfl
  | cons hc hlater ih =>
      rw [lower, lower, List.flatMap_cons, List.flatMap_cons,
        CodePoint.lower_of_inEitherCase hc]
      exact congrArg _ ih

/-!
# Names
-/

/-- The letters of both cases and the underscore. -/
def CodePoint.InName (c : CodePoint) : Prop :=
  0x41 ≤ c.value ∧ c.value ≤ 0x5A ∨ c.value = 0x5F ∨ 0x61 ≤ c.value ∧ c.value ≤ 0x7A

instance (c : CodePoint) : Decidable c.InName :=
  inferInstanceAs (Decidable
    (0x41 ≤ c.value ∧ c.value ≤ 0x5A ∨ c.value = 0x5F ∨ 0x61 ≤ c.value ∧ c.value ≤ 0x7A))

namespace CodePoint.InName

variable {c : CodePoint}

theorem isSeparator_eq_false (hc : c.InName) : Dialect.Spec.isSeparator c = false := by
  rw [Bool.eq_false_iff]
  intro hseparator
  rw [Dialect.Spec.isSeparator, Bool.or_eq_true, decide_eq_true_eq, decide_eq_true_eq]
    at hseparator
  rcases hseparator with rfl | rfl
  · exact absurd hc (by decide)
  · exact absurd hc (by decide)

theorem isWhitespace_eq_false (hc : c.InName) : c.isWhitespace = false := by
  have hbounds : 0x41 ≤ c.value ∧ c.value ≤ 0x7A := by
    unfold InName at hc
    lia
  exact CodePoint.isWhitespace_eq_false (by decide) hbounds.1 hbounds.2

theorem of_inEitherCase {c' : CodePoint} (hc : c.InName) (hcase : c.InEitherCase c') :
    c'.InName := by
  rcases hcase with rfl | ⟨hlow, hhigh, hcapital⟩
  · exact hc
  · unfold InName
    lia

end CodePoint.InName

theorem Text.inName_of_inEitherCase {t word : Text} (ht : ∀ c ∈ t, c.InName)
    (hcase : t.InEitherCase word) : ∀ c ∈ word, c.InName := by
  induction hcase with
  | nil =>
      exact ht
  | cons hc hlater ih =>
      rcases List.forall_mem_cons.mp ht with ⟨hfirst, hrest⟩
      exact List.forall_mem_cons.mpr ⟨hfirst.of_inEitherCase hc, ih hrest⟩

namespace Flag

/-- The word is the flag's name in any letter case. -/
def IsNamedBy (f : Flag) (word : Text) : Prop :=
  f.name.InEitherCase word

theorem inName_of_mem_name (f : Flag) : ∀ c ∈ f.name, c.InName := by
  cases f <;> decide

end Flag

namespace Dialect
namespace Spec

theorem itemMask?_name (f : Flag) : itemMask? f.name = some f.value := by
  cases f <;> decide

theorem itemMask?_of_lower_eq {s t : Text} (h : Text.lower s = Text.lower t) :
    itemMask? s = itemMask? t := by
  rw [itemMask?, itemMask?, h]

theorem unite_items_of_isNamedBy {f : Flag} {word : Text} (hnamed : f.IsNamedBy word) :
    unite (items word) = .ok f.value := by
  have hname := Text.inName_of_inEitherCase f.inName_of_mem_name hnamed
  have hstrip : Text.strip word = word :=
    Text.strip_eq_self fun c hc => (hname c hc).isWhitespace_eq_false
  have hitems : items word = [word] := by
    rw [items, List.splitOnP_eq_singleton fun c hc => (hname c hc).isSeparator_eq_false,
      List.map_singleton, hstrip]
  have hmask : itemMask? word = some f.value := by
    rw [itemMask?_of_lower_eq (Text.lower_of_inEitherCase hnamed), itemMask?_name]
  rw [hitems, unite, hmask, unite]
  exact congrArg Except.ok (Nat.or_zero f.value)

/-!
# Lists of names
-/

/-- The text names the flags one after the other, with a separator between every two. -/
inductive Lists : List Flag → Text → Prop where
  | nothing : Lists [] []
  | one {f : Flag} {word : Text} (hnamed : f.IsNamedBy word) : Lists [f] word
  | more {f g : Flag} {flags : List Flag} {word rest : Text} {c : CodePoint}
      (hnamed : f.IsNamedBy word) (hc : isSeparator c = true) (hrest : Lists (g :: flags) rest) :
      Lists (f :: g :: flags) (word ++ c :: rest)

theorem Lists.unite_items {flags : List Flag} {spec : Text} (hlists : Lists flags spec) :
    unite (items spec) = .ok (maskOf flags) := by
  induction hlists with
  | nothing =>
      rfl
  | @one f word hnamed =>
      rw [unite_items_of_isNamedBy hnamed]
      exact congrArg Except.ok (Nat.or_zero f.value).symm
  | more hnamed hc hrest ih =>
      rw [items_append_cons hc, unite_append, unite_items_of_isNamedBy hnamed, ih]
      rfl

/-- Names joined by a separator are a list. -/
theorem lists_join {c : CodePoint} (hc : isSeparator c = true) {flags : List Flag}
    {words : List Text} (hnamed : List.Forall₂ Flag.IsNamedBy flags words) :
    Lists flags (Text.join [c] words) := by
  induction hnamed with
  | nil =>
      exact Lists.nothing
  | @cons f word flags words hfirst hlater ih =>
      cases hlater with
      | nil =>
          rw [Text.join, List.intercalate_singleton]
          exact Lists.one hfirst
      | @cons g word' flags words hsecond hlater =>
          rw [Text.join, List.intercalate_cons_cons, List.append_assoc]
          exact Lists.more hfirst hc ih

end Spec

/-!
# The theorem of names
-/

theorem ofSpec_of_lists {flags : List Flag} {spec : Text} (hlists : Spec.Lists flags spec) :
    ofSpec spec = .ok (ofFlags flags) :=
  ofSpec_eq_ok_iff.mpr ⟨maskOf flags, hlists.unite_items, rfl⟩

theorem ofSpec_preset (p : Preset) : ofSpec p.name = .ok p.dialect := by
  cases p <;> decide

/-- The flags of a dialect, named in any order and letter case, are a spec that is accepted.  Its
dialect has the sixteen low bits of the first one's number and the same flags, and reads and writes
the same.  The name of a dialect that is a preset stands for just that dialect. -/
theorem ofSpec_names (d : Dialect) :
    (∀ flags spec, flags.Perm d.flags → Spec.Lists flags spec →
      ∃ e, ofSpec spec = .ok e ∧ e.mask = d.mask % 2 ^ 16 ∧ e.flags = d.flags ∧
        (∀ source index, parse e source index = parse d source index) ∧
        ∀ asciiOnly raw, format asciiOnly e raw = format asciiOnly d raw) ∧
    ∀ p, d.preset? = some p → ofSpec p.name = .ok d := by
  constructor
  · intro flags spec hperm hlists
    have hflags : ∀ f, f ∈ flags ↔ d.has f = true := by
      intro f
      rw [hperm.mem_iff, mem_flags_iff]
    have hsame := has_ofFlags hflags
    refine ⟨ofFlags flags, ofSpec_of_lists hlists, maskOf_eq_emod hflags, ?_, parse_congr hsame,
      format_congr hsame⟩
    rw [Dialect.flags, Dialect.flags]
    exact List.filter_congr fun f _ => hsame f
  · intro p hpreset
    have hdialect := List.find?_some hpreset
    rw [decide_eq_true_eq] at hdialect
    rw [← hdialect]
    exact ofSpec_preset p

/-- A negative number with three flags among its low bits, named in another order and case. -/
theorem ofSpec_names_negative :
    Dialect.flags ⟨-0xFEFD⟩ = [.bell, .backspace, .hex] ∧
      ofSpec (Text.ofString "Hex+BEL+backspacE") = .ok ⟨0x103⟩ ∧
      Dialect.flags ⟨0x103⟩ = [.bell, .backspace, .hex] ∧
      parse ⟨0x103⟩ [.doubleQuote, .backslash, 'n', .doubleQuote] 0 =
        parse ⟨-0xFEFD⟩ [.doubleQuote, .backslash, 'n', .doubleQuote] 0 := by
  have hlisted : Dialect.flags ⟨-0xFEFD⟩ = [.bell, .backspace, .hex] := by
    decide
  have hnamed : List.Forall₂ Flag.IsNamedBy [.hex, .bell, .backspace]
      (["Hex", "BEL", "backspacE"].map Text.ofString) := by
    unfold Flag.IsNamedBy Text.InEitherCase
    decide
  have hlists : Spec.Lists [.hex, .bell, .backspace] (Text.ofString "Hex+BEL+backspacE") :=
    Spec.lists_join (c := '+') (by decide) hnamed
  have hspec : ofSpec (Text.ofString "Hex+BEL+backspacE") = .ok ⟨0x103⟩ := by
    decide
  rcases (ofSpec_names ⟨-0xFEFD⟩).1 _ _ (by rw [hlisted]; decide) hlists with
    ⟨e, he, -, hflags, hparse, -⟩
  rw [hspec] at he
  cases he
  exact ⟨hlisted, hspec, hflags.trans hlisted, hparse _ _⟩

end Dialect
end QuotedLiteral
