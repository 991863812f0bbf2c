import Mathlib.Data.List.Basic
import Mathlib.Logic.Relation
import QuotedLiteral.Dialect.Spec
import QuotedLiteral.Proofs.Mask

/-!
# Specs as unions

A spec behind another one, with a separator between, stands for the union of the
two, and the first of them that is unknown makes the whole unknown.  What a spec
stands for is therefore settled by which names it has: their order and number, the
separators between them, blank items and the white space around items are all one.
-/

namespace QuotedLiteral

/-!
# White space around a text
-/

/-- There is no white space between two numbers that all ranges of it keep clear of. -/
theorem CodePoint.isWhitespace_eq_false {low high : Nat}
    (hclear : ∀ range ∈ whitespaceRanges, range.2 < low ∨ high < range.1) {c : CodePoint}
    (hlow : low ≤ c.value) (hhigh : c.value ≤ high) : c.isWhitespace = false := by
  rw [isWhitespace, within, List.any_eq_false]
  intro range hrange
  rw [Bool.and_eq_true, decide_eq_true_eq, decide_eq_true_eq]
  have hout := hclear range hrange
  lia

namespace Text

/-- Nothing but white space. -/
def IsBlank (t : Text) : Prop :=
  ∀ c ∈ t, c.isWhitespace = true

instance (t : Text) : Decidable t.IsBlank :=
  inferInstanceAs (Decidable (∀ c ∈ t, c.isWhitespace = true))

variable {before after t : Text}

theorem stripLeft_append_of_isBlank (hbefore : before.IsBlank) (t : Text) :
    stripLeft (before ++ t) = stripLeft t :=
  List.dropWhile_append_of_pos hbefore

theorem stripRight_append_of_isBlank (hafter : after.IsBlank) (t : Text) :
    stripRight (t ++ after) = stripRight t := by
  have hreverse : IsBlank after.reverse := by
    intro c hc
    exact hafter c (List.mem_reverse.mp hc)
  rw [stripRight, List.reverse_append, stripLeft_append_of_isBlank hreverse, stripRight]

theorem strip_append_of_isBlank (hafter : after.IsBlank) (t : Text) :
    strip (t ++ after) = strip t := by
  have hnothing : stripLeft after = [] := by
    have hdropped := stripLeft_append_of_isBlank hafter []
    rw [List.append_nil] at hdropped
    exact hdropped
  rw [strip, strip, stripLeft, List.dropWhile_append]
  split
  · next hempty =>
      rw [List.isEmpty_iff] at hempty
      change stripRight (stripLeft after) = stripRight (t.dropWhile _)
      rw [hnothing, hempty]
  · exact stripRight_append_of_isBlank hafter _

theorem strip_padded (hbefore : before.IsBlank) (hafter : after.IsBlank) (t : Text) :
    strip (before ++ t ++ after) = strip t := by
  rw [strip_append_of_isBlank hafter, strip, stripLeft_append_of_isBlank hbefore, strip]

theorem strip_of_isBlank (ht : t.IsBlank) : strip t = [] := by
  have hstrip := strip_append_of_isBlank ht []
  rw [List.nil_append] at hstrip
  exact hstrip

theorem strip_eq_self (ht : ∀ c ∈ t, c.isWhitespace = false) : strip t = t := by
  have hleft : ∀ s : Text, (∀ c ∈ s, c.isWhitespace = false) → stripLeft s = s := by
    intro s hs
    cases s with
    | nil =>
        rfl
    | cons c rest =>
        exact List.dropWhile_cons_of_neg (Bool.eq_false_iff.mp (hs c List.mem_cons_self))
  have hreverse : ∀ c ∈ t.reverse, c.isWhitespace = false := by
    intro c hc
    exact ht c (List.mem_reverse.mp hc)
  rw [strip, hleft t ht, stripRight, hleft _ hreverse, List.reverse_reverse]

theorem exists_stripLeft (t : Text) : ∃ before, before.IsBlank ∧ t = before ++ stripLeft t :=
  ⟨t.takeWhile CodePoint.isWhitespace, List.all_eq_true.mp List.all_takeWhile,
    List.takeWhile_append_dropWhile.symm⟩

theorem exists_strip (t : Text) :
    ∃ before after, before.IsBlank ∧ after.IsBlank ∧ t = before ++ strip t ++ after := by
  rcases exists_stripLeft t with ⟨before, hbefore, ht⟩
  rcases exists_stripLeft (stripLeft t).reverse with ⟨after, hafter, hreverse⟩
  have hrest : stripLeft t = strip t ++ after.reverse := by
    rw [← List.reverse_reverse (stripLeft t), hreverse, List.reverse_append]
    rfl
  refine ⟨before, after.reverse, hbefore, ?_, ?_⟩
  · intro c hc
    exact hafter c (List.mem_reverse.mp hc)
  · rw [List.append_assoc, ← hrest]
    exact ht

end Text

namespace Dialect
namespace Spec

/-!
# The mask of a list of items
-/

theorem itemMask?_nil : itemMask? [] = some 0 := by
  rfl

theorem itemMask?_lt {item : Text} {mask : Nat} (hmask : itemMask? item = some mask) :
    mask < 2 ^ 16 := by
  rw [itemMask?] at hmask
  split at hmask
  · cases hmask
    decide
  · split at hmask
    · cases hmask
      exact maskOf_lt _
    · rcases Option.map_eq_some_iff.mp hmask with ⟨f, -, rfl⟩
      exact f.value_lt

theorem unite_cons_eq_ok {item : Text} {rest : List Text} {mask : Nat}
    (hunite : unite (item :: rest) = .ok mask) :
    ∃ first more, itemMask? item = some first ∧ unite rest = .ok more ∧ mask = first ||| more := by
  rw [unite] at hunite
  cases hmask : itemMask? item with
  | none =>
      rw [hmask] at hunite
      cases hunite
  | some first =>
      rw [hmask] at hunite
      cases hrest : unite rest with
      | error unknown =>
          rw [hrest] at hunite
          cases hunite
      | ok more =>
          rw [hrest] at hunite
          cases hunite
          exact ⟨first, more, rfl, rfl, rfl⟩

theorem unite_cons_eq_error {item : Text} {rest : List Text} {u : UnknownName}
    (hunite : unite (item :: rest) = .error u) :
    itemMask? item = none ∧ u.item = item ∨
      (∃ first, itemMask? item = some first) ∧ unite rest = .error u := by
  rw [unite] at hunite
  cases hmask : itemMask? item with
  | none =>
      rw [hmask] at hunite
      cases hunite
      exact Or.inl ⟨rfl, rfl⟩
  | some first =>
      rw [hmask] at hunite
      cases hrest : unite rest with
      | ok more =>
          rw [hrest] at hunite
          cases hunite
      | error unknown =>
          rw [hrest] at hunite
          cases hunite
          exact Or.inr ⟨⟨first, rfl⟩, rfl⟩

theorem unknown_of_unite {items : List Text} {u : UnknownName}
    (hunite : unite items = .error u) : u.item ∈ items ∧ itemMask? u.item = none := by
  induction items with
  | nil =>
      cases hunite
  | cons item rest ih =>
      rcases unite_cons_eq_error hunite with ⟨hnone, hitem⟩ | ⟨-, hrest⟩
      · rw [hitem]
        exact ⟨List.mem_cons_self, hnone⟩
      · rcases ih hrest with ⟨hmem, hnone⟩
        exact ⟨List.mem_cons_of_mem item hmem, hnone⟩

/-- The bit of the union comes from one of the items. -/
def HasBit (items : List Text) (k : Nat) : Prop :=
  ∃ item ∈ items, ∃ mask, itemMask? item = some mask ∧ mask.testBit k = true

theorem not_hasBit_nil (k : Nat) : ¬HasBit [] k := by
  intro hbit
  rcases hbit with ⟨item, hitem, -⟩
  cases hitem

theorem hasBit_cons {item : Text} {rest : List Text} {first : Nat}
    (hfirst : itemMask? item = some first) (k : Nat) :
    HasBit (item :: rest) k ↔ first.testBit k = true ∨ HasBit rest k := by
  simp only [HasBit, List.exists_mem_cons_iff, hfirst, Option.some.injEq, exists_eq_left']

/-- A union has the bits of its items, all of which are known. -/
theorem known_of_unite {items : List Text} {mask : Nat} (hunite : unite items = .ok mask) :
    mask < 2 ^ 16 ∧ (∀ item ∈ items, itemMask? item ≠ none) ∧
      ∀ k, mask.testBit k = true ↔ HasBit items k := by
  induction items generalizing mask with
  | nil =>
      cases hunite
      refine ⟨by decide, ?_, ?_⟩
      · intro item hitem
        cases hitem
      · intro k
        rw [Nat.zero_testBit]
        exact iff_of_false Bool.false_ne_true (not_hasBit_nil k)
  | cons item rest ih =>
      rcases unite_cons_eq_ok hunite with ⟨first, more, hfirst, hrest, rfl⟩
      rcases ih hrest with ⟨hlt, hknown, hbits⟩
      refine ⟨Nat.or_lt_two_pow (itemMask?_lt hfirst) hlt, ?_, ?_⟩
      · refine List.forall_mem_cons.mpr ⟨?_, hknown⟩
        rw [hfirst]
        exact Option.some_ne_none first
      · intro k
        rw [Nat.testBit_or, Bool.or_eq_true, hbits k, hasBit_cons hfirst]

/-- Lists of items with the same names that are not blank have the same union. -/
theorem unite_eq_ok_of_same_items {xs ys : List Text} {mask : Nat}
    (hsame : ∀ item, item ≠ [] → (item ∈ xs ↔ item ∈ ys)) (hunite : unite xs = .ok mask) :
    unite ys = .ok mask := by
  rcases known_of_unite hunite with ⟨-, hknown, hbits⟩
  cases hys : unite ys with
  | error u =>
      rcases unknown_of_unite hys with ⟨hmem, hnone⟩
      have hne : u.item ≠ [] := by
        intro hnil
        rw [hnil, itemMask?_nil] at hnone
        cases hnone
      exact absurd hnone (hknown u.item ((hsame u.item hne).mpr hmem))
  | ok mask' =>
      have hbits' := (known_of_unite hys).2.2
      have hiff : ∀ k, HasBit xs k ↔ HasBit ys k := by
        intro k
        apply exists_congr
        intro item
        by_cases hitem : item = []
        · -- a blank item has no bits, wherever it stands
          rw [hitem, itemMask?_nil]
          simp
        · rw [hsame item hitem]
      rw [Except.ok.injEq]
      apply Nat.eq_of_testBit_eq
      intro k
      rw [Bool.eq_iff_iff, hbits k, hbits' k, hiff k]

/-!
# Specs written differently
-/

theorem items_append_cons {c : CodePoint} (hc : isSeparator c = true) (a b : Text) :
    items (a ++ c :: b) = items a ++ items b := by
  rw [items, List.splitOnP_append_cons a b hc, List.map_append, items, items]

/-- What stands between the separators of a spec. -/
def parts (spec : Text) : List Text :=
  spec.splitOnP isSeparator

theorem items_eq_map_parts (spec : Text) : items spec = (parts spec).map Text.strip :=
  rfl

theorem flatten_parts (spec : Text) :
    (parts spec).flatten = spec.filter fun c => !isSeparator c := by
  rw [parts]
  induction spec with
  | nil =>
      rfl
  | cons c rest ih =>
      rw [List.splitOnP_cons_eq_if_modifyHead]
      cases hc : isSeparator c with
      | true =>
          rw [if_pos rfl, List.flatten_cons, List.nil_append, ih, List.filter_cons_of_neg]
          rw [hc]
          exact Bool.false_ne_true
      | false =>
          rw [if_neg Bool.false_ne_true, List.filter_cons_of_pos (by rw [hc]; rfl), ← ih]
          cases hparts : rest.splitOnP isSeparator with
          | nil =>
              exact absurd hparts (List.splitOnP_ne_nil _ rest)
          | cons part more =>
              rfl

/-- A character of a spec is a separator, white space or a character of an item. -/
theorem mem_spec {spec : Text} {c : CodePoint} (hc : c ∈ spec) :
    isSeparator c = true ∨ c.isWhitespace = true ∨ ∃ item ∈ items spec, c ∈ item := by
  cases hseparator : isSeparator c with
  | true =>
      exact Or.inl rfl
  | false =>
      have hmem : c ∈ (parts spec).flatten := by
        rw [flatten_parts, List.mem_filter, hseparator]
        exact ⟨hc, rfl⟩
      rcases List.mem_flatten.mp hmem with ⟨part, hpart, hinside⟩
      rcases Text.exists_strip part with ⟨before, after, hbefore, hafter, hwhole⟩
      rw [hwhole] at hinside
      rcases List.mem_append.mp hinside with hfront | hback
      · rcases List.mem_append.mp hfront with hblank | hitem
        · exact Or.inr (Or.inl (hbefore c hblank))
        · exact Or.inr (Or.inr ⟨_, List.mem_map_of_mem hpart, hitem⟩)
      · exact Or.inr (Or.inl (hafter c hback))

theorem mem_spec_of_mem_item {spec item : Text} (hitem : item ∈ items spec) {c : CodePoint}
    (hc : c ∈ item) : c ∈ spec := by
  rcases List.mem_map.mp hitem with ⟨part, hpart, rfl⟩
  rcases Text.exists_strip part with ⟨before, after, -, -, hwhole⟩
  have hmem : c ∈ (parts spec).flatten := by
    refine List.mem_flatten.mpr ⟨part, hpart, ?_⟩
    rw [hwhole]
    exact List.mem_append_left after (List.mem_append_right before hc)
  rw [flatten_parts] at hmem
  exact (List.mem_filter.mp hmem).1

/-- The second spec is the first one with another separator at a place, its items in another order,
an item repeated, a blank item put in, or white space put around an item. -/
inductive Variant : Text → Text → Prop where
  | separator (front back : Text) {c c' : CodePoint} (hc : isSeparator c = true)
      (hc' : isSeparator c' = true) : Variant (front ++ c :: back) (front ++ c' :: back)
  | permuted {s t : Text} (hparts : (parts s).Perm (parts t)) : Variant s t
  | repeated {s t x : Text} {front back : List Text} (hs : parts s = front ++ back)
      (ht : parts t = front ++ x :: back) (hx : x ∈ parts s) : Variant s t
  | blank {s t x : Text} {front back : List Text} (hs : parts s = front ++ back)
      (ht : parts t = front ++ x :: back) (hx : x.IsBlank) : Variant s t
  | padded {s t x before after : Text} {front back : List Text} (hs : parts s = front ++ x :: back)
      (ht : parts t = front ++ (before ++ x ++ after) :: back) (hbefore : before.IsBlank)
      (hafter : after.IsBlank) : Variant s t

theorem Variant.same_items {s t : Text} (hvariant : Variant s t) {item : Text} (hne : item ≠ []) :
    item ∈ items s ↔ item ∈ items t := by
  cases hvariant with
  | separator front back hc hc' =>
      rw [items_append_cons hc, items_append_cons hc']
  | permuted hparts =>
      exact (hparts.map Text.strip).mem_iff
  | repeated hs ht hx =>
      rw [hs] at hx
      rw [items_eq_map_parts, items_eq_map_parts, hs, ht, List.perm_middle.map _ |>.mem_iff,
        List.map_cons, List.mem_cons]
      constructor
      · exact Or.inr
      · rintro (rfl | hmem)
        · exact List.mem_map_of_mem hx
        · exact hmem
  | blank hs ht hx =>
      rw [items_eq_map_parts, items_eq_map_parts, hs, ht, List.perm_middle.map _ |>.mem_iff,
        List.map_cons, List.mem_cons, Text.strip_of_isBlank hx, or_iff_right hne]
  | padded hs ht hbefore hafter =>
      rw [items_eq_map_parts, items_eq_map_parts, hs, ht, List.map_append, List.map_append,
        List.map_cons, List.map_cons, Text.strip_padded hbefore hafter]

theorem same_items_of_variants {s t : Text} (hvariants : Relation.EqvGen Variant s t)
    {item : Text} (hne : item ≠ []) : item ∈ items s ↔ item ∈ items t := by
  induction hvariants with
  | rel s t hvariant =>
      exact hvariant.same_items hne
  | refl s =>
      rfl
  | symm s t _ ih =>
      exact ih.symm
  | trans s t u _ _ ih₁ ih₂ =>
      exact ih₁.trans ih₂

end Spec

/-!
# The union theorem
-/

theorem ofSpec_eq_ok_iff {spec : Text} {d : Dialect} :
    ofSpec spec = .ok d ↔ ∃ mask : Nat, Spec.unite (Spec.items spec) = .ok mask ∧ d = ⟨mask⟩ := by
  rw [ofSpec]
  cases Spec.unite (Spec.items spec) with
  | error u =>
      constructor
      · intro hspec
        cases hspec
      · intro hmask
        rcases hmask with ⟨mask, hunite, -⟩
        cases hunite
  | ok mask =>
      simp [Except.map, eq_comm]

theorem ofSpec_eq_error_iff {spec : Text} {u : UnknownName} :
    ofSpec spec = .error u ↔ Spec.unite (Spec.items spec) = .error u := by
  rw [ofSpec]
  cases Spec.unite (Spec.items spec) with
  | error unknown =>
      constructor <;> intro h <;> cases h <;> rfl
  | ok mask =>
      exact iff_of_false nofun nofun

theorem ofSpec_eq_ok_of_variants {s t : Text} {d : Dialect}
    (hvariants : Relation.EqvGen Spec.Variant s t) (hs : ofSpec s = .ok d) : ofSpec t = .ok d := by
  rcases ofSpec_eq_ok_iff.mp hs with ⟨mask, hunite, hd⟩
  refine ofSpec_eq_ok_iff.mpr ⟨mask, ?_, hd⟩
  exact Spec.unite_eq_ok_of_same_items (fun _ => Spec.same_items_of_variants hvariants) hunite

/-- Two specs joined by a separator stand for the union of what they stand for, and the first of
them that is not accepted says why the whole is not.  Specs that are variants of each other are
accepted alike and stand for the same dialect, and no dialect of a spec has a bit that is no
flag. -/
theorem ofSpec_union :
    (∀ (a b : Text) (c : CodePoint), c = ',' ∨ c = '+' →
      (∀ d e, ofSpec a = .ok d → ofSpec b = .ok e →
        ∃ m n : Nat, d.mask = m ∧ e.mask = n ∧
          ofSpec (a ++ c :: b) = .ok ⟨(m ||| n : Nat)⟩) ∧
      (∀ u, ofSpec a = .error u → ofSpec (a ++ c :: b) = .error u) ∧
      ∀ d u, ofSpec a = .ok d → ofSpec b = .error u → ofSpec (a ++ c :: b) = .error u) ∧
    (∀ s t, Relation.EqvGen Spec.Variant s t →
      ∀ d, ofSpec s = .ok d ↔ ofSpec t = .ok d) ∧
    ∀ t d, ofSpec t = .ok d → 0 ≤ d.mask ∧ d.mask ≤ 0xFFFF := by
  refine ⟨?_, ?_, ?_⟩
  · intro a b c hc
    have hseparator : Spec.isSeparator c = true := by
      rw [Spec.isSeparator, Bool.or_eq_true, decide_eq_true_eq, decide_eq_true_eq]
      exact hc
    have hitems := Spec.items_append_cons hseparator a b
    refine ⟨?_, ?_, ?_⟩
    · intro d e ha hb
      rcases ofSpec_eq_ok_iff.mp ha with ⟨m, hm, rfl⟩
      rcases ofSpec_eq_ok_iff.mp hb with ⟨n, hn, rfl⟩
      refine ⟨m, n, rfl, rfl, ofSpec_eq_ok_iff.mpr ⟨m ||| n, ?_, rfl⟩⟩
      rw [hitems, Spec.unite_append, hm, hn]
      rfl
    · intro u ha
      rw [ofSpec_eq_error_iff, hitems, Spec.unite_append, ofSpec_eq_error_iff.mp ha]
    · intro d u ha hb
      rcases ofSpec_eq_ok_iff.mp ha with ⟨m, hm, -⟩
      rw [ofSpec_eq_error_iff, hitems, Spec.unite_append, hm, ofSpec_eq_error_iff.mp hb]
      rfl
  · intro s t hvariants d
    constructor
    · exact ofSpec_eq_ok_of_variants hvariants
    · exact ofSpec_eq_ok_of_variants (Relation.EqvGen.symm s t hvariants)
  · intro t d hd
    rcases ofSpec_eq_ok_iff.mp hd with ⟨mask, hunite, rfl⟩
    have hlt := (Spec.known_of_unite hunite).1
    constructor
    · exact Int.natCast_nonneg mask
    · lia

/-- Two names change places, one gets white space, and the comma becomes a plus sign.  An unknown
name in front of another one is the one that is reported. -/
theorem ofSpec_union_permissive :
    ofSpec (Text.ofString "gcc,unicode") = .ok ⟨0xFFFF⟩ ∧
      Relation.EqvGen Spec.Variant (Text.ofString "gcc,unicode")
        (Text.ofString "unicode+ \tgcc") ∧
      ofSpec (Text.ofString "unicode+ \tgcc") = .ok ⟨0xFFFF⟩ ∧
      ofSpec (Text.ofString "hexa,gcc+octa") = .error ⟨Text.ofString "hexa"⟩ := by
  have hspec : ofSpec (Text.ofString "gcc,unicode") = .ok ⟨0xFFFF⟩ := by
    decide
  have hunknown : ofSpec (Text.ofString "hexa") = .error ⟨Text.ofString "hexa"⟩ := by
    decide
  have hpermuted :
      Spec.Variant (Text.ofString "gcc,unicode") (Text.ofString "unicode,gcc") :=
    .permuted (by decide)
  have hbare : Spec.parts (Text.ofString "unicode,gcc") =
      [Text.ofString "unicode"] ++ Text.ofString "gcc" :: [] := by
    decide
  have hspaced : Spec.parts (Text.ofString "unicode, \tgcc") =
      [Text.ofString "unicode"] ++ (Text.ofString " \t" ++ Text.ofString "gcc" ++ []) :: [] := by
    decide
  have hpadded : Spec.Variant (Text.ofString "unicode,gcc") (Text.ofString "unicode, \tgcc") :=
    .padded hbare hspaced (by decide) (by decide)
  have hseparator :
      Spec.Variant (Text.ofString "unicode, \tgcc") (Text.ofString "unicode+ \tgcc") :=
    .separator (Text.ofString "unicode") (Text.ofString " \tgcc") (by decide) (by decide)
  have hvariants := Relation.EqvGen.trans _ _ _ (.rel _ _ hpermuted)
    (.trans _ _ _ (.rel _ _ hpadded) (.rel _ _ hseparator))
  rcases ofSpec_union with ⟨hunion, hsame, -⟩
  refine ⟨hspec, hvariants, (hsame _ _ hvariants _).mp hspec, ?_⟩
  exact (hunion (Text.ofString "hexa") (Text.ofString "gcc+octa") ',' (Or.inl rfl)).2.1 _ hunknown

end Dialect
end QuotedLiteral
