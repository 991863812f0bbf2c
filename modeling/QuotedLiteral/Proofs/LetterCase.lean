import Mathlib.Data.List.Basic
import QuotedLiteral.Dialect.Flag

/-!
# Letter case of names

A text in lower case whose upper case is a flag's label is the flag's name, but for a
few small letters beyond ASCII.  They have the same capitals as letters of ASCII, and
can stand in their place.
-/

namespace QuotedLiteral
namespace CodePoint

/-!
# Images of a character
-/

theorem image_cases (table : List (Nat × List Nat)) (c : CodePoint) :
    c.image table = [c] ∨
      ∃ entry ∈ table, c.value = entry.1 ∧ c.image table = entry.2.map ofNat := by
  unfold image
  cases hlookup : table.lookup c.value with
  | none =>
      exact Or.inl rfl
  | some values =>
      rcases List.lookup_eq_some_iff.mp hlookup with ⟨front, back, htable, -⟩
      refine Or.inr ⟨(c.value, values), ?_, rfl, rfl⟩
      rw [htable]
      exact List.mem_append_right front List.mem_cons_self

theorem image_eq_self {table : List (Nat × List Nat)} {c : CodePoint}
    (hc : ∀ entry ∈ table, c.value ≠ entry.1) : c.image table = [c] := by
  rcases image_cases table c with hself | ⟨entry, hentry, hvalue, -⟩
  · exact hself
  · exact absurd hvalue (hc entry hentry)

/-- A character of ASCII has no image in a table of characters beyond. -/
theorem image_of_ascii {table : List (Nat × List Nat)} (htable : ∀ entry ∈ table, 0x80 ≤ entry.1)
    {c : CodePoint} (hc : c.value < 0x80) : c.image table = [c] := by
  apply image_eq_self
  intro entry hentry
  have hle := htable entry hentry
  lia

/-- A surrogate has no image in a table without surrogates. -/
theorem image_of_isSurrogate {table : List (Nat × List Nat)}
    (htable : ∀ entry ∈ table, (ofNat entry.1).isSurrogate = false) {c : CodePoint}
    (hc : c.isSurrogate = true) : c.image table = [c] := by
  apply image_eq_self
  intro entry hentry hvalue
  have hfalse := htable entry hentry
  rw [← hvalue, ofNat_value, hc] at hfalse
  cases hfalse

/-- A capital letter of ASCII. -/
def IsCapital (c : CodePoint) : Prop :=
  0x41 ≤ c.value ∧ c.value ≤ 0x5A

instance (c : CodePoint) : Decidable c.IsCapital :=
  inferInstanceAs (Decidable (0x41 ≤ c.value ∧ c.value ≤ 0x5A))

theorem lower_ne_nil (c : CodePoint) : c.lower ≠ [] := by
  unfold lower
  split
  · exact List.cons_ne_nil _ _
  · have htable : ∀ entry ∈ lowerOutsideAscii, entry.2.map ofNat ≠ [] := by
      decide
    rcases image_cases lowerOutsideAscii c with hself | ⟨entry, hentry, -, himage⟩
    · rw [hself]
      exact List.cons_ne_nil c []
    · rw [himage]
      exact htable entry hentry

theorem lower_of_isSurrogate {c : CodePoint} (hc : c.isSurrogate = true) : c.lower = [c] := by
  have hlow : 0xD800 ≤ c.value := by
    rw [isSurrogate, Bool.and_eq_true, decide_eq_true_eq] at hc
    exact hc.1
  rw [lower, if_neg (by lia), image_of_isSurrogate (by decide) hc]

/-- A small letter of ASCII or the underscore. -/
def InSmallName (c : CodePoint) : Prop :=
  c.value = 0x5F ∨ 0x61 ≤ c.value ∧ c.value ≤ 0x7A

instance (c : CodePoint) : Decidable c.InSmallName :=
  inferInstanceAs (Decidable (c.value = 0x5F ∨ 0x61 ≤ c.value ∧ c.value ≤ 0x7A))

theorem lower_upper {c : CodePoint} (hc : c.InSmallName) : Text.lower c.upper = [c] := by
  rcases hc with hunderscore | hletter
  · have hupper : c.upper = [c] := by
      rw [upper, if_neg (by lia), image_of_ascii (by decide) (by lia)]
    have hlower : c.lower = [c] := by
      rw [lower, if_neg (by lia), image_of_ascii (by decide) (by lia)]
    rw [hupper]
    exact (List.flatMap_singleton CodePoint.lower c).trans hlower
  · have hvalue : (ofNat (c.value - 0x20)).value = c.value - 0x20 := value_ofNat (by lia)
    rw [upper, if_pos hletter]
    change CodePoint.lower (ofNat (c.value - 0x20)) ++ [] = [c]
    rw [lower, if_pos (by lia), hvalue, Nat.sub_add_cancel (by lia), ofNat_value, List.append_nil]

/-!
# Letters with the capitals of ASCII letters
-/

/-- The small letters beyond ASCII whose capitals can stand in a flag's label, with the letters of
ASCII that have these capitals. -/
def sharedCapitals : List (Nat × List Nat) :=
  [(0x131, [0x69]), (0x17F, [0x73]), (0xFB05, [0x73, 0x74]), (0xFB06, [0x73, 0x74])]

def SharesCapitals (c : CodePoint) : Prop :=
  c.value ∈ sharedCapitals.map Prod.fst

instance (c : CodePoint) : Decidable c.SharesCapitals :=
  inferInstanceAs (Decidable (c.value ∈ sharedCapitals.map Prod.fst))

theorem InSmallName.not_isCapital {c : CodePoint} (hc : c.InSmallName) : ¬c.IsCapital := by
  unfold InSmallName at hc
  unfold IsCapital
  lia

theorem InSmallName.isSurrogate_eq_false {c : CodePoint} (hc : c.InSmallName) :
    c.isSurrogate = false := by
  unfold InSmallName at hc
  rw [isSurrogate, Bool.and_eq_false_iff]
  exact Or.inl (decide_eq_false (by lia))

theorem InSmallName.not_sharesCapitals {c : CodePoint} (hc : c.InSmallName) :
    ¬c.SharesCapitals := by
  have hbeyond : ∀ n ∈ sharedCapitals.map Prod.fst, 0x80 ≤ n := by
    decide
  intro hshares
  have hle := hbeyond c.value hshares
  unfold InSmallName at hc
  lia

/-- A character of a lower case is the character itself, which is no capital, or neither a capital
nor one of the four. -/
theorem mem_lower {c d : CodePoint} (hd : d ∈ c.lower) :
    d = c ∧ ¬c.IsCapital ∨ ¬d.IsCapital ∧ ¬d.SharesCapitals := by
  unfold lower at hd
  split at hd
  · have hletter : d.InSmallName := by
      have hvalue : d.value = c.value + 0x20 := by
        rw [List.mem_singleton.mp hd, value_ofNat (by lia)]
      unfold InSmallName
      lia
    exact Or.inr ⟨hletter.not_isCapital, hletter.not_sharesCapitals⟩
  · next hother =>
      have htable : ∀ entry ∈ lowerOutsideAscii, ∀ n ∈ entry.2,
          ¬(ofNat n).IsCapital ∧ ¬(ofNat n).SharesCapitals := by
        decide
      rcases image_cases lowerOutsideAscii c with hself | ⟨entry, hentry, -, himage⟩
      · rw [hself] at hd
        exact Or.inl ⟨List.mem_singleton.mp hd, hother⟩
      · rw [himage] at hd
        rcases List.mem_map.mp hd with ⟨n, hn, rfl⟩
        exact Or.inr (htable entry hentry n hn)

def respell (c : CodePoint) : Text :=
  c.image sharedCapitals

theorem respell_eq_self {c : CodePoint} (hc : ¬c.SharesCapitals) : c.respell = [c] := by
  apply image_eq_self
  intro entry hentry hvalue
  apply hc
  rw [SharesCapitals, hvalue]
  exact List.mem_map_of_mem hentry

theorem respell_of_isSurrogate {c : CodePoint} (hc : c.isSurrogate = true) : c.respell = [c] :=
  image_of_isSurrogate (by decide) hc

theorem upper_respell (c : CodePoint) : Text.upper c.respell = c.upper := by
  have htable : ∀ entry ∈ sharedCapitals,
      Text.upper (entry.2.map ofNat) = (ofNat entry.1).upper := by
    decide
  rcases image_cases sharedCapitals c with hself | ⟨entry, hentry, hvalue, himage⟩
  · rw [respell, hself]
    exact List.flatMap_singleton CodePoint.upper c
  · rw [respell, himage, htable entry hentry, ← hvalue, ofNat_value]

theorem mem_respell {c d : CodePoint} (hd : d ∈ c.respell) :
    d = c ∧ ¬c.SharesCapitals ∨ d.InSmallName := by
  by_cases hc : c.SharesCapitals
  · have htable : ∀ entry ∈ sharedCapitals, ∀ n ∈ entry.2, (ofNat n).InSmallName := by
      decide
    have hself : ∀ entry ∈ sharedCapitals, ofNat entry.1 ∉ (ofNat entry.1).respell := by
      decide
    rcases image_cases sharedCapitals c with hnone | ⟨entry, hentry, -, himage⟩
    · rcases List.mem_map.mp hc with ⟨entry, hentry, hvalue⟩
      have hnot := hself entry hentry
      rw [hvalue, ofNat_value, respell, hnone] at hnot
      exact absurd List.mem_cons_self hnot
    · rw [respell, himage] at hd
      rcases List.mem_map.mp hd with ⟨n, hn, rfl⟩
      exact Or.inr (htable entry hentry n hn)
  · rw [respell_eq_self hc] at hd
    exact Or.inl ⟨List.mem_singleton.mp hd, hc⟩

end CodePoint

namespace Text

theorem includes_of_isInfix {part t : Text} (hpart : part <:+: t) : includes part t = true := by
  rcases hpart with ⟨front, back, rfl⟩
  induction front with
  | nil =>
      rw [List.nil_append]
      cases hwhole : part ++ back with
      | nil =>
          rw [(List.append_eq_nil_iff.mp hwhole).1]
          rfl
      | cons c rest =>
          have hopens : part.isPrefixOf (c :: rest) = true := by
            rw [← hwhole]
            exact List.isPrefixOf_iff_prefix.mpr (List.prefix_append part back)
          rw [includes, hopens, Bool.true_or]
  | cons c front ih =>
      rw [List.cons_append, List.cons_append, includes, ih, Bool.or_true]

theorem not_isCapital_of_mem_lower {t : Text} {c : CodePoint} (hc : c ∈ lower t) :
    ¬c.IsCapital := by
  rcases List.mem_flatMap.mp hc with ⟨d, -, hd⟩
  rcases CodePoint.mem_lower hd with ⟨rfl, hcapital⟩ | ⟨hcapital, -⟩
  · exact hcapital
  · exact hcapital

theorem not_sharesCapitals_of_mem_lower {t : Text} (ht : ∀ c ∈ t, ¬c.SharesCapitals)
    {c : CodePoint} (hc : c ∈ lower t) : ¬c.SharesCapitals := by
  rcases List.mem_flatMap.mp hc with ⟨d, hmem, hd⟩
  rcases CodePoint.mem_lower hd with ⟨rfl, -⟩ | ⟨-, hshares⟩
  · exact ht _ hmem
  · exact hshares

theorem mem_lower_of_isSurrogate {t : Text} {c : CodePoint} (hsurrogate : c.isSurrogate = true)
    (hc : c ∈ t) : c ∈ lower t := by
  refine List.mem_flatMap.mpr ⟨c, hc, ?_⟩
  rw [CodePoint.lower_of_isSurrogate hsurrogate]
  exact List.mem_cons_self

theorem lower_eq_nil_iff {t : Text} : lower t = [] ↔ t = [] := by
  rw [lower, List.flatMap_eq_nil_iff]
  constructor
  · intro h
    exact List.eq_nil_iff_forall_not_mem.mpr fun c hc => c.lower_ne_nil (h c hc)
  · intro h
    rw [h]
    exact List.forall_mem_nil _

theorem lower_upper {t : Text} (ht : ∀ c ∈ t, c.InSmallName) : lower (upper t) = t := by
  rw [lower, upper, List.flatMap_assoc]
  calc t.flatMap (fun c => c.upper.flatMap CodePoint.lower)
      = t.flatMap (fun c => [c]) := List.flatMap_congr fun c hc => CodePoint.lower_upper (ht c hc)
    _ = t := List.flatMap_singleton' t

/-- The text with the letters of ASCII for the letters that have the same capitals. -/
def respell (t : Text) : Text :=
  t.flatMap CodePoint.respell

theorem respell_eq_self {t : Text} (ht : ∀ c ∈ t, ¬c.SharesCapitals) : respell t = t := by
  calc t.flatMap CodePoint.respell
      = t.flatMap (fun c => [c]) :=
        List.flatMap_congr fun c hc => CodePoint.respell_eq_self (ht c hc)
    _ = t := List.flatMap_singleton' t

theorem upper_respell (t : Text) : upper (respell t) = upper t := by
  rw [upper, respell, List.flatMap_assoc]
  exact List.flatMap_congr fun c _ => c.upper_respell

theorem mem_respell_of_isSurrogate {t : Text} {c : CodePoint} (hsurrogate : c.isSurrogate = true)
    (hc : c ∈ t) : c ∈ respell t := by
  refine List.mem_flatMap.mpr ⟨c, hc, ?_⟩
  rw [CodePoint.respell_of_isSurrogate hsurrogate]
  exact List.mem_cons_self

theorem mem_respell {t : Text} {c : CodePoint} (hc : c ∈ respell t) :
    c ∈ t ∧ ¬c.SharesCapitals ∨ c.InSmallName := by
  rcases List.mem_flatMap.mp hc with ⟨d, hd, hrespelled⟩
  rcases CodePoint.mem_respell hrespelled with ⟨rfl, hshares⟩ | hsmall
  · exact Or.inl ⟨hd, hshares⟩
  · exact Or.inr hsmall

end Text

/-!
# Labels and names of flags
-/

namespace Flag

theorem inSmallName_of_mem_name {f : Flag} {c : CodePoint} (hc : c ∈ f.name) : c.InSmallName := by
  have hall : ∀ f ∈ all, ∀ c ∈ f.name, c.InSmallName := by
    decide +kernel
  exact hall f f.mem_all c hc

theorem upper_name (f : Flag) : Text.upper f.name = Text.ofString f.label := by
  cases f <;> decide

theorem mem_label {f : Flag} {c : CodePoint} (hc : c ∈ Text.ofString f.label) :
    c.IsCapital ∨ c.value = 0x5F := by
  have hall : ∀ f ∈ all, ∀ c ∈ Text.ofString f.label, c.IsCapital ∨ c.value = 0x5F := by
    decide +kernel
  exact hall f f.mem_all c hc

/-- Of the letters beyond ASCII only the four have capitals that stand in a label. -/
theorem sharesCapitals_of_isInfix_label {f : Flag} {entry : Nat × List Nat}
    (hentry : entry ∈ CodePoint.upperOutsideAscii)
    (hpart : entry.2.map CodePoint.ofNat <:+: Text.ofString f.label) :
    entry.1 ∈ CodePoint.sharedCapitals.map Prod.fst := by
  have hall : ∀ f ∈ all, ∀ entry ∈ CodePoint.upperOutsideAscii,
      Text.includes (entry.2.map CodePoint.ofNat) (Text.ofString f.label) = true →
        entry.1 ∈ CodePoint.sharedCapitals.map Prod.fst := by
    decide +kernel
  exact hall f f.mem_all entry hentry (Text.includes_of_isInfix hpart)

theorem inSmallName_of_upper_eq_label {f : Flag} {t : Text}
    (ht : ∀ c ∈ t, ¬c.IsCapital ∧ ¬c.SharesCapitals)
    (hupper : Text.upper t = Text.ofString f.label) : ∀ c ∈ t, c.InSmallName := by
  intro c hc
  by_cases hletter : 0x61 ≤ c.value ∧ c.value ≤ 0x7A
  · exact Or.inr hletter
  · have hpart : c.upper <:+: Text.ofString f.label := by
      rw [← hupper]
      exact List.infix_flatMap_of_mem hc CodePoint.upper
    rw [CodePoint.upper, if_neg hletter] at hpart
    rcases CodePoint.image_cases CodePoint.upperOutsideAscii c with
      hself | ⟨entry, hentry, hvalue, himage⟩
    · rw [hself] at hpart
      rcases mem_label (hpart.mem List.mem_cons_self) with hcapital | hunderscore
      · exact absurd hcapital (ht c hc).1
      · exact Or.inl hunderscore
    · rw [himage] at hpart
      have hshares : c.SharesCapitals := by
        rw [CodePoint.SharesCapitals, hvalue]
        exact sharesCapitals_of_isInfix_label hentry hpart
      exact absurd hshares (ht c hc).2

theorem eq_name_of_upper_eq_label {f : Flag} {t : Text}
    (ht : ∀ c ∈ t, ¬c.IsCapital ∧ ¬c.SharesCapitals)
    (hupper : Text.upper t = Text.ofString f.label) : t = f.name := by
  rw [name, ← hupper, Text.lower_upper (inSmallName_of_upper_eq_label ht hupper)]

/-- A text without capitals becomes the label in upper case just if it is the name, once it is
spelled with the letters of ASCII. -/
theorem upper_eq_label_iff {f : Flag} {t : Text} (ht : ∀ c ∈ t, ¬c.IsCapital) :
    Text.upper t = Text.ofString f.label ↔ Text.respell t = f.name := by
  constructor
  · intro hupper
    rw [← Text.upper_respell] at hupper
    refine eq_name_of_upper_eq_label ?_ hupper
    intro c hc
    rcases Text.mem_respell hc with ⟨hmem, hshares⟩ | hsmall
    · exact ⟨ht c hmem, hshares⟩
    · exact ⟨hsmall.not_isCapital, hsmall.not_sharesCapitals⟩
  · intro hname
    rw [← Text.upper_respell, hname, upper_name]

end Flag
end QuotedLiteral
