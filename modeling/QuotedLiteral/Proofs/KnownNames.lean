import QuotedLiteral.Proofs.FlagNames

/-!
# Names that specs know

A spec is accepted just if all its items are known, and the first item that is not
known is the one that is reported.  An item is known if it is blank or a name in any
letter case.  The names of flags are known in more spellings than those: four letters
beyond ASCII pass for letters of ASCII in them, though not in the names of presets.
-/

namespace QuotedLiteral

theorem Preset.mem_all (p : Preset) : p ∈ all := by
  cases p <;> decide

namespace Dialect
namespace Spec

/-- The item is blank, or in lower case it is the name of a preset or of a flag. -/
def IsDocumented (item : Text) : Prop :=
  item = [] ∨ (∃ p : Preset, Text.lower item = p.name) ∨ ∃ f : Flag, Text.lower item = f.name

/-- The item is blank, or in lower case it is the name of a preset, or spelled with the letters of
ASCII it is the name of a flag. -/
def IsKnown (item : Text) : Prop :=
  item = [] ∨ (∃ p : Preset, Text.lower item = p.name) ∨
    ∃ f : Flag, Text.respell (Text.lower item) = f.name

/-!
# Known items
-/

theorem preset?_eq_none_iff {lowered : Text} :
    preset? lowered = none ↔ ¬∃ p : Preset, lowered = p.name := by
  rw [preset?, List.find?_eq_none]
  constructor
  · intro h hname
    rcases hname with ⟨p, hp⟩
    exact h p p.mem_all (decide_eq_true hp.symm)
  · intro h p _ hp
    exact h ⟨p, (of_decide_eq_true hp).symm⟩

theorem flag?_eq_none_iff {lowered : Text} (hlowered : ∀ c ∈ lowered, ¬c.IsCapital) :
    flag? lowered = none ↔ ¬∃ f : Flag, Text.respell lowered = f.name := by
  rw [flag?, List.find?_eq_none]
  constructor
  · intro h hname
    rcases hname with ⟨f, hf⟩
    exact h f f.mem_all (decide_eq_true ((Flag.upper_eq_label_iff hlowered).mpr hf).symm)
  · intro h f _ hf
    exact h ⟨f, (Flag.upper_eq_label_iff hlowered).mp (of_decide_eq_true hf).symm⟩

theorem itemMask?_eq_none_iff {item : Text} : itemMask? item = none ↔ ¬IsKnown item := by
  have hlowered : ∀ c ∈ Text.lower item, ¬c.IsCapital :=
    fun c hc => Text.not_isCapital_of_mem_lower hc
  by_cases hblank : item = []
  · rw [hblank, itemMask?_nil]
    exact iff_of_false (Option.some_ne_none 0) (fun h => h (Or.inl rfl))
  · rw [itemMask?, if_neg (fun h => hblank (Text.lower_eq_nil_iff.mp h)), IsKnown, not_or, not_or,
      and_iff_right hblank, ← preset?_eq_none_iff, ← flag?_eq_none_iff hlowered]
    cases preset? (Text.lower item) with
    | none =>
        rw [and_iff_right rfl, Option.map_eq_none_iff]
    | some p =>
        exact iff_of_false (Option.some_ne_none _) (fun h => Option.some_ne_none p h.1)

/-- A documented item is known, and without the four letters a known item is documented. -/
theorem IsDocumented.isKnown {item : Text} (hitem : IsDocumented item) : IsKnown item := by
  rcases hitem with hblank | hpreset | ⟨f, hf⟩
  · exact Or.inl hblank
  · exact Or.inr (Or.inl hpreset)
  · have hrespelled : Text.respell f.name = f.name :=
      Text.respell_eq_self fun c hc => (Flag.inSmallName_of_mem_name hc).not_sharesCapitals
    rw [← hf] at hrespelled
    exact Or.inr (Or.inr ⟨f, hrespelled.trans hf⟩)

theorem IsKnown.isDocumented {item : Text} (hitem : ∀ c ∈ item, ¬c.SharesCapitals)
    (hknown : IsKnown item) : IsDocumented item := by
  have hrespelled : Text.respell (Text.lower item) = Text.lower item :=
    Text.respell_eq_self fun c hc => Text.not_sharesCapitals_of_mem_lower hitem hc
  rw [IsKnown, hrespelled] at hknown
  exact hknown

/-- No surrogate stands in a known item, since it has no other case or spelling. -/
theorem IsKnown.isSurrogate_eq_false {item : Text} (hknown : IsKnown item) {c : CodePoint}
    (hc : c ∈ item) : c.isSurrogate = false := by
  rw [Bool.eq_false_iff]
  intro hsurrogate
  have hlowered := Text.mem_lower_of_isSurrogate hsurrogate hc
  rcases hknown with rfl | ⟨p, hp⟩ | ⟨f, hf⟩
  · cases hc
  · have hname : ∀ c ∈ p.name, c.isSurrogate = false := by
      cases p <;> decide
    rw [hp] at hlowered
    rw [hname c hlowered] at hsurrogate
    cases hsurrogate
  · have hrespelled := Text.mem_respell_of_isSurrogate hsurrogate hlowered
    rw [hf] at hrespelled
    rw [(Flag.inSmallName_of_mem_name hrespelled).isSurrogate_eq_false] at hsurrogate
    cases hsurrogate

/-!
# Known specs
-/

theorem unite_cons_of_isKnown {item : Text} (hknown : IsKnown item) (rest : List Text)
    (u : UnknownName) : unite (item :: rest) = .error u ↔ unite rest = .error u := by
  have hmask : itemMask? item ≠ none := fun hnone => itemMask?_eq_none_iff.mp hnone hknown
  constructor
  · intro h
    rcases unite_cons_eq_error h with ⟨hnone, -⟩ | ⟨-, hrest⟩
    · exact absurd hnone hmask
    · exact hrest
  · intro h
    rcases Option.ne_none_iff_exists'.mp hmask with ⟨mask, hsome⟩
    rw [unite, hsome, h]
    rfl

theorem unite_cons_of_not_isKnown {item : Text} (hunknown : ¬IsKnown item) (rest : List Text) :
    unite (item :: rest) = .error ⟨item⟩ := by
  rw [unite, itemMask?_eq_none_iff.mpr hunknown]

/-- What is reported is the first item that is not known. -/
theorem unite_eq_error_iff {items : List Text} {u : UnknownName} :
    unite items = .error u ↔
      ∃ front back, items = front ++ u.item :: back ∧ (∀ item ∈ front, IsKnown item) ∧
        ¬IsKnown u.item := by
  constructor
  · intro h
    induction items with
    | nil =>
        cases h
    | cons item rest ih =>
        by_cases hknown : IsKnown item
        · rcases ih ((unite_cons_of_isKnown hknown rest u).mp h) with
            ⟨front, back, rfl, hfront, hunknown⟩
          exact ⟨item :: front, back, rfl, List.forall_mem_cons.mpr ⟨hknown, hfront⟩, hunknown⟩
        · rw [unite_cons_of_not_isKnown hknown rest] at h
          cases h
          exact ⟨[], rest, rfl, List.forall_mem_nil _, hknown⟩
  · intro h
    rcases h with ⟨front, back, rfl, hfront, hunknown⟩
    induction front with
    | nil =>
        exact unite_cons_of_not_isKnown hunknown back
    | cons item front ih =>
        rcases List.forall_mem_cons.mp hfront with ⟨hknown, hlater⟩
        rw [List.cons_append, unite_cons_of_isKnown hknown]
        exact ih hlater

theorem exists_unite_eq_ok_iff {items : List Text} :
    (∃ mask, unite items = .ok mask) ↔ ∀ item ∈ items, IsKnown item := by
  cases hunite : unite items with
  | ok mask =>
      refine iff_of_true ⟨mask, rfl⟩ ?_
      intro item hitem
      have hmask := (known_of_unite hunite).2.1 item hitem
      rwa [Ne, itemMask?_eq_none_iff, not_not] at hmask
  | error u =>
      rcases unite_eq_error_iff.mp hunite with ⟨front, back, rfl, -, hunknown⟩
      refine iff_of_false nofun ?_
      intro hknown
      exact hunknown (hknown u.item (List.mem_append_right front List.mem_cons_self))

end Spec

theorem isSurrogate_eq_false_of_ofSpec {spec : Text} {d : Dialect} (hspec : ofSpec spec = .ok d)
    {c : CodePoint} (hc : c ∈ spec) : c.isSurrogate = false := by
  rw [Bool.eq_false_iff]
  intro hsurrogate
  rcases Spec.mem_spec hc with hseparator | hblank | ⟨item, hitem, hinside⟩
  · rw [Spec.isSeparator, Bool.or_eq_true, decide_eq_true_eq, decide_eq_true_eq] at hseparator
    rcases hseparator with rfl | rfl
    · cases hsurrogate
    · cases hsurrogate
  · have hbounds := hsurrogate
    rw [CodePoint.isSurrogate, Bool.and_eq_true, decide_eq_true_eq, decide_eq_true_eq] at hbounds
    rw [CodePoint.isWhitespace_eq_false (by decide) hbounds.1 hbounds.2] at hblank
    cases hblank
  · rcases ofSpec_eq_ok_iff.mp hspec with ⟨mask, hunite, -⟩
    have hknown := Spec.exists_unite_eq_ok_iff.mp ⟨mask, hunite⟩ item hitem
    rw [hknown.isSurrogate_eq_false hinside] at hsurrogate
    cases hsurrogate

/-- A spec is accepted just if all its items are known, and otherwise the first of them that is not
known is reported and quoted as it stands in the spec.  The documented items are known; an item that
is known and not documented holds one of the four letters that pass for letters of ASCII. -/
theorem ofSpec_accepts (spec : Text) :
    ((∃ d, ofSpec spec = .ok d) ↔ ∀ item ∈ Spec.items spec, Spec.IsKnown item) ∧
    (∀ u, ofSpec spec = .error u ↔
      ∃ front back, Spec.items spec = front ++ u.item :: back ∧
        (∀ item ∈ front, Spec.IsKnown item) ∧ ¬Spec.IsKnown u.item ∧
        u.message = Text.ofString "unknown escape flag or dialect preset '" ++ u.item ++
          Text.ofString "'") ∧
    ∀ item, (Spec.IsDocumented item → Spec.IsKnown item) ∧
      ((∀ c ∈ item, ¬c.SharesCapitals) → Spec.IsKnown item → Spec.IsDocumented item) := by
  refine ⟨?_, ?_, ?_⟩
  · rw [← Spec.exists_unite_eq_ok_iff]
    constructor
    · intro h
      rcases h with ⟨d, hd⟩
      rcases ofSpec_eq_ok_iff.mp hd with ⟨mask, hunite, -⟩
      exact ⟨mask, hunite⟩
    · intro h
      rcases h with ⟨mask, hunite⟩
      exact ⟨⟨mask⟩, ofSpec_eq_ok_iff.mpr ⟨mask, hunite, rfl⟩⟩
  · intro u
    rw [ofSpec_eq_error_iff, Spec.unite_eq_error_iff, UnknownName.message]
    simp only [and_true]
  · intro item
    exact ⟨Spec.IsDocumented.isKnown, Spec.IsKnown.isDocumented⟩

/-- The dotless letter passes for the third letter of a flag's name, which makes the item known
though it is not documented.  In a preset's name it does not, so that the second item is quoted. -/
theorem ofSpec_accepts_dotless :
    (∃ d, ofSpec (Text.ofString "un\u0131code") = .ok d) ∧
      ¬Spec.IsDocumented (Text.ofString "un\u0131code") ∧
      ofSpec (Text.ofString "GCC,perm\u0131ssive") =
        .error ⟨Text.ofString "perm\u0131ssive"⟩ := by
  have hone : Spec.items (Text.ofString "un\u0131code") = [Text.ofString "un\u0131code"] := by
    decide
  have htwo : Spec.items (Text.ofString "GCC,perm\u0131ssive") =
      [Text.ofString "GCC"] ++ Text.ofString "perm\u0131ssive" :: [] := by
    decide
  have hflag : Spec.IsKnown (Text.ofString "un\u0131code") :=
    Or.inr (Or.inr ⟨.unicode, by decide⟩)
  have hpreset : Spec.IsDocumented (Text.ofString "GCC") :=
    Or.inr (Or.inl ⟨.gcc, by decide⟩)
  have hundocumented : ¬Spec.IsDocumented (Text.ofString "un\u0131code") := by
    intro h
    rcases h with hblank | ⟨p, hp⟩ | ⟨f, hf⟩
    · cases hblank
    · cases p <;> exact absurd hp (by decide)
    · cases f <;> exact absurd hf (by decide)
  have hunknown : ¬Spec.IsKnown (Text.ofString "perm\u0131ssive") := by
    rw [← Spec.itemMask?_eq_none_iff]
    decide
  refine ⟨(ofSpec_accepts _).1.mpr ?_, hundocumented, ((ofSpec_accepts _).2.1 _).mpr ?_⟩
  · rw [hone]
    exact List.forall_mem_singleton.mpr hflag
  · refine ⟨_, [], htwo, List.forall_mem_singleton.mpr ?_, hunknown, rfl⟩
    exact ((ofSpec_accepts (Text.ofString "GCC")).2.2 _).1 hpreset

end Dialect
end QuotedLiteral
