import Mathlib.Data.List.Forall2
import QuotedLiteral.Literal.Writing
import QuotedLiteral.Proofs.Grammar

/-!
# What is written, as items

Writing chooses an item for each character, which stands for that character and
needs no flag that the dialect lacks.  A double quote or backslash has to have
its mnemonic, for written as it is it would not be an item.
-/

namespace QuotedLiteral
namespace Writing

variable {asciiOnly : Bool} {d : Dialect} {c : CodePoint} {item : Item}

/-- The item for a character that has neither a mnemonic nor to be ASCII. -/
def plainItem (d : Dialect) (c : CodePoint) : Item :=
  if isControl c.value then
    if d.has .octal then .octal (Numeral.fixed 8 3 c.value)
    else if d.has .hex then .fixed .hex (Numeral.fixed 16 2 c.value)
    else if d.has .unicode then .fixed .unicode (Numeral.fixed 16 4 c.value)
    else .verbatim c
  else
    .verbatim c

/-- The item that a character is written as. -/
def item? (asciiOnly : Bool) (d : Dialect) (c : CodePoint) : Option Item :=
  match mnemonic? d c with
  | some m => some (.mnemonic m)
  | none =>
      if asciiOnly ∧ 0x7F < c.value then
        if d.has .unicode ∧ c.value ≤ 0xFFFF then
          some (.fixed .unicode (Numeral.fixed 16 4 c.value))
        else none
      else
        some (plainItem d c)

theorem text_plainItem (d : Dialect) (c : CodePoint) : (plainItem d c).text = plain d c := by
  unfold plainItem plain
  split
  · split
    · rfl
    · split
      · rfl
      · split <;> rfl
  · rfl

theorem piece?_eq_map_item? (asciiOnly : Bool) (d : Dialect) (c : CodePoint) :
    piece? asciiOnly d c = (item? asciiOnly d c).map Item.text := by
  unfold piece? item?
  cases mnemonic? d c with
  | some m =>
      rfl
  | none =>
      simp only
      split
      · split <;> rfl
      · rw [Option.map_some, text_plainItem]

/-!
# The properties of a written item
-/

theorem mnemonic?_eq_some {m : Mnemonic} (h : mnemonic? d c = some m) :
    m ∈ mnemonics ∧ m.denoted = c ∧ d.has m.flag = true := by
  have hfound := List.find?_some h
  rw [Bool.and_eq_true, decide_eq_true_eq] at hfound
  exact ⟨List.mem_of_find?_eq_some h, hfound.1, hfound.2⟩

theorem lacks_of_mnemonic?_eq_none {m : Mnemonic} (h : mnemonic? d c = none) (hm : m ∈ mnemonics)
    (hdenoted : m.denoted = c) : d.has m.flag = false := by
  have hnot := List.find?_eq_none.mp h m hm
  simpa [hdenoted] using hnot

theorem mnemonic?_eq_none_of_lt (hhigh : 0x7F < c.value) : mnemonic? d c = none := by
  have hascii : ∀ m ∈ mnemonics, m.denoted.value ≤ 0x7F := by
    decide
  cases hmnemonic : mnemonic? d c with
  | none =>
      rfl
  | some m =>
      rcases mnemonic?_eq_some hmnemonic with ⟨hm, rfl, -⟩
      exact absurd hhigh (Nat.not_lt.mpr (hascii m hm))

theorem isControl_iff : isControl c.value = true ↔ c.value ≤ 0x1F ∨ c.value = 0x7F := by
  rw [isControl, Bool.or_eq_true, decide_eq_true_eq, decide_eq_true_eq]
  lia

theorem value_lt_of_isControl (hcontrol : isControl c.value = true) : c.value < 0x80 := by
  rw [isControl_iff] at hcontrol
  lia

/-- The items that a character may be written as. -/
inductive Written (d : Dialect) (c : CodePoint) : Item → Prop where
  | mnemonic {m : Mnemonic} (hm : m ∈ mnemonics) (hdenoted : m.denoted = c)
      (hhas : d.has m.flag = true) : Written d c (.mnemonic m)
  | fixed (kind : FixedEscape) (hhas : d.has kind.flag = true) (hlt : c.value < 16 ^ kind.width) :
      Written d c (.fixed kind (Numeral.fixed 16 kind.width c.value))
  | octal (hhas : d.has .octal = true) (hlt : c.value < 8 ^ 3) :
      Written d c (.octal (Numeral.fixed 8 3 c.value))
  | verbatim (hmnemonic : mnemonic? d c = none) : Written d c (.verbatim c)

theorem written_plainItem (hmnemonic : mnemonic? d c = none) : Written d c (plainItem d c) := by
  unfold plainItem
  split
  · next hcontrol =>
      have hlt := value_lt_of_isControl hcontrol
      split
      · next hhas =>
          exact Written.octal hhas (Nat.lt_trans hlt (by decide))
      · split
        · next hhas =>
            exact Written.fixed .hex hhas (Nat.lt_trans hlt (by decide))
        · split
          · next hhas =>
              exact Written.fixed .unicode hhas (Nat.lt_trans hlt (by decide))
          · exact Written.verbatim hmnemonic
  · exact Written.verbatim hmnemonic

theorem written_of_item? (h : item? asciiOnly d c = some item) : Written d c item := by
  unfold item? at h
  split at h
  · next m hmnemonic =>
      cases h
      rcases mnemonic?_eq_some hmnemonic with ⟨hm, hdenoted, hhas⟩
      exact Written.mnemonic hm hdenoted hhas
  · next hmnemonic =>
      split at h
      · split at h
        · next hunicode =>
            cases h
            exact Written.fixed .unicode hunicode.1
              (Nat.lt_of_le_of_lt hunicode.2 (by decide))
        · cases h
      · cases h
        exact written_plainItem hmnemonic

namespace Written

theorem denoted_eq (hwritten : Written d c item) : item.denoted = c := by
  cases hwritten with
  | @mnemonic m hm hdenoted hhas =>
      rw [← hdenoted]
      exact CodePoint.ofNat_value m.denoted
  | fixed kind hhas hlt =>
      rw [Item.denoted, Item.code, Numeral.value_fixed (by decide) (by decide),
        Nat.mod_eq_of_lt hlt, CodePoint.ofNat_value]
  | octal hhas hlt =>
      rw [Item.denoted, Item.code, Numeral.value_fixed (by decide) (by decide),
        Nat.mod_eq_of_lt hlt, CodePoint.ofNat_value]
  | verbatim hmnemonic =>
      exact CodePoint.ofNat_value c

theorem has_of_guard? {f : Flag} (hwritten : Written d c item) (hguard : item.guard? = some f) :
    d.has f = true := by
  cases hwritten with
  | mnemonic hm hdenoted hhas =>
      cases hguard
      exact hhas
  | fixed kind hhas hlt =>
      cases hguard
      exact hhas
  | octal hhas hlt =>
      cases hguard
      exact hhas
  | verbatim hmnemonic =>
      cases hguard

theorem legalBefore (hwritten : Written d c item)
    (hquote : c = .doubleQuote → d.has .doubleQuote = true)
    (hslash : c = .backslash → d.has .backslash = true) (after : Text) :
    item.LegalBefore after := by
  cases hwritten with
  | mnemonic hm hdenoted hhas =>
      exact hm
  | fixed kind hhas hlt =>
      exact ⟨Numeral.length_fixed 16 kind.width c.value,
        fun _ hx => Numeral.isHexDigit_of_mem_fixed hx⟩
  | octal hhas hlt =>
      -- three digits leave no room for a digit that follows
      have hlength : (Numeral.fixed 8 3 c.value).length = 3 := Numeral.length_fixed 8 3 c.value
      refine ⟨by lia, by lia, fun _ hx => Numeral.isOctalDigit_of_mem_fixed hx, ?_⟩
      intro hshort
      lia
  | verbatim hmnemonic =>
      constructor
      · intro hc
        have hlacks := lacks_of_mnemonic?_eq_none
          (m := ⟨.doubleQuote, .doubleQuote, .doubleQuote⟩) hmnemonic (by decide) hc.symm
        rw [hquote hc] at hlacks
        cases hlacks
      · intro hc
        have hlacks := lacks_of_mnemonic?_eq_none
          (m := ⟨.backslash, .backslash, .backslash⟩) hmnemonic (by decide) hc.symm
        rw [hslash hc] at hlacks
        cases hlacks

end Written

/-!
# Written bodies
-/

/-- The items are those that the characters are written as, one for each. -/
def Writes (asciiOnly : Bool) (d : Dialect) (raw : Text) (body : Body) : Prop :=
  List.Forall₂ (fun c item => item? asciiOnly d c = some item) raw body

theorem exists_body_of_bodyFrom {index : Nat} {raw text : Text}
    (h : bodyFrom asciiOnly d index raw = .ok text) :
    ∃ body, Writes asciiOnly d raw body ∧ body.text = text := by
  induction raw generalizing index text with
  | nil =>
      cases h
      exact ⟨[], List.Forall₂.nil, rfl⟩
  | cons c rest ih =>
      rw [bodyFrom, piece?_eq_map_item?] at h
      cases hitem : item? asciiOnly d c with
      | none =>
          rw [hitem] at h
          cases h
      | some item =>
          rw [hitem] at h
          cases hrest : bodyFrom asciiOnly d (index + 1) rest with
          | error fault =>
              simp [hrest, Except.map] at h
          | ok later =>
              rcases ih hrest with ⟨body, hwrites, rfl⟩
              refine ⟨item :: body, List.Forall₂.cons hitem hwrites, ?_⟩
              simpa [hrest, Except.map] using h

namespace Writes

variable {raw : Text} {body : Body}

theorem denoted_eq (hwrites : Writes asciiOnly d raw body) : body.denoted = raw := by
  induction hwrites with
  | nil =>
      rfl
  | @cons c item rest later hitem hlater ih =>
      rw [Body.denoted, List.map_cons, (written_of_item? hitem).denoted_eq]
      exact congrArg (c :: ·) ih

theorem admits (hwrites : Writes asciiOnly d raw body) : d.Admits body := by
  induction hwrites with
  | nil =>
      exact d.admits_nil
  | cons hitem hlater ih =>
      refine Dialect.admits_cons.mpr ⟨?_, ih⟩
      intro f hguard
      exact (written_of_item? hitem).has_of_guard? hguard

theorem legalBefore (hwrites : Writes asciiOnly d raw body)
    (hquote : .doubleQuote ∈ raw → d.has .doubleQuote = true)
    (hslash : .backslash ∈ raw → d.has .backslash = true) (after : Text) :
    body.LegalBefore after := by
  induction hwrites with
  | nil =>
      exact trivial
  | @cons c item rest later hitem hlater ih =>
      constructor
      · apply (written_of_item? hitem).legalBefore
        · rintro rfl
          exact hquote List.mem_cons_self
        · rintro rfl
          exact hslash List.mem_cons_self
      · apply ih
        · intro hmem
          exact hquote (List.mem_cons_of_mem c hmem)
        · intro hmem
          exact hslash (List.mem_cons_of_mem c hmem)

end Writes
end Writing

theorem exists_body_of_format {asciiOnly : Bool} {d : Dialect} {raw literal : Text}
    (h : format asciiOnly d raw = .ok literal) :
    ∃ body, Writing.Writes asciiOnly d raw body ∧
      literal = .doubleQuote :: (body.text ++ [.doubleQuote]) := by
  rw [format] at h
  cases hbody : Writing.bodyFrom asciiOnly d 0 raw with
  | error fault =>
      rw [hbody] at h
      cases h
  | ok text =>
      rw [hbody] at h
      cases h
      rcases Writing.exists_body_of_bodyFrom hbody with ⟨body, hwrites, rfl⟩
      exact ⟨body, hwrites, rfl⟩

end QuotedLiteral
