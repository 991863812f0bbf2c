import QuotedLiteral.Proofs.Grammar

/-!
# Selectors

The character after a backslash settles which kind of item begins there and
which flag the item needs.  Each selector belongs to one kind only.
-/

namespace QuotedLiteral

def FixedEscape.announced : FixedEscape → Announced
  | hex => .hex
  | unicode => .unicode

/-!
## The selector of each kind of escape
-/

theorem selection?_mnemonic {m : Mnemonic} (hm : m ∈ mnemonics) :
    selection? m.selector = some (m.flag, .character m.denoted) := by
  have hall : ∀ n ∈ mnemonics,
      selection? n.selector = some (n.flag, .character n.denoted) := by
    decide
  exact hall m hm

theorem selection?_letter (kind : FixedEscape) :
    selection? kind.letter = some (kind.flag, kind.announced) := by
  cases kind <;> decide

theorem selection?_octalDigit {c : CodePoint} (hc : Numeral.isOctalDigit c = true) :
    selection? c = some (.octal, .octal) := by
  have hall : ∀ n < 8, selection? (Numeral.digit n) = some (.octal, .octal) := by
    decide
  rcases Option.isSome_iff_exists.mp hc with ⟨n, hn⟩
  rw [Numeral.eq_digit_of_octalDigit? hn]
  exact hall n (Numeral.octalDigit?_lt hn)

/-!
## Reading a selector back
-/

theorem selection?_eq_some {c : CodePoint} {f : Flag} {announced : Announced}
    (h : selection? c = some (f, announced)) :
    (∃ m ∈ mnemonics, c = m.selector ∧ f = m.flag ∧ announced = .character m.denoted) ∨
      (∃ kind : FixedEscape, c = kind.letter ∧ f = kind.flag ∧ announced = kind.announced) ∨
      (Numeral.isOctalDigit c = true ∧ f = .octal ∧ announced = .octal) := by
  unfold selection? at h
  split at h
  · next m hfind =>
      have hselector : m.selector = c := by
        simpa using List.find?_some hfind
      cases h
      exact Or.inl ⟨m, List.mem_of_find?_eq_some hfind, hselector.symm, rfl, rfl⟩
  · split at h
    · next hu =>
        cases h
        exact Or.inr (Or.inl ⟨.unicode, hu, rfl, rfl⟩)
    · split at h
      · next hx =>
          cases h
          exact Or.inr (Or.inl ⟨.hex, hx, rfl, rfl⟩)
      · split at h
        · next hoctal =>
            cases h
            exact Or.inr (Or.inr ⟨hoctal, rfl, rfl⟩)
        · cases h

/-- Whether the dialect has an escape with the selector. -/
def Dialect.Enables (d : Dialect) (c : CodePoint) : Prop :=
  ∃ (f : Flag) (announced : Announced), selection? c = some (f, announced) ∧ d.has f = true

/-!
## The selector of an item
-/

namespace Item

variable {item : Item} {after : Text}

theorem LegalBefore.text_cases (hlegal : item.LegalBefore after) :
    (∃ c, item = .verbatim c ∧ c ≠ .doubleQuote ∧ c ≠ .backslash) ∨
      ∃ c rest, item.text = .backslash :: c :: rest := by
  cases item with
  | verbatim c =>
      exact Or.inl ⟨c, rfl, hlegal⟩
  | mnemonic m =>
      exact Or.inr ⟨m.selector, [], rfl⟩
  | fixed kind digits =>
      exact Or.inr ⟨kind.letter, digits, rfl⟩
  | octal digits =>
      cases digits with
      | nil =>
          cases hlegal.1
      | cons c rest =>
          exact Or.inr ⟨c, rest, rfl⟩

/-- What the selector of an item announces. -/
def announced? : Item → Option (Flag × Announced)
  | verbatim _ => none
  | mnemonic m => some (m.flag, .character m.denoted)
  | fixed kind _ => some (kind.flag, kind.announced)
  | octal _ => some (.octal, .octal)

theorem LegalBefore.selection?_eq {c : CodePoint} {rest : Text} (hlegal : item.LegalBefore after)
    (htext : item.text = .backslash :: c :: rest) : selection? c = item.announced? := by
  cases item with
  | verbatim x =>
      cases htext
  | mnemonic m =>
      cases htext
      exact selection?_mnemonic hlegal
  | fixed kind digits =>
      cases htext
      exact selection?_letter kind
  | octal digits =>
      cases htext
      exact selection?_octalDigit (hlegal.2.2.1 c List.mem_cons_self)

theorem exists_announced?_of_guard? {f : Flag} (hguard : item.guard? = some f) :
    ∃ announced, item.announced? = some (f, announced) := by
  cases item with
  | verbatim c =>
      cases hguard
  | mnemonic m =>
      cases hguard
      exact ⟨.character m.denoted, rfl⟩
  | fixed kind digits =>
      cases hguard
      exact ⟨kind.announced, rfl⟩
  | octal digits =>
      cases hguard
      exact ⟨.octal, rfl⟩

/-- A guarded item is a backslash, a selector that its flag guards, and perhaps digits. -/
theorem LegalBefore.exists_selector {f : Flag} (hlegal : item.LegalBefore after)
    (hguard : item.guard? = some f) :
    ∃ (c : CodePoint) (rest : Text) (announced : Announced),
      item.text = .backslash :: c :: rest ∧ selection? c = some (f, announced) := by
  rcases exists_announced?_of_guard? hguard with ⟨announced, hannounced⟩
  rcases hlegal.text_cases with ⟨c, rfl, -⟩ | ⟨c, rest, htext⟩
  · cases hguard
  · refine ⟨c, rest, announced, htext, ?_⟩
    rw [hlegal.selection?_eq htext, hannounced]

/-- What follows the backslash of an item is no mark, unless the item is the escape of a mark. -/
theorem LegalBefore.plain_or_mark {xs : Text} (hlegal : item.LegalBefore after)
    (htext : item.text = .backslash :: xs) :
    (∀ x ∈ xs, x ≠ .doubleQuote ∧ x ≠ .backslash) ∨
      (xs = [.doubleQuote] ∧ item.guard? = some .doubleQuote) ∨
      (xs = [.backslash] ∧ item.guard? = some .backslash) := by
  cases item with
  | verbatim c =>
      cases htext
      exact absurd rfl hlegal.2
  | mnemonic m =>
      cases htext
      have hall : ∀ n ∈ mnemonics,
          (∀ x ∈ [n.selector], x ≠ .doubleQuote ∧ x ≠ .backslash) ∨
            ([n.selector] = [.doubleQuote] ∧ some n.flag = some .doubleQuote) ∨
            ([n.selector] = [.backslash] ∧ some n.flag = some .backslash) := by
        decide
      exact hall m hlegal
  | fixed kind digits =>
      cases htext
      refine Or.inl (List.forall_mem_cons.mpr ⟨?_, ?_⟩)
      · cases kind <;> decide
      · intro x hx
        constructor <;> rintro rfl <;> exact absurd (hlegal.2 _ hx) (by decide)
  | octal digits =>
      cases htext
      refine Or.inl ?_
      intro x hx
      constructor <;> rintro rfl <;> exact absurd (hlegal.2.2.1 _ hx) (by decide)

end Item
end QuotedLiteral
