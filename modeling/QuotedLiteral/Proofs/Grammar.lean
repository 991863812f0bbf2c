import QuotedLiteral.Literal.Escape
import QuotedLiteral.Proofs.Numeral

/-!
# The grammar of bodies

The text between the quotes of a literal is a sequence of items, each of which
stands for one character of the content.  The grammar knows no dialect: what an
item means depends on its text alone, and a dialect only says which flags the
items of a body may need.
-/

namespace QuotedLiteral

/-- Escapes of one letter and then exactly so many hexadecimal digits. -/
inductive FixedEscape where
  | hex
  | unicode
deriving DecidableEq

namespace FixedEscape

def letter : FixedEscape → CodePoint
  | hex => 'x'
  | unicode => 'u'

def width : FixedEscape → Nat
  | hex => 2
  | unicode => 4

def flag : FixedEscape → Flag
  | hex => .hex
  | unicode => .unicode

end FixedEscape

/-!
# Items
-/

inductive Item where
  | verbatim (c : CodePoint)
  | mnemonic (m : Mnemonic)
  | fixed (kind : FixedEscape) (digits : Text)
  | octal (digits : Text)
deriving DecidableEq

namespace Item

def text : Item → Text
  | verbatim c => [c]
  | mnemonic m => [.backslash, m.selector]
  | fixed kind digits => .backslash :: kind.letter :: digits
  | octal digits => .backslash :: digits

/-- The flag without which the item is not read. -/
def guard? : Item → Option Flag
  | verbatim _ => none
  | mnemonic m => some m.flag
  | fixed kind _ => some kind.flag
  | octal _ => some .octal

/-- The number of the character that the item stands for. -/
def code : Item → Nat
  | verbatim c => c.value
  | mnemonic m => m.denoted.value
  | fixed _ digits => Numeral.value 16 digits
  | octal digits => Numeral.value 8 digits

def denoted (item : Item) : CodePoint :=
  .ofNat item.code

/-- Whether the item may stand before the text.  An octal escape of fewer than three digits
takes all that there are: the text goes on, and not with an octal digit. -/
def LegalBefore (after : Text) : Item → Prop
  | verbatim c => c ≠ .doubleQuote ∧ c ≠ .backslash
  | mnemonic m => m ∈ mnemonics
  | fixed kind digits =>
      digits.length = kind.width ∧ ∀ x ∈ digits, Numeral.isHexDigit x = true
  | octal digits =>
      0 < digits.length ∧ digits.length ≤ 3 ∧ (∀ x ∈ digits, Numeral.isOctalDigit x = true) ∧
        (digits.length < 3 → after.head?.any (fun c => !Numeral.isOctalDigit c) = true)

instance (after : Text) : (item : Item) → Decidable (item.LegalBefore after)
  | verbatim c => inferInstanceAs (Decidable (c ≠ .doubleQuote ∧ c ≠ .backslash))
  | mnemonic m => inferInstanceAs (Decidable (m ∈ mnemonics))
  | fixed kind digits =>
      inferInstanceAs (Decidable
        (digits.length = kind.width ∧ ∀ x ∈ digits, Numeral.isHexDigit x = true))
  | octal digits =>
      inferInstanceAs (Decidable
        (0 < digits.length ∧ digits.length ≤ 3 ∧
          (∀ x ∈ digits, Numeral.isOctalDigit x = true) ∧
          (digits.length < 3 → after.head?.any (fun c => !Numeral.isOctalDigit c) = true)))

/-- Only the first character after an item matters to it. -/
theorem LegalBefore.of_head? {after after' : Text} {item : Item} (hlegal : item.LegalBefore after)
    (hhead : ∀ c, after.head? = some c → after'.head? = some c) : item.LegalBefore after' := by
  cases item with
  | verbatim c =>
      exact hlegal
  | mnemonic m =>
      exact hlegal
  | fixed kind digits =>
      exact hlegal
  | octal digits =>
      rcases hlegal with ⟨hpos, hle, hdigits, hnext⟩
      refine ⟨hpos, hle, hdigits, ?_⟩
      intro hshort
      have hany := hnext hshort
      cases hfirst : after.head? with
      | none =>
          rw [hfirst] at hany
          cases hany
      | some c =>
          rw [hfirst] at hany
          rw [hhead c hfirst]
          exact hany

theorem LegalBefore.fixed_code_lt {after : Text} {kind : FixedEscape} {digits : Text}
    (hlegal : (fixed kind digits).LegalBefore after) :
    Numeral.value 16 digits < 16 ^ kind.width := by
  rw [← hlegal.1]
  exact Numeral.value_hex_lt hlegal.2

theorem LegalBefore.octal_code_lt {after digits : Text}
    (hlegal : (octal digits).LegalBefore after) : Numeral.value 8 digits < 8 ^ 3 :=
  Nat.lt_of_lt_of_le (Numeral.value_octal_lt hlegal.2.2.1)
    (Nat.pow_le_pow_right (by decide) hlegal.2.1)

/-- An escape names a number of sixteen bits at most. -/
theorem LegalBefore.code_le {after : Text} {item : Item} {f : Flag}
    (hlegal : item.LegalBefore after) (hguard : item.guard? = some f) : item.code ≤ 0xFFFF := by
  cases item with
  | verbatim c =>
      cases hguard
  | mnemonic m =>
      have hall : ∀ n ∈ mnemonics, n.denoted.value ≤ 0xFFFF := by
        decide
      exact hall m hlegal
  | fixed kind digits =>
      have hwidth : 16 ^ kind.width ≤ 0x10000 := by
        cases kind <;> decide
      exact Nat.le_of_lt_succ (Nat.lt_of_lt_of_le hlegal.fixed_code_lt hwidth)
  | octal digits =>
      exact Nat.le_trans (Nat.le_of_lt hlegal.octal_code_lt) (by decide)

/-- No item names a number beyond the code space. -/
theorem LegalBefore.code_lt {after : Text} {item : Item} (hlegal : item.LegalBefore after) :
    item.code < 0x110000 := by
  cases hguard : item.guard? with
  | none =>
      cases item with
      | verbatim c =>
          exact c.value_lt
      | _ =>
          cases hguard
  | some f =>
      exact Nat.lt_of_le_of_lt (hlegal.code_le hguard) (by decide)

theorem LegalBefore.value_denoted {after : Text} {item : Item} (hlegal : item.LegalBefore after) :
    item.denoted.value = item.code :=
  CodePoint.value_ofNat hlegal.code_lt

end Item

/-!
# Bodies
-/

abbrev Body := List Item

namespace Body

def text (body : Body) : Text :=
  body.flatMap Item.text

def denoted (body : Body) : Text :=
  body.map Item.denoted

def flags (body : Body) : List Flag :=
  body.filterMap Item.guard?

/-- Every item may stand before what follows it in the body and after the body. -/
def LegalBefore (after : Text) : Body → Prop
  | [] => True
  | item :: later => item.LegalBefore (text later ++ after) ∧ LegalBefore after later

instance decidableLegalBefore (after : Text) : (body : Body) → Decidable (body.LegalBefore after)
  | [] => isTrue trivial
  | item :: later =>
      have := decidableLegalBefore after later
      inferInstanceAs (Decidable (item.LegalBefore (text later ++ after) ∧ LegalBefore after later))

@[simp]
theorem text_nil : text [] = [] := by
  rfl

@[simp]
theorem text_cons (item : Item) (later : Body) :
    text (item :: later) = item.text ++ text later := by
  simp [text]

@[simp]
theorem text_append (xs ys : Body) : text (xs ++ ys) = text xs ++ text ys := by
  simp [text]

theorem legalBefore_append {after : Text} (xs ys : Body) :
    LegalBefore after (xs ++ ys) ↔
      LegalBefore (text ys ++ after) xs ∧ LegalBefore after ys := by
  induction xs with
  | nil =>
      simp [LegalBefore]
  | cons item later ih =>
      rw [List.cons_append, LegalBefore, LegalBefore, ih, text_append, List.append_assoc, and_assoc]

theorem LegalBefore.of_head? {after after' : Text} {body : Body} (hlegal : body.LegalBefore after)
    (hhead : ∀ c, after.head? = some c → after'.head? = some c) : body.LegalBefore after' := by
  induction body with
  | nil =>
      exact trivial
  | cons item later ih =>
      refine ⟨hlegal.1.of_head? ?_, ih hlegal.2⟩
      intro c hc
      cases hlater : text later with
      | nil =>
          rw [hlater] at hc
          exact hhead c hc
      | cons first rest =>
          rw [hlater] at hc
          exact hc

theorem LegalBefore.map_value_denoted {after : Text} {body : Body}
    (hlegal : body.LegalBefore after) :
    body.denoted.map CodePoint.value = body.map Item.code := by
  induction body with
  | nil =>
      rfl
  | cons item later ih =>
      rw [denoted, List.map_cons, List.map_cons, List.map_cons, hlegal.1.value_denoted,
        ← ih hlegal.2, denoted]

end Body

/-- Whether the dialect has the flag of every escape in the body. -/
def Dialect.Admits (d : Dialect) (body : Body) : Prop :=
  ∀ f ∈ body.flags, d.has f = true

namespace Dialect

theorem admits_nil (d : Dialect) : d.Admits [] := by
  intro f hf
  cases hf

theorem admits_cons {d : Dialect} {item : Item} {later : Body} :
    d.Admits (item :: later) ↔
      (∀ f, item.guard? = some f → d.has f = true) ∧ d.Admits later := by
  cases hguard : item.guard? with
  | none =>
      simp [Admits, Body.flags, hguard]
  | some g =>
      simp [Admits, Body.flags, hguard]

theorem admits_append {d : Dialect} {xs ys : Body} :
    d.Admits (xs ++ ys) ↔ d.Admits xs ∧ d.Admits ys := by
  simp [Admits, Body.flags, or_imp, forall_and]

theorem Admits.mono {d e : Dialect} {body : Body} (hadmits : d.Admits body)
    (hflags : ∀ f, d.has f = true → e.has f = true) : e.Admits body := by
  intro f hf
  exact hflags f (hadmits f hf)

/-- The first item of the body whose flag the dialect lacks stands right after the front. -/
def RefusesAfter (d : Dialect) (body front : Body) : Prop :=
  ∃ (item : Item) (back : Body) (f : Flag),
    body = front ++ item :: back ∧ d.Admits front ∧ item.guard? = some f ∧ d.has f = false

theorem exists_refusesAfter {d : Dialect} {body : Body} (hrefused : ¬d.Admits body) :
    ∃ front, d.RefusesAfter body front := by
  induction body with
  | nil =>
      exact absurd d.admits_nil hrefused
  | cons item later ih =>
      by_cases hitem : ∀ f, item.guard? = some f → d.has f = true
      · have hlater : ¬d.Admits later := by
          intro hadmits
          exact hrefused (admits_cons.mpr ⟨hitem, hadmits⟩)
        rcases ih hlater with ⟨front, refused, back, f, rfl, hfront, hguard, hlacks⟩
        refine ⟨item :: front, refused, back, f, rfl, ?_, hguard, hlacks⟩
        exact admits_cons.mpr ⟨hitem, hfront⟩
      · simp only [not_forall, Bool.not_eq_true] at hitem
        rcases hitem with ⟨f, hguard, hlacks⟩
        exact ⟨[], item, later, f, rfl, d.admits_nil, hguard, hlacks⟩

end Dialect
end QuotedLiteral
