import Mathlib.Data.List.TakeWhile
import QuotedLiteral.Proofs.Recognition

/-!
# Joining bodies

Two bodies, one behind the other, are a body, and it stands for the two contents
one behind the other.  There is one exception: an octal escape of fewer than three
digits at the end of the first body goes on into octal digits at the front of the
second one, which it takes as far as it has room.
-/

namespace QuotedLiteral

/-!
# Bodies between two quotes
-/

/-- The text between an opening and a closing quote. -/
def Text.inQuotes (t : Text) : Text :=
  .doubleQuote :: (t ++ [.doubleQuote])

/-- The items spell the text when a closing quote follows. -/
def Body.IsBodyOf (text : Text) (body : Body) : Prop :=
  body.text = text ∧ body.LegalBefore [.doubleQuote]

namespace Body.IsBodyOf

variable {d : Dialect} {text content : Text} {body body' : Body}

theorem unique (hbody : body.IsBodyOf text) (hbody' : body'.IsBodyOf text) : body = body' := by
  have heq : body.text ++ .doubleQuote :: [] = body'.text ++ .doubleQuote :: [] := by
    rw [hbody.1, hbody'.1]
  exact (eq_of_text_append_quote_eq hbody.2 hbody'.2 heq).1

theorem parse_inQuotes (hbody : body.IsBodyOf text) (hadmits : d.Admits body) :
    parse d text.inQuotes 0 = .ok ⟨text.length + 1, body.denoted⟩ := by
  have hparse := @parse_closed d [] body [] hbody.2 hadmits
  rw [List.length_nil, Nat.zero_add, Nat.add_comm 1, hbody.1] at hparse
  exact hparse

end Body.IsBodyOf

theorem exists_isBodyOf {d : Dialect} {text content : Text}
    (hparse : parse d text.inQuotes 0 = .ok ⟨text.length + 1, content⟩) :
    ∃ body : Body, body.IsBodyOf text ∧ d.Admits body ∧ content = body.denoted := by
  rcases parse_eq_ok_iff.mp hparse with ⟨body, hbetween, hspells⟩
  have hdenoted :=
    ((spells_iff_of_between hbetween).mp (parse_eq_ok_iff.mp hparse)).2
  rcases Body.between_iff.mp hbetween with ⟨before, after, hsource, hindex, hclose, hlegal⟩
  have hbefore : before = [] := List.eq_nil_of_length_eq_zero (Int.ofNat_inj.mp hindex).symm
  subst hbefore
  have hlength : text.length = body.text.length := by
    simp only [List.length_nil] at hclose
    lia
  rcases List.append_inj (List.cons.inj hsource).2 hlength with ⟨htext, hafter⟩
  rw [← hafter] at hlegal
  exact ⟨body, ⟨htext.symm, hlegal⟩, hspells.1, hdenoted⟩

/-!
# What the end of a body asks of the text behind it
-/

theorem Item.head?_text_append (item : Item) (after after' : Text) :
    (item.text ++ after).head? = (item.text ++ after').head? := by
  cases item <;> rfl

/-- Only a short octal escape at its end makes a body mind what follows it. -/
theorem Body.LegalBefore.of_last {after after' : Text} {body : Body}
    (hlegal : body.LegalBefore after)
    (hlast : ∀ digits, body.getLast? = some (.octal digits) → digits.length < 3 →
      after'.head?.any (fun c => !Numeral.isOctalDigit c) = true) :
    body.LegalBefore after' := by
  rcases List.eq_nil_or_concat' body with rfl | ⟨front, item, rfl⟩
  · exact trivial
  · rcases (legalBefore_append front [item]).mp hlegal with ⟨hfront, hitem, -⟩
    refine (legalBefore_append front [item]).mpr ⟨hfront.of_head? ?_, ?_, trivial⟩
    · intro c hc
      rw [text_cons, text_nil, List.append_nil] at hc ⊢
      rw [item.head?_text_append after' after]
      exact hc
    · cases item with
      | octal digits =>
          rcases hitem with ⟨hpos, hle, hdigits, -⟩
          exact ⟨hpos, hle, hdigits, hlast digits (List.getLast?_concat)⟩
      | _ =>
          exact hitem

/-- The text ends in an octal escape with the digits, and it could take another one. -/
def Text.EndsInOctal (text digits : Text) : Prop :=
  ∃ front : Body, Body.IsBodyOf text (front ++ [.octal digits]) ∧ digits.length < 3

theorem head?_any_not_isOctalDigit {t : Text}
    (hhead : t.head?.any Numeral.isOctalDigit = false) :
    (t ++ [CodePoint.doubleQuote]).head?.any (fun c => !Numeral.isOctalDigit c) = true := by
  cases t with
  | nil =>
      decide
  | cons c rest =>
      simpa using hhead

theorem parse_join_apart {d : Dialect} {b₁ b₂ c₁ c₂ : Text}
    (h₁ : parse d b₁.inQuotes 0 = .ok ⟨b₁.length + 1, c₁⟩)
    (h₂ : parse d b₂.inQuotes 0 = .ok ⟨b₂.length + 1, c₂⟩)
    (hapart : ∀ digits, b₁.EndsInOctal digits → b₂.head?.any Numeral.isOctalDigit = false) :
    parse d (b₁ ++ b₂).inQuotes 0 = .ok ⟨b₁.length + b₂.length + 1, c₁ ++ c₂⟩ := by
  rcases exists_isBodyOf h₁ with ⟨body₁, hbody₁, hadmits₁, rfl⟩
  rcases exists_isBodyOf h₂ with ⟨body₂, hbody₂, hadmits₂, rfl⟩
  have hlegal₁ : body₁.LegalBefore (body₂.text ++ [.doubleQuote]) := by
    apply hbody₁.2.of_last
    intro digits hlast hshort
    rcases List.getLast?_eq_some_iff.mp hlast with ⟨front, rfl⟩
    rw [hbody₂.1]
    exact head?_any_not_isOctalDigit (hapart digits ⟨front, hbody₁, hshort⟩)
  have hbody : Body.IsBodyOf (b₁ ++ b₂) (body₁ ++ body₂) := by
    constructor
    · rw [Body.text_append, hbody₁.1, hbody₂.1]
    · exact (Body.legalBefore_append body₁ body₂).mpr ⟨hlegal₁, hbody₂.2⟩
  have hparse := hbody.parse_inQuotes (Dialect.admits_append.mpr ⟨hadmits₁, hadmits₂⟩)
  rw [List.length_append, Body.denoted, List.map_append] at hparse
  exact hparse

/-!
# An octal escape that goes on
-/

namespace Text

/-- The octal digits at the front of the text that an octal escape with the digits has room for. -/
def absorbed (text digits : Text) : Text :=
  (text.takeWhile Numeral.isOctalDigit).take (3 - digits.length)

theorem length_absorbed (text digits : Text) :
    (text.absorbed digits).length =
      min (3 - digits.length) (text.takeWhile Numeral.isOctalDigit).length := by
  rw [absorbed, List.length_take]

theorem isOctalDigit_of_mem_absorbed {text digits : Text} {c : CodePoint}
    (hc : c ∈ text.absorbed digits) : Numeral.isOctalDigit c = true :=
  List.mem_takeWhile_imp (List.mem_of_mem_take hc)

/-- Where digits are taken without filling the escape, all of them are. -/
theorem exists_eq_absorbed_append (text digits : Text) :
    ∃ rest, text = text.absorbed digits ++ rest ∧
      ((text.absorbed digits).length < 3 - digits.length →
        rest.head?.any Numeral.isOctalDigit = false) := by
  by_cases hroom : (text.takeWhile Numeral.isOctalDigit).length ≤ 3 - digits.length
  · refine ⟨text.dropWhile Numeral.isOctalDigit, ?_, ?_⟩
    · rw [absorbed, List.take_of_length_le hroom, List.takeWhile_append_dropWhile]
    · intro _
      have hhead := List.head?_dropWhile_not Numeral.isOctalDigit text
      cases hrest : (text.dropWhile Numeral.isOctalDigit).head? with
      | none =>
          rfl
      | some c =>
          rw [hrest] at hhead
          exact hhead
  · refine ⟨text.drop (text.absorbed digits).length, ?_, ?_⟩
    · have hrun : text.takeWhile Numeral.isOctalDigit <+: text :=
        List.takeWhile_prefix Numeral.isOctalDigit
      have hfront : text.absorbed digits <+: text := by
        apply List.IsPrefix.trans _ hrun
        exact List.take_prefix _ _
      exact (List.prefix_iff_eq_append.mp hfront).symm
    · intro hshort
      rw [length_absorbed] at hshort
      lia

end Text

namespace Body

/-- Characters that are no backslash stand for themselves at the front of a body. -/
theorem LegalBefore.exists_verbatim_front {body : Body} {after xs rest : Text}
    (hlegal : body.LegalBefore after) (hplain : ∀ x ∈ xs, x ≠ .backslash)
    (htext : body.text = xs ++ rest) : ∃ later : Body, body = xs.map .verbatim ++ later := by
  induction xs generalizing body with
  | nil =>
      exact ⟨body, rfl⟩
  | cons x xs ih =>
      rcases List.forall_mem_cons.mp hplain with ⟨hx, hxs⟩
      cases body with
      | nil =>
          cases htext
      | cons item later =>
          rw [text_cons] at htext
          rcases hlegal.1.text_cases with ⟨c, rfl, -⟩ | ⟨c, more, hescape⟩
          · rcases List.cons.inj htext with ⟨rfl, hrest⟩
            rcases ih hlegal.2 hxs hrest with ⟨later', rfl⟩
            exact ⟨later', rfl⟩
          · rw [hescape] at htext
            exact absurd (List.cons.inj htext).1.symm hx

theorem text_verbatims (xs : Text) : text (xs.map .verbatim) = xs := by
  induction xs with
  | nil =>
      rfl
  | cons x xs ih =>
      rw [List.map_cons, text_cons, ih]
      rfl

theorem denoted_verbatims (xs : Text) : denoted (xs.map .verbatim) = xs := by
  rw [denoted, List.map_map]
  exact (List.map_congr_left fun c _ => CodePoint.ofNat_value c).trans (List.map_id xs)

end Body

theorem Body.IsBodyOf.extend_octal {front later : Body} {text digits more rest : Text}
    (hfront : Body.IsBodyOf text (front ++ [.octal digits]))
    (hlater : Body.IsBodyOf (more ++ rest) (more.map .verbatim ++ later))
    (hmore : ∀ x ∈ more, Numeral.isOctalDigit x = true) (hroom : digits.length + more.length ≤ 3)
    (hfull : digits.length + more.length < 3 → rest.head?.any Numeral.isOctalDigit = false) :
    Body.IsBodyOf (text ++ (more ++ rest)) (front ++ .octal (digits ++ more) :: later) := by
  rcases hfront with ⟨rfl, hlegal⟩
  rcases hlater with ⟨htext, hlegalLater⟩
  have hrest : later.text = rest := by
    rw [text_append, text_verbatims] at htext
    exact List.append_cancel_left htext
  rcases (legalBefore_append front [.octal digits]).mp hlegal with
    ⟨hlegalFront, ⟨hpos, -, hdigits, -⟩, -⟩
  constructor
  · simp [Item.text, hrest]
  · refine (legalBefore_append front _).mpr ⟨hlegalFront.of_head? fun c hc => hc, ?_, ?_⟩
    · refine ⟨?_, ?_, ?_, ?_⟩
      · rw [List.length_append]
        lia
      · rw [List.length_append]
        exact hroom
      · exact List.forall_mem_append.mpr ⟨hdigits, hmore⟩
      · intro hshort
        rw [List.length_append] at hshort
        rw [hrest]
        exact head?_any_not_isOctalDigit (hfull hshort)
    · exact ((legalBefore_append _ later).mp hlegalLater).2

theorem parse_join_octal {d : Dialect} {b₁ b₂ c₁ c₂ digits : Text}
    (h₁ : parse d b₁.inQuotes 0 = .ok ⟨b₁.length + 1, c₁⟩)
    (h₂ : parse d b₂.inQuotes 0 = .ok ⟨b₂.length + 1, c₂⟩) (hoctal : b₁.EndsInOctal digits) :
    ∃ front back, c₁ = front ++ [.ofNat (Numeral.value 8 digits)] ∧
      c₂ = b₂.absorbed digits ++ back ∧
      parse d (b₁ ++ b₂).inQuotes 0 =
        .ok ⟨b₁.length + b₂.length + 1,
          front ++ .ofNat (Numeral.value 8 (digits ++ b₂.absorbed digits)) :: back⟩ := by
  rcases hoctal with ⟨front, hfront, hshort⟩
  rcases exists_isBodyOf h₁ with ⟨body₁, hbody₁, hadmits₁, rfl⟩
  rcases hbody₁.unique hfront with rfl
  rcases exists_isBodyOf h₂ with ⟨body₂, hbody₂, hadmits₂, rfl⟩
  rcases Text.exists_eq_absorbed_append b₂ digits with ⟨rest, hrest, hfull⟩
  have hmore : ∀ x ∈ b₂.absorbed digits, Numeral.isOctalDigit x = true := fun x hx =>
    Text.isOctalDigit_of_mem_absorbed hx
  have hplain : ∀ x ∈ b₂.absorbed digits, x ≠ .backslash := by
    rintro x hx rfl
    exact absurd (hmore _ hx) (by decide)
  have hlength := b₂.length_absorbed digits
  rcases hbody₂.2.exists_verbatim_front hplain (hbody₂.1.trans hrest) with ⟨later, rfl⟩
  have hlater : Body.IsBodyOf (b₂.absorbed digits ++ rest)
      ((b₂.absorbed digits).map .verbatim ++ later) := by
    rw [← hrest]
    exact hbody₂
  have hbody := hfront.extend_octal hlater hmore (by lia) (fun h => hfull (by lia))
  rw [← hrest] at hbody
  have hadmits : d.Admits (front ++ .octal (digits ++ b₂.absorbed digits) :: later) := by
    rcases Dialect.admits_append.mp hadmits₁ with ⟨hadmitsFront, hadmitsOctal⟩
    refine Dialect.admits_append.mpr ⟨hadmitsFront, Dialect.admits_cons.mpr ⟨?_, ?_⟩⟩
    · exact (Dialect.admits_cons.mp hadmitsOctal).1
    · exact (Dialect.admits_append.mp hadmits₂).2
  have hparse := hbody.parse_inQuotes hadmits
  refine ⟨front.denoted, later.denoted, ?_, ?_, ?_⟩
  · rw [Body.denoted, List.map_append]
    rfl
  · rw [Body.denoted, List.map_append]
    exact congrArg (· ++ _) (Body.denoted_verbatims _)
  · rw [List.length_append, Body.denoted, List.map_append] at hparse
    exact hparse

/-!
# The joining theorem
-/

/-- Two bodies that a dialect reads are read together, up to the last quote.  The content is that of
the one and then that of the other, unless an octal escape at the end of the first goes on into
octal digits at the front of the second.  In that case the escape names the number of all digits
that it has then, and the digits that it takes are missing from the content. -/
theorem parse_join (d : Dialect) (b₁ b₂ c₁ c₂ : Text)
    (h₁ : parse d b₁.inQuotes 0 = .ok ⟨b₁.length + 1, c₁⟩)
    (h₂ : parse d b₂.inQuotes 0 = .ok ⟨b₂.length + 1, c₂⟩) :
    ∃ c, parse d (b₁ ++ b₂).inQuotes 0 = .ok ⟨b₁.length + b₂.length + 1, c⟩ ∧
      ((¬∃ digits, b₁.EndsInOctal digits ∧ b₂.head?.any Numeral.isOctalDigit = true) →
        c = c₁ ++ c₂) ∧
      ∀ digits, b₁.EndsInOctal digits → b₂.head?.any Numeral.isOctalDigit = true →
        (∃ front back, c₁ = front ++ [.ofNat (Numeral.value 8 digits)] ∧
          c₂ = b₂.absorbed digits ++ back ∧
          c = front ++ .ofNat (Numeral.value 8 (digits ++ b₂.absorbed digits)) :: back) ∧
        c.length =
          c₁.length + c₂.length -
            min (3 - digits.length) (b₂.takeWhile Numeral.isOctalDigit).length := by
  by_cases hjoined : ∃ digits, b₁.EndsInOctal digits ∧ b₂.head?.any Numeral.isOctalDigit = true
  · rcases hjoined with ⟨digits, hoctal, hhead⟩
    rcases parse_join_octal h₁ h₂ hoctal with ⟨front, back, -, -, hparse⟩
    refine ⟨_, hparse, fun hapart => absurd ⟨digits, hoctal, hhead⟩ hapart, ?_⟩
    intro digits' hoctal' _
    rcases parse_join_octal h₁ h₂ hoctal' with ⟨front', back', hc₁, hc₂, hparse'⟩
    rw [hparse] at hparse'
    have hcontent := congrArg Literal.content (Except.ok.inj hparse')
    refine ⟨⟨front', back', hc₁, hc₂, hcontent⟩, ?_⟩
    rw [← Text.length_absorbed, hc₁, hc₂]
    refine (congrArg List.length hcontent).trans ?_
    simp only [List.length_append, List.length_cons, List.length_nil]
    lia
  · have hapart : ∀ digits, b₁.EndsInOctal digits →
        b₂.head?.any Numeral.isOctalDigit = false := by
      intro digits hoctal
      exact Bool.eq_false_iff.mpr fun hhead => hjoined ⟨digits, hoctal, hhead⟩
    refine ⟨_, parse_join_apart h₁ h₂ hapart, fun _ => rfl, ?_⟩
    intro digits hoctal hhead
    exact absurd ⟨digits, hoctal, hhead⟩ hjoined

/-- An octal escape of one digit in front of three digits, of which it takes two. -/
theorem parse_join_seam :
    parse ⟨0x2000⟩ (Text.inQuotes ['a', .backslash, '1']) 0 = .ok ⟨4, ['a', .ofNat 1]⟩ ∧
      parse ⟨0x2000⟩ (Text.inQuotes ['2', '3', '4']) 0 = .ok ⟨4, ['2', '3', '4']⟩ ∧
      ∃ c, parse ⟨0x2000⟩ (Text.inQuotes ['a', .backslash, '1', '2', '3', '4']) 0 = .ok ⟨7, c⟩ ∧
        c.length = 3 := by
  have hbody₁ : Body.IsBodyOf ['a', .backslash, '1'] [.verbatim 'a', .octal ['1']] :=
    ⟨by decide, by decide⟩
  have hbody₂ : Body.IsBodyOf ['2', '3', '4'] [.verbatim '2', .verbatim '3', .verbatim '4'] :=
    ⟨by decide, by decide⟩
  have hadmits₁ : Dialect.Admits ⟨0x2000⟩ [.verbatim 'a', .octal ['1']] := by
    unfold Dialect.Admits
    decide
  have hadmits₂ : Dialect.Admits ⟨0x2000⟩ [.verbatim '2', .verbatim '3', .verbatim '4'] := by
    unfold Dialect.Admits
    decide
  have h₁ := hbody₁.parse_inQuotes hadmits₁
  have h₂ := hbody₂.parse_inQuotes hadmits₂
  rcases parse_join ⟨0x2000⟩ _ _ _ _ h₁ h₂ with ⟨c, hparse, -, hseam⟩
  have hoctal : Text.EndsInOctal ['a', .backslash, '1'] ['1'] :=
    ⟨[.verbatim 'a'], hbody₁, by decide⟩
  exact ⟨h₁, h₂, c, hparse, (hseam _ hoctal (by decide)).2⟩

end QuotedLiteral
