import QuotedLiteral.Proofs.Mask
import QuotedLiteral.Proofs.Recognition

/-!
# Isolation of dialects

A literal needs a fixed set of flags.  The dialects that have them all read it
alike, and any other stops at the first escape whose flag it lacks.  A fault
that no flag is to blame for stays the same when flags are added.
-/

namespace QuotedLiteral

variable {d e : Dialect} {source : Text} {index : Int}

/-!
# The flags of a literal
-/

theorem parse_eq_ok_iff_of_between {l l' : Literal} {body : Body}
    (hbetween : body.Between source index l.close) (hcontent : l.content = body.denoted) :
    parse d source index = .ok l' ↔ d.Admits body ∧ l' = l := by
  constructor
  · intro hparse
    rcases parse_eq_ok_iff.mp hparse with ⟨body', hbetween', hadmits, hcontent'⟩
    rcases hbetween.unique hbetween' with ⟨rfl, hclose⟩
    have hsame : d.Spells source index l :=
      (spells_iff_of_between hbetween).mpr ⟨hadmits, hcontent⟩
    rw [parse_eq_ok_iff.mpr hsame] at hparse
    cases hparse
    exact ⟨hadmits, rfl⟩
  · rintro ⟨hadmits, rfl⟩
    exact parse_eq_ok_iff.mpr ((spells_iff_of_between hbetween).mpr ⟨hadmits, hcontent⟩)

theorem parse_of_refusesAfter {close : Nat} {body front : Body}
    (hbetween : body.Between source index close) (hrefuses : d.RefusesAfter body front) :
    ∃ selector, parse d source index =
      .error ⟨.unsupportedEscape selector, index + 1 + front.text.length + 1, .escape⟩ := by
  rcases Body.between_iff.mp hbetween with ⟨before, after, rfl, rfl, -, hlegal⟩
  rcases hrefuses with ⟨item, back, f, rfl, hfront, hguard, hlacks⟩
  rcases (Body.legalBefore_append front (item :: back)).mp hlegal with ⟨hlegalFront, hlegalItem, -⟩
  rcases hlegalItem.exists_selector hguard with ⟨c, rest, announced, htext, hselection⟩
  have hdisabled : ¬d.Enables c := by
    rintro ⟨g, announced', hselection', hhas⟩
    rw [hselection] at hselection'
    cases hselection'
    rw [hlacks] at hhas
    cases hhas
  have hsplit : Body.text (front ++ item :: back) ++ CodePoint.doubleQuote :: after =
      front.text ++ .backslash :: c :: (rest ++ (Body.text back ++ .doubleQuote :: after)) := by
    rw [Body.text_append, Body.text_cons, htext]
    simp
  have hlegalFront' : front.LegalBefore
      (.backslash :: c :: (rest ++ (Body.text back ++ .doubleQuote :: after))) := by
    rw [Body.text_cons, htext] at hlegalFront
    exact hlegalFront.of_head? (fun x hx => hx)
  refine ⟨c, ?_⟩
  rw [hsplit, parse_stuck hlegalFront' hfront (Stuck.refused _ hdisabled)]
  rfl

/-!
# Faults that flags cannot mend
-/

theorem Stuck.mono {rest : Text} {offset : Nat} {cause : Cause} {stage : Stage}
    (hstuck : Stuck d rest offset cause stage) (hflags : ∀ f, d.has f = true → e.has f = true)
    (hcode : cause.code? ≠ some .unsupportedEscape) : Stuck e rest offset cause stage := by
  cases hstuck with
  | ended =>
      exact Stuck.ended
  | escapeEnded =>
      exact Stuck.escapeEnded
  | refused rest hrefused =>
      exact absurd rfl hcode
  | fixedEnded hhas hdigits hshort =>
      exact Stuck.fixedEnded (hflags _ hhas) hdigits hshort
  | fixedBad rest hhas hdigits hshort hc =>
      exact Stuck.fixedBad rest (hflags _ hhas) hdigits hshort hc
  | octalEnded hhas hne hdigits hshort =>
      exact Stuck.octalEnded (hflags _ hhas) hne hdigits hshort

theorem parse_error_mono {fault : Fault} (hflags : ∀ f, d.has f = true → e.has f = true)
    (hfault : parse d source index = .error fault)
    (hcode : fault.cause.code? ≠ some .unsupportedEscape) :
    parse e source index = .error fault := by
  cases parsing_total d source index with
  | outside hinside =>
      rw [parse_outside hinside] at hfault
      rw [← hfault]
      exact parse_outside hinside
  | missing before rest hc =>
      rw [parse_missing hc] at hfault
      rw [← hfault]
      exact parse_missing hc rest
  | closed before hlegal hadmits =>
      rw [parse_closed hlegal hadmits] at hfault
      cases hfault
  | stuck before hlegal hadmits hstuck =>
      rw [parse_stuck hlegal hadmits hstuck] at hfault
      cases hfault
      exact parse_stuck hlegal (hadmits.mono hflags) (hstuck.mono hflags hcode)

/-!
# The isolation theorem
-/

/-- Either no dialect reads a literal at the index, or the literal that stands there needs the bits
of a mask: with them it is read in one way, and without one of them reading fails at the selector
of the first escape that the dialect refuses.  Beyond that, a fault with another code than that of
an unsupported escape is the same under every dialect with more flags. -/
theorem parse_isolation (source : Text) (index : Int) :
    ((∀ d, ∃ fault, parse d source index = .error fault) ∨
      ∃ (mask : Nat) (l : Literal) (body : Body),
        mask < 2 ^ 16 ∧ body.Between source index l.close ∧
          (∀ d, conjunction d.mask mask = mask ↔ ∃ l', parse d source index = .ok l') ∧
          (∀ d l', parse d source index = .ok l' → l' = l) ∧
          (∀ d, conjunction d.mask mask ≠ mask →
            ∃ front selector, d.RefusesAfter body front ∧ parse d source index =
              .error ⟨.unsupportedEscape selector, index + 1 + front.text.length + 1, .escape⟩)) ∧
      ∀ d e fault, (∀ f, d.has f = true → e.has f = true) →
        parse d source index = .error fault → fault.cause.code? ≠ some .unsupportedEscape →
        parse e source index = .error fault := by
  constructor
  · by_cases hsome : ∃ d l, parse d source index = .ok l
    · rcases hsome with ⟨d₀, l, hparse⟩
      rcases parse_eq_ok_iff.mp hparse with ⟨body, hbetween, hspells⟩
      have hcontent : l.content = body.denoted :=
        ((spells_iff_of_between hbetween).mp (parse_eq_ok_iff.mp hparse)).2
      have hmask : ∀ d : Dialect,
          conjunction d.mask (Dialect.maskOf body.flags) = Dialect.maskOf body.flags ↔
            d.Admits body := fun d => d.conjunction_maskOf_iff body.flags
      refine Or.inr ⟨Dialect.maskOf body.flags, l, body, Dialect.maskOf_lt body.flags, hbetween,
        ?_, ?_, ?_⟩
      · intro d
        rw [hmask d]
        constructor
        · intro hadmits
          exact ⟨l, (parse_eq_ok_iff_of_between hbetween hcontent).mpr ⟨hadmits, rfl⟩⟩
        · rintro ⟨l', hparse'⟩
          exact ((parse_eq_ok_iff_of_between hbetween hcontent).mp hparse').1
      · intro d l' hparse'
        exact ((parse_eq_ok_iff_of_between hbetween hcontent).mp hparse').2
      · intro d hlacks
        rw [ne_eq, hmask d] at hlacks
        rcases Dialect.exists_refusesAfter hlacks with ⟨front, hrefuses⟩
        rcases parse_of_refusesAfter hbetween hrefuses with ⟨selector, hfault⟩
        exact ⟨front, selector, hrefuses, hfault⟩
    · refine Or.inl ?_
      intro d
      cases hparse : parse d source index with
      | error fault =>
          exact ⟨fault, rfl⟩
      | ok l =>
          exact absurd ⟨d, l, hparse⟩ hsome
  · intro d e fault hflags hfault hcode
    exact parse_error_mono hflags hfault hcode

end QuotedLiteral
