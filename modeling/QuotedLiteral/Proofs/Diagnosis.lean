import QuotedLiteral.Proofs.Locality

/-!
# What a diagnostic tells

The diagnostic of a literal that cannot be read has a code, a state, an index and
a character.  Each code is that of one kind of place in the source, and the other
fields tell which place it is and what stands there.
-/

namespace QuotedLiteral

/-!
# The fields of a diagnostic
-/

namespace Code

theorem mem_all (code : Code) : code ∈ all := by
  cases code <;> decide

theorem length_opening (code : Code) : code.opening.length = 11 := by
  cases code <;> decide

theorem opening_injective {code code' : Code} (h : code.opening = code'.opening) :
    code = code' := by
  have hall : ∀ a ∈ all, ∀ b ∈ all, a.opening = b.opening → a = b := by
    decide
  exact hall code code.mem_all code' code'.mem_all h

/-- No message opens with two codes. -/
theorem eq_of_opening_isPrefix {code code' : Code} {rest : Text}
    (hopens : code'.opening <+: code.opening ++ rest) : code' = code := by
  have hlength : code'.opening.length = code.opening.length := by
    rw [length_opening, length_opening]
  have hshared : code'.opening <+: code.opening :=
    List.prefix_of_prefix_length_le hopens (List.prefix_append code.opening rest)
      (Nat.le_of_eq hlength)
  exact opening_injective (hshared.eq_of_length hlength)

end Code

theorem Fault.exists_message_eq {fault : Fault} {code : Code}
    (hcode : fault.cause.code? = some code) : ∃ rest, fault.message = code.opening ++ rest := by
  rcases fault with ⟨cause, index, stage⟩
  cases cause <;> cases hcode <;> simp [message]

namespace Diagnostic

/-- The code that the message opens with. -/
def code? (e : Diagnostic) : Option Code :=
  Code.all.find? fun code => code.opening.isPrefixOf e.message

/-- The state that the diagnostic names. -/
def IsIn (e : Diagnostic) (stage : Stage) : Prop :=
  e.state = Text.ofString stage.label

end Diagnostic

theorem Fault.code?_diagnostic {fault : Fault} {code : Code}
    (hcode : fault.cause.code? = some code) (source : Text) :
    (fault.diagnostic source).code? = fault.cause.code? := by
  rcases exists_message_eq hcode with ⟨rest, hmessage⟩
  have hopens : code.opening.isPrefixOf (code.opening ++ rest) = true :=
    List.isPrefixOf_iff_prefix.mpr (List.prefix_append code.opening rest)
  rw [hcode, Diagnostic.code?, diagnostic, hmessage]
  cases hfind : Code.all.find? fun code' => code'.opening.isPrefixOf (code.opening ++ rest) with
  | none =>
      exact absurd hopens (List.find?_eq_none.mp hfind code code.mem_all)
  | some code' =>
      have hopens' := List.find?_some hfind
      rw [Code.eq_of_opening_isPrefix (List.isPrefixOf_iff_prefix.mp hopens')]

theorem Stage.eq_of_label_eq {s t : Stage} (h : Text.ofString s.label = Text.ofString t.label) :
    s = t := by
  cases s <;> cases t <;> first | rfl | exact absurd h (by decide)

theorem Fault.isIn_diagnostic_iff {fault : Fault} {source : Text} {stage : Stage} :
    (fault.diagnostic source).IsIn stage ↔ fault.stage = stage := by
  constructor
  · exact Stage.eq_of_label_eq
  · intro h
    rw [← h]
    rfl

/-!
# Where a fault stands
-/

namespace FixedEscape

/-- The code of a diagnostic about a missing digit. -/
def code : FixedEscape → Code
  | hex => .badHexDigit
  | unicode => .badUnicodeDigit

theorem code?_bad_eq (kind : FixedEscape) (c : CodePoint) :
    (kind.bad c).code? = some kind.code := by
  cases kind <;> rfl

theorem code_injective {kind kind' : FixedEscape} (h : kind.code = kind'.code) : kind = kind' := by
  cases kind <;> cases kind' <;> first | rfl | cases h

theorem stage_injective {kind kind' : FixedEscape} (h : kind.stage = kind'.stage) :
    kind = kind' := by
  cases kind <;> cases kind' <;> first | rfl | cases h

end FixedEscape

/-- Reading at the index has gone wrong at the place of the fault: no literal begins there, the
source ends, or a character of an escape is refused for what stands before it. -/
inductive Located (d : Dialect) (source : Text) (index : Int) : Fault → Prop where
  | missing {cause : Cause} (hcode : cause.code? = some .missingQuote)
      (hfound : ∀ c, source.at? index = some c → cause = .missingQuote c)
      (hopening : source.at? index ≠ some .doubleQuote) :
      Located d source index ⟨cause, index, .outside⟩
  | ended (stage : Stage) (hopening : source.at? index = some .doubleQuote) :
      Located d source index ⟨.unterminated, source.length, stage⟩
  | refused {place : Nat} {c : CodePoint} (hopening : source.at? index = some .doubleQuote)
      (hslash : source.at? (place - 1) = some .backslash) (hc : source.at? place = some c)
      (hrefused : ¬d.Enables c) :
      Located d source index ⟨.unsupportedEscape c, place, .escape⟩
  | badDigit (kind : FixedEscape) {place : Nat} {c : CodePoint} {digits : Text}
      (hopening : source.at? index = some .doubleQuote) (hhas : d.has kind.flag = true)
      (hshort : digits.length < kind.width) (hdigits : ∀ x ∈ digits, Numeral.isHexDigit x = true)
      (hbefore : .backslash :: kind.letter :: digits <:+ source.slice (index + 1) place)
      (hc : source.at? place = some c) (hbad : Numeral.isHexDigit c = false) :
      Located d source index ⟨kind.bad c, place, kind.stage⟩

theorem at?_behind_body (before rest : Text) (body : Body) (offset : Nat) :
    Text.at? (before ++ .doubleQuote :: (body.text ++ rest))
        (before.length + 1 + body.text.length + offset : Nat) = rest[offset]? := by
  rw [Nat.add_assoc, at?_after, List.getElem?_append_right (Nat.le_add_right _ _),
    Nat.add_sub_cancel_left]

theorem Text.slice_behind_body (before rest : Text) (body : Body) (offset : Nat) :
    Text.slice (before ++ .doubleQuote :: (body.text ++ rest)) (before.length + 1)
        (before.length + 1 + body.text.length + offset : Nat) =
      body.text ++ rest.take offset := by
  rw [Nat.add_assoc, slice_after, List.take_length_add_append]

theorem Stuck.located {d : Dialect} {rest : Text} {offset : Nat} {cause : Cause} {stage : Stage}
    (hstuck : Stuck d rest offset cause stage) (before : Text) (body : Body) :
    Located d (before ++ .doubleQuote :: (body.text ++ rest)) before.length
      ⟨cause, (before.length + 1 + body.text.length + offset : Nat), stage⟩ := by
  have hopening := at?_before before .doubleQuote (body.text ++ rest)
  by_cases hcode : cause.code? = some .unterminated
  · -- wherever the source ends, the offset is the length of what is left of it
    have hlength : before.length + 1 + body.text.length + offset =
        (before ++ .doubleQuote :: (body.text ++ rest)).length := by
      rw [hstuck.offset_eq_length hcode]
      simp only [List.length_append, List.length_cons]
      lia
    rw [hlength, Cause.eq_unterminated_of_code? hcode]
    exact Located.ended stage hopening
  · cases hstuck with
    | @refused c rest hrefused =>
        refine Located.refused hopening ?_ ?_ hrefused
        · have hslash := at?_behind_body before (.backslash :: c :: rest) body 0
          rw [Int.natCast_succ, Int.add_sub_cancel]
          exact hslash
        · exact at?_behind_body before (.backslash :: c :: rest) body 1
    | @fixedBad kind digits c rest hhas hdigits hshort hc =>
        refine Located.badDigit kind hopening hhas hshort hdigits ?_ ?_ hc
        · rw [Text.slice_behind_body, Nat.add_comm 2, List.take_succ_cons, List.take_succ_cons,
            List.take_left]
          exact List.suffix_append _ _
        · rw [at?_behind_body, Nat.add_comm 2, List.getElem?_cons_succ, List.getElem?_cons_succ,
            List.getElem?_append_right (Nat.le_refl _), Nat.sub_self]
          rfl
    | _ =>
        exact absurd rfl hcode

theorem located_of_parse {d : Dialect} {source : Text} {index : Int} {fault : Fault}
    (hparse : parse d source index = .error fault) : Located d source index fault := by
  cases parsing_total d source index with
  | outside hinside =>
      rw [parse_outside hinside] at hparse
      cases hparse
      have hnone := at?_eq_none hinside
      refine Located.missing rfl ?_ ?_
      · intro c hc
        rw [hnone] at hc
        cases hc
      · rw [hnone]
        exact nofun
  | @missing before c rest hc =>
      rw [parse_missing hc] at hparse
      cases hparse
      have hchar := at?_before before c rest
      refine Located.missing rfl ?_ ?_
      · intro c' hc'
        rw [hchar] at hc'
        cases hc'
        rfl
      · rw [hchar]
        exact fun h => hc (Option.some.inj h)
  | closed before hlegal hadmits =>
      rw [parse_closed hlegal hadmits] at hparse
      cases hparse
  | @stuck before body rest offset cause stage hlegal hadmits hstuck =>
      rw [parse_stuck hlegal hadmits hstuck] at hparse
      cases hparse
      exact hstuck.located before body

/-!
# What the place of a fault tells
-/

namespace Located

variable {d : Dialect} {source : Text} {index : Int} {fault : Fault}

theorem missingQuote_iff (hlocated : Located d source index fault) :
    fault.cause.code? = some .missingQuote ↔ source.at? index ≠ some .doubleQuote := by
  cases hlocated with
  | missing hcode hfound hopening =>
      exact iff_of_true hcode hopening
  | ended stage hopening =>
      exact iff_of_false nofun (not_not_intro hopening)
  | refused hopening hslash hc hrefused =>
      exact iff_of_false nofun (not_not_intro hopening)
  | @badDigit kind place c digits hopening hhas hshort hdigits hbefore hc hbad =>
      rw [kind.code?_bad_eq]
      exact iff_of_false (by cases kind <;> exact nofun) (not_not_intro hopening)

theorem unterminated_iff (hlocated : Located d source index fault) :
    fault.cause.code? = some .unterminated ↔
      fault.index = source.length ∧ source.at? index = some .doubleQuote := by
  cases hlocated with
  | missing hcode hfound hopening =>
      rw [hcode]
      exact iff_of_false nofun (fun h => hopening h.2)
  | ended stage hopening =>
      exact iff_of_true rfl ⟨rfl, hopening⟩
  | refused hopening hslash hc hrefused =>
      exact iff_of_false nofun (fun h => Int.ne_of_lt (lt_length_of_at? hc) h.1)
  | @badDigit kind place c digits hopening hhas hshort hdigits hbefore hc hbad =>
      rw [kind.code?_bad_eq]
      exact iff_of_false (by cases kind <;> exact nofun)
        (fun h => Int.ne_of_lt (lt_length_of_at? hc) h.1)

theorem unsupportedEscape_iff (hlocated : Located d source index fault) :
    fault.cause.code? = some .unsupportedEscape ↔
      fault.stage = .escape ∧ fault.index < source.length := by
  cases hlocated with
  | missing hcode hfound hopening =>
      rw [hcode]
      exact iff_of_false nofun nofun
  | ended stage hopening =>
      exact iff_of_false nofun (fun h => Int.lt_irrefl _ h.2)
  | refused hopening hslash hc hrefused =>
      exact iff_of_true rfl ⟨rfl, lt_length_of_at? hc⟩
  | @badDigit kind place c digits hopening hhas hshort hdigits hbefore hc hbad =>
      rw [kind.code?_bad_eq]
      exact iff_of_false (by cases kind <;> exact nofun) (by cases kind <;> exact nofun)

theorem badDigit_iff (hlocated : Located d source index fault) (kind : FixedEscape) :
    fault.cause.code? = some kind.code ↔
      fault.stage = kind.stage ∧ fault.index < source.length := by
  cases hlocated with
  | missing hcode hfound hopening =>
      rw [hcode]
      exact iff_of_false (by cases kind <;> exact nofun) (by cases kind <;> exact nofun)
  | ended stage hopening =>
      exact iff_of_false (by cases kind <;> exact nofun) (fun h => Int.lt_irrefl _ h.2)
  | refused hopening hslash hc hrefused =>
      exact iff_of_false (by cases kind <;> exact nofun) (by cases kind <;> exact nofun)
  | @badDigit kind' place c digits hopening hhas hshort hdigits hbefore hc hbad =>
      rw [kind'.code?_bad_eq]
      constructor
      · intro hcode
        rw [FixedEscape.code_injective (Option.some.inj hcode)]
        exact ⟨rfl, lt_length_of_at? hc⟩
      · rintro ⟨hstage, -⟩
        rw [FixedEscape.stage_injective hstage]

theorem place_of_missingQuote (hlocated : Located d source index fault)
    (hcode : fault.cause.code? = some .missingQuote) :
    fault.stage = .outside ∧ fault.index = index := by
  cases hlocated with
  | missing hcause hfound hopening =>
      exact ⟨rfl, rfl⟩
  | @badDigit kind place c digits hopening hhas hshort hdigits hbefore hc hbad =>
      cases kind <;> cases hcode
  | _ =>
      cases hcode

theorem place_of_unsupportedEscape (hlocated : Located d source index fault)
    (hcode : fault.cause.code? = some .unsupportedEscape) :
    source.at? (fault.index - 1) = some .backslash ∧
      ∃ c, source.at? fault.index = some c ∧ ¬d.Enables c := by
  cases hlocated with
  | missing hcause hfound hopening =>
      rw [hcause] at hcode
      cases hcode
  | ended stage hopening =>
      cases hcode
  | refused hopening hslash hc hrefused =>
      exact ⟨hslash, _, hc, hrefused⟩
  | @badDigit kind place c digits hopening hhas hshort hdigits hbefore hc hbad =>
      cases kind <;> cases hcode

theorem place_of_badDigit {kind : FixedEscape} (hlocated : Located d source index fault)
    (hcode : fault.cause.code? = some kind.code) :
    d.has kind.flag = true ∧
      (∃ digits, digits.length < kind.width ∧ (∀ x ∈ digits, Numeral.isHexDigit x = true) ∧
        .backslash :: kind.letter :: digits <:+ source.slice (index + 1) fault.index) ∧
      ∃ c, source.at? fault.index = some c ∧ Numeral.isHexDigit c = false := by
  cases hlocated with
  | missing hcause hfound hopening =>
      rw [hcause] at hcode
      cases kind <;> cases hcode
  | ended stage hopening =>
      cases kind <;> cases hcode
  | refused hopening hslash hc hrefused =>
      cases kind <;> cases hcode
  | @badDigit kind' place c digits hopening hhas hshort hdigits hbefore hc hbad =>
      rw [kind'.code?_bad_eq] at hcode
      rw [← FixedEscape.code_injective (Option.some.inj hcode)]
      exact ⟨hhas, ⟨digits, hshort, hdigits, hbefore⟩, c, hc, hbad⟩

theorem stage_ne (hlocated : Located d source index fault)
    (hindex : fault.index < source.length) : fault.stage ≠ .body ∧ fault.stage ≠ .octal := by
  cases hlocated with
  | ended stage hopening =>
      exact absurd hindex (Int.lt_irrefl _)
  | @badDigit kind place c digits hopening hhas hshort hdigits hbefore hc hbad =>
      cases kind <;> exact ⟨nofun, nofun⟩
  | _ =>
      exact ⟨nofun, nofun⟩

/-- The message ends in the character at the place of the fault. -/
theorem quoted_suffix_message (hlocated : Located d source index fault) {c : CodePoint}
    (hc : source.at? fault.index = some c) : c.quoted <:+ fault.message := by
  cases hlocated with
  | missing hcode hfound hopening =>
      rw [hfound c hc]
      exact List.suffix_append _ _
  | ended stage hopening =>
      exact absurd (lt_length_of_at? hc) (Int.lt_irrefl _)
  | refused hopening hslash hplace hrefused =>
      rw [Option.some.inj (hc.symm.trans hplace)]
      exact List.suffix_append _ _
  | @badDigit kind place c' digits hopening hhas hshort hdigits hbefore hplace hbad =>
      rw [Option.some.inj (hc.symm.trans hplace)]
      cases kind <;> exact List.suffix_append _ _

end Located

/-!
# True diagnostics
-/

/-- What the fields of a diagnostic about reading at the index say of the source is so. -/
structure Diagnostic.IsTrueOf (d : Dialect) (source : Text) (index : Int) (e : Diagnostic) :
    Prop where
  source_eq : e.source = source
  char_eq : e.char = source.at? e.index
  message_char : ∀ c, e.char = some c → c.quoted <:+ e.message
  missingQuote_iff :
    e.code? = some .missingQuote ↔ source.at? index ≠ some .doubleQuote
  missingQuote_place : e.code? = some .missingQuote → e.IsIn .outside ∧ e.index = index
  unterminated_iff :
    e.code? = some .unterminated ↔
      e.index = source.length ∧ source.at? index = some .doubleQuote
  unsupportedEscape_iff :
    e.code? = some .unsupportedEscape ↔ e.IsIn .escape ∧ e.index < source.length
  unsupportedEscape_place :
    e.code? = some .unsupportedEscape →
      source.at? (e.index - 1) = some .backslash ∧ ∃ c, e.char = some c ∧ ¬d.Enables c
  badDigit_iff (kind : FixedEscape) :
    e.code? = some kind.code ↔ e.IsIn kind.stage ∧ e.index < source.length
  badDigit_place (kind : FixedEscape) :
    e.code? = some kind.code →
      d.has kind.flag = true ∧
        (∃ digits, digits.length < kind.width ∧ (∀ x ∈ digits, Numeral.isHexDigit x = true) ∧
          .backslash :: kind.letter :: digits <:+ source.slice (index + 1) e.index) ∧
        ∃ c, e.char = some c ∧ Numeral.isHexDigit c = false
  not_in_body_or_octal : e.index < source.length → ¬e.IsIn .body ∧ ¬e.IsIn .octal

theorem Located.isTrueOf {d : Dialect} {source : Text} {index : Int} {fault : Fault} {code : Code}
    (hlocated : Located d source index fault) (hcause : fault.cause.code? = some code) :
    (fault.diagnostic source).IsTrueOf d source index := by
  have hcode := Fault.code?_diagnostic hcause source
  constructor
  · rfl
  · rfl
  · intro c hc
    exact hlocated.quoted_suffix_message hc
  · rw [hcode]
    exact hlocated.missingQuote_iff
  · rw [hcode, Fault.isIn_diagnostic_iff]
    exact hlocated.place_of_missingQuote
  · rw [hcode]
    exact hlocated.unterminated_iff
  · rw [hcode, Fault.isIn_diagnostic_iff]
    exact hlocated.unsupportedEscape_iff
  · rw [hcode]
    exact hlocated.place_of_unsupportedEscape
  · intro kind
    rw [hcode, Fault.isIn_diagnostic_iff]
    exact hlocated.badDigit_iff kind
  · intro kind
    rw [hcode]
    exact hlocated.place_of_badDigit
  · rw [Fault.isIn_diagnostic_iff, Fault.isIn_diagnostic_iff]
    exact hlocated.stage_ne

/-- A literal that cannot be read is complained of in a diagnostic, and the diagnostic is true. -/
theorem parse_diagnostic_isTrueOf (d : Dialect) (source : Text) (index : Int) (fault : Fault)
    (hparse : parse d source index = .error fault) :
    ∃ e, fault.complaint source = .malformed e ∧ e.IsTrueOf d source index := by
  rcases (read_staysIn d source index).fault_code fault hparse with ⟨code, hcode⟩
  exact ⟨_, fault.complaint_eq_malformed hcode source,
    (located_of_parse hparse).isTrueOf hcode⟩

/-- The closing quote stands where the third digit of a unicode escape should. -/
theorem parse_diagnostic_isTrueOf_unicode :
    parse ⟨0x40⟩ [.doubleQuote, 'a', .backslash, 'u', '1', 'F', .doubleQuote] 0 =
        .error ⟨.badUnicodeDigit .doubleQuote, 6, .unicode⟩ ∧
      ∃ e, Fault.complaint [.doubleQuote, 'a', .backslash, 'u', '1', 'F', .doubleQuote]
          ⟨.badUnicodeDigit .doubleQuote, 6, .unicode⟩ = .malformed e ∧
        e.IsTrueOf ⟨0x40⟩ [.doubleQuote, 'a', .backslash, 'u', '1', 'F', .doubleQuote] 0 := by
  have hstuck : Stuck ⟨0x40⟩ [.backslash, 'u', '1', 'F', .doubleQuote] 4
      (.badUnicodeDigit .doubleQuote) .unicode :=
    @Stuck.fixedBad ⟨0x40⟩ .unicode ['1', 'F'] .doubleQuote [] (by decide) (by decide) (by decide)
      (by decide)
  have hparse : parse ⟨0x40⟩ [.doubleQuote, 'a', .backslash, 'u', '1', 'F', .doubleQuote] 0 =
      .error ⟨.badUnicodeDigit .doubleQuote, 6, .unicode⟩ :=
    @parse_stuck ⟨0x40⟩ [] [.verbatim 'a'] _ _ _ _ (by decide) (Dialect.admits_nil _) hstuck
  exact ⟨hparse, parse_diagnostic_isTrueOf ⟨0x40⟩ _ 0 _ hparse⟩

end QuotedLiteral
