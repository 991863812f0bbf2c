import QuotedLiteral.Proofs.Recognition

/-!
# Viable prefixes

Reading reports a fault as early as it can be known.  What stands before the
place of the fault can still become a literal, and with the character at that
place it no longer can.
-/

namespace QuotedLiteral

variable {d : Dialect} {rest : Text} {offset : Nat} {cause : Cause} {stage : Stage}

/-!
# An item for every flag
-/

theorem Flag.guards_cases (f : Flag) :
    (∃ m ∈ mnemonics, m.flag = f) ∨ (∃ kind : FixedEscape, kind.flag = f) ∨ f = .octal := by
  cases f with
  | hex =>
      exact Or.inr (Or.inl ⟨.hex, rfl⟩)
  | unicode =>
      exact Or.inr (Or.inl ⟨.unicode, rfl⟩)
  | octal =>
      exact Or.inr (Or.inr rfl)
  | _ =>
      exact Or.inl (by decide)

theorem isHexDigit_of_mem_append_zeros {digits : Text}
    (hdigits : ∀ x ∈ digits, Numeral.isHexDigit x = true) (count : Nat) :
    ∀ x ∈ digits ++ List.replicate count (Numeral.digit 0), Numeral.isHexDigit x = true := by
  intro x hx
  rcases List.mem_append.mp hx with hdigit | hzero
  · exact hdigits x hdigit
  · rw [List.eq_of_mem_replicate hzero]
    decide

/-- Zeros fill up an escape that has begun. -/
theorem legalBefore_fixed_zeros {kind : FixedEscape} {digits : Text}
    (hdigits : ∀ x ∈ digits, Numeral.isHexDigit x = true) (hshort : digits.length ≤ kind.width)
    (after : Text) :
    (Item.fixed kind
      (digits ++ List.replicate (kind.width - digits.length) (Numeral.digit 0))).LegalBefore
        after := by
  constructor
  · rw [List.length_append, List.length_replicate]
    lia
  · exact isHexDigit_of_mem_append_zeros hdigits _

theorem exists_item_of_flag (f : Flag) :
    ∃ item : Item, item.guard? = some f ∧ ∀ after, item.LegalBefore after := by
  rcases f.guards_cases with ⟨m, hm, rfl⟩ | ⟨kind, rfl⟩ | rfl
  · exact ⟨.mnemonic m, rfl, fun _ => hm⟩
  · refine ⟨.fixed kind ([] ++ List.replicate kind.width (Numeral.digit 0)), rfl, ?_⟩
    intro after
    exact legalBefore_fixed_zeros (by simp) (Nat.zero_le _) after
  · refine ⟨.octal (List.replicate 3 (Numeral.digit 0)), rfl, ?_⟩
    intro after
    refine ⟨by decide, by decide, by decide, ?_⟩
    intro hshort
    exact absurd hshort (by decide)

/-!
# Completing what was read
-/

/-- What stands before the offset begins a body that the dialect admits. -/
structure Completion (d : Dialect) (rest : Text) (offset : Nat) (body : Body) (more : Text) :
    Prop where
  text_eq : body.text = rest.take offset ++ more
  legal : body.LegalBefore [.doubleQuote]
  admits : d.Admits body
  head? : ∀ c, rest.head? = some c → (body.text ++ [CodePoint.doubleQuote]).head? = some c

theorem admits_singleton {item : Item} {f : Flag} (hguard : item.guard? = some f)
    (hhas : d.has f = true) : d.Admits [item] := by
  refine Dialect.admits_cons.mpr ⟨?_, d.admits_nil⟩
  intro g hg
  rw [hguard] at hg
  cases hg
  exact hhas

theorem exists_completion_backslash (hflag : ∃ f, d.has f = true) (rest : Text) :
    ∃ body more, Completion d (.backslash :: rest) 1 body more := by
  rcases hflag with ⟨f, hhas⟩
  rcases exists_item_of_flag f with ⟨item, hguard, hlegal⟩
  rcases (hlegal []).exists_selector hguard with ⟨c, more, announced, htext, -⟩
  have hbody : Body.text [item] = .backslash :: c :: more := by
    rw [Body.text_cons, htext, Body.text_nil, List.append_nil]
  refine ⟨[item], c :: more, hbody, ⟨hlegal _, trivial⟩, admits_singleton hguard hhas, ?_⟩
  intro x hx
  rw [hbody]
  exact hx

theorem exists_completion_fixed {kind : FixedEscape} {digits : Text} (hhas : d.has kind.flag = true)
    (hdigits : ∀ x ∈ digits, Numeral.isHexDigit x = true) (hshort : digits.length < kind.width)
    (rest : Text) :
    ∃ body more, Completion d (.backslash :: kind.letter :: (digits ++ rest)) (2 + digits.length)
      body more := by
  let zeros := List.replicate (kind.width - digits.length) (Numeral.digit 0)
  have hbody : Body.text [.fixed kind (digits ++ zeros)] =
      .backslash :: kind.letter :: (digits ++ zeros) := by
    rw [Body.text_cons, Body.text_nil, List.append_nil]
    rfl
  have htake : (CodePoint.backslash :: kind.letter :: (digits ++ rest)).take (2 + digits.length) =
      .backslash :: kind.letter :: digits := by
    rw [Nat.add_comm, List.take_succ_cons, List.take_succ_cons, List.take_left]
  refine ⟨[.fixed kind (digits ++ zeros)], zeros, ?_, ?_, admits_singleton rfl hhas, ?_⟩
  · rw [hbody, htake]
    rfl
  · exact ⟨legalBefore_fixed_zeros hdigits (Nat.le_of_lt hshort) _, trivial⟩
  · intro x hx
    rw [hbody]
    exact hx

theorem exists_completion_octal {digits : Text} (hhas : d.has .octal = true) (hne : digits ≠ [])
    (hdigits : ∀ x ∈ digits, Numeral.isOctalDigit x = true) (hshort : digits.length < 3) :
    ∃ body more, Completion d (.backslash :: digits) (1 + digits.length) body more := by
  have hbody : Body.text [.octal digits] = .backslash :: digits := by
    rw [Body.text_cons, Body.text_nil, List.append_nil]
    rfl
  refine ⟨[.octal digits], [], ?_, ?_, admits_singleton rfl hhas, ?_⟩
  · rw [hbody, List.append_nil, Nat.add_comm, List.take_succ_cons, List.take_length]
  · refine ⟨⟨List.length_pos_of_ne_nil hne, Nat.le_of_lt hshort, hdigits, ?_⟩, trivial⟩
    intro _
    rfl
  · intro x hx
    rw [hbody]
    exact hx

theorem Stuck.exists_completion (hstuck : Stuck d rest offset cause stage)
    (hflag : ∃ f, d.has f = true) : ∃ body more, Completion d rest offset body more := by
  cases hstuck with
  | ended =>
      exact ⟨[], [], rfl, trivial, d.admits_nil, by simp⟩
  | escapeEnded =>
      exact exists_completion_backslash hflag []
  | @refused c rest hrefused =>
      exact exists_completion_backslash hflag (c :: rest)
  | @fixedEnded kind digits hhas hdigits hshort =>
      have hcompletion := exists_completion_fixed hhas hdigits hshort []
      rw [List.append_nil] at hcompletion
      exact hcompletion
  | @fixedBad kind digits c rest hhas hdigits hshort hc =>
      exact exists_completion_fixed hhas hdigits hshort (c :: rest)
  | octalEnded hhas hne hdigits hshort =>
      exact exists_completion_octal hhas hne hdigits hshort

/-!
# How far a fault looks
-/

theorem FixedEscape.code?_bad (kind : FixedEscape) (c : CodePoint) :
    (kind.bad c).code? ≠ some .unterminated := by
  cases kind <;> exact nofun

theorem Stuck.offset_eq_length (hstuck : Stuck d rest offset cause stage)
    (hcode : cause.code? = some .unterminated) : offset = rest.length := by
  cases hstuck with
  | ended =>
      rfl
  | escapeEnded =>
      rfl
  | refused rest hrefused =>
      cases hcode
  | fixedEnded hhas hdigits hshort =>
      rw [List.length_cons, List.length_cons]
      lia
  | @fixedBad kind digits c rest hhas hdigits hshort hc =>
      exact absurd hcode (kind.code?_bad c)
  | octalEnded hhas hne hdigits hshort =>
      rw [List.length_cons]
      lia

theorem Stuck.offset_lt_length (hstuck : Stuck d rest offset cause stage)
    (hcode : cause.code? ≠ some .unterminated) : offset < rest.length := by
  cases hstuck with
  | refused rest hrefused =>
      rw [List.length_cons, List.length_cons]
      lia
  | fixedBad rest hhas hdigits hshort hc =>
      rw [List.length_cons, List.length_cons, List.length_append, List.length_cons]
      lia
  | _ =>
      exact absurd rfl hcode

/-- Nothing behind the offending character can mend the fault. -/
theorem Stuck.take_append (hstuck : Stuck d rest offset cause stage)
    (hcode : cause.code? ≠ some .unterminated) (more : Text) :
    Stuck d (rest.take (offset + 1) ++ more) offset cause stage := by
  cases hstuck with
  | @refused c rest hrefused =>
      exact Stuck.refused more hrefused
  | @fixedBad kind digits c rest hhas hdigits hshort hc =>
      have htake : (CodePoint.backslash :: kind.letter :: (digits ++ c :: rest)).take
          (2 + digits.length + 1) = .backslash :: kind.letter :: (digits ++ [c]) := by
        rw [show 2 + digits.length + 1 = digits.length + 1 + 2 by lia, List.take_succ_cons,
          List.take_succ_cons, List.take_length_add_append]
        rfl
      rw [htake, List.cons_append, List.cons_append, List.append_assoc]
      exact Stuck.fixedBad more hhas hdigits hshort hc
  | _ =>
      exact absurd rfl hcode

/-!
# Earliest faults
-/

theorem take_stuck_source (before rest : Text) (body : Body) (count : Nat) :
    (before ++ .doubleQuote :: (body.text ++ rest)).take
        (before.length + 1 + body.text.length + count) =
      before ++ .doubleQuote :: (body.text ++ rest.take count) := by
  have hfront : (before ++ .doubleQuote :: body.text).length =
      before.length + 1 + body.text.length := by
    rw [List.length_append, List.length_cons]
    lia
  have happend : ∀ tail : Text, before ++ .doubleQuote :: (body.text ++ tail) =
      (before ++ .doubleQuote :: body.text) ++ tail := by
    intro tail
    rw [List.append_assoc, List.cons_append]
  rw [happend, happend, ← hfront, List.take_length_add_append]

theorem Completion.exists_parse {body completion : Body} {more : Text}
    (hcompletion : Completion d rest offset completion more) (hlegal : body.LegalBefore rest)
    (hadmits : d.Admits body) (hoffset : offset ≤ rest.length) (before : Text) :
    ∃ t l, parse d (before ++ .doubleQuote :: (body.text ++ rest.take offset) ++ t) before.length =
        .ok l ∧ before.length + 1 + body.text.length + offset ≤ l.close := by
  have hlegalBody : body.LegalBefore (completion.text ++ [.doubleQuote]) :=
    hlegal.of_head? hcompletion.head?
  have hlegalAll : Body.LegalBefore [.doubleQuote] (body ++ completion) :=
    (Body.legalBefore_append body completion).mpr ⟨hlegalBody, hcompletion.legal⟩
  have hadmitsAll : d.Admits (body ++ completion) :=
    Dialect.admits_append.mpr ⟨hadmits, hcompletion.admits⟩
  have hsource : before ++ .doubleQuote :: (body.text ++ rest.take offset) ++
        (more ++ [.doubleQuote]) =
      before ++ .doubleQuote :: (Body.text (body ++ completion) ++ [.doubleQuote]) := by
    rw [Body.text_append, hcompletion.text_eq]
    simp
  have hparse : parse d (before ++ .doubleQuote :: (body.text ++ rest.take offset) ++
        (more ++ [.doubleQuote])) before.length =
      .ok ⟨before.length + 1 + (Body.text (body ++ completion)).length,
        Body.denoted (body ++ completion)⟩ := by
    rw [hsource, parse_closed hlegalAll hadmitsAll]
  refine ⟨_, _, hparse, ?_⟩
  change before.length + 1 + body.text.length + offset ≤
    before.length + 1 + (Body.text (body ++ completion)).length
  rw [Body.text_append, hcompletion.text_eq, List.length_append, List.length_append,
    List.length_take, Nat.min_eq_left hoffset]
  lia

theorem exists_parse_of_missing (d : Dialect) (before : Text) :
    ∃ t l, parse d (before ++ t) before.length = .ok l ∧ before.length ≤ l.close := by
  have hparse : parse d (before ++ .doubleQuote :: [.doubleQuote]) before.length =
      .ok ⟨before.length + 1, []⟩ :=
    @parse_closed d before [] [] trivial d.admits_nil
  exact ⟨_, _, hparse, Nat.le_succ before.length⟩

/-- A dialect with a flag reports the end of the source only where the literal can still be
completed, and any other fault at the first character that no continuation can mend. -/
theorem parse_error_earliest (d : Dialect) (source : Text) (index : Int) (fault : Fault)
    (hflag : ∃ f, d.has f = true) (hindex : 0 ≤ index ∧ index < source.length)
    (hfault : parse d source index = .error fault) :
    (fault.cause.code? = some .unterminated →
      fault.index = source.length ∧ ∃ t l, parse d (source ++ t) index = .ok l) ∧
    (fault.cause.code? ≠ some .unterminated →
      ∃ j : Nat, fault.index = j ∧ index ≤ j ∧ j < source.length ∧
        (∃ t l, parse d (source.take j ++ t) index = .ok l ∧ j ≤ l.close) ∧
        ∀ t, ∃ fault', parse d (source.take (j + 1) ++ t) index = .error fault') := by
  cases parsing_total d source index with
  | outside hinside =>
      exact absurd hindex hinside
  | closed before hlegal hadmits =>
      rw [parse_closed hlegal hadmits] at hfault
      cases hfault
  | @missing before c rest hc =>
      rw [parse_missing hc] at hfault
      cases hfault
      constructor
      · intro hcode
        cases hcode
      · intro _
        refine ⟨before.length, rfl, Int.le_refl _, ?_, ?_, ?_⟩
        · rw [List.length_append, List.length_cons]
          lia
        · rw [List.take_left]
          exact exists_parse_of_missing d before
        · intro t
          have htake : (before ++ c :: rest).take (before.length + 1) = before ++ [c] :=
            List.take_length_add_append 1
          rw [htake, List.append_assoc]
          exact ⟨_, parse_missing hc t⟩
  | @stuck before body rest offset cause stage hlegal hadmits hstuck =>
      rw [parse_stuck hlegal hadmits hstuck] at hfault
      cases hfault
      rcases hstuck.exists_completion hflag with ⟨completion, more, hcompletion⟩
      constructor
      · intro hcode
        have hoffset : offset = rest.length := hstuck.offset_eq_length hcode
        rcases hcompletion.exists_parse hlegal hadmits (Nat.le_of_eq hoffset) before with
          ⟨t, l, hparse, -⟩
        rw [hoffset, List.take_length] at hparse
        constructor
        · simp only [hoffset, List.length_append, List.length_cons]
          lia
        · exact ⟨t, l, hparse⟩
      · intro hcode
        have hoffset : offset < rest.length := hstuck.offset_lt_length hcode
        refine ⟨before.length + 1 + body.text.length + offset, rfl, ?_, ?_, ?_, ?_⟩
        · lia
        · simp only [List.length_append, List.length_cons]
          lia
        · rw [take_stuck_source]
          exact hcompletion.exists_parse hlegal hadmits (Nat.le_of_lt hoffset) before
        · intro t
          rw [Nat.add_assoc _ offset 1, take_stuck_source, List.append_assoc, List.cons_append,
            List.append_assoc]
          have hlegal' : body.LegalBefore (rest.take (offset + 1) ++ t) := by
            apply hlegal.of_head?
            intro x hx
            cases rest with
            | nil =>
                cases hx
            | cons y rest =>
                exact hx
          exact ⟨_, parse_stuck hlegal' hadmits (hstuck.take_append hcode t)⟩

/-- A dialect with hexadecimal escapes only, whose second digit is missing. -/
theorem parse_error_earliest_hex :
    (∃ f, Dialect.has ⟨0x100⟩ f = true) ∧
      parse ⟨0x100⟩ [.doubleQuote, .backslash, 'x', '4', 'g'] 0 =
        .error ⟨.badHexDigit 'g', 4, .hex⟩ ∧
      (∃ t l, parse ⟨0x100⟩ (.doubleQuote :: .backslash :: 'x' :: '4' :: t) 0 = .ok l ∧
        4 ≤ l.close) ∧
      ∀ t, ∃ fault, parse ⟨0x100⟩ (.doubleQuote :: .backslash :: 'x' :: '4' :: 'g' :: t) 0 =
        .error fault := by
  have hflag : ∃ f, Dialect.has ⟨0x100⟩ f = true := ⟨.hex, by decide⟩
  have hfault : parse ⟨0x100⟩ [.doubleQuote, .backslash, 'x', '4', 'g'] 0 =
      .error ⟨.badHexDigit 'g', 4, .hex⟩ := by
    have hstuck : Stuck ⟨0x100⟩ [.backslash, 'x', '4', 'g'] 3 (.badHexDigit 'g') .hex :=
      @Stuck.fixedBad ⟨0x100⟩ .hex ['4'] 'g' [] (by decide) (by decide) (by decide) (by decide)
    exact @parse_stuck ⟨0x100⟩ [] [] _ _ _ _ trivial (Dialect.admits_nil _) hstuck
  have hearliest := parse_error_earliest ⟨0x100⟩ _ 0 _ hflag (by decide) hfault
  rcases hearliest.2 nofun with ⟨j, hj, -, -, hviable, hdead⟩
  cases Int.ofNat_inj.mp hj
  exact ⟨hflag, hfault, hviable, hdead⟩

end QuotedLiteral
