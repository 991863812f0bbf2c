import QuotedLiteral.Proofs.Containment
import QuotedLiteral.Proofs.ViablePrefix

/-!
# Reading is local

What is read depends on no character before the opening quote and on none behind
the one at which reading ends.  Hence a literal that is cut off anywhere behind
its opening quote is unterminated, and nothing else is wrong with it.
-/

namespace QuotedLiteral

variable {d : Dialect} {source : Text} {index : Int}

/-!
# Slices
-/

theorem Text.slice_stuck_source (before rest : Text) (body : Body) (count : Nat) :
    Text.slice (before ++ .doubleQuote :: (body.text ++ rest)) before.length
        (before.length + 1 + body.text.length + count : Nat) =
      .doubleQuote :: (body.text ++ rest.take count) := by
  rw [slice, Int.toNat_natCast, Int.toNat_natCast, take_stuck_source, List.drop_left]

theorem Text.split_at_slice (source : Text) {start stop : Nat} (h : start ≤ stop) :
    source = source.take start ++ source.slice start stop ++ source.drop stop := by
  have htake : source.take start = (source.take stop).take start := by
    rw [List.take_take, Nat.min_eq_left h]
  rw [slice, Int.toNat_natCast, Int.toNat_natCast, htake, List.take_append_drop,
    List.take_append_drop]

theorem Text.slice_take (source : Text) {start stop count : Nat} (h : stop ≤ count) :
    Text.slice (source.take count) start stop = source.slice start stop := by
  rw [slice, slice, Int.toNat_natCast, Int.toNat_natCast, List.take_take, Nat.min_eq_left h]

/-- A character of a slice, where the slice stands between other texts. -/
theorem Text.at?_slice (source before after : Text) {start i : Nat} (h : start ≤ i)
    (hi : i < source.length) :
    Text.at? (before ++ source.slice start (i + 1 : Nat) ++ after) (before.length + i - start) =
      source.at? i := by
  have hindex : (before.length + i - start : Int) = (before.length + (i - start) : Nat) := by
    lia
  have hlength : i - start < (source.slice start (i + 1 : Nat)).length := by
    rw [slice, Int.toNat_natCast, Int.toNat_natCast, List.length_drop, List.length_take]
    lia
  rw [hindex, at?_natCast, at?_natCast, List.append_assoc,
    List.getElem?_append_right (Nat.le_add_right _ _), Nat.add_sub_cancel_left,
    List.getElem?_append_left hlength, slice, Int.toNat_natCast, Int.toNat_natCast,
    List.getElem?_drop, Nat.add_sub_cancel' h, List.getElem?_take_of_lt (Nat.lt_succ_self i)]

/-!
# Literals
-/

theorem parse_slice_of_ok {l : Literal} (hparse : parse d source index = .ok l)
    (before after : Text) :
    parse d (before ++ source.slice index (l.close + 1 : Nat) ++ after) before.length =
      .ok ⟨before.length + l.close - index.toNat, l.content⟩ := by
  cases parsing_total d source index with
  | outside hinside =>
      rw [parse_outside hinside] at hparse
      cases hparse
  | missing front rest hc =>
      rw [parse_missing hc] at hparse
      cases hparse
  | stuck front hlegal hadmits hstuck =>
      rw [parse_stuck hlegal hadmits hstuck] at hparse
      cases hparse
  | @closed front body rest hlegal hadmits =>
      rw [parse_closed hlegal hadmits] at hparse
      cases hparse
      have hlegal' : body.LegalBefore (.doubleQuote :: after) :=
        hlegal.of_head? (fun c hc => hc)
      have hsource : before ++ .doubleQuote :: (body.text ++ [.doubleQuote]) ++ after =
          before ++ .doubleQuote :: (body.text ++ .doubleQuote :: after) := by
        simp
      have hclose : before.length + (front.length + 1 + body.text.length) - front.length =
          before.length + 1 + body.text.length := by
        lia
      rw [Text.slice_stuck_source, List.take_succ_cons, List.take_zero, hsource,
        parse_closed hlegal' hadmits, Int.toNat_natCast, hclose]

/-!
# Faults
-/

theorem Cause.eq_unterminated_of_code? {cause : Cause} (h : cause.code? = some .unterminated) :
    cause = .unterminated := by
  cases cause with
  | unterminated =>
      rfl
  | _ =>
      cases h

theorem Stuck.message_eq {rest : Text} {offset : Nat} {cause : Cause} {stage : Stage}
    (hstuck : Stuck d rest offset cause stage) (i j : Int) :
    Fault.message ⟨cause, i, stage⟩ = Fault.message ⟨cause, j, stage⟩ := by
  cases hstuck with
  | @fixedBad kind digits c rest hhas hdigits hshort hc =>
      cases kind <;> rfl
  | _ =>
      rfl

theorem Body.LegalBefore.take_append {body : Body} {rest : Text} (hlegal : body.LegalBefore rest)
    (count : Nat) (after : Text) : body.LegalBefore (rest.take (count + 1) ++ after) := by
  apply hlegal.of_head?
  intro c hc
  cases rest with
  | nil =>
      cases hc
  | cons x rest =>
      exact hc

/-- A fault of a literal in the source is its end, or is found at a character. -/
theorem parse_error_cases {fault : Fault} (hinside : 0 ≤ index ∧ index < source.length)
    (hparse : parse d source index = .error fault) :
    (∃ stage, fault = ⟨.unterminated, source.length, stage⟩) ∨
      (index ≤ fault.index ∧ fault.index < source.length) := by
  cases parsing_total d source index with
  | outside houtside =>
      exact absurd hinside houtside
  | closed before hlegal hadmits =>
      rw [parse_closed hlegal hadmits] at hparse
      cases hparse
  | missing before rest hc =>
      rw [parse_missing hc] at hparse
      cases hparse
      exact Or.inr ⟨Int.le_refl _, hinside.2⟩
  | @stuck before body rest offset cause stage hlegal hadmits hstuck =>
      rw [parse_stuck hlegal hadmits hstuck] at hparse
      cases hparse
      have hlength : (before ++ .doubleQuote :: (body.text ++ rest)).length =
          before.length + 1 + body.text.length + rest.length := by
        simp only [List.length_append, List.length_cons]
        lia
      by_cases hcode : cause.code? = some .unterminated
      · refine Or.inl ⟨stage, ?_⟩
        rw [Cause.eq_unterminated_of_code? hcode, hlength, hstuck.offset_eq_length hcode]
      · have hoffset := hstuck.offset_lt_length hcode
        refine Or.inr ⟨by lia, ?_⟩
        rw [hlength]
        lia

theorem parse_slice_of_error {fault : Fault} (hparse : parse d source index = .error fault)
    (hinside : 0 ≤ index ∧ index < source.length) (hfault : fault.index < source.length)
    (before after : Text) :
    parse d (before ++ source.slice index (fault.index + 1) ++ after) before.length =
        .error { fault with index := before.length + fault.index - index } ∧
      ∀ i, Fault.message { fault with index := i } = fault.message := by
  cases parsing_total d source index with
  | outside houtside =>
      exact absurd hinside houtside
  | closed front hlegal hadmits =>
      rw [parse_closed hlegal hadmits] at hparse
      cases hparse
  | @missing front c rest hc =>
      rw [parse_missing hc] at hparse
      cases hparse
      refine ⟨?_, fun _ => rfl⟩
      have hslice : Text.slice (front ++ c :: rest) front.length (front.length + 1) = [c] := by
        change ((front ++ c :: rest).take (front.length + 1)).drop front.length = [c]
        rw [List.take_length_add_append, List.drop_left]
        rfl
      rw [hslice, List.append_assoc, List.singleton_append, parse_missing hc, Int.add_sub_cancel]
  | @stuck front body rest offset cause stage hlegal hadmits hstuck =>
      rw [parse_stuck hlegal hadmits hstuck] at hparse
      cases hparse
      refine ⟨?_, fun i => hstuck.message_eq i _⟩
      have hcode : cause.code? ≠ some .unterminated := by
        intro hcode
        have hoffset := hstuck.offset_eq_length hcode
        simp only [List.length_append, List.length_cons] at hfault
        lia
      have hslice := Text.slice_stuck_source front rest body (offset + 1)
      rw [← Nat.add_assoc, Int.natCast_succ] at hslice
      have hlegal' : body.LegalBefore (rest.take (offset + 1) ++ after) :=
        hlegal.take_append offset after
      have hindex : (before.length + (front.length + 1 + body.text.length + offset : Nat) -
            front.length : Int) =
          (before.length + 1 + body.text.length + offset : Nat) := by
        lia
      rw [hslice, hindex, List.append_assoc, List.cons_append, List.append_assoc,
        parse_stuck hlegal' hadmits (hstuck.take_append hcode after)]

theorem Fault.diagnostic_of_index {fault : Fault} {source' : Text} {i : Int}
    (hmessage : Fault.message { fault with index := i } = fault.message)
    (hchar : source'.at? i = source.at? fault.index) :
    Fault.diagnostic source' { fault with index := i } =
      { fault.diagnostic source with source := source', index := i } := by
  rw [diagnostic, diagnostic, hmessage, hchar]

theorem diagnostic_slice_of_error {fault : Fault} (hparse : parse d source index = .error fault)
    (hinside : 0 ≤ index ∧ index < source.length) (hfault : fault.index < source.length)
    (before after : Text) :
    Fault.diagnostic (before ++ source.slice index (fault.index + 1) ++ after)
        { fault with index := before.length + fault.index - index } =
      { fault.diagnostic source with
        source := before ++ source.slice index (fault.index + 1) ++ after
        index := before.length + fault.index - index } := by
  apply Fault.diagnostic_of_index
  · exact (parse_slice_of_error hparse hinside hfault before after).2 _
  · rcases parse_error_cases hinside hparse with ⟨stage, rfl⟩ | ⟨hle, -⟩
    · exact absurd hfault (Int.lt_irrefl _)
    · rcases Int.eq_ofNat_of_zero_le hinside.1 with ⟨start, rfl⟩
      rcases Int.eq_ofNat_of_zero_le (Int.le_trans hinside.1 hle) with ⟨i, hi⟩
      rw [hi] at hle hfault ⊢
      exact Text.at?_slice source before after (Int.ofNat_le.mp hle) (Int.ofNat_lt.mp hfault)

/-!
# Literals cut off
-/

theorem index_inside_of_parse {l : Literal} (hparse : parse d source index = .ok l) :
    0 ≤ index ∧ index < source.length := by
  by_contra hinside
  rw [parse_outside hinside] at hparse
  cases hparse

theorem close_lt_length_of_parse {l : Literal} (hparse : parse d source index = .ok l) :
    l.close < source.length := by
  rcases parse_eq_ok_iff.mp hparse with ⟨body, hbetween, -, -⟩
  exact Int.ofNat_lt.mp (lt_length_of_at? hbetween.closing)

/-- A slice of the text cut off stands in the whole text at the same place. -/
theorem Text.split_at_slice_take {source : Text} {start stop count : Nat} (h : start ≤ stop)
    (hstop : stop ≤ count) :
    source =
      source.take start ++ Text.slice (source.take count) start stop ++ source.drop stop := by
  rw [slice_take source hstop]
  exact source.split_at_slice h

theorem parse_of_take_eq_ok {l : Literal} {count : Nat}
    (hparse : parse d (source.take count) index = .ok l) : parse d source index = .ok l := by
  rcases Int.eq_ofNat_of_zero_le (index_inside_of_parse hparse).1 with ⟨start, rfl⟩
  have hlt : start < l.close := by
    rcases parse_eq_ok_iff.mp hparse with ⟨body, hbetween, -, -⟩
    exact Int.ofNat_lt.mp hbetween.index_lt_close
  have hclose := close_lt_length_of_parse hparse
  rw [List.length_take] at hclose
  have hstart : (source.take start).length = start := by
    rw [List.length_take]
    lia
  have hlocal := parse_slice_of_ok hparse (source.take start) (source.drop (l.close + 1))
  rw [← Text.split_at_slice_take (by lia) (by lia), hstart, Int.toNat_natCast,
    Nat.add_sub_cancel_left] at hlocal
  exact hlocal

theorem parse_of_take_eq_error {fault : Fault} {count : Nat}
    (hparse : parse d (source.take count) index = .error fault)
    (hinside : 0 ≤ index ∧ index < (source.take count).length) (hle : index ≤ fault.index)
    (hfault : fault.index < (source.take count).length) : parse d source index = .error fault := by
  rcases Int.eq_ofNat_of_zero_le hinside.1 with ⟨start, rfl⟩
  rcases Int.eq_ofNat_of_zero_le (Int.le_trans hinside.1 hle) with ⟨stop, hstop⟩
  have hlocal := (parse_slice_of_error hparse hinside hfault (source.take start)
    (source.drop (stop + 1))).1
  rw [List.length_take] at hfault
  have hstart : (source.take start).length = start := by
    rw [List.length_take]
    lia
  have hindex : (start + fault.index - start : Int) = fault.index := by
    lia
  have hnext : fault.index + 1 = (stop + 1 : Nat) := by
    lia
  rw [hstart, hindex, hnext, ← Text.split_at_slice_take (by lia) (by lia)] at hlocal
  exact hlocal

theorem parse_take_of_ok {l : Literal} (hparse : parse d source index = .ok l) {count : Nat}
    (hindex : index < count) (hcount : count ≤ l.close) :
    ∃ stage, parse d (source.take count) index = .error ⟨.unterminated, count, stage⟩ := by
  have hclose := close_lt_length_of_parse hparse
  have hlength : (source.take count).length = count := by
    rw [List.length_take]
    lia
  have hinside : 0 ≤ index ∧ index < (source.take count).length := by
    rw [hlength]
    exact ⟨(index_inside_of_parse hparse).1, hindex⟩
  cases htake : parse d (source.take count) index with
  | ok l' =>
      have hclose' := close_lt_length_of_parse htake
      rw [parse_of_take_eq_ok htake] at hparse
      cases hparse
      lia
  | error fault =>
      rcases parse_error_cases hinside htake with ⟨stage, hfault⟩ | ⟨hle, hlt⟩
      · rw [hlength] at hfault
        exact ⟨stage, congrArg Except.error hfault⟩
      · rw [parse_of_take_eq_error htake hinside hle hlt] at hparse
        cases hparse

/-!
# The locality theorem
-/

/-- A literal is read alike between any other texts, and so is a fault that is found at a
character, the diagnostic of which changes in its source and index only.  A literal that is cut off
before its closing quote is unterminated. -/
theorem parse_local (d : Dialect) (source : Text) (index : Int) :
    (∀ l before after, parse d source index = .ok l →
      parse d (before ++ source.slice index (l.close + 1 : Nat) ++ after) before.length =
        .ok ⟨before.length + l.close - index.toNat, l.content⟩) ∧
    (∀ fault before after, parse d source index = .error fault →
      0 ≤ index ∧ index < source.length → fault.index < source.length →
      ∃ fault' diagnostic,
        parse d (before ++ source.slice index (fault.index + 1) ++ after) before.length =
          .error fault' ∧
        fault.complaint source = .malformed diagnostic ∧
        fault'.complaint (before ++ source.slice index (fault.index + 1) ++ after) =
          .malformed
            { diagnostic with
              source := before ++ source.slice index (fault.index + 1) ++ after
              index := before.length + fault.index - index }) ∧
    ∀ l (count : Nat), parse d source index = .ok l → index < count → count ≤ l.close →
      ∃ fault, parse d (source.take count) index = .error fault ∧
        fault.cause.code? = some .unterminated ∧ fault.index = count := by
  refine ⟨?_, ?_, ?_⟩
  · intro l before after hparse
    exact parse_slice_of_ok hparse before after
  · intro fault before after hparse hinside hfault
    rcases parse_slice_of_error hparse hinside hfault before after with ⟨hlocal, -⟩
    rcases (read_staysIn d source index).fault_code fault hparse with ⟨code, hcode⟩
    refine ⟨_, fault.diagnostic source, hlocal, fault.complaint_eq_malformed hcode source, ?_⟩
    rw [← diagnostic_slice_of_error hparse hinside hfault before after]
    apply Fault.complaint_eq_malformed
    exact hcode
  · intro l count hparse hindex hcount
    rcases parse_take_of_ok hparse hindex hcount with ⟨stage, hfault⟩
    exact ⟨_, hfault, rfl, rfl⟩

/-- A short octal escape looks at the closing quote, and at no octal digit behind it. -/
theorem parse_local_octal :
    parse ⟨0x2000⟩ [.tab, .doubleQuote, .backslash, '1', .doubleQuote, '7'] 1 =
        .ok ⟨4, [.ofNat 1]⟩ ∧
      parse ⟨0x2000⟩ ['7', '7', .doubleQuote, .backslash, '1', .doubleQuote, .backslash] 2 =
        .ok ⟨5, [.ofNat 1]⟩ ∧
      ∃ fault, parse ⟨0x2000⟩ [.tab, .doubleQuote, .backslash, '1'] 1 = .error fault ∧
        fault.cause.code? = some .unterminated ∧ fault.index = 4 := by
  have hadmits : Dialect.Admits ⟨0x2000⟩ [.octal ['1']] := by
    unfold Dialect.Admits
    decide
  have hparse : parse ⟨0x2000⟩ [.tab, .doubleQuote, .backslash, '1', .doubleQuote, '7'] 1 =
      .ok ⟨4, [.ofNat 1]⟩ :=
    @parse_closed ⟨0x2000⟩ [.tab] [.octal ['1']] ['7'] (by decide) hadmits
  rcases parse_local ⟨0x2000⟩ [.tab, .doubleQuote, .backslash, '1', .doubleQuote, '7'] 1 with
    ⟨hlocal, -, hcut⟩
  exact ⟨hparse, hlocal _ ['7', '7'] [.backslash] hparse,
    hcut _ 4 hparse (by decide) (Nat.le_refl 4)⟩

end QuotedLiteral
