import QuotedLiteral.Proofs.Stuck
import QuotedLiteral.Proofs.Unambiguous

/-!
# Recognition

A literal is read from an index of a source exactly when a body of the grammar
stands there between two quotes and the dialect admits it.
-/

namespace QuotedLiteral

/-!
# Reading at an index of a source
-/

variable {d : Dialect} {source before : Text} {index : Int}

theorem index_cases (source : Text) (index : Int) :
    ¬(0 ≤ index ∧ index < source.length) ∨
      ∃ (before : Text) (c : CodePoint) (rest : Text),
        source = before ++ c :: rest ∧ index = before.length := by
  by_cases hinside : 0 ≤ index ∧ index < source.length
  · have hlt : index.toNat < source.length := by
      lia
    refine Or.inr ⟨source.take index.toNat, source[index.toNat],
      source.drop (index.toNat + 1), ?_, ?_⟩
    · rw [← List.drop_eq_getElem_cons hlt, List.take_append_drop]
    · rw [List.length_take]
      lia
  · exact Or.inl hinside

theorem parse_outside (hinside : ¬(0 ≤ index ∧ index < source.length)) :
    parse d source index = .error ⟨.outsideSource, index, .outside⟩ := by
  rw [parse, read, if_neg hinside]
  rfl

theorem read_inside (d : Dialect) (before : Text) (c : CodePoint) (rest : Text) :
    read d (before ++ c :: rest) before.length =
      Run.ofRest d .outside before.length (c :: rest) := by
  have hinside : 0 ≤ (before.length : Int) ∧
      (before.length : Int) < (before ++ c :: rest).length := by
    rw [List.length_append, List.length_cons]
    lia
  rw [read, if_pos hinside, Int.toNat_natCast, List.drop_left]

theorem parse_missing {c : CodePoint} (hc : c ≠ .doubleQuote) (rest : Text) :
    parse d (before ++ c :: rest) before.length =
      .error ⟨.missingQuote c, before.length, .outside⟩ := by
  rw [parse, read_inside,
    Run.outcome_of_step_error (by simp) (State.step_outside_other hc)]
  rfl

theorem parse_quote (d : Dialect) (before rest : Text) :
    parse d (before ++ .doubleQuote :: rest) before.length =
      (Run.ofRest d .body (before.length + 1) rest).outcome := by
  rw [parse, read_inside, Run.outcome_of_consumes (by simp) (State.step_outside_quote d)]
  exact Literal.map_prepend_nil _

theorem parse_closed {body : Body} {after : Text}
    (hlegal : body.LegalBefore (.doubleQuote :: after)) (hadmits : d.Admits body) :
    parse d (before ++ .doubleQuote :: (body.text ++ .doubleQuote :: after)) before.length =
      .ok ⟨before.length + 1 + body.text.length, body.denoted⟩ := by
  rw [parse_quote, Run.outcome_closed hlegal hadmits]

theorem parse_stuck {body : Body} {rest : Text} {offset : Nat} {cause : Cause} {stage : Stage}
    (hlegal : body.LegalBefore rest) (hadmits : d.Admits body)
    (hstuck : Stuck d rest offset cause stage) :
    parse d (before ++ .doubleQuote :: (body.text ++ rest)) before.length =
      .error ⟨cause, (before.length + 1 + body.text.length + offset : Nat), stage⟩ := by
  rw [parse_quote, outcome_stuck hlegal hadmits hstuck]

/-- Whatever is read at an index is outside the source, has no quote, or is a body as far as it
goes. -/
inductive Parsing (d : Dialect) : Text → Int → Prop where
  | outside {source : Text} {index : Int} (hinside : ¬(0 ≤ index ∧ index < source.length)) :
      Parsing d source index
  | missing (before : Text) {c : CodePoint} (rest : Text) (hc : c ≠ .doubleQuote) :
      Parsing d (before ++ c :: rest) before.length
  | closed (before : Text) {body : Body} {after : Text}
      (hlegal : body.LegalBefore (.doubleQuote :: after)) (hadmits : d.Admits body) :
      Parsing d (before ++ .doubleQuote :: (body.text ++ .doubleQuote :: after)) before.length
  | stuck (before : Text) {body : Body} {rest : Text} {offset : Nat} {cause : Cause}
      {stage : Stage} (hlegal : body.LegalBefore rest) (hadmits : d.Admits body)
      (hstuck : Stuck d rest offset cause stage) :
      Parsing d (before ++ .doubleQuote :: (body.text ++ rest)) before.length

theorem parsing_total (d : Dialect) (source : Text) (index : Int) : Parsing d source index := by
  rcases index_cases source index with hinside | ⟨before, c, rest, rfl, rfl⟩
  · exact Parsing.outside hinside
  · by_cases hc : c = .doubleQuote
    · rw [hc]
      cases reading_total d rest with
      | closed body hlegal hadmits =>
          exact Parsing.closed before hlegal hadmits
      | stuck body hlegal hadmits hstuck =>
          exact Parsing.stuck before hlegal hadmits hstuck
    · exact Parsing.missing before rest hc

/-!
# The characters of a source
-/

theorem at?_natCast (text : Text) (n : Nat) : text.at? n = text[n]? := by
  rw [Text.at?, if_pos (Int.natCast_nonneg n), Int.toNat_natCast]

theorem at?_eq_none {source : Text} {index : Int}
    (houtside : ¬(0 ≤ index ∧ index < source.length)) : source.at? index = none := by
  rw [Text.at?]
  split
  · next hnonneg =>
      apply List.getElem?_eq_none
      lia
  · rfl

theorem lt_length_of_at? {source : Text} {place : Int} {c : CodePoint}
    (h : source.at? place = some c) : place < source.length := by
  by_contra hless
  rw [at?_eq_none (fun hinside => hless hinside.2)] at h
  cases h

theorem at?_of_drop_eq_cons {source rest : Text} {index : Nat} {c : CodePoint}
    (h : source.drop index = c :: rest) : source.at? index = some c := by
  rw [at?_natCast, ← List.head?_drop, h]
  rfl

theorem at?_before (before : Text) (c : CodePoint) (rest : Text) :
    Text.at? (before ++ c :: rest) before.length = some c := by
  rw [at?_natCast, List.getElem?_append_right (Nat.le_refl _), Nat.sub_self]
  rfl

theorem at?_after (before : Text) (c : CodePoint) (rest : Text) (count : Nat) :
    Text.at? (before ++ c :: rest) (before.length + 1 + count : Nat) = rest[count]? := by
  rw [at?_natCast, Nat.add_assoc, List.getElem?_append_right (Nat.le_add_right _ _),
    Nat.add_sub_cancel_left, Nat.add_comm 1, List.getElem?_cons_succ]

theorem exists_nat_of_at? {text : Text} {index : Int} {c : CodePoint}
    (h : text.at? index = some c) : ∃ n : Nat, index = n ∧ text[n]? = some c := by
  rw [Text.at?] at h
  split at h
  · next hnonneg =>
      exact ⟨index.toNat, (Int.toNat_of_nonneg hnonneg).symm, h⟩
  · cases h

theorem eq_split_of_getElem? {text : Text} {c c' : CodePoint} {i j : Nat} (hij : i < j)
    (hi : text[i]? = some c) (hj : text[j]? = some c') :
    text = text.take i ++ c :: ((text.take j).drop (i + 1) ++ c' :: text.drop (j + 1)) := by
  rcases List.getElem?_eq_some_iff.mp hi with ⟨hiLt, hiEq⟩
  rcases List.getElem?_eq_some_iff.mp hj with ⟨hjLt, hjEq⟩
  have hfromI : text.drop i = c :: text.drop (i + 1) := by
    rw [List.drop_eq_getElem_cons hiLt, hiEq]
  have hfromJ : text.drop j = c' :: text.drop (j + 1) := by
    rw [List.drop_eq_getElem_cons hjLt, hjEq]
  have hlength : i + 1 ≤ (text.take j).length := by
    rw [List.length_take]
    lia
  have hmiddle : text.drop (i + 1) = (text.take j).drop (i + 1) ++ text.drop j := by
    rw [← List.drop_append_of_le_length hlength, List.take_append_drop]
  rw [← hfromJ, ← hmiddle, ← hfromI, List.take_append_drop]

/-!
# Bodies between quotes
-/

/-- The body is the text between a quote at the index and a later quote, read with what follows. -/
structure Body.Between (source : Text) (index : Int) (close : Nat) (body : Body) : Prop where
  opening : source.at? index = some .doubleQuote
  closing : source.at? close = some .doubleQuote
  index_lt_close : index < close
  text_eq : body.text = (source.take close).drop (index.toNat + 1)
  legal : body.LegalBefore (source.drop close)

theorem Body.between_iff {close : Nat} {body : Body} :
    body.Between source index close ↔
      ∃ (before after : Text),
        source = before ++ .doubleQuote :: (body.text ++ .doubleQuote :: after) ∧
          index = before.length ∧ close = before.length + 1 + body.text.length ∧
          body.LegalBefore (.doubleQuote :: after) := by
  constructor
  · rintro ⟨hopening, hclosing, hlt, htext, hlegal⟩
    rcases exists_nat_of_at? hopening with ⟨start, rfl, hstart⟩
    rw [at?_natCast] at hclosing
    rw [Int.toNat_natCast] at htext
    have hlt' : start < close := Int.ofNat_lt.mp hlt
    rcases List.getElem?_eq_some_iff.mp hclosing with ⟨hcloseLt, hcloseQuote⟩
    refine ⟨source.take start, source.drop (close + 1), ?_, ?_, ?_, ?_⟩
    · rw [htext]
      exact eq_split_of_getElem? hlt' hstart hclosing
    · rw [List.length_take]
      lia
    · rw [htext, List.length_drop, List.length_take, List.length_take]
      lia
    · rw [← hcloseQuote, ← List.drop_eq_getElem_cons hcloseLt]
      exact hlegal
  · rintro ⟨before, after, rfl, rfl, rfl, hlegal⟩
    have hfront : (before ++ .doubleQuote :: body.text).length =
        before.length + 1 + body.text.length := by
      rw [List.length_append, List.length_cons, Nat.add_assoc, Nat.add_comm 1]
    have hsource : before ++ .doubleQuote :: (body.text ++ .doubleQuote :: after) =
        (before ++ .doubleQuote :: body.text) ++ .doubleQuote :: after := by
      rw [List.append_assoc, List.cons_append]
    refine ⟨?_, ?_, ?_, ?_, ?_⟩
    · exact at?_before before .doubleQuote _
    · rw [hsource, ← hfront]
      exact at?_before (before ++ .doubleQuote :: body.text) .doubleQuote after
    · lia
    · rw [hsource, ← hfront, List.take_left, Int.toNat_natCast, ← List.drop_drop, List.drop_left]
      rfl
    · rw [hsource, ← hfront, List.drop_left]
      exact hlegal

/-- The literal stands in the source at the index in the spelling of the dialect: a body that the
dialect admits lies between the quotes, and its items stand for the content. -/
def Dialect.Spells (d : Dialect) (source : Text) (index : Int) (l : Literal) : Prop :=
  ∃ body : Body, body.Between source index l.close ∧ d.Admits body ∧
    l.content.map CodePoint.value = body.map Item.code

theorem Body.Between.unique {close close' : Nat} {body body' : Body}
    (hbetween : body.Between source index close) (hbetween' : body'.Between source index close') :
    body = body' ∧ close = close' := by
  rcases between_iff.mp hbetween with ⟨before, after, rfl, rfl, rfl, hlegal⟩
  rcases between_iff.mp hbetween' with ⟨before', after', hsource, hindex, rfl, hlegal'⟩
  have hlength : before.length = before'.length := Int.ofNat_inj.mp hindex
  rcases List.append_inj hsource hlength with ⟨rfl, hrest⟩
  rcases eq_of_text_append_quote_eq hlegal hlegal' (List.tail_eq_of_cons_eq hrest) with ⟨rfl, -⟩
  exact ⟨rfl, rfl⟩

theorem map_value_injective {s t : Text} (h : s.map CodePoint.value = t.map CodePoint.value) :
    s = t := by
  have hinjective : Function.Injective CodePoint.value := fun _ _ heq =>
    CodePoint.value_injective heq
  exact List.map_injective_iff.mpr hinjective h

theorem spells_iff_of_between {l : Literal} {body : Body}
    (hbetween : body.Between source index l.close) :
    d.Spells source index l ↔ d.Admits body ∧ l.content = body.denoted := by
  rcases Body.between_iff.mp hbetween with ⟨before, after, -, -, -, hlegal⟩
  constructor
  · rintro ⟨body', hbetween', hadmits, hcontent⟩
    rcases hbetween.unique hbetween' with ⟨rfl, -⟩
    rw [← hlegal.map_value_denoted] at hcontent
    exact ⟨hadmits, map_value_injective hcontent⟩
  · rintro ⟨hadmits, hcontent⟩
    refine ⟨body, hbetween, hadmits, ?_⟩
    rw [hcontent, hlegal.map_value_denoted]

/-!
# What is read is what is spelled
-/

theorem spells_of_parse_eq_ok {l : Literal} (hparse : parse d source index = .ok l) :
    d.Spells source index l := by
  cases parsing_total d source index with
  | outside hinside =>
      rw [parse_outside hinside] at hparse
      cases hparse
  | missing before rest hc =>
      rw [parse_missing hc] at hparse
      cases hparse
  | @closed before body after hlegal hadmits =>
      rw [parse_closed hlegal hadmits] at hparse
      cases hparse
      exact ⟨body, Body.between_iff.mpr ⟨before, after, rfl, rfl, rfl, hlegal⟩, hadmits,
        hlegal.map_value_denoted⟩
  | stuck before hlegal hadmits hstuck =>
      rw [parse_stuck hlegal hadmits hstuck] at hparse
      cases hparse

theorem parse_eq_ok_of_spells {l : Literal} (hspells : d.Spells source index l) :
    parse d source index = .ok l := by
  rcases hspells with ⟨body, hbetween, hadmits, hcontent⟩
  rcases Body.between_iff.mp hbetween with ⟨before, after, rfl, rfl, hclose, hlegal⟩
  rw [← hlegal.map_value_denoted] at hcontent
  rw [parse_closed hlegal hadmits, ← hclose, ← map_value_injective hcontent]

theorem parse_eq_ok_iff {l : Literal} :
    parse d source index = .ok l ↔ d.Spells source index l :=
  ⟨spells_of_parse_eq_ok, parse_eq_ok_of_spells⟩

/-- The reader accepts exactly the literals that the grammar spells.  There is one such literal at
an index at most, and its body divides into items in one way only. -/
theorem parse_accepts_exactly_spelled (d : Dialect) (source : Text) (index : Int) :
    (∀ l, parse d source index = .ok l ↔ d.Spells source index l) ∧
      (∀ l l', d.Spells source index l → d.Spells source index l' → l = l') ∧
      (∀ close close' body body', Body.Between source index close body →
        Body.Between source index close' body' → body = body' ∧ close = close') := by
  refine ⟨?_, ?_, ?_⟩
  · intro l
    exact parse_eq_ok_iff
  · intro l l' hspells hspells'
    have hparse := parse_eq_ok_iff.mpr hspells
    rw [parse_eq_ok_iff.mpr hspells'] at hparse
    cases hparse
    rfl
  · intro close close' body body' hbetween hbetween'
    exact hbetween.unique hbetween'

end QuotedLiteral
