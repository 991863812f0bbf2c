import Mathlib.Algebra.Ring.Parity
import Mathlib.Data.List.DropRight
import Mathlib.Order.Bounds.Basic
import QuotedLiteral.Proofs.Reach

/-!
# Finding the closing quote

The quote that closes a literal can be told from the escaped ones by the run of
backslashes before it, without decoding anything.  A run of backslashes pairs up
into escapes from its front, so that a quote behind an even run is bare and one
behind an odd run is the selector of an escape.  No dialect comes into this.
-/

namespace QuotedLiteral

/-!
# Runs of backslashes
-/

namespace Text

/-- How many backslashes the text ends in. -/
def backslashRun (t : Text) : Nat :=
  (t.rtakeWhile (· = CodePoint.backslash)).length

theorem backslashRun_concat_backslash (t : Text) :
    (t ++ [CodePoint.backslash]).backslashRun = t.backslashRun + 1 := by
  rw [backslashRun, List.rtakeWhile_concat, if_pos (decide_eq_true rfl), List.length_append]
  rfl

theorem backslashRun_append_plain {xs : Text} (t : Text) (hne : xs ≠ [])
    (hplain : ∀ x ∈ xs, x ≠ CodePoint.backslash) : (t ++ xs).backslashRun = 0 := by
  rcases List.eq_nil_or_concat' xs with hnil | ⟨ys, c, rfl⟩
  · exact absurd hnil hne
  · have hc : c ≠ CodePoint.backslash :=
      hplain c (List.mem_append_right ys (List.mem_singleton.mpr rfl))
    rw [← List.append_assoc, backslashRun, List.rtakeWhile_concat, if_neg (by simpa using hc)]
    rfl

/-- A quote stands at the place behind the index, and an even run of backslashes between the two
leads up to it. -/
structure BareQuoteAt (source : Text) (index : Int) (place : Nat) : Prop where
  index_lt : index < place
  quote : source.at? place = some .doubleQuote
  even_run : Even (source.slice (index + 1) place).backslashRun

end Text

/-!
# Runs of backslashes in a body

Whether the run before a place is even is what the two families of lemmas carry
from item to item: it is at the boundaries of items, and it is not at a quote.
-/

namespace Item

variable {item : Item} {after front : Text}

theorem LegalBefore.even_backslashRun (hlegal : item.LegalBefore after)
    (heven : Even front.backslashRun) : Even (front ++ item.text).backslashRun := by
  rcases hlegal.text_cases with ⟨c, rfl, -, hslash⟩ | ⟨c, rest, htext⟩
  · change Even (front ++ [c]).backslashRun
    rw [Text.backslashRun_append_plain front (List.cons_ne_nil c []) (by simpa using hslash)]
    exact Even.zero
  · have happend : front ++ item.text = (front ++ [.backslash]) ++ (c :: rest) := by
      rw [htext, List.append_assoc, List.singleton_append]
    rw [happend]
    rcases hlegal.plain_or_mark htext with hplain | ⟨hmark, -⟩ | ⟨hmark, -⟩
    · rw [Text.backslashRun_append_plain _ (List.cons_ne_nil c rest) (fun x hx => (hplain x hx).2)]
      exact Even.zero
    · rw [hmark, Text.backslashRun_append_plain _ (List.cons_ne_nil _ []) (by decide)]
      exact Even.zero
    · rw [hmark, Text.backslashRun_concat_backslash, Text.backslashRun_concat_backslash]
      exact heven.add even_two

/-- A quote in an item is the selector of its escape. -/
theorem LegalBefore.eq_backslash_of_quote {xs ys : Text} (hlegal : item.LegalBefore after)
    (htext : item.text = xs ++ .doubleQuote :: ys) : xs = [.backslash] := by
  have hmem : CodePoint.doubleQuote ∈ item.text := by
    rw [htext]
    exact List.mem_append_right xs List.mem_cons_self
  rcases hlegal.text_cases with ⟨c, rfl, hquote, -⟩ | ⟨c, rest, hescape⟩
  · exact absurd (List.mem_singleton.mp hmem).symm hquote
  · rw [hescape] at hmem
    have hselector : CodePoint.doubleQuote ∈ c :: rest :=
      (List.mem_cons.mp hmem).resolve_left (by decide)
    rcases hlegal.plain_or_mark hescape with hplain | ⟨hmark, -⟩ | ⟨hmark, -⟩
    · exact absurd rfl (hplain _ hselector).1
    · rw [hescape, hmark] at htext
      cases xs with
      | nil =>
          cases (List.cons.inj htext).1
      | cons x xs =>
          rcases List.cons.inj htext with ⟨rfl, hrest⟩
          rcases List.append_eq_singleton_iff.mp hrest.symm with ⟨hnil, -⟩ | ⟨-, hcons⟩
          · rw [hnil]
          · cases hcons
    · rw [hmark] at hselector
      exact absurd hselector (by decide)

theorem LegalBefore.odd_backslashRun {xs ys : Text} (hlegal : item.LegalBefore after)
    (heven : Even front.backslashRun) (htext : item.text = xs ++ .doubleQuote :: ys) :
    Odd (front ++ xs).backslashRun := by
  rw [hlegal.eq_backslash_of_quote htext, Text.backslashRun_concat_backslash]
  exact heven.add_one

end Item

namespace Body

variable {body : Body} {after front : Text}

theorem LegalBefore.even_backslashRun (hlegal : body.LegalBefore after)
    (heven : Even front.backslashRun) : Even (front ++ body.text).backslashRun := by
  induction body generalizing front with
  | nil =>
      rw [text_nil, List.append_nil]
      exact heven
  | cons item later ih =>
      rw [text_cons, ← List.append_assoc]
      exact ih hlegal.2 (hlegal.1.even_backslashRun heven)

theorem LegalBefore.odd_backslashRun {xs ys : Text} (hlegal : body.LegalBefore after)
    (heven : Even front.backslashRun) (htext : body.text = xs ++ .doubleQuote :: ys) :
    Odd (front ++ xs).backslashRun := by
  induction body generalizing front xs with
  | nil =>
      simp at htext
  | cons item later ih =>
      rw [text_cons] at htext
      have hlater : ∀ zs, xs = item.text ++ zs → text later = zs ++ .doubleQuote :: ys →
          Odd (front ++ xs).backslashRun := by
        intro zs hxs hzs
        rw [hxs, ← List.append_assoc]
        exact ih hlegal.2 (hlegal.1.even_backslashRun heven) hzs
      rcases List.append_eq_append_iff.mp htext with ⟨zs, hxs, hzs⟩ | ⟨zs, hitem, hzs⟩
      · exact hlater zs hxs hzs
      · -- a quote right where the item ends belongs to what follows it
        cases zs with
        | nil =>
            rw [List.append_nil] at hitem
            exact hlater [] (by rw [hitem, List.append_nil]) hzs.symm
        | cons z zs =>
            rcases List.cons.inj hzs with ⟨rfl, -⟩
            exact hlegal.1.odd_backslashRun heven hitem

end Body

/-!
# The first bare quote
-/

theorem bareQuoteAt_after {before : Text} {c : CodePoint} {rest : Text} {count : Nat} :
    Text.BareQuoteAt (before ++ c :: rest) before.length (before.length + 1 + count) ↔
      rest[count]? = some .doubleQuote ∧ Even (Text.backslashRun (rest.take count)) := by
  constructor
  · rintro ⟨-, hquote, heven⟩
    rw [at?_after] at hquote
    rw [Text.slice_after] at heven
    exact ⟨hquote, heven⟩
  · rintro ⟨hquote, heven⟩
    refine ⟨by lia, ?_, ?_⟩
    · rw [at?_after]
      exact hquote
    · rw [Text.slice_after]
      exact heven

theorem Body.Between.isLeast_bareQuoteAt {source : Text} {index : Int} {close : Nat} {body : Body}
    (hbetween : body.Between source index close) :
    IsLeast {place | source.BareQuoteAt index place} close := by
  rcases Body.between_iff.mp hbetween with ⟨before, after, rfl, rfl, rfl, hlegal⟩
  have hnone : Even (Text.backslashRun []) := Even.zero
  constructor
  · apply bareQuoteAt_after.mpr
    constructor
    · rw [List.getElem?_append_right (Nat.le_refl _), Nat.sub_self]
      rfl
    · rw [List.take_left]
      exact hlegal.even_backslashRun hnone
  · intro place hplace
    by_contra hless
    have hindex : (before.length : Int) < place := hplace.index_lt
    rcases Nat.exists_eq_add_of_le (Int.ofNat_lt.mp hindex) with ⟨count, rfl⟩
    have hcount : count < body.text.length := by
      lia
    rcases bareQuoteAt_after.mp hplace with ⟨hquote, heven⟩
    rw [List.getElem?_append_left hcount] at hquote
    rw [List.take_append_of_le_length (Nat.le_of_lt hcount)] at heven
    rcases List.getElem?_eq_some_iff.mp hquote with ⟨hlt, hget⟩
    have htext : body.text =
        body.text.take count ++ .doubleQuote :: body.text.drop (count + 1) := by
      rw [← hget, ← List.drop_eq_getElem_cons hlt, List.take_append_drop]
    have hodd := hlegal.odd_backslashRun hnone htext
    exact Nat.not_even_iff_odd.mpr hodd heven

/-- A literal that is read ends at the first bare quote behind its opening quote, under whatever
dialect it is read. -/
theorem parse_close_isLeast (d : Dialect) (source : Text) (index : Int) (l : Literal)
    (hparse : parse d source index = .ok l) :
    IsLeast {place | source.BareQuoteAt index place} l.close ∧
      ∀ e l', parse e source index = .ok l' → l'.close = l.close := by
  have hleast : ∀ {e l'}, parse e source index = .ok l' →
      IsLeast {place | source.BareQuoteAt index place} l'.close := by
    intro e l' hparse'
    rcases parse_eq_ok_iff.mp hparse' with ⟨body, hbetween, -, -⟩
    exact hbetween.isLeast_bareQuoteAt
  refine ⟨hleast hparse, ?_⟩
  intro e l' hparse'
  exact (hleast hparse').unique (hleast hparse)

/-- An escaped quote, and a run of backslashes right behind a short octal escape. -/
theorem parse_close_isLeast_octal :
    parse ⟨0x2A00⟩ [.doubleQuote, .backslash, .doubleQuote, .backslash, '1',
        .backslash, .backslash, .doubleQuote, 'x', .doubleQuote] 0 =
      .ok ⟨7, [.doubleQuote, .ofNat 1, .backslash]⟩ ∧
    IsLeast {place | Text.BareQuoteAt [.doubleQuote, .backslash, .doubleQuote, .backslash, '1',
      .backslash, .backslash, .doubleQuote, 'x', .doubleQuote] 0 place} 7 := by
  have hadmits : Dialect.Admits ⟨0x2A00⟩
      [.mnemonic ⟨.doubleQuote, .doubleQuote, .doubleQuote⟩, .octal ['1'],
        .mnemonic ⟨.backslash, .backslash, .backslash⟩] := by
    unfold Dialect.Admits
    decide
  have hparse : parse ⟨0x2A00⟩ [.doubleQuote, .backslash, .doubleQuote, .backslash, '1',
        .backslash, .backslash, .doubleQuote, 'x', .doubleQuote] 0 =
      .ok ⟨7, [.doubleQuote, .ofNat 1, .backslash]⟩ :=
    @parse_closed ⟨0x2A00⟩ [] _ ['x', .doubleQuote] (by decide) hadmits
  exact ⟨hparse, (parse_close_isLeast ⟨0x2A00⟩ _ 0 _ hparse).1⟩

end QuotedLiteral
