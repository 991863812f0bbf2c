import Mathlib.Data.List.Basic
import QuotedLiteral.Literal.Reading
import QuotedLiteral.Proofs.Transition

/-!
# Runs over items

A run from the body goes through a legal item, emits the character that the
item stands for, and is in the body again right after it.  Hence a run goes
through a whole body, and what comes out of it is settled by what follows.
-/

namespace QuotedLiteral

namespace Literal

/-- The literal with more content at its beginning. -/
def prepend (front : Text) (l : Literal) : Literal :=
  { l with content := front ++ l.content }

theorem map_prepend_nil (outcome : Except Fault Literal) :
    outcome.map (prepend []) = outcome := by
  cases outcome <;> rfl

theorem map_prepend_map_prepend (outcome : Except Fault Literal) (xs ys : Text) :
    (outcome.map (prepend ys)).map (prepend xs) = outcome.map (prepend (xs ++ ys)) := by
  cases outcome with
  | error fault =>
      rfl
  | ok l =>
      simp [Except.map, prepend]

end Literal

namespace Run

/-!
# One step of a run
-/

theorem ofRest_nil (d : Dialect) (s : State) (index : Nat) :
    ofRest d s index [] = fail ⟨.unterminated, index, s.stage⟩ := by
  rw [ofRest]

theorem ofRest_quote (d : Dialect) (index : Nat) (rest : Text) :
    ofRest d .body index (.doubleQuote :: rest) =
      { trace := [], outcome := .ok ⟨index, []⟩ } := by
  rw [ofRest]
  simp

theorem ofRest_of_step_ok {d : Dialect} {s : State} {index : Nat} {c : CodePoint} {rest : Text}
    {move : Move} (hopen : ¬(s = .body ∧ c = .doubleQuote)) (hstep : s.step d c = .ok move) :
    ofRest d s index (c :: rest) =
      after ⟨index, c, s, move⟩
        (if move.consumes then ofRest d move.next (index + 1) rest
          else ofRest d move.next index (c :: rest)) := by
  rw [ofRest, if_neg hopen]
  split
  · next cause hfault =>
      rw [hstep] at hfault
      cases hfault
  · next found hfound =>
      rw [hstep] at hfound
      cases hfound
      split <;> rfl

theorem ofRest_of_step_error {d : Dialect} {s : State} {index : Nat} {c : CodePoint} {rest : Text}
    {cause : Cause} (hopen : ¬(s = .body ∧ c = .doubleQuote))
    (hstep : s.step d c = .error cause) :
    ofRest d s index (c :: rest) = fail ⟨cause, index, s.stage⟩ := by
  rw [ofRest, if_neg hopen]
  split
  · next found hfault =>
      rw [hstep] at hfault
      cases hfault
      rfl
  · next found hfound =>
      rw [hstep] at hfound
      cases hfound

/-- A run is over at the end of the source, closed, refused, or makes a move and goes on. -/
theorem stepwise {motive : State → Nat → Text → Prop} (d : Dialect)
    (ended : ∀ s index, motive s index [])
    (closed : ∀ index rest, motive .body index (.doubleQuote :: rest))
    (refused : ∀ s index c rest cause, ¬(s = .body ∧ c = .doubleQuote) →
      s.step d c = .error cause → motive s index (c :: rest))
    (moved : ∀ s index c rest move, ¬(s = .body ∧ c = .doubleQuote) → s.step d c = .ok move →
      motive move.next (index + (move.taken c).length) (move.left c rest) →
      motive s index (c :: rest))
    (s : State) (index : Nat) (rest : Text) : motive s index rest := by
  induction s, index, rest using ofRest.induct d with
  | case1 s index =>
      exact ended s index
  | case2 s index c rest hclosed =>
      rw [hclosed.1, hclosed.2]
      exact closed index rest
  | case3 s index c rest hopen cause hstep =>
      exact refused s index c rest cause hopen hstep
  | case4 s index c rest hopen move hstep hconsumes ih =>
      apply moved s index c rest move hopen hstep
      rw [Move.taken, Move.left, if_pos hconsumes, if_pos hconsumes]
      exact ih
  | case5 s index c rest hopen move hstep hrereads ih =>
      apply moved s index c rest move hopen hstep
      rw [Move.taken, Move.left, if_neg hrereads, if_neg hrereads]
      exact ih

theorem ofRest_of_move {s : State} {c : CodePoint} {move : Move}
    (hopen : ¬(s = .body ∧ c = .doubleQuote)) (hstep : s.step d c = .ok move) (index : Nat)
    (rest : Text) :
    ofRest d s index (c :: rest) =
      after ⟨index, c, s, move⟩
        (ofRest d move.next (index + (move.taken c).length) (move.left c rest)) := by
  rw [ofRest_of_step_ok hopen hstep, Move.taken, Move.left]
  split <;> rfl

theorem outcome_of_consumes {d : Dialect} {s next : State} {index : Nat} {c : CodePoint}
    {rest : Text} {emitted : Option CodePoint} (hopen : ¬(s = .body ∧ c = .doubleQuote))
    (hstep : s.step d c = .ok ⟨next, emitted, true⟩) :
    (ofRest d s index (c :: rest)).outcome =
      (ofRest d next (index + 1) rest).outcome.map (Literal.prepend emitted.toList) := by
  rw [ofRest_of_step_ok hopen hstep]
  rfl

theorem outcome_of_rereads {d : Dialect} {s next : State} {index : Nat} {c : CodePoint}
    {rest : Text} {emitted : Option CodePoint} (hopen : ¬(s = .body ∧ c = .doubleQuote))
    (hstep : s.step d c = .ok ⟨next, emitted, false⟩) :
    (ofRest d s index (c :: rest)).outcome =
      (ofRest d next index (c :: rest)).outcome.map (Literal.prepend emitted.toList) := by
  rw [ofRest_of_step_ok hopen hstep]
  rfl

theorem outcome_of_step_error {d : Dialect} {s : State} {index : Nat} {c : CodePoint} {rest : Text}
    {cause : Cause} (hopen : ¬(s = .body ∧ c = .doubleQuote))
    (hstep : s.step d c = .error cause) :
    (ofRest d s index (c :: rest)).outcome = .error ⟨cause, index, s.stage⟩ := by
  rw [ofRest_of_step_error hopen hstep]
  rfl

theorem outcome_backslash (d : Dialect) (index : Nat) (rest : Text) :
    (ofRest d .body index (.backslash :: rest)).outcome =
      (ofRest d .escape (index + 1) rest).outcome := by
  rw [outcome_of_consumes (by decide) (State.step_body_backslash d)]
  exact Literal.map_prepend_nil _

theorem outcome_letter {d : Dialect} {kind : FixedEscape} (hhas : d.has kind.flag = true)
    (index : Nat) (rest : Text) :
    (ofRest d .escape index (kind.letter :: rest)).outcome =
      (ofRest d (kind.state []) (index + 1) rest).outcome := by
  rw [outcome_of_consumes (by simp) (State.step_escape_letter hhas)]
  exact Literal.map_prepend_nil _

theorem outcome_octal_entry {d : Dialect} {c : CodePoint} (hhas : d.has .octal = true)
    (hc : Numeral.isOctalDigit c = true) (index : Nat) (rest : Text) :
    (ofRest d .escape index (c :: rest)).outcome =
      (ofRest d (.octal []) index (c :: rest)).outcome := by
  rw [outcome_of_rereads (by simp) (State.step_escape_octal hc hhas)]
  exact Literal.map_prepend_nil _

/-!
# Gathering digits

The states inside an escape differ in their digits only.  As long as the escape
can take another digit, a run through digits adds them to the state.
-/

theorem outcome_gather {d : Dialect} {more : Text → State} {isDigit : CodePoint → Bool}
    {width : Nat} (hmore : ∀ digits, more digits ≠ .body)
    (hstep : ∀ digits c, isDigit c = true → digits.length + 1 < width →
      (more digits).step d c = .ok ⟨more (digits ++ [c]), none, true⟩)
    {xs : Text} (hxs : ∀ x ∈ xs, isDigit x = true) {digits : Text}
    (hshort : digits.length + xs.length < width) (index : Nat) (rest : Text) :
    (ofRest d (more digits) index (xs ++ rest)).outcome =
      (ofRest d (more (digits ++ xs)) (index + xs.length) rest).outcome := by
  induction xs generalizing digits index with
  | nil =>
      simp
  | cons x xs ih =>
      rw [List.length_cons] at hshort
      have hx : isDigit x = true := hxs x List.mem_cons_self
      have hopen : ¬(more digits = .body ∧ x = .doubleQuote) := by
        intro h
        exact hmore digits h.1
      have hfirst := hstep digits x hx (by lia)
      have hrest : (ofRest d (more (digits ++ [x])) (index + 1) (xs ++ rest)).outcome =
          (ofRest d (more (digits ++ [x] ++ xs)) (index + 1 + xs.length) rest).outcome := by
        apply ih
        · intro y hy
          exact hxs y (List.mem_cons_of_mem x hy)
        · rw [List.length_append, List.length_singleton]
          lia
      rw [List.cons_append, outcome_of_consumes hopen hfirst, Option.toList_none,
        Literal.map_prepend_nil, hrest, List.append_assoc, List.singleton_append,
        List.length_cons, Nat.add_assoc, Nat.add_comm 1]

theorem outcome_fixed_gather {d : Dialect} {kind : FixedEscape} {xs : Text}
    (hxs : ∀ x ∈ xs, Numeral.isHexDigit x = true) (hshort : xs.length < kind.width)
    (index : Nat) (rest : Text) :
    (ofRest d (kind.state []) index (xs ++ rest)).outcome =
      (ofRest d (kind.state xs) (index + xs.length) rest).outcome := by
  apply outcome_gather kind.state_ne_body
    (fun digits c hc hmore => State.step_fixed_more hc hmore) hxs
  simpa using hshort

theorem outcome_octal_gather {d : Dialect} {xs : Text}
    (hxs : ∀ x ∈ xs, Numeral.isOctalDigit x = true) (hshort : xs.length < 3)
    (index : Nat) (rest : Text) :
    (ofRest d (.octal []) index (xs ++ rest)).outcome =
      (ofRest d (.octal xs) (index + xs.length) rest).outcome := by
  apply outcome_gather (fun digits => State.noConfusion)
    (fun digits c hc hmore => State.step_octal_more hc hmore) hxs
  simpa using hshort

/-!
# Items and bodies
-/

theorem exists_last_digit {isDigit : CodePoint → Bool} {digits : Text} (hne : digits ≠ [])
    (hdigits : ∀ x ∈ digits, isDigit x = true) :
    ∃ (front : Text) (last : CodePoint),
      digits = front ++ [last] ∧ (∀ x ∈ front, isDigit x = true) ∧ isDigit last = true := by
  rcases List.eq_nil_or_concat' digits with hnil | ⟨front, last, rfl⟩
  · exact absurd hnil hne
  · refine ⟨front, last, rfl, ?_, ?_⟩
    · intro x hx
      exact hdigits x (List.mem_append_left [last] hx)
    · exact hdigits last (List.mem_append_right front List.mem_cons_self)

theorem outcome_fixed {d : Dialect} {kind : FixedEscape} {digits : Text}
    (hdigits : ∀ x ∈ digits, Numeral.isHexDigit x = true) (hlength : digits.length = kind.width)
    (index : Nat) (after : Text) :
    (ofRest d (kind.state []) index (digits ++ after)).outcome =
      (ofRest d .body (index + digits.length) after).outcome.map
        (Literal.prepend [.ofNat (Numeral.value 16 digits)]) := by
  have hne : digits ≠ [] := by
    intro hnil
    rw [hnil] at hlength
    cases kind <;> cases hlength
  rcases exists_last_digit hne hdigits with ⟨front, last, rfl, hfront, hlast⟩
  rw [List.length_append, List.length_singleton] at hlength
  have hopen : ¬(kind.state front = .body ∧ last = .doubleQuote) := by
    intro h
    exact kind.state_ne_body front h.1
  rw [List.append_assoc, List.singleton_append, outcome_fixed_gather hfront (by lia),
    outcome_of_consumes hopen (State.step_fixed_last hlast hlength), List.length_append,
    List.length_singleton, Nat.add_assoc]
  rfl

theorem outcome_octal {d : Dialect} {digits after : Text}
    (hlegal : (Item.octal digits).LegalBefore after) (index : Nat) :
    (ofRest d (.octal []) index (digits ++ after)).outcome =
      (ofRest d .body (index + digits.length) after).outcome.map
        (Literal.prepend [.ofNat (Numeral.value 8 digits)]) := by
  rcases hlegal with ⟨hpos, hle, hdigits, hnext⟩
  have hne : digits ≠ [] := List.ne_nil_of_length_pos hpos
  rcases Nat.lt_or_eq_of_le hle with hshort | hfull
  · -- the character that ends the escape is seen twice
    cases after with
    | nil =>
        cases hnext hshort
    | cons c rest =>
        have hc : Numeral.isOctalDigit c = false := by
          simpa using hnext hshort
        rw [outcome_octal_gather hdigits hshort,
          outcome_of_rereads (by simp) (State.step_octal_short hne hc)]
        rfl
  · rcases exists_last_digit hne hdigits with ⟨front, last, rfl, hfront, hlast⟩
    rw [List.length_append, List.length_singleton] at hfull
    rw [List.append_assoc, List.singleton_append, outcome_octal_gather hfront (by lia),
      outcome_of_consumes (by simp) (State.step_octal_last hlast hfull), List.length_append,
      List.length_singleton, Nat.add_assoc]
    rfl

theorem outcome_item {d : Dialect} {item : Item} {after : Text} (hlegal : item.LegalBefore after)
    (hadmits : ∀ f, item.guard? = some f → d.has f = true) (index : Nat) :
    (ofRest d .body index (item.text ++ after)).outcome =
      (ofRest d .body (index + item.text.length) after).outcome.map
        (Literal.prepend [item.denoted]) := by
  cases item with
  | verbatim c =>
      have hopen : ¬((State.body = .body) ∧ c = .doubleQuote) := by
        intro h
        exact hlegal.1 h.2
      have hdenoted : (Item.verbatim c).denoted = c := CodePoint.ofNat_value c
      rw [hdenoted]
      exact outcome_of_consumes hopen (State.step_body_verbatim hlegal.2)
  | mnemonic m =>
      have hdenoted : (Item.mnemonic m).denoted = m.denoted := CodePoint.ofNat_value m.denoted
      rw [hdenoted]
      change (ofRest d .body index (.backslash :: m.selector :: after)).outcome = _
      rw [outcome_backslash,
        outcome_of_consumes (by simp) (State.step_escape_mnemonic hlegal (hadmits _ rfl))]
      rfl
  | fixed kind digits =>
      change (ofRest d .body index (.backslash :: kind.letter :: (digits ++ after))).outcome = _
      rw [outcome_backslash, outcome_letter (hadmits _ rfl), outcome_fixed hlegal.2 hlegal.1,
        Nat.add_assoc, Nat.add_assoc, Nat.add_comm 1 (1 + digits.length), Nat.add_comm 1]
      rfl
  | octal digits =>
      change (ofRest d .body index (.backslash :: (digits ++ after))).outcome = _
      rw [outcome_backslash]
      cases hdigits : digits with
      | nil =>
          rw [hdigits] at hlegal
          cases hlegal.1
      | cons c more =>
          have hc : Numeral.isOctalDigit c = true :=
            hlegal.2.2.1 c (by rw [hdigits]; exact List.mem_cons_self)
          rw [List.cons_append, outcome_octal_entry (hadmits _ rfl) hc, ← List.cons_append,
            ← hdigits, outcome_octal hlegal, Nat.add_assoc, Nat.add_comm 1]
          rfl

theorem outcome_body {d : Dialect} {body : Body} {after : Text} (hlegal : body.LegalBefore after)
    (hadmits : d.Admits body) (index : Nat) :
    (ofRest d .body index (body.text ++ after)).outcome =
      (ofRest d .body (index + body.text.length) after).outcome.map
        (Literal.prepend body.denoted) := by
  induction body generalizing index with
  | nil =>
      exact (Literal.map_prepend_nil _).symm
  | cons item later ih =>
      rcases Dialect.admits_cons.mp hadmits with ⟨hitem, hlater⟩
      rw [Body.text_cons, List.append_assoc, outcome_item hlegal.1 hitem, ih hlegal.2 hlater,
        Literal.map_prepend_map_prepend, List.length_append, Nat.add_assoc]
      rfl

theorem outcome_closed {d : Dialect} {body : Body} {after : Text}
    (hlegal : body.LegalBefore (.doubleQuote :: after)) (hadmits : d.Admits body) (index : Nat) :
    (ofRest d .body index (body.text ++ .doubleQuote :: after)).outcome =
      .ok ⟨index + body.text.length, body.denoted⟩ := by
  rw [outcome_body hlegal hadmits, ofRest_quote]
  simp [Except.map, Literal.prepend]

end Run
end QuotedLiteral
