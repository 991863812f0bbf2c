import QuotedLiteral.Log
import QuotedLiteral.Proofs.Printable
import QuotedLiteral.Proofs.Recognition

/-!
# The log of reading

A logger changes nothing in what is read.  If it traces, its log has one line for
each step of the reader, each from where the one before it ended, and a last one
if the literal is closed.
-/

namespace QuotedLiteral

/-!
# Which loggers trace
-/

namespace Logger

variable {l : Logger}

theorem isTracing_eq (l : Logger) :
    l.isTracing = l.setting.any fun setting => decide (30 ≤ setting.level) := by
  rcases l with ⟨setting, time⟩
  cases setting <;> rfl

/-- The usual setting, which is in force without a setting, admits no message for debugging. -/
theorem admits_debug (l : Logger) : l.admits Severity.debug.level = l.isTracing := by
  rcases l with ⟨setting, time⟩
  cases setting <;> rfl

theorem debug_of_isTracing (h : l.isTracing = true) (message : Text) :
    l.debug message = l.heading Severity.debug.level ++ message ++ [.lineFeed] := by
  rw [debug, write, l.admits_debug, h, if_pos rfl]

theorem debug_of_not_isTracing (h : l.isTracing = false) (message : Text) :
    l.debug message = [] := by
  rw [debug, write, l.admits_debug, h]
  rfl

theorem flatMap_debug (l : Logger) (messages : List Text) :
    messages.flatMap l.debug =
      if l.setting.any fun setting => decide (30 ≤ setting.level) then
        Text.unlines (messages.map (l.heading Severity.debug.level ++ ·))
      else [] := by
  rw [← l.isTracing_eq]
  cases h : l.isTracing with
  | true =>
      have hline : l.debug = fun message =>
          l.heading Severity.debug.level ++ message ++ [.lineFeed] := by
        funext message
        exact debug_of_isTracing h message
      rw [if_pos rfl, Text.unlines, List.flatMap_map, hline]
  | false =>
      simp [debug_of_not_isTracing h]

/-- Sparing a logger that does not trace a message makes no difference to its log. -/
theorem flatten_reverse_traced (l : Logger) (message : Text) (logged : List Text) :
    (if l.isTracing then l.debug message :: logged else logged).reverse.flatten =
      logged.reverse.flatten ++ l.debug message := by
  cases h : l.isTracing with
  | true =>
      simp
  | false =>
      simp [debug_of_not_isTracing h]

end Logger

/-!
# What is said
-/

/-- The end of a message about a step that leaves its character to be read again. -/
def Entry.rereadMark : Text :=
  Text.ofString " (reread)"

theorem Stage.getLast?_label (s : Stage) :
    (Text.ofString s.label).getLast?.any (· ≠ CodePoint.ofChar ')') = true := by
  cases s <;> decide

theorem Entry.rereadMark_isSuffixOf_message (e : Entry) :
    rereadMark.isSuffixOf e.message = !e.move.consumes := by
  unfold message
  cases hconsumes : e.move.consumes with
  | false =>
      exact List.isSuffixOf_iff_suffix.mpr (List.suffix_append _ _)
  | true =>
      rw [if_pos rfl, List.append_nil, Bool.not_true, Bool.eq_false_iff]
      intro hsuffix
      rcases List.isSuffixOf_iff_suffix.mp hsuffix with ⟨front, hfront⟩
      have hlast := congrArg List.getLast? hfront
      have hlabel := e.move.next.stage.getLast?_label
      cases hend : (Text.ofString e.move.next.stage.label).getLast? with
      | none =>
          rw [hend] at hlabel
          cases hlabel
      | some c =>
          have hmark : rereadMark.getLast? = some (CodePoint.ofChar ')') := by
            decide
          rw [List.getLast?_append, List.getLast?_append, hmark, hend] at hlast
          cases hlast
          rw [hend] at hlabel
          simp at hlabel

theorem Entry.isPrintable_message (e : Entry) : e.message.IsPrintable := by
  have hindex := (Numeral.isPlain_decimal e.index).isPrintable
  have hchar : e.char.quoted.IsPrintable := Text.isPrintable_quoted [e.char]
  have hstage := fun s => (Stage.isPlain_label s).isPrintable
  unfold message
  cases e.move.consumes <;>
    simp +decide only [Text.isPrintable_append, hindex, hchar, hstage, if_true, if_false, and_self]

theorem Literal.isPrintable_closingMessage (l : Literal) : l.closingMessage.IsPrintable := by
  have hclose := (Numeral.isPlain_decimal l.close).isPrintable
  have hlength := (Numeral.isPlain_decimal l.content.length).isPrintable
  unfold closingMessage
  simp +decide only [Text.isPrintable_append, hclose, hlength, and_self]

/-- What a trace says of the outcome: that a literal is closed, and nothing of a fault. -/
def closingMessages : Except Fault Literal → List Text
  | .ok l => [l.closingMessage]
  | .error _ => []

/-- One message for each step, and a last one if the literal is closed. -/
def Run.messages (run : Run) : List Text :=
  run.trace.map Entry.message ++ closingMessages run.outcome

/-- The run of which the content has more at its beginning. -/
def Run.prepend (front : Text) (run : Run) : Run :=
  { run with outcome := run.outcome.map (Literal.prepend front) }

theorem Run.prepend_nil (run : Run) : run.prepend [] = run := by
  rw [prepend, Literal.map_prepend_nil]

theorem Run.prepend_after (front : Text) (entry : Entry) (run : Run) :
    (after entry run).prepend front =
      { run.prepend (front ++ entry.move.emitted.toList) with
        trace := entry :: run.trace } := by
  rw [prepend, prepend, ← Literal.map_prepend_map_prepend]
  rfl

theorem Run.messages_cons (entry : Entry) (trace : List Entry) (outcome : Except Fault Literal) :
    Run.messages ⟨entry :: trace, outcome⟩ = entry.message :: Run.messages ⟨trace, outcome⟩ := by
  rfl

theorem Run.isPrintable_of_mem_messages {run : Run} {message : Text}
    (h : message ∈ run.messages) : message.IsPrintable := by
  rcases List.mem_append.mp h with hstep | hclosing
  · rcases List.mem_map.mp hstep with ⟨e, -, rfl⟩
    exact e.isPrintable_message
  · cases houtcome : run.outcome with
    | ok l =>
        rw [houtcome] at hclosing
        rw [List.mem_singleton.mp hclosing]
        exact l.isPrintable_closingMessage
    | error fault =>
        rw [houtcome] at hclosing
        cases hclosing

/-!
# Reading with a logger
-/

namespace Logger

variable {l : Logger} {d : Dialect} {s : State} {index : Nat} {gathered rest : Text}
  {logged : List Text} {c : CodePoint}

theorem readFrom_nil (l : Logger) (d : Dialect) (s : State) (index : Nat) (gathered : Text)
    (logged : List Text) :
    l.readFrom d s index gathered logged [] =
      (.error ⟨.unterminated, index, s.stage⟩, logged) := by
  rw [readFrom]

theorem readFrom_quote (l : Logger) (d : Dialect) (index : Nat) (gathered : Text)
    (logged : List Text) (rest : Text) :
    l.readFrom d .body index gathered logged (.doubleQuote :: rest) =
      (.ok ⟨index, gathered.reverse⟩,
        l.debug (Literal.closingMessage ⟨index, gathered.reverse⟩) :: logged) := by
  rw [readFrom]
  simp

theorem readFrom_of_step_error {cause : Cause} (hopen : ¬(s = .body ∧ c = .doubleQuote))
    (hstep : s.step d c = .error cause) :
    l.readFrom d s index gathered logged (c :: rest) =
      (.error ⟨cause, index, s.stage⟩, logged) := by
  rw [readFrom, if_neg hopen]
  split
  · next found hfault =>
      rw [hstep] at hfault
      cases hfault
      rfl
  · next found hfound =>
      rw [hstep] at hfound
      cases hfound

theorem readFrom_of_move {move : Move} (hopen : ¬(s = .body ∧ c = .doubleQuote))
    (hstep : s.step d c = .ok move) :
    l.readFrom d s index gathered logged (c :: rest) =
      l.readFrom d move.next (index + (move.taken c).length) (move.emitted.toList ++ gathered)
        (if l.isTracing then l.debug (Entry.message ⟨index, c, s, move⟩) :: logged else logged)
        (move.left c rest) := by
  rw [readFrom, if_neg hopen, Move.taken, Move.left]
  split
  · next cause hfault =>
      rw [hstep] at hfault
      cases hfault
  · next found hfound =>
      rw [hstep] at hfound
      cases hfound
      cases move.consumes <;> simp

/-- The logger's reader has the outcome of the run behind what was gathered before, and logs the
messages of the run behind what was logged before. -/
theorem readFrom_eq (l : Logger) (d : Dialect) (s : State) (index : Nat) (gathered : Text)
    (logged : List Text) (rest : Text) :
    (l.readFrom d s index gathered logged rest).1 =
        ((Run.ofRest d s index rest).prepend gathered.reverse).outcome ∧
      (l.readFrom d s index gathered logged rest).2.reverse.flatten =
        logged.reverse.flatten ++
          ((Run.ofRest d s index rest).prepend gathered.reverse).messages.flatMap l.debug := by
  induction s, index, rest using Run.stepwise d generalizing gathered logged with
  | ended s index =>
      rw [Run.ofRest_nil, readFrom_nil]
      simp [Run.prepend, Run.messages, Run.fail, Except.map, closingMessages]
  | closed index rest =>
      rw [Run.ofRest_quote, readFrom_quote]
      simp [Run.prepend, Run.messages, Except.map, closingMessages, Literal.prepend]
  | refused s index c rest cause hopen hstep =>
      rw [Run.ofRest_of_step_error hopen hstep, readFrom_of_step_error hopen hstep]
      simp [Run.prepend, Run.messages, Run.fail, Except.map, closingMessages]
  | moved s index c rest move hopen hstep ih =>
      have hgathered : (move.emitted.toList ++ gathered).reverse =
          gathered.reverse ++ move.emitted.toList := by
        cases move.emitted <;> simp
      have hlater := ih (move.emitted.toList ++ gathered)
        (if l.isTracing then l.debug (Entry.message ⟨index, c, s, move⟩) :: logged else logged)
      rw [l.flatten_reverse_traced, hgathered] at hlater
      rw [Run.ofRest_of_move hopen hstep, readFrom_of_move hopen hstep, Run.prepend_after,
        Run.messages_cons, List.flatMap_cons, ← List.append_assoc]
      exact hlater

end Logger

theorem parseLogged_outcome (l : Logger) (d : Dialect) (source : Text) (index : Int) :
    (parseLogged l d source index).1 = parse d source index := by
  unfold parseLogged parse read
  split
  · have hread := l.readFrom_eq d .outside index.toNat [] [] (source.drop index.toNat)
    rw [List.reverse_nil, Run.prepend_nil] at hread
    exact hread.1
  · rfl

theorem parseLogged_log (l : Logger) (d : Dialect) (source : Text) (index : Int) :
    (parseLogged l d source index).2 = (read d source index).messages.flatMap l.debug := by
  unfold parseLogged read
  split
  · have hread := l.readFrom_eq d .outside index.toNat [] [] (source.drop index.toNat)
    rw [List.reverse_nil, Run.prepend_nil] at hread
    exact hread.2
  · rfl

/-!
# The steps of a run
-/

/-- The entries lead from a state at an index to another, each of them from where the one before it
ended.  None of them closes the literal. -/
inductive Leads (d : Dialect) (source : Text) : State → Int → List Entry → State → Int → Prop where
  | done (s : State) (index : Int) : Leads d source s index [] s index
  | step {s s' : State} {index : Nat} {index' : Int} {c : CodePoint} {move : Move}
      {entries : List Entry} (hchar : source.at? index = some c)
      (hopen : ¬(s = .body ∧ c = .doubleQuote)) (hstep : s.step d c = .ok move)
      (hlater : Leads d source move.next (if move.consumes then index + 1 else index)
        entries s' index') :
      Leads d source s index (⟨index, c, s, move⟩ :: entries) s' index'

/-- Reading ends in a state at an index: in the body at the closing quote, or where no step is
made. -/
def EndsAt (d : Dialect) (source : Text) (s : State) (index : Int) : Except Fault Literal → Prop
  | .ok l => s = .body ∧ index = l.close ∧ source.at? index = some .doubleQuote
  | .error fault =>
      s.stage = fault.stage ∧ index = fault.index ∧
        ∀ c, source.at? index = some c → s.step d c = .error fault.cause

theorem endsAt_map_prepend {d : Dialect} {source : Text} {s : State} {index : Int}
    {outcome : Except Fault Literal} (h : EndsAt d source s index outcome) (front : Text) :
    EndsAt d source s index (outcome.map (Literal.prepend front)) := by
  cases outcome <;> exact h

theorem Leads.count_consumes {d : Dialect} {source : Text} {s s' : State} {index index' : Int}
    {entries : List Entry} (h : Leads d source s index entries s' index') :
    (entries.countP fun e => e.move.consumes : Int) = index' - index := by
  induction h with
  | done s index =>
      simp
  | @step s s' index index' c move entries hchar hopen hstep hlater ih =>
      rw [List.countP_cons, Int.natCast_add, ih]
      cases move.consumes with
      | true =>
          simp
          lia
      | false =>
          simp

theorem Move.natCast_add_length_taken (move : Move) (c : CodePoint) (index : Nat) :
    ((index + (move.taken c).length : Nat) : Int) =
      if move.consumes then (index : Int) + 1 else index := by
  rw [taken]
  split <;> simp

theorem Run.leads_ofRest {d : Dialect} {source rest : Text} {s : State} {index : Nat}
    (hrest : source.drop index = rest) :
    ∃ s' index', Leads d source s index (ofRest d s index rest).trace s' index' ∧
      EndsAt d source s' index' (ofRest d s index rest).outcome := by
  induction s, index, rest using stepwise d with
  | ended s index =>
      rw [ofRest_nil]
      refine ⟨s, index, Leads.done s index, rfl, rfl, ?_⟩
      intro c hc
      rw [at?_natCast, List.getElem?_eq_none (List.drop_eq_nil_iff.mp hrest)] at hc
      cases hc
  | closed index rest =>
      rw [ofRest_quote]
      exact ⟨.body, index, Leads.done .body index, rfl, rfl, at?_of_drop_eq_cons hrest⟩
  | refused s index c rest cause hopen hstep =>
      rw [ofRest_of_step_error hopen hstep]
      refine ⟨s, index, Leads.done s index, rfl, rfl, ?_⟩
      intro c' hc'
      rw [at?_of_drop_eq_cons hrest] at hc'
      cases hc'
      exact hstep
  | moved s index c rest move hopen hstep ih =>
      have hleft : source.drop (index + (move.taken c).length) = move.left c rest := by
        rw [← List.drop_drop, hrest, Move.taken, Move.left]
        split <;> rfl
      rcases ih hleft with ⟨s', index', hlater, hends⟩
      rw [move.natCast_add_length_taken] at hlater
      rw [ofRest_of_move hopen hstep]
      exact ⟨s', index', Leads.step (at?_of_drop_eq_cons hrest) hopen hstep hlater,
        endsAt_map_prepend hends _⟩

theorem leads_read (d : Dialect) (source : Text) (index : Int) :
    ∃ s' index', Leads d source .outside index (read d source index).trace s' index' ∧
      EndsAt d source s' index' (parse d source index) := by
  unfold parse read
  split
  · next hinside =>
      have hindex : (index.toNat : Int) = index := Int.toNat_of_nonneg hinside.1
      have hleads := Run.leads_ofRest (d := d) (s := .outside)
        (Eq.refl (source.drop index.toNat))
      rw [hindex] at hleads
      exact hleads
  · next houtside =>
      refine ⟨.outside, index, Leads.done .outside index, rfl, rfl, ?_⟩
      intro c hc
      rw [at?_eq_none houtside] at hc
      cases hc

end QuotedLiteral
