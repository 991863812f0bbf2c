import QuotedLiteral.Proofs.PlainLiteral
import QuotedLiteral.Proofs.ReadingLog

/-!
# Tracing

A logger changes nothing in what is read or written.  If it traces, its log tells
every step of the reader and every character that the writer does not write as it
is; if it does not, its log is empty.
-/

namespace QuotedLiteral

/-!
# Writing with a logger
-/

namespace Writing

variable {asciiOnly : Bool} {d : Dialect} {c : CodePoint} {index : Nat} {raw : Text}

def isWritable (asciiOnly : Bool) (d : Dialect) (c : CodePoint) : Bool :=
  (piece? asciiOnly d c).isSome

/-- The change to a character at an index, if it is not written as it is. -/
def change? (asciiOnly : Bool) (d : Dialect) (at? : CodePoint × Nat) : Option Change :=
  match piece? asciiOnly d at?.1 with
  | some piece => if piece = [at?.1] then none else some ⟨at?.2, at?.1, piece⟩
  | none => none

/-- The changes to the characters before the first that cannot be written, where the text starts
at the index. -/
def changesFrom (asciiOnly : Bool) (d : Dialect) (index : Nat) (raw : Text) : List Change :=
  ((raw.takeWhile (isWritable asciiOnly d)).zipIdx index).filterMap (change? asciiOnly d)

theorem changesFrom_of_piece?_none (hpiece : piece? asciiOnly d c = none) :
    changesFrom asciiOnly d index (c :: raw) = [] := by
  have hwritable : isWritable asciiOnly d c = false := by
    rw [isWritable, hpiece]
    rfl
  rw [changesFrom, List.takeWhile_cons, hwritable]
  rfl

theorem changesFrom_of_piece?_some {piece : Text} (hpiece : piece? asciiOnly d c = some piece) :
    changesFrom asciiOnly d index (c :: raw) =
      (if piece = [c] then [] else [⟨index, c, piece⟩]) ++
        changesFrom asciiOnly d (index + 1) raw := by
  have hwritable : isWritable asciiOnly d c = true := by
    rw [isWritable, hpiece]
    rfl
  rw [changesFrom, List.takeWhile_cons, hwritable, if_pos rfl, List.zipIdx_cons,
    List.filterMap_cons, change?, hpiece]
  by_cases hsame : piece = [c]
  · simp [hsame, changesFrom]
  · simp [hsame, changesFrom]

theorem isPrintable_message_of_mem_changesFrom {change : Change}
    (h : change ∈ changesFrom asciiOnly d index raw) : change.message.IsPrintable := by
  rcases List.mem_filterMap.mp h with ⟨⟨c, i⟩, -, hchange⟩
  rw [change?] at hchange
  split at hchange
  · next piece hpiece =>
      split at hchange
      · cases hchange
      · next hchanged =>
          cases hchange
          have hindex := (Numeral.isPlain_decimal i).isPrintable
          have hchar : c.quoted.IsPrintable := Text.isPrintable_quoted [c]
          have hplain := (isPlain_of_piece? hpiece hchanged).isPrintable
          unfold Change.message
          simp +decide only [Text.isPrintable_append, hindex, hchar, hplain, and_self]
  · cases hchange

/-- Writing fails at the first character that cannot be written, if there is one. -/
theorem length_takeWhile_isWritable (asciiOnly : Bool) (d : Dialect) (index : Nat) (raw : Text) :
    (index + (raw.takeWhile (isWritable asciiOnly d)).length : Int) =
      match bodyFrom asciiOnly d index raw with
      | .ok _ => index + raw.length
      | .error fault => fault.index := by
  induction raw generalizing index with
  | nil =>
      rfl
  | cons c raw ih =>
      rw [List.takeWhile_cons, bodyFrom]
      cases hpiece : piece? asciiOnly d c with
      | none =>
          simp [isWritable, hpiece]
      | some piece =>
          have hlater := ih (index + 1)
          have hwritable : isWritable asciiOnly d c = true := by
            rw [isWritable, hpiece]
            rfl
          rw [hwritable, if_pos rfl, List.length_cons]
          cases hbody : bodyFrom asciiOnly d (index + 1) raw with
          | error fault =>
              rw [hbody] at hlater
              change _ = fault.index at hlater ⊢
              lia
          | ok body =>
              rw [hbody] at hlater
              change _ = (index + (c :: raw).length : Int)
              rw [List.length_cons]
              lia

end Writing

namespace Logger

theorem flatten_reverse_changed (l : Logger) (change : Writing.Change) (logged : List Text) :
    (if l.isTracing ∧ change.piece ≠ [change.char] then l.debug change.message :: logged
        else logged).reverse.flatten =
      logged.reverse.flatten ++
        (if change.piece = [change.char] then [] else [change]).flatMap (l.debug ·.message) := by
  by_cases hsame : change.piece = [change.char]
  · simp [hsame]
  · simp only [hsame, ne_eq, not_false_eq_true, and_true, if_false, List.flatMap_singleton]
    exact l.flatten_reverse_traced change.message logged

theorem writeFrom_eq (l : Logger) (asciiOnly : Bool) (d : Dialect) (index : Nat)
    (pieces logged : List Text) (raw : Text) :
    (l.writeFrom asciiOnly d index pieces logged raw).1 =
        (Writing.bodyFrom asciiOnly d index raw).map
          (fun body => pieces.reverse.flatten ++ (body ++ [.doubleQuote])) ∧
      (l.writeFrom asciiOnly d index pieces logged raw).2.reverse.flatten =
        logged.reverse.flatten ++
          (Writing.changesFrom asciiOnly d index raw).flatMap (l.debug ·.message) := by
  induction raw generalizing index pieces logged with
  | nil =>
      simp [writeFrom, Writing.bodyFrom, Except.map, Writing.changesFrom]
  | cons c raw ih =>
      rw [writeFrom, Writing.bodyFrom]
      cases hpiece : Writing.piece? asciiOnly d c with
      | none =>
          simp [Writing.changesFrom_of_piece?_none hpiece, Except.map]
      | some piece =>
          rcases ih (index + 1) (piece :: pieces)
            (if l.isTracing ∧ piece ≠ [c] then
              l.debug (Writing.Change.message ⟨index, c, piece⟩) :: logged else logged)
            with ⟨houtcome, hlog⟩
          simp only
          rw [houtcome, hlog, l.flatten_reverse_changed ⟨index, c, piece⟩,
            Writing.changesFrom_of_piece?_some hpiece, List.flatMap_append, List.append_assoc]
          refine ⟨?_, rfl⟩
          cases Writing.bodyFrom asciiOnly d (index + 1) raw <;> simp [Except.map]

end Logger

theorem formatLogged_outcome (l : Logger) (asciiOnly : Bool) (d : Dialect) (raw : Text) :
    (formatLogged l asciiOnly d raw).1 = format asciiOnly d raw :=
  (l.writeFrom_eq asciiOnly d 0 [[.doubleQuote]] [] raw).1

theorem formatLogged_log (l : Logger) (asciiOnly : Bool) (d : Dialect) (raw : Text) :
    (formatLogged l asciiOnly d raw).2 =
      (Writing.changesFrom asciiOnly d 0 raw).flatMap (l.debug ·.message) :=
  (l.writeFrom_eq asciiOnly d 0 [[.doubleQuote]] [] raw).2

/-!
# What the log holds
-/

/-- The log that is to hold the messages: a line for each of them if there is a setting of level
thirty or more, and nothing otherwise. -/
def Logger.logOf (l : Logger) (messages : List Text) : Text :=
  if l.setting.any fun setting => decide (30 ≤ setting.level) then
    Text.unlines (messages.map (l.heading Severity.debug.level ++ ·))
  else []

/-- Under every logger the same is read, or the same fault found.  The log of a reading has one line
for each step, each from where the one before it ended, and a last line if the literal is closed;
a mark tells the steps that do not go on, so that the other lines about steps count the characters
gone over.  Likewise the same is written, and the log has one line for each character, of those that
can be written before the first that cannot, which is not written as it is. -/
theorem log_records_codec (l : Logger) (d : Dialect) (source : Text) (index : Int)
    (asciiOnly : Bool) (raw : Text) :
    ((parseLogged l d source index).1 = parse d source index ∧
      ∃ entries s' index',
        Leads d source .outside index entries s' index' ∧
        EndsAt d source s' index' (parse d source index) ∧
        (parseLogged l d source index).2 =
          l.logOf (entries.map Entry.message ++ closingMessages (parse d source index)) ∧
        (∀ message ∈ entries.map Entry.message ++ closingMessages (parse d source index),
          .lineFeed ∉ message) ∧
        (∀ e ∈ entries, Entry.rereadMark.isSuffixOf e.message = !e.move.consumes) ∧
        ((entries.map Entry.message).countP fun message =>
          !Entry.rereadMark.isSuffixOf message : Int) = index' - index) ∧
      (formatLogged l asciiOnly d raw).1 = format asciiOnly d raw ∧
      (formatLogged l asciiOnly d raw).2 =
        l.logOf ((Writing.changesFrom asciiOnly d 0 raw).map Writing.Change.message) ∧
      (∀ change ∈ Writing.changesFrom asciiOnly d 0 raw, .lineFeed ∉ change.message) ∧
      ((raw.takeWhile (Writing.isWritable asciiOnly d)).length : Int) =
        match format asciiOnly d raw with
        | .ok _ => raw.length
        | .error fault => fault.index := by
  refine ⟨⟨parseLogged_outcome l d source index, ?_⟩, formatLogged_outcome l asciiOnly d raw, ?_,
    ?_, ?_⟩
  · rcases leads_read d source index with ⟨s', index', hleads, hends⟩
    refine ⟨(read d source index).trace, s', index', hleads, hends, ?_, ?_, ?_, ?_⟩
    · rw [parseLogged_log, l.flatMap_debug]
      rfl
    · intro message hmessage
      exact (Run.isPrintable_of_mem_messages hmessage).lineFeed_notMem
    · intro e _
      exact e.rereadMark_isSuffixOf_message
    · rw [← hleads.count_consumes, List.countP_map]
      congr 1
      apply List.countP_congr
      intro e _
      simp [e.rereadMark_isSuffixOf_message]
  · rw [formatLogged_log, ← List.flatMap_map, l.flatMap_debug]
    rfl
  · intro change hchange
    exact (Writing.isPrintable_message_of_mem_changesFrom hchange).lineFeed_notMem
  · have hlength := Writing.length_takeWhile_isWritable asciiOnly d 0 raw
    rw [Int.natCast_zero, Int.zero_add] at hlength
    rw [hlength, format]
    cases Writing.bodyFrom asciiOnly d 0 raw with
    | ok body =>
        exact Int.zero_add _
    | error fault =>
        rfl

/-- Both steps that leave their character to be read again, and a closing line. -/
example :
    (parseLogged ⟨some ⟨30, false⟩, []⟩ ⟨0x2000⟩
        [.doubleQuote, .backslash, '1', .doubleQuote] 0).2 =
      Text.unlines
        (["0: '\"' NoQuote -> InQuote", "1: '\\\\' InQuote -> AfterSlash",
          "2: '1' AfterSlash -> AtOctal (reread)", "2: '1' AtOctal -> AtOctal",
          "3: '\"' AtOctal -> InQuote (reread)",
          "closing quote at 3, decoded 1 character(s)"].map Text.ofString) := by
  cbv

end QuotedLiteral
