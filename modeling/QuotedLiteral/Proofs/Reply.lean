import QuotedLiteral.Command.Run
import QuotedLiteral.Proofs.Tracing
import QuotedLiteral.Proofs.Transport
import QuotedLiteral.Proofs.Unwritable

/-!
# Replies of the codec's commands

A command that reads or writes a literal makes one call of the codec.  The
call's result alone says what is printed and with which exit code; the log's
setting only says which of the call's messages are told.
-/

namespace QuotedLiteral

/-!
# Faults of writing
-/

theorem format_ok_or_malformed (asciiOnly : Bool) (d : Dialect) (raw : Text) :
    (∃ literal, format asciiOnly d raw = .ok literal) ∨
      ∃ fault, format asciiOnly d raw = .error fault ∧
        fault.complaint raw = .malformed (fault.diagnostic raw) := by
  rcases Writing.writes_or_breaks asciiOnly d raw with ⟨body, hwrites⟩ | ⟨index, c, hbreaks⟩
  · exact Or.inl ⟨_, format_of_writes hwrites⟩
  · exact Or.inr ⟨_, format_of_breaks hbreaks, Fault.complaint_eq_malformed rfl raw⟩

/-!
# Calls
-/

/-- What is asked of the codec, with the text it works on. -/
inductive Call where
  | parse (index : Int) (showIndex : Bool) (source : Text)
  | format (asciiOnly : Bool) (raw : Text)

namespace Call

/-- The text to be printed, and the index to be printed before it if that is wanted. -/
def result (d : Dialect) : Call → Except Complaint (Option Nat × Text)
  | parse index showIndex source =>
      match QuotedLiteral.parse d source index with
      | .ok l => .ok (if showIndex then some l.close else none, l.content)
      | .error fault => .error (fault.complaint source)
  | format asciiOnly raw =>
      match QuotedLiteral.format asciiOnly d raw with
      | .ok literal => .ok (none, literal)
      | .error fault => .error (fault.complaint raw)

section

variable {d : Dialect} {index : Int} {showIndex asciiOnly : Bool} {source raw : Text}

theorem result_of_parse_ok {l : Literal} (hparse : QuotedLiteral.parse d source index = .ok l) :
    (parse index showIndex source).result d =
      .ok (if showIndex then some l.close else none, l.content) := by
  rw [result, hparse]

theorem result_of_parse_error {fault : Fault}
    (hparse : QuotedLiteral.parse d source index = .error fault) :
    (parse index showIndex source).result d = .error (fault.complaint source) := by
  rw [result, hparse]

theorem result_of_format_ok {literal : Text}
    (hformat : QuotedLiteral.format asciiOnly d raw = .ok literal) :
    (format asciiOnly raw).result d = .ok (none, literal) := by
  rw [result, hformat]

theorem result_of_format_error {fault : Fault}
    (hformat : QuotedLiteral.format asciiOnly d raw = .error fault) :
    (format asciiOnly raw).result d = .error (fault.complaint raw) := by
  rw [result, hformat]

end

theorem malformed_of_result {d : Dialect} {call : Call} {complaint : Complaint}
    (hresult : call.result d = .error complaint) :
    ∃ diagnostic, complaint = .malformed diagnostic := by
  cases call with
  | parse index showIndex source =>
      rcases parse_ok_or_malformed d source index with ⟨l, hparse⟩ | ⟨fault, hparse, hmalformed⟩
      · rw [result_of_parse_ok hparse] at hresult
        cases hresult
      · rw [result_of_parse_error hparse, hmalformed] at hresult
        exact ⟨fault.diagnostic source, (Except.error.inj hresult).symm⟩
  | format asciiOnly raw =>
      rcases format_ok_or_malformed asciiOnly d raw with
        ⟨literal, hformat⟩ | ⟨fault, hformat, hmalformed⟩
      · rw [result_of_format_ok hformat] at hresult
        cases hresult
      · rw [result_of_format_error hformat, hmalformed] at hresult
        exact ⟨fault.diagnostic raw, (Except.error.inj hresult).symm⟩

def openingMessage (d : Dialect) : Call → Text
  | parse _ _ _ => Text.ofString "Parsing with dialect " ++ Session.dialectName d
  | format asciiOnly raw =>
      Text.ofString "Formatting " ++ Numeral.decimal raw.length
        ++ Text.ofString " character(s), ascii_only="
        ++ Text.ofString (if asciiOnly then "True" else "False")

def traceMessages (d : Dialect) : Call → List Text
  | parse index _ source => (read d source index).messages
  | format asciiOnly raw =>
      (Writing.changesFrom asciiOnly d 0 raw).map Writing.Change.message

/-- The messages of a call, each with its severity, whether they are told or not. -/
def notes (d : Dialect) (call : Call) : List (Severity × Text) :=
  (.info, call.openingMessage d) :: (call.traceMessages d).map (Severity.debug, ·) ++
    match call.result d with
    | .ok _ => []
    | .error complaint => [(.error, Session.errorMessage complaint.format)]

end Call

/-- The call that a task makes; none if it is no task of the codec or lacks its index. -/
def Task.call? (asciiOnly : Bool) (input : Text) : Task → Option Call
  | .parse index showIndex literal =>
      index.map fun n => .parse n showIndex (literal.getD input)
  | .format verbatim raw =>
      some (.format (asciiOnly && !verbatim) (raw.getD input.dropFinalNewline))
  | .flags _ => none

/-- What a logger writes of some messages. -/
def Logger.tell (l : Logger) (notes : List (Severity × Text)) : Text :=
  notes.flatMap fun note => l.write note.1.level note.2

theorem Logger.tell_notes (l : Logger) (d : Dialect) (call : Call) :
    l.tell (call.notes d) =
      l.write Severity.info.level (call.openingMessage d) ++
        (call.traceMessages d).flatMap l.debug ++
        match call.result d with
        | .ok _ => []
        | .error complaint =>
            l.write Severity.error.level (Session.errorMessage complaint.format) := by
  have hdebug : l.tell ((call.traceMessages d).map (Severity.debug, ·)) =
      (call.traceMessages d).flatMap l.debug :=
    List.flatMap_map ..
  rw [tell, Call.notes, List.flatMap_append, List.flatMap_cons]
  change _ ++ l.tell _ ++ _ = _
  rw [hdebug]
  cases call.result d with
  | ok printed =>
      rfl
  | error complaint =>
      rw [List.flatMap_singleton]

namespace Session

def indexLine : Option Nat → Text
  | some n => Numeral.decimal n ++ [.lineFeed]
  | none => []

/-- The answer that follows from the result of a call. -/
def reply (session : Session) (settings : Settings) (call : Call) : Answer :=
  let errors :=
    session.encoding.escapeUnheld ((session.log settings).tell (call.notes settings.dialect))
  match call.result settings.dialect with
  | .ok (index, text) =>
      ⟨0, indexLine index ++ session.encoding.escapeUnheld text ++ [.lineFeed], errors⟩
  | .error _ => ⟨1, [], errors⟩

theorem escapeUnheld_indexLine (encoding : Encoding) (index : Option Nat) :
    encoding.escapeUnheld (indexLine index) = indexLine index := by
  cases index with
  | none =>
      rfl
  | some n =>
      exact encoding.escapeUnheld_plainLines (Numeral.isPlain_decimal n).isPlainLines

theorem reply_of_result_eq_ok {session : Session} {settings : Settings} {call : Call}
    {index : Option Nat} {text : Text}
    (hresult : call.result settings.dialect = .ok (index, text)) :
    session.reply settings call =
      session.answer 0 (indexLine index ++ text ++ [.lineFeed])
        ((session.log settings).write Severity.info.level (call.openingMessage settings.dialect) ++
          (call.traceMessages settings.dialect).flatMap (session.log settings).debug) := by
  have houtput : session.encoding.escapeUnheld (indexLine index ++ text ++ [.lineFeed]) =
      indexLine index ++ session.encoding.escapeUnheld text ++ [.lineFeed] := by
    rw [Encoding.escapeUnheld_concat, Encoding.escapeUnheld_append, escapeUnheld_indexLine]
  rw [answer, houtput, reply, Logger.tell_notes, hresult]
  simp only [List.append_nil]

theorem reply_of_result_eq_error {session : Session} {settings : Settings} {call : Call}
    {complaint : Complaint} (hresult : call.result settings.dialect = .error complaint) :
    session.reply settings call =
      session.answer 1 []
        ((session.log settings).write Severity.info.level (call.openingMessage settings.dialect) ++
          (call.traceMessages settings.dialect).flatMap (session.log settings).debug ++
          (session.log settings).write Severity.error.level (errorMessage complaint.format)) := by
  rw [reply, Logger.tell_notes, hresult]
  rfl

theorem parse_eq_reply (session : Session) (settings : Settings) (index : Int) (showIndex : Bool)
    (source : Text) :
    session.parse settings index showIndex source =
      session.reply settings (.parse index showIndex source) := by
  have houtcome := parseLogged_outcome (session.log settings) settings.dialect source index
  have hlog := parseLogged_log (session.log settings) settings.dialect source index
  rcases parse_ok_or_malformed settings.dialect source index with
    ⟨l, hparse⟩ | ⟨fault, hparse, hmalformed⟩
  · rw [reply_of_result_eq_ok (Call.result_of_parse_ok hparse), parse]
    simp only [houtcome, hlog, hparse]
    cases showIndex <;> rfl
  · rw [reply_of_result_eq_error (Call.result_of_parse_error hparse), parse]
    simp only [houtcome, hlog, hparse, hmalformed]
    rfl

theorem format_eq_reply (session : Session) (settings : Settings) (verbatim : Bool) (raw : Text) :
    session.format settings verbatim raw =
      session.reply settings (.format (settings.asciiOnly && !verbatim) raw) := by
  have houtcome := formatLogged_outcome (session.log settings) (settings.asciiOnly && !verbatim)
    settings.dialect raw
  have hlog := formatLogged_log (session.log settings) (settings.asciiOnly && !verbatim)
    settings.dialect raw
  rw [← List.flatMap_map] at hlog
  cases hformat : QuotedLiteral.format (settings.asciiOnly && !verbatim) settings.dialect raw with
  | ok literal =>
      rw [reply_of_result_eq_ok (Call.result_of_format_ok hformat), format]
      simp only [houtcome, hlog, hformat]
      rfl
  | error fault =>
      rw [reply_of_result_eq_error (Call.result_of_format_error hformat), format]
      simp only [houtcome, hlog, hformat]
      rfl

theorem perform_of_call? {session : Session} {settings : Settings} {task : Task} {call : Call}
    (hcall : task.call? settings.asciiOnly session.input = some call) :
    session.perform settings task = .ok (session.reply settings call) := by
  cases task with
  | parse index showIndex literal =>
      cases index with
      | none =>
          cases hcall
      | some n =>
          cases hcall
          rw [perform, parse_eq_reply]
  | format verbatim raw =>
      cases hcall
      rw [perform, format_eq_reply]
  | flags spec =>
      cases hcall

/-!
# Argument vectors
-/

/-- The words ask for a task under some settings. -/
def Asks (session : Session) (words : List Text) (settings : Settings) (task : Task) : Prop :=
  ∃ invocation preferences,
    Invocation.ofArguments words = .ok invocation ∧
      invocation.preferences? = some preferences ∧
      preferences.settings session.environment = .ok settings ∧
      invocation.task = task

theorem run_of_asks {session : Session} {words : List Text} {settings : Settings} {task : Task}
    (h : session.Asks words settings task) : session.run words = session.perform settings task := by
  rcases h with ⟨invocation, preferences, hwords, hpreferences, hsettings, rfl⟩
  simp only [run, hwords, hpreferences, hsettings]

end Session
end QuotedLiteral
