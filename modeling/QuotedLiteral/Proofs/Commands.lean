import Mathlib
import QuotedLiteral.Proofs.Verbosity

/-!
# The commands of the codec

A command that reads or writes a literal is a call of the codec under the dialect
of the spec in force.  It prints the call's result, or it prints nothing and says
why; how much it tells about its work changes neither the output nor the exit
code.
-/

namespace QuotedLiteral

def Task.IsCodec : Task → Prop
  | .flags _ => False
  | _ => True

namespace Invocation

/-- The spec that the dialect is taken from: that of the option, even if it is empty, else that of
the variable, unless it is empty, else that of C. -/
inductive SpecInForce (i : Invocation) (v : Variables) : Text → Prop where
  | given {spec : Text} (hoption : i.dialect = some (some spec)) : SpecInForce i v spec
  | environment {spec : Text} (hoption : i.dialect = none) (hvariable : v.dialect = some spec)
      (hspec : spec ≠ []) : SpecInForce i v spec
  | usual (hoption : i.dialect = none) (hvariable : v.dialect = none ∨ v.dialect = some []) :
      SpecInForce i v (Text.ofString "c")

variable {i : Invocation} {v : Variables} {spec : Text}

theorem exists_specInForce (hdialect : i.dialect ≠ some none) (v : Variables) :
    ∃ spec, i.SpecInForce v spec := by
  cases hoption : i.dialect with
  | some value =>
      cases value with
      | none =>
          exact absurd hoption hdialect
      | some spec =>
          exact ⟨spec, .given hoption⟩
  | none =>
      cases hvariable : v.dialect with
      | none =>
          exact ⟨_, .usual hoption (Or.inl hvariable)⟩
      | some spec =>
          cases spec with
          | nil =>
              exact ⟨_, .usual hoption (Or.inr hvariable)⟩
          | cons c rest =>
              exact ⟨c :: rest, .environment hoption hvariable (List.cons_ne_nil c rest)⟩

theorem SpecInForce.of_dialect_eq {i' : Invocation} (hdialect : i'.dialect = i.dialect)
    (h : i.SpecInForce v spec) : i'.SpecInForce v spec := by
  cases h with
  | given hoption =>
      exact .given (hdialect.trans hoption)
  | environment hoption hvariable hspec =>
      exact .environment (hdialect.trans hoption) hvariable hspec
  | usual hoption hvariable =>
      exact .usual (hdialect.trans hoption) hvariable

/-- The settings of an invocation whose spec stands for a dialect. -/
def settings (i : Invocation) (v : Variables) (d : Dialect) : Settings where
  dialect := d
  asciiOnly := v.asciiOnly
  log := { level := Preferences.logLevel ⟨i.verbosity, i.rich, none⟩, rich := i.rich }

theorem SpecInForce.exists_preferences (h : i.SpecInForce v spec) :
    ∃ preferences, i.preferences? = some preferences ∧
      preferences.settings v = (Dialect.ofSpec spec).map (i.settings v) := by
  cases h with
  | given hoption =>
      exact ⟨⟨i.verbosity, i.rich, some spec⟩, by rw [preferences?, hoption], rfl⟩
  | environment hoption hvariable hspec =>
      refine ⟨⟨i.verbosity, i.rich, none⟩, by rw [preferences?, hoption], ?_⟩
      have hforce : v.dialectSpec = spec := by
        cases spec with
        | nil =>
            exact absurd rfl hspec
        | cons c rest =>
            rw [Variables.dialectSpec, hvariable]
      rw [Preferences.settings, Preferences.dialectSpec, Option.getD_none, hforce]
      rfl
  | usual hoption hvariable =>
      refine ⟨⟨i.verbosity, i.rich, none⟩, by rw [preferences?, hoption], ?_⟩
      have hforce : v.dialectSpec = Text.ofString "c" := by
        rcases hvariable with hunset | hempty
        · rw [Variables.dialectSpec, hunset]
          rfl
        · rw [Variables.dialectSpec, hempty]
          rfl
      rw [Preferences.settings, Preferences.dialectSpec, Option.getD_none, hforce]
      rfl

/-- A higher verbosity never lowers the level of the log. -/
theorem level_settings_mono {i' : Invocation} (h : i.verbosity ≤ i'.verbosity) (v : Variables)
    (d : Dialect) : (i.settings v d).log.level ≤ (i'.settings v d).log.level := by
  simp only [settings, Preferences.logLevel, Severity.level]
  split <;> split <;> lia

theorem error_level_le_logLevel (p : Preferences) : Severity.error.level ≤ p.logLevel := by
  unfold Preferences.logLevel
  split
  · decide
  · split <;> decide

end Invocation

/-- What a session prints, and its exit code. -/
def Answer.printed (answer : Answer) : Int × Text :=
  (answer.exit, answer.output)

namespace Session

variable {session : Session} {words : List Text} {i : Invocation}

theorem run_of_dialect_dropped (hwords : Invocation.ofArguments words = .ok i)
    (hdialect : i.dialect = some none) : session.run words = .error .dialectWithoutValue := by
  simp only [run, hwords, Invocation.preferences?, hdialect]

theorem run_of_specInForce {spec : Text} (hwords : Invocation.ofArguments words = .ok i)
    (hspec : i.SpecInForce session.environment spec) :
    session.run words =
      match Dialect.ofSpec spec with
      | .error unknown => .ok (session.misuse .program unknown.message)
      | .ok d => session.perform (i.settings session.environment d) i.task := by
  rcases hspec.exists_preferences with ⟨preferences, hpreferences, hsettings⟩
  simp only [run, hwords, hpreferences, hsettings]
  cases Dialect.ofSpec spec <;> rfl

theorem errors_misuse_ne_nil (session : Session) (page : Page) (message : Text) :
    (session.misuse page message).errors ≠ [] := by
  change session.encoding.escapeUnheld (_ ++ [.lineFeed]) ≠ []
  rw [Encoding.escapeUnheld_concat]
  exact List.append_ne_nil_of_right_ne_nil _ (List.cons_ne_nil _ [])

theorem perform_of_call?_none {settings : Settings} {task : Task} (hcodec : task.IsCodec)
    (hcall : task.call? settings.asciiOnly session.input = none) :
    session.perform settings task = .error .indexWithoutValue := by
  cases task with
  | parse index showIndex literal =>
      cases index with
      | none =>
          rfl
      | some n =>
          cases hcall
  | format verbatim raw =>
      cases hcall
  | flags spec =>
      exact absurd hcodec id

/-- The answer says what came of a call: it prints the result and exits with 0, or it prints
nothing, ends what it tells with the diagnostic, and exits with 1. -/
def Reports (session : Session) (i : Invocation) (d : Dialect) (call : Call) (answer : Answer) :
    Prop :=
  match call.result d with
  | .ok (index, text) =>
      answer.exit = 0 ∧
        answer.output = indexLine index ++ session.encoding.escapeUnheld text ++ [.lineFeed]
  | .error complaint =>
      answer.exit = 1 ∧ answer.output = [] ∧
        ∃ diagnostic earlier heading,
          complaint = .malformed diagnostic ∧
            answer.errors =
              earlier ++ session.encoding.escapeUnheld
                (heading ++ Text.ofString "error: " ++ diagnostic.format) ++ [.lineFeed] ∧
            earlier.IsTerminated ∧
            (i.rich = false → heading = [])

/-- The complaint is the last message that is told, at any level of the log. -/
theorem exists_errors_of_result (session : Session) {settings : Settings} {call : Call}
    {complaint : Complaint} (hlevel : Severity.error.level ≤ settings.log.level)
    (hresult : call.result settings.dialect = .error complaint) :
    ∃ earlier,
      (session.reply settings call).errors =
        earlier ++ session.encoding.escapeUnheld
          ((session.log settings).heading Severity.error.level ++ errorMessage complaint.format) ++
          [.lineFeed] ∧
      earlier.IsTerminated := by
  let front :=
    (Severity.info, call.openingMessage settings.dialect) ::
      (call.traceMessages settings.dialect).map (Severity.debug, ·)
  have hnotes : call.notes settings.dialect =
      front ++ [(.error, errorMessage complaint.format)] := by
    rw [Call.notes, hresult]
  have htold : (session.log settings).tell (call.notes settings.dialect) =
      (session.log settings).tell front ++
        ((session.log settings).heading Severity.error.level ++ errorMessage complaint.format ++
          [.lineFeed]) := by
    have hadmits : (session.log settings).admits Severity.error.level = true :=
      decide_eq_true hlevel
    rw [hnotes, Logger.tell, List.flatMap_append, List.flatMap_singleton, Logger.write,
      if_pos hadmits]
    rfl
  refine ⟨session.encoding.escapeUnheld ((session.log settings).tell front), ?_,
    session.encoding.isTerminated_escapeUnheld (Logger.isTerminated_tell _ front)⟩
  have herrors : (session.reply settings call).errors =
      session.encoding.escapeUnheld
        ((session.log settings).tell (call.notes settings.dialect)) := by
    rw [reply, hresult]
  rw [herrors, htold, Encoding.escapeUnheld_append, Encoding.escapeUnheld_concat,
    ← List.append_assoc]

theorem reports_reply (session : Session) (i : Invocation) (d : Dialect) (call : Call) :
    session.Reports i d call (session.reply (i.settings session.environment d) call) := by
  unfold Reports
  cases hresult : call.result d with
  | ok printed =>
      constructor
      · rw [reply, Invocation.settings, hresult]
      · rw [reply, Invocation.settings, hresult]
  | error complaint =>
      rcases Call.malformed_of_result hresult with ⟨diagnostic, rfl⟩
      have hlevel : Severity.error.level ≤ (i.settings session.environment d).log.level :=
        Invocation.error_level_le_logLevel _
      rcases session.exists_errors_of_result hlevel hresult with ⟨earlier, herrors, hterminated⟩
      refine ⟨?_, ?_, diagnostic, earlier,
        (session.log (i.settings session.environment d)).heading Severity.error.level, rfl, ?_,
        hterminated, ?_⟩
      · rw [reply, Invocation.settings, hresult]
      · rw [reply, Invocation.settings, hresult]
      · rw [herrors, errorMessage, ← List.append_assoc]
        rfl
      · intro hrich
        exact if_neg (by simp [log, Invocation.settings, Logger.settingInForce, hrich])

/-!
# Invocations that differ in what they log
-/

/-- What the log's options leave alone: the outcome itself, or the call that it replies to. -/
theorem run_fixed_or_reply (session : Session) (i : Invocation) (hcodec : i.task.IsCodec) :
    (∃ outcome, ∀ words i', Invocation.ofArguments words = .ok i' → i'.dialect = i.dialect →
      i'.task = i.task → session.run words = outcome) ∨
    ∃ d call, ∀ words i', Invocation.ofArguments words = .ok i' → i'.dialect = i.dialect →
      i'.task = i.task →
      session.run words = .ok (session.reply (i'.settings session.environment d) call) := by
  by_cases hdropped : i.dialect = some none
  · left
    refine ⟨.error .dialectWithoutValue, ?_⟩
    intro words i' hwords hdialect _
    exact run_of_dialect_dropped hwords (hdialect.trans hdropped)
  · rcases Invocation.exists_specInForce hdropped session.environment with ⟨spec, hspec⟩
    cases hresolved : Dialect.ofSpec spec with
    | error unknown =>
        left
        refine ⟨.ok (session.misuse .program unknown.message), ?_⟩
        intro words i' hwords hdialect _
        rw [run_of_specInForce hwords (hspec.of_dialect_eq hdialect), hresolved]
    | ok d =>
        cases hcall : i.task.call? session.environment.asciiOnly session.input with
        | none =>
            left
            refine ⟨.error .indexWithoutValue, ?_⟩
            intro words i' hwords hdialect htask
            rw [run_of_specInForce hwords (hspec.of_dialect_eq hdialect), hresolved, htask]
            exact perform_of_call?_none hcodec hcall
        | some call =>
            right
            refine ⟨d, call, ?_⟩
            intro words i' hwords hdialect htask
            rw [run_of_specInForce hwords (hspec.of_dialect_eq hdialect), hresolved, htask]
            exact perform_of_call? hcall

theorem printed_reply (session : Session) (i i' : Invocation) (d : Dialect) (call : Call) :
    (session.reply (i'.settings session.environment d) call).printed =
      (session.reply (i.settings session.environment d) call).printed := by
  unfold reply Invocation.settings
  cases call.result d <;> rfl

theorem sublist_lines_reply (session : Session) {i i' : Invocation} (d : Dialect) (call : Call)
    (hrich : i.rich = false) (hrich' : i'.rich = false) (hverbosity : i.verbosity ≤ i'.verbosity) :
    (Text.lines (session.reply (i.settings session.environment d) call).errors).Sublist
      (Text.lines (session.reply (i'.settings session.environment d) call).errors) := by
  have herrors : ∀ i : Invocation,
      (session.reply (i.settings session.environment d) call).errors =
        session.encoding.escapeUnheld
          ((session.log (i.settings session.environment d)).tell (call.notes d)) := by
    intro i
    unfold reply Invocation.settings
    cases call.result d <;> rfl
  rw [herrors i, herrors i']
  exact @Logger.sublist_lines_tell (session.log (i.settings session.environment d))
    (session.log (i'.settings session.environment d)) hrich hrich'
    (Invocation.level_settings_mono hverbosity session.environment d) session.encoding
    (call.notes d)

end Session

/-- Of every argument vector that asks for a literal to be read or written: If the spec in force is
unknown, the command exits with 2, prints nothing, and says so.  If it stands for a dialect, the
command makes the call that its arguments, the input and the variables describe, and reports what
came of it.  It breaks down only if the option of the dialect, or that of the index, was given with
the terminator in the place of its value.  Exit code and output are the same for all vectors that
ask for the same and differ in what they log; without the rich form, a higher verbosity only adds
lines to what is told.  Such vectors are those with more words about the log in front. -/
theorem commands_are_calls (session : Session) (words : List Text) (i : Invocation)
    (hwords : Invocation.ofArguments words = .ok i) (hcodec : i.task.IsCodec) :
    (i.dialect = some none → session.run words = .error .dialectWithoutValue) ∧
    (∀ spec, i.SpecInForce session.environment spec →
      match Dialect.ofSpec spec with
      | .error _ =>
          ∃ answer, session.run words = .ok answer ∧
            answer.exit = 2 ∧ answer.output = [] ∧ answer.errors ≠ []
      | .ok d =>
          match i.task.call? session.environment.asciiOnly session.input with
          | none => session.run words = .error .indexWithoutValue
          | some call =>
              ∃ answer, session.run words = .ok answer ∧ session.Reports i d call answer) ∧
    (∀ words' i', Invocation.ofArguments words' = .ok i' → i'.dialect = i.dialect →
      i'.task = i.task →
      (session.run words').map Answer.printed = (session.run words).map Answer.printed ∧
        ∀ answer answer', session.run words = .ok answer → session.run words' = .ok answer' →
          i.rich = false → i'.rich = false → i.verbosity ≤ i'.verbosity →
          (Text.lines answer.errors).Sublist (Text.lines answer'.errors)) ∧
    ∀ flags : List Text,
      (∀ word ∈ flags, word = Invocation.verboseWord ∨ word = Invocation.logWord) →
      Invocation.ofArguments (flags ++ words) =
        .ok (i.louder (flags.count Invocation.verboseWord)
          (flags.contains Invocation.logWord)) := by
  refine ⟨Session.run_of_dialect_dropped hwords, ?_, ?_, ?_⟩
  · intro spec hspec
    have hrun := Session.run_of_specInForce hwords hspec
    cases hresolved : Dialect.ofSpec spec with
    | error unknown =>
        rw [hresolved] at hrun
        exact ⟨_, hrun, rfl, rfl, session.errors_misuse_ne_nil .program unknown.message⟩
    | ok d =>
        rw [hresolved] at hrun
        cases hcall : i.task.call? session.environment.asciiOnly session.input with
        | none =>
            exact hrun.trans (Session.perform_of_call?_none hcodec hcall)
        | some call =>
            exact ⟨_, hrun.trans (Session.perform_of_call? hcall), session.reports_reply i d call⟩
  · intro words' i' hwords' hdialect htask
    rcases session.run_fixed_or_reply i hcodec with ⟨outcome, hfixed⟩ | ⟨d, call, hreply⟩
    · have hrun := hfixed words i hwords rfl rfl
      have hrun' := hfixed words' i' hwords' hdialect htask
      rw [hrun, hrun']
      refine ⟨rfl, ?_⟩
      intro answer answer' hanswer hanswer' _ _ _
      cases hanswer.symm.trans hanswer'
      exact List.Sublist.refl _
    · have hrun := hreply words i hwords rfl rfl
      have hrun' := hreply words' i' hwords' hdialect htask
      rw [hrun, hrun']
      refine ⟨congrArg Except.ok (session.printed_reply i i' d call), ?_⟩
      intro answer answer' hanswer hanswer' hrich hrich' hverbosity
      cases hanswer
      cases hanswer'
      exact session.sublist_lines_reply d call hrich hrich' hverbosity
  · intro flags hflags
    rw [Invocation.ofArguments_append hflags, hwords]
    rfl

/-- The option gives the empty dialect, whatever the variable says, and the literal is refused. -/
theorem commands_are_calls_empty_spec :
    ∃ answer,
      Session.run ⟨⟨some (Text.ofString "java"), none⟩, [], .ascii, []⟩
          (["-d", "", "decode", "\"\\u0041\""].map Text.ofString) = .ok answer ∧
        answer.exit = 1 ∧ answer.output = [] := by
  have hwords : Invocation.ofArguments (["-d", "", "decode", "\"\\u0041\""].map Text.ofString) =
      .ok ⟨0, false, some (some []),
        .parse (some 0) false (some (Text.ofString "\"\\u0041\""))⟩ := by
    cbv
  have hresult : ∃ complaint,
      (Call.parse 0 false (Text.ofString "\"\\u0041\"")).result ⟨0⟩ = .error complaint :=
    ⟨Fault.complaint (Text.ofString "\"\\u0041\"") ⟨.unsupportedEscape 'u', 2, .escape⟩, by cbv⟩
  have hcommand := (commands_are_calls ⟨⟨some (Text.ofString "java"), none⟩, [], .ascii, []⟩ _ _
    hwords trivial).2.1 [] (.given rfl)
  rcases hcommand with ⟨answer, hrun, hreports⟩
  rcases hresult with ⟨complaint, hresult⟩
  change Session.Reports _ _ ⟨0⟩ (.parse 0 false (Text.ofString "\"\\u0041\"")) answer at hreports
  rw [Session.Reports, hresult] at hreports
  exact ⟨answer, hrun, hreports.1, hreports.2.1⟩

/-- The terminator in the place of a value is lost, and the dialect is without one. -/
example :
    Session.run ⟨⟨none, none⟩, [], .utf8, []⟩ (["-d--", "parse", "\"a\""].map Text.ofString) =
      .error .dialectWithoutValue := by
  cbv

end QuotedLiteral
