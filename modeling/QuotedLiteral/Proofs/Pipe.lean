import Mathlib
import QuotedLiteral.Proofs.Reply

/-!
# From one command to the other

What the format command prints in plain ASCII is read back by the parse command
from its input, whatever the encodings of the two.
-/

namespace QuotedLiteral

/-- A literal that is written for a dialect is read back by it, whatever stands behind. -/
theorem parse_format_append {asciiOnly : Bool} {d : Dialect} {raw literal : Text}
    (hslash : d.has .backslash = true) (hquote : d.has .doubleQuote = true)
    (hformat : format asciiOnly d raw = .ok literal) (after : Text) :
    ∃ close, parse d (literal ++ after) 0 = .ok ⟨close, raw⟩ := by
  rcases exists_body_of_format hformat with ⟨body, hwrites, rfl⟩
  have hlegal : body.LegalBefore (.doubleQuote :: after) :=
    hwrites.legalBefore (fun _ => hquote) (fun _ => hslash) _
  have hparse := @parse_closed d [] body after hlegal hwrites.admits
  rw [hwrites.denoted_eq] at hparse
  exact ⟨_, by simpa using hparse⟩

/-!
# Words that ask for a literal
-/

namespace Invocation

/-- Behind the terminator every text is an operand. -/
theorem ofArguments_format {spec : Text} (hspec : spec ≠ Arguments.terminator) (t : Text) :
    ofArguments [Text.ofString "--dialect=" ++ spec, Text.ofString "format",
        Arguments.terminator, t] =
      .ok ⟨0, false, some (some spec), .format false (some t)⟩ := by
  have hvalue : (if spec = Arguments.terminator then none else some spec) = some spec :=
    if_neg hspec
  rw [← hvalue]
  cbv

theorem ofArguments_parse {spec : Text} (hspec : spec ≠ Arguments.terminator) :
    ofArguments [Text.ofString "--dialect=" ++ spec, Text.ofString "parse"] =
      .ok ⟨0, false, some (some spec), .parse (some 0) false none⟩ := by
  have hvalue : (if spec = Arguments.terminator then none else some spec) = some spec :=
    if_neg hspec
  rw [← hvalue]
  cbv

end Invocation

namespace Session

variable {session : Session} {words : List Text} {settings : Settings}

theorem ne_terminator_of_ofSpec {spec : Text} {d : Dialect} (hspec : Dialect.ofSpec spec = .ok d) :
    spec ≠ Arguments.terminator := by
  intro heq
  have hunknown : Dialect.ofSpec Arguments.terminator = .error ⟨Arguments.terminator⟩ := by
    decide
  rw [heq, hunknown] at hspec
  cases hspec

/-- Under every spec that stands for a dialect, every text can be asked to be written. -/
theorem asks_format (session : Session) {spec : Text} {d : Dialect}
    (hspec : Dialect.ofSpec spec = .ok d) (t : Text) :
    session.Asks
      [Text.ofString "--dialect=" ++ spec, Text.ofString "format", Arguments.terminator, t]
      ⟨d, session.environment.asciiOnly, ⟨Severity.error.level, false⟩⟩
      (.format false (some t)) := by
  refine ⟨_, ⟨0, false, some spec⟩,
    Invocation.ofArguments_format (ne_terminator_of_ofSpec hspec) t, rfl, ?_, rfl⟩
  rw [Preferences.settings, Preferences.dialectSpec, Option.getD_some, hspec]
  rfl

theorem asks_parse (session : Session) {spec : Text} {d : Dialect}
    (hspec : Dialect.ofSpec spec = .ok d) :
    session.Asks [Text.ofString "--dialect=" ++ spec, Text.ofString "parse"]
      ⟨d, session.environment.asciiOnly, ⟨Severity.error.level, false⟩⟩
      (.parse (some 0) false none) := by
  refine ⟨_, ⟨0, false, some spec⟩,
    Invocation.ofArguments_parse (ne_terminator_of_ofSpec hspec), rfl, ?_, rfl⟩
  rw [Preferences.settings, Preferences.dialectSpec, Option.getD_some, hspec]
  rfl

theorem run_format (verbatim : Bool) (raw : Option Text)
    (hwords : session.Asks words settings (.format verbatim raw)) :
    session.run words =
      .ok (session.reply settings
        (.format (settings.asciiOnly && !verbatim) (raw.getD session.input.dropFinalNewline))) := by
  rw [run_of_asks hwords]
  exact perform_of_call? rfl

theorem run_parse (index : Int) (showIndex : Bool) (literal : Option Text)
    (hwords : session.Asks words settings (.parse (some index) showIndex literal)) :
    session.run words =
      .ok (session.reply settings (.parse index showIndex (literal.getD session.input))) := by
  rw [run_of_asks hwords]
  exact perform_of_call? rfl

end Session

/-- The writing session is asked for a literal in ASCII of a text that is given as an argument, or
as the input with one line feed behind it.  If it exits with success, the literal and a line feed
are its output, and a session that is asked to read a literal from the bytes of that output, under
the same dialect, prints the text.  The dialect needs mnemonics for the backslash and the quote, and
an escape that names controls by their number. -/
theorem pipe_round_trip (writing reading : Session) (words words' : List Text)
    (settings settings' : Settings) (raw : Option Text) (t : Text) (answer : Answer)
    (hwords : writing.Asks words settings (.format false raw))
    (hraw : raw = some t ∨ raw = none ∧ writing.input = t ++ [.lineFeed])
    (hascii : settings.asciiOnly = true)
    (hslash : settings.dialect.has .backslash = true)
    (hquote : settings.dialect.has .doubleQuote = true)
    (hnames : Writing.NamesControls settings.dialect)
    (hanswer : writing.run words = .ok answer)
    (hexit : answer.exit = 0)
    (hwords' : reading.Asks words' settings' (.parse (some 0) false none))
    (hdialect : settings'.dialect = settings.dialect)
    (hinput : reading.input =
      (Utf8.decode (writing.encoding.bytes answer.output)).normalizeNewlines) :
    ∃ literal answer',
      format true settings.dialect t = .ok literal ∧
        answer.output = literal ++ [.lineFeed] ∧
        reading.run words' = .ok answer' ∧
        answer'.exit = 0 ∧
        answer'.output = reading.encoding.escapeUnheld t ++ [.lineFeed] := by
  have htext : raw.getD writing.input.dropFinalNewline = t := by
    rcases hraw with rfl | ⟨rfl, hline⟩
    · rfl
    · rw [hline]
      exact t.dropFinalNewline_concat
  have hrun : writing.run words = .ok (writing.reply settings (.format true t)) := by
    rw [Session.run_format false raw hwords, htext, hascii]
    rfl
  rw [hrun] at hanswer
  cases hanswer
  cases hformat : format true settings.dialect t with
  | error fault =>
      rw [Session.reply_of_result_eq_error (Call.result_of_format_error hformat)] at hexit
      cases hexit
  | ok literal =>
      have hplain : Text.IsPlainLines (literal ++ [.lineFeed]) :=
        (isPlain_of_format hnames hformat).isPlainLines
      have houtput : (writing.reply settings (.format true t)).output = literal ++ [.lineFeed] := by
        rw [Session.reply_of_result_eq_ok (Call.result_of_format_ok hformat)]
        exact Encoding.escapeUnheld_plainLines hplain writing.encoding
      have hsource : reading.input = literal ++ [.lineFeed] := by
        rw [hinput, houtput, Utf8.decode_bytes writing.encoding hplain.value_lt,
          Text.normalizeNewlines_eq_self hplain.carriageReturn_notMem]
      rcases parse_format_append hslash hquote hformat [.lineFeed] with ⟨close, hparse⟩
      rw [← hsource, ← hdialect] at hparse
      refine ⟨literal, _, rfl, houtput, Session.run_parse 0 false none hwords', ?_, ?_⟩
      · rw [Option.getD_none, Session.reply_of_result_eq_ok (Call.result_of_parse_ok hparse)]
        rfl
      · rw [Option.getD_none, Session.reply_of_result_eq_ok (Call.result_of_parse_ok hparse)]
        exact reading.encoding.escapeUnheld_concat t

/-- The text comes from the input of a session with Latin-1 outputs and is printed by one with ASCII
outputs, under a dialect that the first takes from an option and the second from a variable. -/
theorem pipe_round_trip_java :
    ∃ literal answer',
      format true Preset.java.dialect [.ofNat 0x07, .doubleQuote, .ofNat 0x20AC] = .ok literal ∧
        (Text.ofString "\"\\007\\\"\\u20ac\"\n") = literal ++ [.lineFeed] ∧
        Session.run ⟨⟨some (Text.ofString "JAVA"), none⟩, Text.ofString "\"\\007\\\"\\u20ac\"\n",
          .ascii, []⟩ [Text.ofString "decode"] = .ok answer' ∧
        answer'.exit = 0 ∧
        answer'.output = Text.ofString "\x07\"\\u20ac" ++ [.lineFeed] := by
  have hwords : Session.Asks
      ⟨⟨none, none⟩, [.ofNat 0x07, .doubleQuote, .ofNat 0x20AC, .lineFeed], .latin1, []⟩
      (["-d", "java", "format"].map Text.ofString) ⟨Preset.java.dialect, true, ⟨3, false⟩⟩
      (.format false none) :=
    ⟨⟨0, false, some (some (Text.ofString "java")), .format false none⟩,
      ⟨0, false, some (Text.ofString "java")⟩, by cbv, rfl, by decide, rfl⟩
  have hanswer : Session.run
      ⟨⟨none, none⟩, [.ofNat 0x07, .doubleQuote, .ofNat 0x20AC, .lineFeed], .latin1, []⟩
      (["-d", "java", "format"].map Text.ofString) =
        .ok ⟨0, Text.ofString "\"\\007\\\"\\u20ac\"\n", []⟩ := by
    cbv
  have hwords' : Session.Asks
      ⟨⟨some (Text.ofString "JAVA"), none⟩, Text.ofString "\"\\007\\\"\\u20ac\"\n", .ascii, []⟩
      [Text.ofString "decode"] ⟨Preset.java.dialect, true, ⟨3, false⟩⟩
      (.parse (some 0) false none) :=
    ⟨⟨0, false, none, .parse (some 0) false none⟩, ⟨0, false, none⟩, by cbv, rfl, by decide, rfl⟩
  exact pipe_round_trip _ _ _ _ _ _ none [.ofNat 0x07, .doubleQuote, .ofNat 0x20AC] _ hwords
    (Or.inr ⟨rfl, rfl⟩) rfl (by decide) (by decide) (Or.inl (by decide)) hanswer rfl hwords' rfl
    (by decide)

end QuotedLiteral
