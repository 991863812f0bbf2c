import QuotedLiteral.Proofs.Commands
import QuotedLiteral.Proofs.KnownNames
import QuotedLiteral.Proofs.OneLine

/-!
# Reports on dialects

What the flags command says of a spec is the name of its dialect, the dialect's
number and its flags, or that an item is unknown.  The number and the flags are on
one line, but the name and the item can come from the spec as they stand there, and
the line breaks in them are written as they are.
-/

namespace QuotedLiteral

theorem Text.isPlain_join {separator : Text} {pieces : List Text} (hseparator : separator.IsPlain)
    (hpieces : ∀ piece ∈ pieces, piece.IsPlain) : (join separator pieces).IsPlain := by
  induction pieces with
  | nil =>
      intro c hc
      cases hc
  | cons piece rest ih =>
      rcases List.forall_mem_cons.mp hpieces with ⟨hpiece, hrest⟩
      cases rest with
      | nil =>
          rw [join, List.intercalate_singleton]
          exact hpiece
      | cons next more =>
          rw [join, List.intercalate_cons_cons]
          exact List.forall_mem_append.mpr
            ⟨List.forall_mem_append.mpr ⟨hpiece, hseparator⟩, ih hrest⟩

theorem Text.IsPlain.holds {t : Text} (ht : t.IsPlain) (encoding : Encoding) :
    ∀ c ∈ t, encoding.holds c = true :=
  fun c hc => Encoding.holds_of_lt (Nat.lt_trans (ht c hc).2 (by decide)) encoding

theorem Flag.isPlain_name (f : Flag) : f.name.IsPlain := by
  intro c hc
  have hsmall := inSmallName_of_mem_name hc
  unfold CodePoint.InSmallName at hsmall
  unfold CodePoint.IsPlain
  lia

theorem Preset.isPlain_name (p : Preset) : p.name.IsPlain := by
  cases p <;> decide

/-!
# Descriptions of dialects
-/

namespace Dialect

theorem pairwise_bit_flags (d : Dialect) : d.flags.Pairwise fun f g => f.bit < g.bit := by
  have hall : Flag.all.Pairwise fun f g => f.bit < g.bit := by
    decide
  exact hall.filter d.has

/-- The text has the names of the dialect's flags in the order of their bits, or says that it has
none. -/
def NamesFlags (d : Dialect) (t : Text) : Prop :=
  ∃ flags : List Flag, flags.Pairwise (fun f g => f.bit < g.bit) ∧
    (∀ f, f ∈ flags ↔ d.has f = true) ∧
    (flags = [] ∧ t = Text.ofString "<none>" ∨
      flags ≠ [] ∧ t = Text.join (Text.ofString " ") (flags.map Flag.name))

/-- The description of a dialect of a spec: behind the name it is plain, and its number has four
digits. -/
theorem describe_eq {mask : Nat} (hmask : mask < 2 ^ 16) (name : Text) :
    ∃ names, describe name ⟨mask⟩ =
        name ++ (Text.ofString ": 0x" ++ Numeral.fixed 16 4 mask ++ Text.ofString " " ++ names) ∧
      NamesFlags ⟨mask⟩ names ∧
      (Text.ofString ": 0x" ++ Numeral.fixed 16 4 mask ++ Text.ofString " " ++ names).IsPlain := by
  have hfits : mask < 16 ^ 4 := hmask
  have hnumber : Numeral.hexadecimal 6 mask =
      Text.ofString "0x" ++ Numeral.fixed 16 4 mask := by
    rw [Numeral.hexadecimal, if_neg (by lia), Int.natAbs_natCast]
    change [] ++ Text.ofString "0x" ++ Numeral.padded 16 4 mask = _
    rw [Numeral.padded_eq_fixed (by decide) (by decide) hfits, List.nil_append]
  have hfields : ∀ names : Text, names.IsPlain →
      (Text.ofString ": 0x" ++ Numeral.fixed 16 4 mask ++ Text.ofString " " ++ names).IsPlain := by
    intro names hnames
    have hdigits := Numeral.isPlain_fixed (by decide) (by decide : 16 ≤ 16) 4 mask
    exact List.forall_mem_append.mpr ⟨List.forall_mem_append.mpr
      ⟨List.forall_mem_append.mpr ⟨by decide, hdigits⟩, by decide⟩, hnames⟩
  have hflags := mem_flags_iff ⟨mask⟩
  have hpairwise := pairwise_bit_flags ⟨mask⟩
  rw [describe, hnumber]
  cases hlisted : flags ⟨mask⟩ with
  | nil =>
      rw [hlisted] at hflags hpairwise
      refine ⟨Text.ofString "<none>", ?_, ⟨[], hpairwise, hflags, Or.inl ⟨rfl, rfl⟩⟩,
        hfields _ (by decide)⟩
      simp only [List.append_assoc]
      rfl
  | cons f rest =>
      rw [hlisted] at hflags hpairwise
      have hnames : (Text.join (Text.ofString " ") ((f :: rest).map Flag.name)).IsPlain := by
        apply Text.isPlain_join (by decide)
        intro name hname
        rcases List.mem_map.mp hname with ⟨g, -, rfl⟩
        exact g.isPlain_name
      refine ⟨_, ?_, ⟨f :: rest, hpairwise, hflags, Or.inr ⟨List.cons_ne_nil f rest, rfl⟩⟩,
        hfields _ hnames⟩
      simp only [List.append_assoc]
      rfl

/-- The report of a dialect under a name: the dialect's number in base sixteen and its flags stand
on the last line, and there are as many lines before it as the name has line feeds. -/
structure IsReport (d : Dialect) (name report : Text) : Prop where
  fields : ∃ digits names,
    report = name ++ Text.ofString ": 0x" ++ digits ++ Text.ofString " " ++ names ++ [.lineFeed] ∧
      digits.length = 4 ∧ (∀ c ∈ digits, Numeral.isHexDigit c = true) ∧
      (Numeral.value 16 digits : Int) = d.mask ∧ d.NamesFlags names
  length_lines : (Text.lines report).length = name.count .lineFeed + 1

/-- What a dialect of a spec is called in its report: the first preset that it equals, or else the
spec as it is given. -/
def reportName (d : Dialect) (spec : Text) : Text :=
  (d.preset?.map Preset.name).getD spec

theorem mem_reportName {d : Dialect} {spec : Text} {c : CodePoint} (hc : c ∈ d.reportName spec) :
    c.IsPlain ∨ c ∈ spec := by
  unfold reportName at hc
  cases hpreset : d.preset? with
  | none =>
      rw [hpreset] at hc
      exact Or.inr hc
  | some p =>
      rw [hpreset] at hc
      exact Or.inl (p.isPlain_name c hc)

theorem isReport_describe {spec : Text} {d : Dialect} (hspec : ofSpec spec = .ok d) (name : Text) :
    d.IsReport name (d.describe name ++ [.lineFeed]) := by
  rcases ofSpec_eq_ok_iff.mp hspec with ⟨mask, hunite, rfl⟩
  have hmask : mask < 16 ^ 4 := (Spec.known_of_unite hunite).1
  rcases describe_eq hmask name with ⟨names, hdescribe, hnames, hplain⟩
  constructor
  · refine ⟨Numeral.fixed 16 4 mask, names, ?_, Numeral.length_fixed 16 4 mask,
      fun _ => Numeral.isHexDigit_of_mem_fixed, ?_, hnames⟩
    · rw [hdescribe]
      simp only [List.append_assoc]
    · rw [Numeral.value_fixed (by decide) (by decide), Nat.mod_eq_of_lt hmask]
  · rw [Text.length_lines_concat, hdescribe, List.count_append,
      List.count_eq_zero_of_not_mem hplain.isPrintable.lineFeed_notMem, Nat.add_zero]

/-- The report on a spec can be written in UTF-8, since no accepted spec has a surrogate. -/
theorem holds_report {spec : Text} {d : Dialect} (hspec : ofSpec spec = .ok d) :
    ∀ c ∈ d.describe (d.reportName spec) ++ [.lineFeed], Encoding.utf8.holds c = true := by
  rcases ofSpec_eq_ok_iff.mp hspec with ⟨mask, hunite, rfl⟩
  rcases describe_eq (Spec.known_of_unite hunite).1 (reportName ⟨mask⟩ spec) with
    ⟨names, hdescribe, -, hplain⟩
  have hname : ∀ c ∈ reportName ⟨mask⟩ spec, Encoding.utf8.holds c = true := by
    intro c hc
    rcases mem_reportName hc with hletter | hmem
    · exact Encoding.holds_of_lt (Nat.lt_trans hletter.2 (by decide)) .utf8
    · rw [Encoding.holds, isSurrogate_eq_false_of_ofSpec hspec hmem]
      rfl
  rw [hdescribe]
  exact List.forall_mem_append.mpr ⟨List.forall_mem_append.mpr ⟨hname, hplain.holds .utf8⟩,
    List.forall_mem_singleton.mpr rfl⟩

end Dialect

/-!
# The flags command
-/

namespace Session

variable {session : Session} {words : List Text} {settings : Settings} {spec : Text}

theorem Asks.error_level_le {task : Task} (hwords : session.Asks words settings task) :
    Severity.error.level ≤ settings.log.level := by
  rcases hwords with ⟨invocation, preferences, -, -, hsettings, -⟩
  rw [Preferences.settings] at hsettings
  cases hspec : Dialect.ofSpec (preferences.dialectSpec session.environment) with
  | error unknown =>
      rw [hspec] at hsettings
      cases hsettings
  | ok d =>
      rw [hspec] at hsettings
      cases hsettings
      exact Invocation.error_level_le_logLevel preferences

theorem exactAnswer_of_holds {output : Text}
    (hheld : ∀ c ∈ output, session.encoding.holds c = true) :
    session.exactAnswer output = .ok ⟨0, output, []⟩ := by
  rw [exactAnswer, Unheld.find?_eq_none hheld, answer, Encoding.escapeUnheld_eq_self hheld]
  rfl

theorem run_flags_of_ok {d : Dialect} (hwords : session.Asks words settings (.flags (some spec)))
    (hencoding : session.encoding = .utf8) (hspec : Dialect.ofSpec spec = .ok d) :
    session.run words = .ok ⟨0, d.describe (d.reportName spec) ++ [.lineFeed], []⟩ := by
  have hheld := Dialect.holds_report hspec
  rw [← hencoding] at hheld
  rw [run_of_asks hwords, perform, flags, hspec]
  exact exactAnswer_of_holds hheld

theorem run_flags_of_error {u : UnknownName}
    (hwords : session.Asks words settings (.flags (some spec)))
    (hspec : Dialect.ofSpec spec = .error u) :
    session.run words = .ok ⟨2, [], session.encoding.escapeUnheld
      ((session.log settings).heading Severity.error.level ++ errorMessage u.message) ++
        [.lineFeed]⟩ := by
  have hadmits : (session.log settings).admits Severity.error.level = true :=
    decide_eq_true hwords.error_level_le
  rw [run_of_asks hwords, perform, flags, hspec, ← Encoding.escapeUnheld_concat,
    ← Logger.write_of_admits hadmits]
  rfl

theorem count_lineFeed_errorMessage (u : UnknownName) :
    (errorMessage u.message).count .lineFeed = u.item.count .lineFeed := by
  have hopening : (Text.ofString "error: ").count .lineFeed = 0 := by
    decide
  have hbefore :
      (Text.ofString "unknown escape flag or dialect preset '").count .lineFeed = 0 := by
    decide
  have hafter : (Text.ofString "'").count .lineFeed = 0 := by
    decide
  rw [errorMessage, UnknownName.message, List.count_append, List.count_append, List.count_append,
    hopening, hbefore, hafter, Nat.zero_add, Nat.zero_add, Nat.add_zero]

theorem reports_of_ok {d : Dialect} (hwords : session.Asks words settings (.flags (some spec)))
    (hencoding : session.encoding = .utf8) (hspec : Dialect.ofSpec spec = .ok d) :
    ∃ answer, session.run words = .ok answer ∧ answer.exit = 0 ∧ answer.errors = [] ∧
      d.IsReport (d.reportName spec) answer.output :=
  ⟨_, run_flags_of_ok hwords hencoding hspec, rfl, rfl, Dialect.isReport_describe hspec _⟩

theorem complains_of_error {u : UnknownName}
    (hwords : session.Asks words settings (.flags (some spec))) (htime : .lineFeed ∉ session.time)
    (hspec : Dialect.ofSpec spec = .error u) :
    ∃ answer, session.run words = .ok answer ∧ answer.exit = 2 ∧ answer.output = [] ∧
      session.encoding.escapeUnheld u.message ++ [.lineFeed] <:+ answer.errors ∧
      (Text.lines answer.errors).length = u.item.count .lineFeed + 1 := by
  refine ⟨_, run_flags_of_error hwords hspec, rfl, rfl, ?_, ?_⟩
  · rw [errorMessage, ← List.append_assoc, Encoding.escapeUnheld_append, List.append_assoc]
    exact List.suffix_append _ _
  · have hheading : ((session.log settings).heading Severity.error.level).count .lineFeed = 0 :=
      List.count_eq_zero_of_not_mem (Logger.lineFeed_notMem_heading htime)
    rw [Text.length_lines_concat, Encoding.count_lineFeed_escapeUnheld, List.count_append,
      hheading, count_lineFeed_errorMessage, Nat.zero_add]

/-- A spec without line feeds is answered in one line, on one output or the other. -/
theorem answers_in_one_line (hwords : session.Asks words settings (.flags (some spec)))
    (hencoding : session.encoding = .utf8) (htime : .lineFeed ∉ session.time)
    (hline : .lineFeed ∉ spec) :
    ∃ answer, session.run words = .ok answer ∧
      (Text.lines answer.output).length + (Text.lines answer.errors).length = 1 := by
  cases hspec : Dialect.ofSpec spec with
  | ok d =>
      rcases reports_of_ok hwords hencoding hspec with ⟨answer, hrun, -, herrors, hreport⟩
      have hname : .lineFeed ∉ d.reportName spec := by
        intro hmem
        rcases Dialect.mem_reportName hmem with hplain | hinside
        · exact absurd hplain (by decide)
        · exact hline hinside
      refine ⟨answer, hrun, ?_⟩
      rw [hreport.length_lines, List.count_eq_zero_of_not_mem hname, herrors]
      rfl
  | error u =>
      rcases complains_of_error hwords htime hspec with ⟨answer, hrun, -, houtput, -, hlines⟩
      have hmem := (Dialect.Spec.unknown_of_unite (Dialect.ofSpec_eq_error_iff.mp hspec)).1
      have hitem : .lineFeed ∉ u.item :=
        fun hinside => hline (Dialect.Spec.mem_spec_of_mem_item hmem hinside)
      refine ⟨answer, hrun, ?_⟩
      rw [hlines, List.count_eq_zero_of_not_mem hitem, houtput]
      rfl

/-- Every text can be asked about, if the variable's spec stands for a dialect. -/
theorem asks_flags (session : Session) {d : Dialect}
    (hvariable : Dialect.ofSpec session.environment.dialectSpec = .ok d) (spec : Text) :
    session.Asks [Text.ofString "flags", Arguments.terminator, spec]
      ⟨d, session.environment.asciiOnly, ⟨Severity.error.level, false⟩⟩ (.flags (some spec)) := by
  have hwords : Invocation.ofArguments [Text.ofString "flags", Arguments.terminator, spec] =
      .ok ⟨0, false, none, .flags (some spec)⟩ := by
    cbv
  refine ⟨_, ⟨0, false, none⟩, hwords, rfl, ?_, rfl⟩
  rw [Preferences.settings, Preferences.dialectSpec, Option.getD_none, hvariable]
  rfl

end Session

/-- A spec that is accepted is reported on with success and without complaint.  One that is not is
complained of by the message about its first unknown item, at the end of the errors, and nothing
else is written.  Either way there is one line and one more for each line feed in the name of the
dialect or in the item; so there is one line if the spec has none. -/
theorem flags_command_reports (session : Session) (words : List Text) (settings : Settings)
    (spec : Text) (hwords : session.Asks words settings (.flags (some spec)))
    (hencoding : session.encoding = .utf8) (htime : .lineFeed ∉ session.time) :
    (∀ d, Dialect.ofSpec spec = .ok d →
      ∃ answer, session.run words = .ok answer ∧ answer.exit = 0 ∧ answer.errors = [] ∧
        d.IsReport (d.reportName spec) answer.output) ∧
    (∀ u, Dialect.ofSpec spec = .error u →
      ∃ answer, session.run words = .ok answer ∧ answer.exit = 2 ∧ answer.output = [] ∧
        session.encoding.escapeUnheld u.message ++ [.lineFeed] <:+ answer.errors ∧
        (Text.lines answer.errors).length = u.item.count .lineFeed + 1) ∧
    (.lineFeed ∉ spec →
      ∃ answer, session.run words = .ok answer ∧
        (Text.lines answer.output).length + (Text.lines answer.errors).length = 1) := by
  refine ⟨?_, ?_, ?_⟩
  · intro d hspec
    exact Session.reports_of_ok hwords hencoding hspec
  · intro u hspec
    exact Session.complains_of_error hwords htime hspec
  · exact Session.answers_in_one_line hwords hencoding htime

/-- An accepted spec and an unknown item with a line break each, and a spec on one line.  The level
of the log and the dialect are the usual ones. -/
theorem flags_command_reports_lineFeed :
    (∃ answer,
      Session.run ⟨⟨none, none⟩, [], .utf8, []⟩
          (["flags", "--", "newline,\ntab"].map Text.ofString) = .ok answer ∧
        answer.exit = 0 ∧ (Text.lines answer.output).length = 2) ∧
    (∃ answer,
      Session.run ⟨⟨none, none⟩, [], .utf8, []⟩ (["flags", "--", "c,a\nb"].map Text.ofString) =
          .ok answer ∧
        answer.exit = 2 ∧ answer.output = [] ∧ (Text.lines answer.errors).length = 2) ∧
    ∃ answer,
      Session.run ⟨⟨none, none⟩, [], .utf8, []⟩ (["flags", "--", "-"].map Text.ofString) =
          .ok answer ∧
        (Text.lines answer.output).length + (Text.lines answer.errors).length = 1 := by
  have hasks := Session.asks_flags ⟨⟨none, none⟩, [], .utf8, []⟩ (Dialect.ofSpec_preset .c)
  have haccepted : Dialect.ofSpec (Text.ofString "newline,\ntab") = .ok ⟨0x28⟩ := by
    decide
  have hrefused : Dialect.ofSpec (Text.ofString "c,a\nb") = .error ⟨Text.ofString "a\nb"⟩ := by
    decide
  have hline : .lineFeed ∉ Text.ofString "-" := by
    decide
  rcases (flags_command_reports _ _ _ _ (hasks _) rfl List.not_mem_nil).1 _ haccepted with
    ⟨answer, hrun, hexit, -, hreport⟩
  rcases (flags_command_reports _ _ _ _ (hasks _) rfl List.not_mem_nil).2.1 _ hrefused with
    ⟨answer', hrun', hexit', houtput', -, hlines'⟩
  refine ⟨⟨answer, hrun, hexit, ?_⟩, ⟨answer', hrun', hexit', houtput', ?_⟩, ?_⟩
  · rw [hreport.length_lines]
    decide
  · rw [hlines']
    decide
  · exact (flags_command_reports _ _ _ _ (hasks _) rfl List.not_mem_nil).2.2 hline

/-- The name is the spec as it is given, on two lines. -/
example :
    Session.run ⟨⟨none, none⟩, [], .utf8, []⟩
        (["flags", "newline,\ntab"].map Text.ofString) =
      .ok ⟨0, Text.ofString "newline,\ntab: 0x0028 newline tab\n", []⟩ := by
  cbv

end QuotedLiteral
