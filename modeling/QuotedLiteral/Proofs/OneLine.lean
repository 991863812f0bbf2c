import QuotedLiteral.Proofs.Lines
import QuotedLiteral.Proofs.Reply

/-!
# Diagnostics on one line

Every diagnostic of the codec is printable, whatever stands in the source or in the
text to be written.  So a log that tells errors gains one line by it.
-/

namespace QuotedLiteral

/-!
# One line of the log
-/

theorem Severity.lineFeed_notMem_label (s : Severity) : .lineFeed ∉ Text.ofString s.label := by
  cases s <;> decide

namespace Logger

variable {l : Logger} {level : Int}

theorem lineFeed_notMem_heading (htime : .lineFeed ∉ l.time) : .lineFeed ∉ l.heading level := by
  unfold heading
  split
  · split
    · next s found =>
        simp only [List.mem_append, not_or]
        exact ⟨⟨⟨htime, by decide⟩, s.lineFeed_notMem_label⟩, by decide⟩
    · exact List.not_mem_nil
  · exact List.not_mem_nil

theorem write_of_admits (hadmits : l.admits level = true) (message : Text) :
    l.write level message = l.heading level ++ message ++ [.lineFeed] := by
  rw [write, if_pos hadmits]

end Logger

/-- The diagnostic is printable, and a log that tells errors gains one line by it, with the
diagnostic at its end.  The time has to be on one line, since it may stand in front. -/
structure Diagnostic.IsOneLine (e : Diagnostic) : Prop where
  isPrintable : e.format.IsPrintable
  lines_write (l : Logger) (encoding : Encoding)
    (hlevel : Severity.error.level ≤ l.settingInForce.level) (htime : .lineFeed ∉ l.time) :
    ∃ line, Text.lines (encoding.escapeUnheld (l.write Severity.error.level e.format)) =
        [line ++ [.lineFeed]] ∧
      encoding.escapeUnheld e.format <:+ line

theorem Diagnostic.isOneLine_of_isPrintable {e : Diagnostic} (hprintable : e.format.IsPrintable) :
    e.IsOneLine := by
  constructor
  · exact hprintable
  · intro l encoding hlevel htime
    have hadmits : l.admits Severity.error.level = true := decide_eq_true hlevel
    rw [Logger.write_of_admits hadmits, Encoding.escapeUnheld_concat]
    refine ⟨_, Text.lines_concat_of_notMem ?_, ?_⟩
    · apply Encoding.lineFeed_notMem_escapeUnheld
      rw [List.mem_append, not_or]
      exact ⟨Logger.lineFeed_notMem_heading htime, hprintable.lineFeed_notMem⟩
    · rw [Encoding.escapeUnheld_append]
      exact List.suffix_append _ _

theorem Fault.isOneLine_diagnostic (fault : Fault) (source : Text) :
    (fault.diagnostic source).IsOneLine :=
  Diagnostic.isOneLine_of_isPrintable (Diagnostic.isPrintable_format fault.isPrintable_message
    fault.stage.isPlain_label.isPrintable)

/-- A literal that cannot be read, or a text that cannot be written, is complained of in a
diagnostic, and the diagnostic is one printable line. -/
theorem diagnostics_isOneLine (d : Dialect) (source : Text) (index : Int) (asciiOnly : Bool)
    (raw : Text) :
    (∀ fault, parse d source index = .error fault →
      ∃ e, fault.complaint source = .malformed e ∧ e.IsOneLine) ∧
    ∀ fault, format asciiOnly d raw = .error fault →
      ∃ e, fault.complaint raw = .malformed e ∧ e.IsOneLine := by
  constructor
  · intro fault hparse
    rcases (read_staysIn d source index).fault_code fault hparse with ⟨code, hcode⟩
    exact ⟨_, fault.complaint_eq_malformed hcode source, fault.isOneLine_diagnostic source⟩
  · intro fault hformat
    rcases breaks_of_format hformat with ⟨place, c, hbreaks, rfl⟩
    exact ⟨_, Fault.complaint_eq_malformed rfl raw, Fault.isOneLine_diagnostic _ raw⟩

/-- A line separator behind the backslash of an escape, and a control that is not ASCII.  The log is
the lowest that tells errors, with the time in front of them. -/
theorem diagnostics_isOneLine_separator :
    (∃ e, Fault.complaint [.doubleQuote, .backslash, .ofNat 0x2028]
        ⟨.unsupportedEscape (.ofNat 0x2028), 2, .escape⟩ = .malformed e ∧
      e.format.IsPrintable ∧
      ∃ line, Text.lines (Encoding.utf8.escapeUnheld
          (Logger.write ⟨some ⟨3, true⟩, Text.ofString "2001-02-03 04:05:06"⟩
            Severity.error.level e.format)) = [line ++ [.lineFeed]]) ∧
    ∃ e, Fault.complaint [.lineFeed, .ofNat 0x85] ⟨.notAscii (.ofNat 0x85), 1, .writing⟩ =
        .malformed e ∧ e.IsOneLine := by
  have hrefused : ¬Dialect.Enables ⟨0⟩ (.ofNat 0x2028) := by
    intro h
    rcases h with ⟨f, announced, hselection, -⟩
    cases hselection
  have hparse : parse ⟨0⟩ [.doubleQuote, .backslash, .ofNat 0x2028] 0 =
      .error ⟨.unsupportedEscape (.ofNat 0x2028), 2, .escape⟩ :=
    @parse_stuck ⟨0⟩ [] [] _ _ _ _ trivial (Dialect.admits_nil _) (Stuck.refused [] hrefused)
  have hformat : format true ⟨0⟩ [.lineFeed, .ofNat 0x85] =
      .error ⟨.notAscii (.ofNat 0x85), 1, .writing⟩ :=
    rfl
  rcases diagnostics_isOneLine ⟨0⟩ [.doubleQuote, .backslash, .ofNat 0x2028] 0 true
    [.lineFeed, .ofNat 0x85] with ⟨hreading, hwriting⟩
  rcases hreading _ hparse with ⟨e, hcomplaint, hline⟩
  rcases hline.lines_write ⟨some ⟨3, true⟩, Text.ofString "2001-02-03 04:05:06"⟩ .utf8
    (Int.le_refl 3) (by decide) with ⟨line, hlines, -⟩
  exact ⟨⟨e, hcomplaint, hline.isPrintable, line, hlines⟩, hwriting _ hformat⟩

end QuotedLiteral
