import QuotedLiteral.Command.Invocation
import QuotedLiteral.Proofs.Lines
import QuotedLiteral.Proofs.Reply

/-!
# Verbosity

A word in front of all others that only raises the verbosity or asks for the rich
form of the log changes nothing else in what the words ask for.  A logger with a
higher level tells the same messages and others between them.
-/

namespace QuotedLiteral

/-!
# Words about the log
-/

namespace Invocation

open Arguments

def verboseWord : Text := Text.ofString "-v"

def logWord : Text := Text.ofString "-l"

/-- The same invocation, with a higher verbosity or a rich log. -/
def louder (verbosity : Int) (rich : Bool) (i : Invocation) : Invocation :=
  { i with verbosity := i.verbosity + verbosity, rich := i.rich || rich }

def Progress.louder (verbosity : Int) (rich : Bool) (p : Progress) : Progress :=
  { p with verbosity := p.verbosity + verbosity, rich := p.rich || rich }

theorem heed_louder (verbosity : Int) (rich : Bool) (p : Progress) (given : Given Key) :
    (p.louder verbosity rich).heed given = (p.heed given).map (Progress.louder verbosity rich) := by
  cases given with
  | switch key title value =>
      cases key with
      | verbose =>
          simp [Progress.heed, Progress.louder, Except.map, Int.add_right_comm]
      | _ =>
          simp [Progress.heed, Progress.louder, Except.map]
  | operands words =>
      rw [Progress.heed, Progress.heed]
      cases commandRequest words <;> rfl

/-- What is heeded after a word about the log is heeded as without it. -/
theorem foldlM_heed_louder (verbosity : Int) (rich : Bool) (p : Progress)
    (given : List (Given Key)) :
    given.foldlM Progress.heed (p.louder verbosity rich) =
      (given.foldlM Progress.heed p).map (Progress.louder verbosity rich) := by
  induction given generalizing p with
  | nil =>
      rfl
  | cons g given ih =>
      rw [List.foldlM_cons, List.foldlM_cons, heed_louder]
      cases hheed : p.heed g with
      | error refusal =>
          rfl
      | ok next =>
          exact ih next

/-- A word that is a switch without a value is scanned before all that stands behind it. -/
theorem scan_cons {κ : Type} {g : Grammar κ} {word : Text} {s : Switch κ}
    (hword : Token.ofWord g word = .ok (.switch s .nothing)) (hterminator : word ≠ terminator)
    (hbare : s.takesValue = false) (words : List Text) :
    Scan.ofWords g (word :: words) =
      match Token.ofWords g words with
      | .error problem => Scan.stop problem
      | .ok _ => (Scan.ofWords g words).withGiven [.switch s.key s.title none] [] := by
  rw [Scan.ofWords, Scan.ofWords, Token.ofWords, if_neg hterminator, hword]
  cases Token.ofWords g words with
  | error problem =>
      rfl
  | ok tokens =>
      change Scan.ofTokens g false ((word, .switch s .nothing) :: tokens) = _
      rw [Scan.ofTokens, Cluster.ofAttachment, Cluster.bare, hbare]
      rfl

/-- If heeding a switch only makes the log louder, so does its word in front of all others. -/
theorem ofArguments_cons_of_heed {word : Text} {s : Switch Key} {verbosity : Int} {rich : Bool}
    (hword : Token.ofWord (grammar .program) word = .ok (.switch s .nothing))
    (hterminator : word ≠ terminator) (hbare : s.takesValue = false)
    (hheed : Progress.heed {} (.switch s.key s.title none) =
      .ok (Progress.louder verbosity rich {})) (words : List Text) :
    ofArguments (word :: words) = (ofArguments words).map (louder verbosity rich) := by
  rw [ofArguments, ofArguments, scan_cons hword hterminator hbare]
  cases htokens : Token.ofWords (grammar .program) words with
  | error problem =>
      rw [Scan.ofWords, htokens]
      rfl
  | ok tokens =>
      have hfold : ∀ given : List (Given Key),
          (Given.switch s.key s.title none :: given).foldlM Progress.heed {} =
            (given.foldlM Progress.heed {}).map (Progress.louder verbosity rich) := by
        intro given
        rw [List.foldlM_cons, hheed]
        exact foldlM_heed_louder verbosity rich {} given
      simp only [Scan.withGiven, List.singleton_append, List.nil_append, hfold]
      cases (Scan.ofWords (grammar .program) words).given.foldlM Progress.heed {} with
      | error refusal =>
          rfl
      | ok progress =>
          rcases progress with ⟨level, richly, dialect, request⟩
          cases (Scan.ofWords (grammar .program) words).problem with
          | some problem =>
              rfl
          | none =>
              cases request with
              | none =>
                  rfl
              | some request =>
                  simp only [Except.map, Progress.louder]
                  cases (Scan.ofWords (grammar .program) words).extra ++ request.extra <;> rfl

theorem ofArguments_verbose (words : List Text) :
    ofArguments (verboseWord :: words) = (ofArguments words).map (louder 1 false) :=
  ofArguments_cons_of_heed (s := switch .verbose ["-v", "--verbose"] false) rfl (by decide) rfl rfl
    words

theorem ofArguments_log (words : List Text) :
    ofArguments (logWord :: words) = (ofArguments words).map (louder 0 true) :=
  ofArguments_cons_of_heed (s := switch .log ["-l", "--log"] false) rfl (by decide) rfl rfl words

theorem map_louder_map_louder (verbosity verbosity' : Int) (rich rich' : Bool)
    (outcome : Except Refusal Invocation) :
    (outcome.map (louder verbosity rich)).map (louder verbosity' rich') =
      outcome.map (louder (verbosity + verbosity') (rich || rich')) := by
  cases outcome with
  | error refusal =>
      rfl
  | ok i =>
      simp [Except.map, louder, Int.add_assoc, Bool.or_assoc]

theorem ofArguments_append {flags : List Text}
    (hflags : ∀ word ∈ flags, word = verboseWord ∨ word = logWord) (words : List Text) :
    ofArguments (flags ++ words) =
      (ofArguments words).map (louder (flags.count verboseWord) (flags.contains logWord)) := by
  induction flags with
  | nil =>
      rw [List.nil_append]
      cases ofArguments words with
      | error refusal =>
          rfl
      | ok i =>
          simp [Except.map, louder]
  | cons flag flags ih =>
      have hlater := ih fun word hword => hflags word (List.mem_cons_of_mem flag hword)
      rcases hflags flag List.mem_cons_self with rfl | rfl
      · have hcontains : (verboseWord :: flags).contains logWord = flags.contains logWord :=
          Bool.false_or _
        rw [List.cons_append, ofArguments_verbose, hlater, map_louder_map_louder,
          List.count_cons_self, Int.natCast_add, hcontains, Bool.or_false]
        rfl
      · have hcount : (logWord :: flags).count verboseWord = flags.count verboseWord :=
          List.count_cons_of_ne (by decide)
        have hcontains : (logWord :: flags).contains logWord = true := by
          rw [List.contains_cons, beq_self_eq_true, Bool.true_or]
        rw [List.cons_append, ofArguments_log, hlater, map_louder_map_louder, hcount, hcontains,
          Bool.or_true, Int.add_zero]

end Invocation

/-!
# Messages told
-/

theorem sublist_flatMap {α β : Type} {f g : α → List β} (h : ∀ a, (f a).Sublist (g a))
    (xs : List α) : (xs.flatMap f).Sublist (xs.flatMap g) := by
  induction xs with
  | nil =>
      exact List.Sublist.slnil
  | cons a xs ih =>
      rw [List.flatMap_cons, List.flatMap_cons]
      exact (h a).append ih

theorem Logger.isTerminated_write (l : Logger) (level : Int) (message : Text) :
    (l.write level message).IsTerminated := by
  unfold write
  split
  · exact Text.isTerminated_concat _
  · exact Text.isTerminated_nil

theorem Logger.isTerminated_tell (l : Logger) (notes : List (Severity × Text)) :
    (l.tell notes).IsTerminated := by
  apply Text.isTerminated_flatMap
  intro note
  exact l.isTerminated_write note.1.level note.2

theorem Encoding.isTerminated_escapeUnheld (encoding : Encoding) {t : Text}
    (h : t.IsTerminated) : (encoding.escapeUnheld t).IsTerminated := by
  rcases h with rfl | hlast
  · exact Text.isTerminated_nil
  · rcases List.getLast?_eq_some_iff.mp hlast with ⟨front, rfl⟩
    rw [escapeUnheld_concat]
    exact Text.isTerminated_concat _

namespace Logger

variable {l l' : Logger}

/-- Without headings, a logger with a higher level writes all lines that one with a lower level
writes. -/
theorem sublist_lines_tell (hplain : l.settingInForce.rich = false)
    (hplain' : l'.settingInForce.rich = false)
    (hlevel : l.settingInForce.level ≤ l'.settingInForce.level) (encoding : Encoding)
    (notes : List (Severity × Text)) :
    (Text.lines (encoding.escapeUnheld (l.tell notes))).Sublist
      (Text.lines (encoding.escapeUnheld (l'.tell notes))) := by
  have hlines : ∀ logger : Logger,
      Text.lines (encoding.escapeUnheld (logger.tell notes)) =
        notes.flatMap fun note =>
          Text.lines (encoding.escapeUnheld (logger.write note.1.level note.2)) := by
    intro logger
    rw [tell, Encoding.escapeUnheld, List.flatMap_assoc]
    exact Text.lines_flatMap
      (fun note => encoding.isTerminated_escapeUnheld (logger.isTerminated_write _ _)) notes
  rw [hlines l, hlines l']
  apply sublist_flatMap
  intro note
  by_cases hadmits : l.admits note.1.level = true
  · have hadmits' : l'.admits note.1.level = true := by
      rw [admits, decide_eq_true_eq] at hadmits ⊢
      exact Int.le_trans hadmits hlevel
    have hsame : l.write note.1.level note.2 = l'.write note.1.level note.2 := by
      rw [write, write, if_pos hadmits, if_pos hadmits', heading, heading, hplain, hplain']
      rfl
    rw [hsame]
  · rw [write, if_neg hadmits]
    exact List.nil_sublist _

end Logger
end QuotedLiteral
