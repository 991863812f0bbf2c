import Mathlib
import QuotedLiteral.Notice.Report
import QuotedLiteral.Proofs.Lines
import QuotedLiteral.Proofs.Matching
import QuotedLiteral.Proofs.SourcePath

/-!
# What a report says

A report is about the source files outside the skipped directories, and lists
those of them whose first lines hold no notice.
-/

namespace QuotedLiteral

/-!
# Files of a tree
-/

namespace Tree

/-- The tree has a file with this content under the path. -/
def FileAt (tree : List TreeEntry) (p : TreePath) (content : Text) : Prop :=
  ∃ e ∈ tree, e.path = p ∧ e.content? = some content

/-- The paths of the files that a property holds of. -/
def filesWith (tree : List TreeEntry) (P : TreePath → Text → Prop) : Set TreePath :=
  {p | ∃ content, FileAt tree p content ∧ P p content}

theorem ofEntries_cons (e : TreeEntry) (rest : List TreeEntry) :
    ofEntries (e :: rest) = ofEntries rest ∨
      ofEntries (e :: rest) = e :: ofEntries rest ∧
        e.path ∉ (ofEntries rest).map TreeEntry.path := by
  rw [ofEntries]
  split
  · exact Or.inl rfl
  · next hnew =>
      refine Or.inr ⟨rfl, ?_⟩
      intro hmem
      rcases List.mem_map.mp hmem with ⟨other, hother, hpath⟩
      exact hnew (List.any_eq_true.mpr ⟨other, hother, decide_eq_true hpath⟩)

theorem mem_of_mem_ofEntries {entries : List TreeEntry} {e : TreeEntry}
    (h : e ∈ ofEntries entries) : e ∈ entries := by
  induction entries with
  | nil =>
      cases h
  | cons first rest ih =>
      rcases ofEntries_cons first rest with heq | ⟨heq, -⟩
      · rw [heq] at h
        exact List.mem_cons_of_mem first (ih h)
      · rw [heq] at h
        rcases List.mem_cons.mp h with rfl | hlater
        · exact List.mem_cons_self
        · exact List.mem_cons_of_mem first (ih hlater)

theorem nodup_paths_ofEntries (entries : List TreeEntry) :
    ((ofEntries entries).map TreeEntry.path).Nodup := by
  induction entries with
  | nil =>
      exact List.nodup_nil
  | cons e rest ih =>
      rcases ofEntries_cons e rest with heq | ⟨heq, hnew⟩
      · rw [heq]
        exact ih
      · rw [heq, List.map_cons]
        exact List.nodup_cons.mpr ⟨hnew, ih⟩

end Tree

namespace Notice

open TreePath (SkippedName)

/-!
# Files that a report is about
-/

/-- A source file, by its suffix or, if it has none, by its first line, in no skipped directory. -/
def Concerns (p : TreePath) (content : Text) : Prop :=
  (∀ name ∈ p.directories, ¬SkippedName name) ∧
    (p.HasExtension (Text.ofString "py") ∨ p.HasExtension (Text.ofString "sh") ∨
      (∀ extension, ¬p.HasExtension extension) ∧
        shellPattern.OccursIn (content.lines.take 1).flatten)

/-- A source file with no notice in its first eighty lines. -/
def Misses (p : TreePath) (content : Text) : Prop :=
  Concerns p content ∧ ¬pattern.OccursIn (content.lines.take 80).flatten

theorem isSource_iff {e : TreeEntry} {content : Text} (hcontent : e.content? = some content) :
    e.isSource = true ↔
      e.path.HasExtension (Text.ofString "py") ∨ e.path.HasExtension (Text.ofString "sh") ∨
        (∀ extension, ¬e.path.HasExtension extension) ∧
          shellPattern.OccursIn (content.lines.take 1).flatten := by
  have hpy : e.path.suffix = Text.ofString ".py" ↔ e.path.HasExtension (Text.ofString "py") :=
    TreePath.suffix_eq_iff
  have hsh : e.path.suffix = Text.ofString ".sh" ↔ e.path.HasExtension (Text.ofString "sh") :=
    TreePath.suffix_eq_iff
  have hshell : isShellScript content = true ↔
      shellPattern.OccursIn (content.lines.take 1).flatten :=
    Pattern.found_iff
  rw [TreeEntry.isSource, hcontent]
  simp only [Bool.or_eq_true, Bool.and_eq_true, decide_eq_true_eq, hpy, hsh, hshell, or_assoc,
    TreePath.suffix_eq_nil_iff]

theorem isChecked_iff {e : TreeEntry} :
    e.isChecked = true ↔ ∃ content, e.content? = some content ∧ Concerns e.path content := by
  rw [TreeEntry.isChecked, Bool.and_eq_true, Bool.not_eq_true', TreePath.isSkipped_eq_false_iff]
  cases hcontent : e.content? with
  | none =>
      simp [TreeEntry.isSource, hcontent]
  | some content =>
      rw [isSource_iff hcontent]
      simp [Concerns]

theorem lacksNotice_iff {e : TreeEntry} :
    e.lacksNotice = true ↔
      ∃ content, e.content? = some content ∧
        ¬pattern.OccursIn (content.lines.take 80).flatten := by
  rw [TreeEntry.lacksNotice]
  cases hcontent : e.content? with
  | none =>
      simp
  | some content =>
      have hpresent : isPresent content = true ↔
          pattern.OccursIn (content.lines.take 80).flatten :=
        Pattern.found_iff
      simp [← hpresent]

/-!
# Paths that a report is about
-/

def checkedPaths (tree : List TreeEntry) : List TreePath :=
  (tree.filter TreeEntry.isChecked).map TreeEntry.path

def missingPaths (tree : List TreeEntry) : List TreePath :=
  ((tree.filter TreeEntry.isChecked).filter TreeEntry.lacksNotice).map TreeEntry.path

theorem mem_checkedPaths_iff {tree : List TreeEntry} {p : TreePath} :
    p ∈ checkedPaths tree ↔ p ∈ Tree.filesWith tree Concerns := by
  rw [checkedPaths, List.mem_map]
  constructor
  · rintro ⟨e, he, rfl⟩
    rcases List.mem_filter.mp he with ⟨hmem, hchecked⟩
    rcases isChecked_iff.mp hchecked with ⟨content, hcontent, hconcerns⟩
    exact ⟨content, ⟨e, hmem, rfl, hcontent⟩, hconcerns⟩
  · rintro ⟨content, ⟨e, hmem, rfl, hcontent⟩, hconcerns⟩
    exact ⟨e, List.mem_filter.mpr ⟨hmem, isChecked_iff.mpr ⟨content, hcontent, hconcerns⟩⟩, rfl⟩

theorem mem_missingPaths_iff {tree : List TreeEntry} {p : TreePath} :
    p ∈ missingPaths tree ↔ p ∈ Tree.filesWith tree Misses := by
  rw [missingPaths, List.mem_map]
  constructor
  · rintro ⟨e, he, rfl⟩
    rcases List.mem_filter.mp he with ⟨hchecked, hlacks⟩
    rcases List.mem_filter.mp hchecked with ⟨hmem, hchecked⟩
    rcases isChecked_iff.mp hchecked with ⟨content, hcontent, hconcerns⟩
    rcases lacksNotice_iff.mp hlacks with ⟨content', hcontent', hnotice⟩
    cases hcontent.symm.trans hcontent'
    exact ⟨content, ⟨e, hmem, rfl, hcontent⟩, hconcerns, hnotice⟩
  · rintro ⟨content, ⟨e, hmem, rfl, hcontent⟩, hconcerns, hnotice⟩
    have hchecked : e ∈ tree.filter TreeEntry.isChecked :=
      List.mem_filter.mpr ⟨hmem, isChecked_iff.mpr ⟨content, hcontent, hconcerns⟩⟩
    exact ⟨e, List.mem_filter.mpr ⟨hchecked, lacksNotice_iff.mpr ⟨content, hcontent, hnotice⟩⟩, rfl⟩

theorem nodup_checkedPaths {tree : List TreeEntry} (h : (tree.map TreeEntry.path).Nodup) :
    (checkedPaths tree).Nodup :=
  h.sublist (List.filter_sublist.map TreeEntry.path)

theorem nodup_missingPaths {tree : List TreeEntry} (h : (tree.map TreeEntry.path).Nodup) :
    (missingPaths tree).Nodup :=
  h.sublist ((List.filter_sublist.trans List.filter_sublist).map TreeEntry.path)

theorem ncard_of_mem_iff {xs : List TreePath} (h : xs.Nodup) {s : Set TreePath}
    (hmem : ∀ {p}, p ∈ xs ↔ p ∈ s) : xs.length = s.ncard := by
  have hset : (xs.toFinset : Set TreePath) = s := by
    ext p
    rw [List.coe_toFinset]
    exact hmem
  rw [← hset, Set.ncard_coe_finset, List.toFinset_card_of_nodup h]

theorem checked_ofTree (tree : List TreeEntry) :
    (Report.ofTree tree).checked = (checkedPaths tree).length :=
  (List.length_map TreeEntry.path).symm

theorem missing_ofTree (tree : List TreeEntry) :
    (Report.ofTree tree).missing = ((missingPaths tree).map TreePath.toText).mergeSort Text.le := by
  rw [missingPaths, List.map_map]
  rfl

theorem mem_missing_iff {tree : List TreeEntry} {t : Text} :
    t ∈ (Report.ofTree tree).missing ↔ ∃ p ∈ Tree.filesWith tree Misses, p.toText = t := by
  rw [missing_ofTree, List.mem_mergeSort, List.mem_map]
  constructor
  · rintro ⟨p, hp, htext⟩
    exact ⟨p, mem_missingPaths_iff.mp hp, htext⟩
  · rintro ⟨p, hp, htext⟩
    exact ⟨p, mem_missingPaths_iff.mpr hp, htext⟩

theorem missing_ne_nil_iff {tree : List TreeEntry} :
    (Report.ofTree tree).missing ≠ [] ↔ (Tree.filesWith tree Misses).Nonempty := by
  constructor
  · intro hne
    rcases List.exists_mem_of_ne_nil _ hne with ⟨t, ht⟩
    rcases mem_missing_iff.mp ht with ⟨p, hp, -⟩
    exact ⟨p, hp⟩
  · rintro ⟨p, hp⟩
    exact List.ne_nil_of_mem (mem_missing_iff.mpr ⟨p, hp, rfl⟩)

theorem nodup_texts {ps : List TreePath} (hproper : ∀ p ∈ ps, p.IsProper) (h : ps.Nodup) :
    (ps.map TreePath.toText).Nodup :=
  h.map_on fun p hp q hq hpq => TreePath.toText_injective (hproper p hp) (hproper q hq) hpq

/-!
# The head of a file
-/

theorem lines_head (content : Text) : (head content).lines = content.lines.take 80 :=
  Text.lines_flatten_take content 80

theorem concerns_head {p : TreePath} {content : Text} :
    Concerns p (head content) ↔ Concerns p content := by
  have hfirst : (head content).lines.take 1 = content.lines.take 1 := by
    rw [lines_head, List.take_take]
    rfl
  rw [Concerns, Concerns, hfirst]

theorem misses_head {p : TreePath} {content : Text} :
    Misses p (head content) ↔ Misses p content := by
  have hlines : (head content).lines.take 80 = content.lines.take 80 := by
    rw [lines_head, List.take_take]
    rfl
  rw [Misses, Misses, concerns_head, hlines]

/-- Outside the skipped directories, the trees have files under the same paths, with the same first
eighty lines. -/
def Alike (tree tree' : List TreeEntry) : Prop :=
  ∀ p start, (∀ name ∈ p.directories, ¬SkippedName name) →
    ((∃ content, Tree.FileAt tree p content ∧ (content.lines.take 80).flatten = start) ↔
      ∃ content, Tree.FileAt tree' p content ∧ (content.lines.take 80).flatten = start)

theorem Alike.symm {tree tree' : List TreeEntry} (h : Alike tree tree') : Alike tree' tree := by
  intro p start hplace
  exact (h p start hplace).symm

/-- A property of files outside the skipped directories that looks at their heads alone holds of the
same paths. -/
theorem Alike.mem_filesWith {tree tree' : List TreeEntry} (h : Alike tree tree')
    {P : TreePath → Text → Prop} (hhead : ∀ {p content}, P p (head content) ↔ P p content)
    (hplace : ∀ {p content}, P p content → ∀ name ∈ p.directories, ¬SkippedName name)
    {p : TreePath} (hp : p ∈ Tree.filesWith tree P) : p ∈ Tree.filesWith tree' P := by
  rcases hp with ⟨content, hfile, hcontent⟩
  rcases (h p (head content) (hplace hcontent)).mp ⟨content, hfile, rfl⟩ with
    ⟨content', hfile', hsame⟩
  have hhead' : P p (head content') := by
    rw [head, scannedLines, hsame]
    exact hhead.mpr hcontent
  exact ⟨content', hfile', hhead.mp hhead'⟩

theorem Alike.filesWith_eq {tree tree' : List TreeEntry} (h : Alike tree tree')
    {P : TreePath → Text → Prop} (hhead : ∀ {p content}, P p (head content) ↔ P p content)
    (hplace : ∀ {p content}, P p content → ∀ name ∈ p.directories, ¬SkippedName name) :
    Tree.filesWith tree P = Tree.filesWith tree' P := by
  ext p
  constructor
  · exact h.mem_filesWith hhead hplace
  · exact h.symm.mem_filesWith hhead hplace

/-- Nothing behind the first eighty lines of a file, and nothing in a skipped directory, has an
influence on the report. -/
theorem ofTree_eq_of_alike {tree tree' : List TreeEntry}
    (hpaths : (tree.map TreeEntry.path).Nodup) (hpaths' : (tree'.map TreeEntry.path).Nodup)
    (h : Alike tree tree') : Report.ofTree tree = Report.ofTree tree' := by
  have hchecked : (checkedPaths tree).Perm (checkedPaths tree') := by
    apply (List.perm_ext_iff_of_nodup (nodup_checkedPaths hpaths) (nodup_checkedPaths hpaths')).mpr
    intro p
    rw [mem_checkedPaths_iff, mem_checkedPaths_iff, h.filesWith_eq concerns_head fun hp => hp.1]
  have hmissing : (missingPaths tree).Perm (missingPaths tree') := by
    apply (List.perm_ext_iff_of_nodup (nodup_missingPaths hpaths) (nodup_missingPaths hpaths')).mpr
    intro p
    rw [mem_missingPaths_iff, mem_missingPaths_iff, h.filesWith_eq misses_head fun hp => hp.1.1]
  have hcount : (Report.ofTree tree).checked = (Report.ofTree tree').checked := by
    rw [checked_ofTree, checked_ofTree, hchecked.length_eq]
  have hlist : (Report.ofTree tree).missing = (Report.ofTree tree').missing := by
    rw [missing_ofTree, missing_ofTree]
    exact Text.mergeSort_eq_of_perm (hmissing.map TreePath.toText)
  change Report.mk (Report.ofTree tree).checked (Report.ofTree tree).missing =
    Report.mk (Report.ofTree tree').checked (Report.ofTree tree').missing
  rw [hcount, hlist]

/-!
# The report
-/

/-- The lines about the files that miss a notice, if there are any, then the counts. -/
theorem render_eq (report : Report) :
    report.render =
      (if report.missing = [] then []
        else Text.ofString "Missing copyright notice in:\n" ++
          report.missing.flatMap (fun t => Text.ofString "  - " ++ t ++ [.lineFeed]) ++
          [.lineFeed]) ++
        Text.ofString "Checked " ++ Numeral.digits 10 report.checked ++ Text.ofString " files. " ++
        (if report.missing = [] then Text.ofString "All have copyright notices."
          else Text.ofString "Missing: " ++ Numeral.digits 10 report.missing.length ++
            Text.ofString ".") ++
        [.lineFeed] := by
  unfold Report.render
  cases report.missing with
  | nil =>
      simp [Text.unlines]
  | cons t ts =>
      have hheader : Text.ofString "Missing copyright notice in:\n" =
          Text.ofString "Missing copyright notice in:" ++ [.lineFeed] := by
        decide
      simp [Text.unlines, List.flatMap_map, hheader]

/-- A report of a tree in which no name holds the separator.  It lists the paths of the source files
outside the skipped directories whose first eighty lines hold no notice, each once and in the order
of their texts, and nothing else; it counts these files and all that it checked, prints both counts,
and says by its exit code whether it lists a path.  A tree that is alike outside the skipped
directories and in the first eighty lines of its files has the same report. -/
theorem report_lists_missing (entries : List TreeEntry)
    (hproper : ∀ e ∈ entries, e.path.IsProper) :
    let tree := Tree.ofEntries entries
    let report := Report.ofTree tree
    (∀ t, t ∈ report.missing ↔ ∃ p ∈ Tree.filesWith tree Misses, p.toText = t) ∧
      report.missing.Pairwise Text.Precedes ∧
      report.checked = (Tree.filesWith tree Concerns).ncard ∧
      report.missing.length = (Tree.filesWith tree Misses).ncard ∧
      report.render =
        (if report.missing = [] then []
          else Text.ofString "Missing copyright notice in:\n" ++
            report.missing.flatMap (fun t => Text.ofString "  - " ++ t ++ [.lineFeed]) ++
            [.lineFeed]) ++
          Text.ofString "Checked " ++ Numeral.digits 10 report.checked ++
          Text.ofString " files. " ++
          (if report.missing = [] then Text.ofString "All have copyright notices."
            else Text.ofString "Missing: " ++ Numeral.digits 10 report.missing.length ++
              Text.ofString ".") ++
          [.lineFeed] ∧
      ((Tree.filesWith tree Misses).Nonempty → report.exitCode = 1) ∧
      (¬(Tree.filesWith tree Misses).Nonempty → report.exitCode = 0) ∧
      ∀ entries', Alike tree (Tree.ofEntries entries') →
        Report.ofTree (Tree.ofEntries entries') = report := by
  intro tree report
  have hpaths : (tree.map TreeEntry.path).Nodup := Tree.nodup_paths_ofEntries entries
  have hmissing : ∀ p ∈ missingPaths tree, p.IsProper := by
    intro p hp
    rcases mem_missingPaths_iff.mp hp with ⟨content, ⟨e, hmem, rfl, -⟩, -⟩
    exact hproper e (Tree.mem_of_mem_ofEntries hmem)
  refine ⟨fun t => mem_missing_iff, ?_, ?_, ?_, render_eq report, ?_, ?_, ?_⟩
  · change (Report.ofTree tree).missing.Pairwise Text.Precedes
    rw [missing_ofTree]
    exact Text.pairwise_precedes_mergeSort (nodup_texts hmissing (nodup_missingPaths hpaths))
  · change (Report.ofTree tree).checked = _
    rw [checked_ofTree]
    exact ncard_of_mem_iff (nodup_checkedPaths hpaths) mem_checkedPaths_iff
  · change (Report.ofTree tree).missing.length = _
    rw [missing_ofTree, List.length_mergeSort, List.length_map]
    exact ncard_of_mem_iff (nodup_missingPaths hpaths) mem_missingPaths_iff
  · intro hmisses
    exact if_neg (missing_ne_nil_iff.mpr hmisses)
  · intro hnone
    exact if_pos (not_not.mp (mt missing_ne_nil_iff.mp hnone))
  · intro entries' halike
    exact (ofTree_eq_of_alike hpaths (Tree.nodup_paths_ofEntries entries') halike).symm

/-- Two files of the same name, of which one is in a skipped directory. -/
theorem report_lists_missing_once :
    ∃ p ∈ Tree.filesWith
        (Tree.ofEntries
          [⟨⟨[Text.ofString "src"], Text.ofString "a.py"⟩, .file []⟩,
            ⟨⟨[Text.ofString "build"], Text.ofString "a.py"⟩, .file []⟩])
        Misses,
      p.toText = Text.ofString "src/a.py" := by
  have hproper : ∀ e ∈
      ([⟨⟨[Text.ofString "src"], Text.ofString "a.py"⟩, .file []⟩,
        ⟨⟨[Text.ofString "build"], Text.ofString "a.py"⟩, .file []⟩] : List TreeEntry),
      e.path.IsProper := by
    decide
  have hmissing : (Report.ofTree (Tree.ofEntries
      [⟨⟨[Text.ofString "src"], Text.ofString "a.py"⟩, .file []⟩,
        ⟨⟨[Text.ofString "build"], Text.ofString "a.py"⟩, .file []⟩])).missing =
      [Text.ofString "src/a.py"] := by
    cbv
  apply ((report_lists_missing _ hproper).1 (Text.ofString "src/a.py")).mp
  rw [hmissing]
  exact List.mem_singleton_self _

end Notice
end QuotedLiteral
