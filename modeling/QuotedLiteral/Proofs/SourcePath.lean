import Mathlib.Data.List.Basic
import QuotedLiteral.Notice.Tree

/-!
# Paths of a source tree

Which directories are skipped, what the suffix of a name is, and how paths are
ordered by their texts.  A path is known by its text as long as no name in it
holds the separator.
-/

namespace QuotedLiteral
namespace TreePath

/-!
# Skipped directories
-/

/-- Build products, environments and hidden directories, except the one of the forge. -/
def SkippedName (name : Text) : Prop :=
  name = Text.ofString "build" ∨ name = Text.ofString "dist" ∨
    name = Text.ofString "__pycache__" ∨ name = Text.ofString "venv" ∨
    (∃ stem, name = stem ++ Text.ofString ".egg-info") ∨
    (∃ rest, name = CodePoint.ofChar '.' :: rest) ∧ name ≠ Text.ofString ".github"

theorem isSkippedDirectory_iff {name : Text} :
    isSkippedDirectory name = true ↔ SkippedName name := by
  have hegg : (Text.ofString ".egg-info").isSuffixOf name = true ↔
      ∃ stem, name = stem ++ Text.ofString ".egg-info" := by
    rw [List.isSuffixOf_iff_suffix]
    constructor
    · rintro ⟨stem, hstem⟩
      exact ⟨stem, hstem.symm⟩
    · rintro ⟨stem, hstem⟩
      exact ⟨stem, hstem.symm⟩
  have hhidden : (Text.ofString ".").isPrefixOf name = true ↔
      ∃ rest, name = CodePoint.ofChar '.' :: rest := by
    rw [List.isPrefixOf_iff_prefix]
    constructor
    · rintro ⟨rest, hrest⟩
      exact ⟨rest, hrest.symm⟩
    · rintro ⟨rest, hrest⟩
      exact ⟨rest, hrest.symm⟩
  simp only [isSkippedDirectory, SkippedName, Bool.or_eq_true, Bool.and_eq_true, decide_eq_true_eq,
    hegg, hhidden, or_assoc]

theorem isSkipped_eq_false_iff {p : TreePath} :
    p.isSkipped = false ↔ ∀ name ∈ p.directories, ¬SkippedName name := by
  rw [isSkipped, List.any_eq_false]
  simp only [isSkippedDirectory_iff]

/-!
# Suffixes
-/

/-- The name is a stem, a dot and an extension, and the dot is the last of the name. -/
def HasExtension (p : TreePath) (extension : Text) : Prop :=
  ∃ stem, stem ≠ [] ∧ extension ≠ [] ∧ CodePoint.ofChar '.' ∉ extension ∧
    p.name = stem ++ CodePoint.ofChar '.' :: extension

theorem suffix_of_hasExtension {p : TreePath} {extension : Text} (h : p.HasExtension extension) :
    p.suffix = CodePoint.ofChar '.' :: extension := by
  rcases h with ⟨stem, hstem, hextension, hdot, hname⟩
  have hreverse : p.name.reverse =
      extension.reverse ++ CodePoint.ofChar '.' :: stem.reverse := by
    simp [hname]
  have hnoDot : ∀ c ∈ extension.reverse, decide (c ≠ CodePoint.ofChar '.') = true := by
    intro c hc
    apply decide_eq_true
    rintro rfl
    exact hdot (List.mem_reverse.mp hc)
  have htake : (extension.reverse ++ CodePoint.ofChar '.' :: stem.reverse).takeWhile
      (fun c => c ≠ CodePoint.ofChar '.') = extension.reverse := by
    rw [List.takeWhile_append_of_pos hnoDot, List.takeWhile_cons_of_neg (by simp), List.append_nil]
  have hdrop : (extension.reverse ++ CodePoint.ofChar '.' :: stem.reverse).dropWhile
      (fun c => c ≠ CodePoint.ofChar '.') = CodePoint.ofChar '.' :: stem.reverse := by
    rw [List.dropWhile_append_of_pos hnoDot, List.dropWhile_cons_of_neg (by simp)]
  cases hback : stem.reverse with
  | nil =>
      exact absurd (List.reverse_eq_nil_iff.mp hback) hstem
  | cons c rest =>
      rw [hback] at hreverse htake hdrop
      rw [suffix]
      simp only [hreverse, htake, hdrop]
      rw [if_neg (mt List.reverse_eq_nil_iff.mp hextension), List.reverse_reverse]

theorem exists_hasExtension {p : TreePath} (hsuffix : p.suffix ≠ []) :
    ∃ extension, p.HasExtension extension := by
  have hwhole := List.takeWhile_append_dropWhile (p := fun c => decide (c ≠ CodePoint.ofChar '.'))
    (l := p.name.reverse)
  rw [suffix] at hsuffix
  split at hsuffix
  · exact absurd rfl hsuffix
  · exact absurd rfl hsuffix
  · next dot c rest hdrop =>
      have hdot : dot = CodePoint.ofChar '.' := by
        have hhead := List.head?_dropWhile_not (fun c => decide (c ≠ CodePoint.ofChar '.'))
          p.name.reverse
        rw [hdrop] at hhead
        simpa using hhead
      split at hsuffix
      · exact absurd rfl hsuffix
      · next hextension =>
          rw [hdrop, hdot] at hwhole
          refine ⟨_, (c :: rest).reverse, by simp, mt List.reverse_eq_nil_iff.mp hextension, ?_, ?_⟩
          · intro hmem
            have hnot := List.all_eq_true.mp List.all_takeWhile _ (List.mem_reverse.mp hmem)
            simp at hnot
          · have hname := congrArg List.reverse hwhole
            rw [List.reverse_append, List.reverse_reverse, List.reverse_cons,
              List.append_assoc] at hname
            exact hname.symm

theorem suffix_eq_iff {p : TreePath} {extension : Text} :
    p.suffix = CodePoint.ofChar '.' :: extension ↔ p.HasExtension extension := by
  constructor
  · intro hsuffix
    have hne : p.suffix ≠ [] := by
      rw [hsuffix]
      exact List.cons_ne_nil _ _
    rcases exists_hasExtension hne with ⟨other, hother⟩
    rw [suffix_of_hasExtension hother] at hsuffix
    cases hsuffix
    exact hother
  · exact suffix_of_hasExtension

theorem suffix_eq_nil_iff {p : TreePath} :
    p.suffix = [] ↔ ∀ extension, ¬p.HasExtension extension := by
  constructor
  · intro hsuffix extension hextension
    rw [suffix_of_hasExtension hextension] at hsuffix
    cases hsuffix
  · intro hnone
    by_contra hsuffix
    rcases exists_hasExtension hsuffix with ⟨extension, hextension⟩
    exact hnone extension hextension

/-!
# Texts of paths
-/

/-- The names of the path, with that of the file or directory at the end. -/
def names (p : TreePath) : List Text :=
  p.directories ++ [p.name]

def IsProper (p : TreePath) : Prop :=
  ∀ name ∈ p.names, separator ∉ name

instance (p : TreePath) : Decidable p.IsProper :=
  inferInstanceAs (Decidable (∀ name ∈ p.names, separator ∉ name))

theorem separator_notMem_of_mem_splitOn {t name : Text} (h : name ∈ t.splitOn separator) :
    separator ∉ name := by
  induction t generalizing name with
  | nil =>
      rw [List.splitOn_nil, List.mem_singleton] at h
      rw [h]
      exact List.not_mem_nil
  | cons c t ih =>
      rw [List.splitOn_cons_eq_if_modifyHead] at h
      split at h
      · rcases List.mem_cons.mp h with rfl | hlater
        · exact List.not_mem_nil
        · exact ih hlater
      · next hc =>
          cases hsplit : t.splitOn separator with
          | nil =>
              exact absurd hsplit (List.splitOn_ne_nil _ _)
          | cons first rest =>
              rw [hsplit] at h ih
              rcases List.mem_cons.mp h with rfl | hlater
              · rw [List.mem_cons, not_or]
                exact ⟨fun heq => hc (beq_iff_eq.mpr heq.symm), ih List.mem_cons_self⟩
              · exact ih (List.mem_cons_of_mem first hlater)

/-- A path that is read from a text is proper. -/
theorem isProper_of_ofText? {t : Text} {p : TreePath} (h : ofText? t = some p) : p.IsProper := by
  rw [ofText?] at h
  rcases Option.map_eq_some_iff.mp h with ⟨last, hlast, rfl⟩
  have hnames : names ⟨List.dropLast _, last⟩ = _ :=
    List.dropLast_append_getLast? last (Option.mem_def.mpr hlast)
  rw [IsProper, hnames]
  intro name hname
  exact separator_notMem_of_mem_splitOn (List.mem_of_mem_filter hname)

theorem names_injective {p q : TreePath} (h : p.names = q.names) : p = q := by
  rcases List.append_inj' h rfl with ⟨hdirectories, hname⟩
  cases p
  cases q
  cases hdirectories
  cases hname
  rfl

theorem toText_injective {p q : TreePath} (hp : p.IsProper) (hq : q.IsProper)
    (h : p.toText = q.toText) : p = q := by
  have hsplit : ∀ r : TreePath, r.IsProper → r.toText.splitOn separator = r.names := by
    intro r hr
    exact List.splitOn_intercalate separator hr (List.concat_ne_nil _ _)
  apply names_injective
  rw [← hsplit p hp, ← hsplit q hq, h]

end TreePath

/-!
# Order of texts
-/

namespace Text

/-- The order by code points at the first difference, a proper beginning first. -/
def Precedes : Text → Text → Prop :=
  List.Lex fun c d => c.value < d.value

variable {s t u : Text}

theorem le_cons_iff {c d : CodePoint} :
    le (c :: s) (d :: t) = true ↔ c.value < d.value ∨ c = d ∧ le s t = true := by
  rw [le]
  split
  · next hcd =>
      simp [hcd]
  · next hcd =>
      simp [hcd]

theorem le_trans (hst : le s t = true) (htu : le t u = true) : le s u = true := by
  induction s generalizing t u with
  | nil =>
      rfl
  | cons c s ih =>
      cases t with
      | nil =>
          cases hst
      | cons d t =>
          cases u with
          | nil =>
              cases htu
          | cons e u =>
              rw [le_cons_iff] at hst htu ⊢
              rcases hst with hlt | ⟨rfl, hst⟩
              · rcases htu with hlt' | ⟨rfl, -⟩
                · exact Or.inl (Nat.lt_trans hlt hlt')
                · exact Or.inl hlt
              · rcases htu with hlt | ⟨rfl, htu⟩
                · exact Or.inl hlt
                · exact Or.inr ⟨rfl, ih hst htu⟩

theorem le_total (s t : Text) : (le s t || le t s) = true := by
  rw [Bool.or_eq_true]
  induction s generalizing t with
  | nil =>
      exact Or.inl rfl
  | cons c s ih =>
      cases t with
      | nil =>
          exact Or.inr rfl
      | cons d t =>
          rw [le_cons_iff, le_cons_iff]
          rcases Nat.lt_trichotomy c.value d.value with hlt | heq | hgt
          · exact Or.inl (Or.inl hlt)
          · have hcd : c = d := CodePoint.value_injective heq
            rcases ih t with hst | hts
            · exact Or.inl (Or.inr ⟨hcd, hst⟩)
            · exact Or.inr (Or.inr ⟨hcd.symm, hts⟩)
          · exact Or.inr (Or.inl hgt)

theorem precedes_of_le_of_ne (hle : le s t = true) (hne : s ≠ t) : s.Precedes t := by
  induction s generalizing t with
  | nil =>
      cases t with
      | nil =>
          exact absurd rfl hne
      | cons d t =>
          exact List.Lex.nil
  | cons c s ih =>
      cases t with
      | nil =>
          cases hle
      | cons d t =>
          rcases le_cons_iff.mp hle with hlt | ⟨rfl, hst⟩
          · exact List.Lex.rel hlt
          · refine List.Lex.cons (ih hst ?_)
            rintro rfl
            exact hne rfl

theorem le_antisymm (hst : le s t = true) (hts : le t s = true) : s = t := by
  induction s generalizing t with
  | nil =>
      cases t with
      | nil =>
          rfl
      | cons d t =>
          cases hts
  | cons c s ih =>
      cases t with
      | nil =>
          cases hst
      | cons d t =>
          rw [le_cons_iff] at hst hts
          rcases hst with hlt | ⟨rfl, hst⟩
          · rcases hts with hgt | ⟨rfl, -⟩
            · exact absurd hgt (Nat.lt_asymm hlt)
            · exact absurd hlt (Nat.lt_irrefl _)
          · rcases hts with hlt | ⟨-, hts⟩
            · exact absurd hlt (Nat.lt_irrefl _)
            · rw [ih hst hts]

theorem pairwise_mergeSort (ts : List Text) :
    (ts.mergeSort le).Pairwise fun s t => le s t = true :=
  List.pairwise_mergeSort (fun s t u => @le_trans s t u) le_total ts

/-- Sorting texts that differ from one another puts each of them before the next. -/
theorem pairwise_precedes_mergeSort {ts : List Text} (hts : ts.Nodup) :
    (ts.mergeSort le).Pairwise Precedes := by
  have hnodup : (ts.mergeSort le).Nodup :=
    (List.mergeSort_perm ts le).nodup_iff.mpr hts
  exact ((pairwise_mergeSort ts).and hnodup).imp fun h => precedes_of_le_of_ne h.1 h.2

/-- The order in which texts are found does not matter once they are sorted. -/
theorem mergeSort_eq_of_perm {ts us : List Text} (h : ts.Perm us) :
    ts.mergeSort le = us.mergeSort le := by
  have hperm : (ts.mergeSort le).Perm (us.mergeSort le) :=
    (List.mergeSort_perm ts le).trans (h.trans (List.mergeSort_perm us le).symm)
  exact hperm.eq_of_pairwise (fun _ _ _ _ => le_antisymm) (pairwise_mergeSort ts)
    (pairwise_mergeSort us)

end Text
end QuotedLiteral
