import Mathlib.Data.List.Basic
import QuotedLiteral.Text.Line

/-!
# Lines of texts

A text that is empty or ends with a line feed is a number of whole lines, and
what follows it is on lines of its own.
-/

namespace QuotedLiteral
namespace Text

variable {s t : Text}

def IsTerminated (t : Text) : Prop :=
  t = [] ∨ t.getLast? = some .lineFeed

theorem isTerminated_nil : IsTerminated [] :=
  Or.inl rfl

theorem isTerminated_concat (t : Text) : IsTerminated (t ++ [.lineFeed]) :=
  Or.inr List.getLast?_concat

theorem IsTerminated.append (hs : s.IsTerminated) (ht : t.IsTerminated) :
    IsTerminated (s ++ t) := by
  rcases ht with rfl | hlast
  · rw [List.append_nil]
    exact hs
  · rw [IsTerminated, List.getLast?_append, hlast]
    exact Or.inr rfl

theorem isTerminated_flatMap {α : Type} {f : α → Text} (h : ∀ a, (f a).IsTerminated)
    (xs : List α) : IsTerminated (xs.flatMap f) := by
  induction xs with
  | nil =>
      exact isTerminated_nil
  | cons a xs ih =>
      rw [List.flatMap_cons]
      exact (h a).append ih

theorem lines_lineFeed_cons (t : Text) : lines (.lineFeed :: t) = [.lineFeed] :: lines t := by
  rw [lines, if_pos rfl]

theorem lines_cons_of_ne {c : CodePoint} (hc : c ≠ .lineFeed) {line : Text} {more : List Text}
    (h : lines t = line :: more) : lines (c :: t) = (c :: line) :: more := by
  rw [lines, if_neg hc, h]

theorem lines_eq_nil_iff : lines t = [] ↔ t = [] := by
  constructor
  · intro h
    rw [← flatten_lines t, h]
    rfl
  · rintro rfl
    rfl

theorem lines_append (hs : s.IsTerminated) (t : Text) : lines (s ++ t) = lines s ++ lines t := by
  induction s with
  | nil =>
      rfl
  | cons c rest ih =>
      have hlast : (c :: rest).getLast? = some .lineFeed := by
        rcases hs with hnil | hlast
        · cases hnil
        · exact hlast
      have hrest : IsTerminated rest := by
        cases rest with
        | nil =>
            exact isTerminated_nil
        | cons d rest =>
            exact Or.inr (by rwa [List.getLast?_cons_cons] at hlast)
      by_cases hc : c = .lineFeed
      · rw [hc, List.cons_append, lines_lineFeed_cons, lines_lineFeed_cons, ih hrest,
          List.cons_append]
      · -- the line goes on, since the line feed at the end is still to come
        have hne : rest ≠ [] := by
          rintro rfl
          exact hc (Option.some.inj hlast)
        cases hlines : lines rest with
        | nil =>
            exact absurd (lines_eq_nil_iff.mp hlines) hne
        | cons line more =>
            have hwhole := ih hrest
            rw [hlines, List.cons_append] at hwhole
            rw [List.cons_append, lines_cons_of_ne hc hwhole, lines_cons_of_ne hc hlines,
              List.cons_append]

theorem lines_flatMap {α : Type} {f : α → Text} (h : ∀ a, (f a).IsTerminated) (xs : List α) :
    lines (xs.flatMap f) = xs.flatMap fun a => lines (f a) := by
  induction xs with
  | nil =>
      rfl
  | cons a xs ih =>
      rw [List.flatMap_cons, List.flatMap_cons, lines_append (h a), ih]

/-- A text that is not empty has a first line, which is terminated or all there is. -/
theorem exists_first_line (h : t ≠ []) :
    ∃ line rest, t = line ++ rest ∧ lines t = line :: lines rest ∧ lines line = [line] ∧
      (line.IsTerminated ∨ rest = []) := by
  induction t with
  | nil =>
      exact absurd rfl h
  | cons c t ih =>
      by_cases hc : c = .lineFeed
      · rw [hc]
        exact ⟨[.lineFeed], t, rfl, lines_lineFeed_cons t, rfl, Or.inl (isTerminated_concat [])⟩
      · by_cases ht : t = []
        · rw [ht]
          have hline : lines [c] = [[c]] := by
            rw [lines, if_neg hc]
            rfl
          exact ⟨[c], [], rfl, hline, hline, Or.inr rfl⟩
        · rcases ih ht with ⟨line, rest, rfl, hlines, hline, hend⟩
          refine ⟨c :: line, rest, rfl, lines_cons_of_ne hc hlines, lines_cons_of_ne hc hline, ?_⟩
          rcases hend with hterminated | hrest
          · left
            rcases hterminated with rfl | hlast
            · cases hline
            · right
              cases line with
              | nil =>
                  cases hlast
              | cons d line =>
                  rwa [List.getLast?_cons_cons]
          · exact Or.inr hrest

/-- Taken by themselves, the first lines of a text are the same lines. -/
theorem lines_flatten_take (t : Text) (count : Nat) :
    lines ((lines t).take count).flatten = (lines t).take count := by
  induction count generalizing t with
  | zero =>
      rfl
  | succ count ih =>
      by_cases ht : t = []
      · rw [ht]
        rfl
      · rcases exists_first_line ht with ⟨line, rest, -, hlines, hline, hend⟩
        rw [hlines, List.take_succ_cons, List.flatten_cons]
        rcases hend with hterminated | rfl
        · rw [lines_append hterminated, hline, ih rest]
          rfl
        · simp [lines, hline]

/-!
# Counting lines
-/

theorem length_lines_concat (t : Text) :
    (lines (t ++ [.lineFeed])).length = t.count .lineFeed + 1 := by
  induction t with
  | nil =>
      rfl
  | cons c rest ih =>
      rw [List.cons_append]
      by_cases hc : c = .lineFeed
      · rw [hc, lines_lineFeed_cons, List.length_cons, ih, List.count_cons_self]
      · cases hlines : lines (rest ++ [.lineFeed]) with
        | nil =>
            rw [hlines] at ih
            cases ih
        | cons line more =>
            rw [hlines] at ih
            rw [lines_cons_of_ne hc hlines, List.count_cons_of_ne hc]
            exact ih

/-- A text without line feeds is one line, once a line feed ends it. -/
theorem lines_concat_of_notMem {t : Text} (ht : .lineFeed ∉ t) :
    lines (t ++ [.lineFeed]) = [t ++ [.lineFeed]] := by
  have hlength : (lines (t ++ [.lineFeed])).length = 1 := by
    rw [length_lines_concat, List.count_eq_zero_of_not_mem ht]
  rcases List.length_eq_one_iff.mp hlength with ⟨line, hline⟩
  have hflatten := flatten_lines (t ++ [.lineFeed])
  rw [hline, List.flatten_singleton] at hflatten
  rw [hline, hflatten]

end Text
end QuotedLiteral
