import QuotedLiteral.Proofs.Printable
import QuotedLiteral.Proofs.Spelling

/-!
# Literals in plain ASCII

Escapes are plain ASCII.  If only ASCII is wanted and the dialect has a numeric
escape for the controls, no other character is left, and the literal is plain
from its opening quote to its closing quote.
-/

namespace QuotedLiteral
namespace Writing

variable {asciiOnly : Bool} {d : Dialect} {c : CodePoint} {piece : Text}

/-- A character that is not written as it is is written in plain ASCII. -/
theorem isPlain_of_piece? (hpiece : piece? asciiOnly d c = some piece)
    (hchanged : piece ≠ [c]) : piece.IsPlain := by
  rw [piece?_eq_map_item?] at hpiece
  rcases Option.map_eq_some_iff.mp hpiece with ⟨item, hitem, rfl⟩
  cases written_of_item? hitem with
  | mnemonic hm hdenoted hhas =>
      have hall : ∀ m ∈ mnemonics, (Item.mnemonic m).text.IsPlain := by
        decide
      exact hall _ hm
  | fixed kind hhas hlt =>
      have hletter : kind.letter.IsPlain := by
        cases kind <;> decide
      exact List.forall_mem_cons.mpr ⟨by decide, List.forall_mem_cons.mpr
        ⟨hletter, Numeral.isPlain_fixed (by decide) (by decide) kind.width c.value⟩⟩
  | octal hhas hlt =>
      exact List.forall_mem_cons.mpr
        ⟨by decide, Numeral.isPlain_fixed (by decide) (by decide) 3 c.value⟩
  | verbatim hmnemonic =>
      exact absurd rfl hchanged

/-- The dialect has an escape that names a control by its number. -/
def NamesControls (d : Dialect) : Prop :=
  d.has .octal = true ∨ d.has .hex = true ∨ d.has .unicode = true

theorem plain_ne_self (hnames : NamesControls d) (hcontrol : isControl c.value = true) :
    plain d c ≠ [c] := by
  unfold plain
  rw [if_pos hcontrol]
  split
  · simp [octalEscape, Numeral.fixed]
  · split
    · simp [hexEscape]
    · split
      · simp [unicodeEscape]
      · rcases hnames with hoctal | hhex | hunicode <;> contradiction

/-- The character is written as it is. -/
def Keeps (asciiOnly : Bool) (d : Dialect) (c : CodePoint) : Prop :=
  piece? asciiOnly d c = some [c]

/-- A character that is kept has no escape: no mnemonic, none for the sake of ASCII, and if it is a
control none that names it by its number. -/
theorem Keeps.no_escape (hkeeps : Keeps asciiOnly d c) :
    mnemonic? d c = none ∧ (asciiOnly = true → c.value ≤ 0x7F) ∧
      (isControl c.value = true → ¬NamesControls d) := by
  unfold Keeps piece? at hkeeps
  split at hkeeps
  · cases hkeeps
  · next hmnemonic =>
      split at hkeeps
      · split at hkeeps <;> cases hkeeps
      · next hascii =>
          refine ⟨hmnemonic, ?_, ?_⟩
          · intro hwanted
            exact Nat.not_lt.mp (fun hhigh => hascii ⟨hwanted, hhigh⟩)
          · intro hcontrol hnames
            exact plain_ne_self hnames hcontrol (Option.some.inj hkeeps)

/-- Where the controls have numeric escapes, what is kept among the ASCII characters is plain. -/
theorem Keeps.isPlain (hkeeps : Keeps asciiOnly d c) (hnames : NamesControls d)
    (hascii : c.value ≤ 0x7F) : c.IsPlain := by
  have hcontrol : ¬isControl c.value = true := fun h => hkeeps.no_escape.2.2 h hnames
  rw [isControl_iff] at hcontrol
  constructor <;> lia

/-!
# Characters of a literal
-/

theorem Writes.mem_text {raw : Text} {body : Body} (hwrites : Writes asciiOnly d raw body)
    {x : CodePoint} (hx : x ∈ body.text) : x.IsPlain ∨ x ∈ raw ∧ Keeps asciiOnly d x := by
  induction hwrites with
  | nil =>
      cases hx
  | @cons c item rest later hitem hlater ih =>
      rw [Body.text_cons] at hx
      rcases List.mem_append.mp hx with hfront | hback
      · have hpiece : piece? asciiOnly d c = some item.text := by
          rw [piece?_eq_map_item?, hitem]
          rfl
        by_cases hsame : item.text = [c]
        · rw [hsame] at hfront hpiece
          cases List.mem_singleton.mp hfront
          exact Or.inr ⟨List.mem_cons_self, hpiece⟩
        · exact Or.inl (isPlain_of_piece? hpiece hsame x hfront)
      · rcases ih hback with hplain | ⟨hmem, hkeeps⟩
        · exact Or.inl hplain
        · exact Or.inr ⟨List.mem_cons_of_mem c hmem, hkeeps⟩

end Writing

/-- Whatever stands in a literal is plain, or a character of the text that is kept. -/
theorem isPlain_or_keeps_of_mem {asciiOnly : Bool} {d : Dialect} {raw literal : Text}
    (hformat : format asciiOnly d raw = .ok literal) {x : CodePoint} (hx : x ∈ literal) :
    x.IsPlain ∨ x ∈ raw ∧ Writing.Keeps asciiOnly d x := by
  rcases exists_body_of_format hformat with ⟨body, hwrites, rfl⟩
  rcases List.mem_cons.mp hx with rfl | hx
  · exact Or.inl (by decide)
  · rcases List.mem_append.mp hx with hbody | hquote
    · exact hwrites.mem_text hbody
    · cases List.mem_singleton.mp hquote
      exact Or.inl (by decide)

theorem isPlain_of_format {d : Dialect} (hnames : Writing.NamesControls d) {raw literal : Text}
    (hformat : format true d raw = .ok literal) : literal.IsPlain := by
  intro x hx
  rcases isPlain_or_keeps_of_mem hformat hx with hplain | ⟨-, hkeeps⟩
  · exact hplain
  · exact hkeeps.isPlain hnames (hkeeps.no_escape.2.1 rfl)

end QuotedLiteral
