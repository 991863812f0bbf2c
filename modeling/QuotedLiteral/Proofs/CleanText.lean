import QuotedLiteral.Proofs.PlainLiteral

/-!
# Literals as clean text

A control is left in a literal only if the dialect has no escape for it, and a
character beyond ASCII only if it need not be ASCII; in that case it is left
where it stands.
-/

namespace QuotedLiteral
namespace Writing

variable {d : Dialect} {c : CodePoint}

/-- Beyond ASCII nothing is changed unless ASCII is wanted. -/
theorem keeps_of_lt (hhigh : 0x7F < c.value) : Keeps false d c := by
  have hmnemonic : mnemonic? d c = none := mnemonic?_eq_none_of_lt hhigh
  have hcontrol : ¬isControl c.value = true := by
    rw [isControl_iff]
    lia
  rw [Keeps, piece?, hmnemonic, plain, if_neg hcontrol]
  rfl

theorem filter_piece {piece : Text} (hpiece : piece? false d c = some piece) :
    piece.filter (0x7F < ·.value) = [c].filter (0x7F < ·.value) := by
  by_cases hhigh : 0x7F < c.value
  · have hkeeps : piece? false d c = some [c] := keeps_of_lt hhigh
    rw [hkeeps] at hpiece
    cases hpiece
    rfl
  · by_cases hsame : piece = [c]
    · rw [hsame]
    · have hplain := isPlain_of_piece? hpiece hsame
      rw [List.filter_singleton, decide_eq_false hhigh, List.filter_eq_nil_iff.mpr]
      · rfl
      · intro x hx
        have hlt := (hplain x hx).2
        rw [decide_eq_true_eq]
        lia

theorem Writes.filter_text {raw : Text} {body : Body} (hwrites : Writes false d raw body) :
    body.text.filter (0x7F < ·.value) = raw.filter (0x7F < ·.value) := by
  induction hwrites with
  | nil =>
      rfl
  | @cons c item rest later hitem hlater ih =>
      have hpiece : piece? false d c = some item.text := by
        rw [piece?_eq_map_item?, hitem]
        rfl
      rw [Body.text_cons, List.filter_append, filter_piece hpiece, ih, ← List.filter_append,
        List.singleton_append]

end Writing

/-- If the dialect has an octal, hexadecimal or unicode escape, no control stands in a literal.  If
it has none, a control that stands there is one of the text that has no mnemonic in the dialect.  A
literal that is to be ASCII is, and any other has the characters beyond ASCII of the text, in their
order. -/
theorem format_clean (asciiOnly : Bool) (d : Dialect) (raw literal : Text)
    (hformat : format asciiOnly d raw = .ok literal) :
    (d.has .octal = true ∨ d.has .hex = true ∨ d.has .unicode = true →
      ∀ c ∈ literal, ¬(c.value ≤ 0x1F ∨ c.value = 0x7F)) ∧
    (¬(d.has .octal = true ∨ d.has .hex = true ∨ d.has .unicode = true) →
      ∀ c ∈ literal, c.value ≤ 0x1F ∨ c.value = 0x7F →
        c ∈ raw ∧ ∀ m ∈ mnemonics, m.denoted = c → d.has m.flag = false) ∧
    (asciiOnly = true → ∀ c ∈ literal, c.value < 0x80) ∧
    (asciiOnly = false →
      literal.filter (0x7F < ·.value) = raw.filter (0x7F < ·.value)) := by
  have hplain_not_control : ∀ c : CodePoint, c.IsPlain → ¬(c.value ≤ 0x1F ∨ c.value = 0x7F) := by
    rintro c ⟨hlow, hhigh⟩
    lia
  refine ⟨?_, ?_, ?_, ?_⟩
  · intro hnames c hc hcontrol
    rcases isPlain_or_keeps_of_mem hformat hc with hplain | ⟨-, hkeeps⟩
    · exact hplain_not_control c hplain hcontrol
    · exact hkeeps.no_escape.2.2 (Writing.isControl_iff.mpr hcontrol) hnames
  · intro _ c hc hcontrol
    rcases isPlain_or_keeps_of_mem hformat hc with hplain | ⟨hmem, hkeeps⟩
    · exact absurd hcontrol (hplain_not_control c hplain)
    · refine ⟨hmem, ?_⟩
      intro m hm hdenoted
      exact Writing.lacks_of_mnemonic?_eq_none hkeeps.no_escape.1 hm hdenoted
  · rintro rfl c hc
    rcases isPlain_or_keeps_of_mem hformat hc with hplain | ⟨-, hkeeps⟩
    · exact Nat.lt_succ_of_lt hplain.2
    · exact Nat.lt_succ_of_le (hkeeps.no_escape.2.1 rfl)
  · rintro rfl
    rcases exists_body_of_format hformat with ⟨body, hwrites, rfl⟩
    have hquote : ¬0x7F < CodePoint.doubleQuote.value := by
      decide
    rw [List.filter_cons_of_neg (by simpa using hquote), List.filter_append,
      List.filter_cons_of_neg (by simpa using hquote), List.filter_nil, List.append_nil,
      hwrites.filter_text]

/-- A control with one of its two mnemonics, one without any, and two characters beyond ASCII. -/
theorem format_clean_escape :
    format false ⟨0x8000⟩ [.ofNat 0x1B, .ofNat 0x7F, .ofNat 0x85, 'a', .ofNat 0x1F600] =
        .ok [.doubleQuote, .backslash, 'E', .ofNat 0x7F, .ofNat 0x85, 'a', .ofNat 0x1F600,
          .doubleQuote] ∧
      ¬(Dialect.has ⟨0x8000⟩ .octal = true ∨ Dialect.has ⟨0x8000⟩ .hex = true ∨
        Dialect.has ⟨0x8000⟩ .unicode = true) ∧
      (∀ m ∈ mnemonics, m.denoted = .ofNat 0x7F → Dialect.has ⟨0x8000⟩ m.flag = false) ∧
      List.filter (0x7F < ·.value)
          [CodePoint.doubleQuote, .backslash, 'E', .ofNat 0x7F, .ofNat 0x85, 'a', .ofNat 0x1F600,
            .doubleQuote] =
        List.filter (0x7F < ·.value)
          [CodePoint.ofNat 0x1B, .ofNat 0x7F, .ofNat 0x85, 'a', .ofNat 0x1F600] := by
  have hformat :
      format false ⟨0x8000⟩ [.ofNat 0x1B, .ofNat 0x7F, .ofNat 0x85, 'a', .ofNat 0x1F600] =
        .ok [.doubleQuote, .backslash, 'E', .ofNat 0x7F, .ofNat 0x85, 'a', .ofNat 0x1F600,
          .doubleQuote] := by
    decide
  have hlacks : ¬(Dialect.has ⟨0x8000⟩ .octal = true ∨ Dialect.has ⟨0x8000⟩ .hex = true ∨
      Dialect.has ⟨0x8000⟩ .unicode = true) := by
    decide
  rcases format_clean false ⟨0x8000⟩ _ _ hformat with ⟨-, hcontrols, -, hbeyond⟩
  exact ⟨hformat, hlacks, (hcontrols hlacks (.ofNat 0x7F) (by decide) (by decide)).2, hbeyond rfl⟩

end QuotedLiteral
