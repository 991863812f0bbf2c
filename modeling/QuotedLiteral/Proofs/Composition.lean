import QuotedLiteral.Proofs.Joining
import QuotedLiteral.Proofs.Unwritable

/-!
# Writing is compositional

Each character is written on its own, and a text cannot be written exactly if it
has a character that cannot.  Hence two texts, one behind the other, are written
as their bodies one behind the other, and what is wrong with them is what is
wrong with the first of them that has a fault.
-/

namespace QuotedLiteral

open Writing

theorem Writing.Writes.append {asciiOnly : Bool} {d : Dialect} {raw raw' : Text}
    {body body' : Body} (hwrites : Writes asciiOnly d raw body)
    (hwrites' : Writes asciiOnly d raw' body') :
    Writes asciiOnly d (raw ++ raw') (body ++ body') :=
  List.rel_append hwrites hwrites'

/-!
# The composition theorem
-/

/-- Writing fails exactly if the text has a character beyond ASCII that is to be ASCII and that no
unicode escape can name, and the diagnostic is about the first of them.  Two texts that are written
are written together, as their bodies one behind the other.  If the first cannot be written, the
fault is the same as without the second; if only the second cannot, its fault is moved behind the
first. -/
theorem format_compositional (asciiOnly : Bool) (d : Dialect) :
    (∀ raw, (∃ fault, format asciiOnly d raw = .error fault) ↔
      asciiOnly = true ∧
        ∃ c ∈ raw, 0x7F < c.value ∧ (0xFFFF < c.value ∨ d.has .unicode = false)) ∧
    (∀ raw fault, format asciiOnly d raw = .error fault →
      ∃ diagnostic c, ∃ index : Nat,
        fault.complaint raw = .malformed diagnostic ∧
        IsLeast {i | ∃ x, raw[i]? = some x ∧ 0x7F < x.value ∧
          (0xFFFF < x.value ∨ d.has .unicode = false)} index ∧
        raw[index]? = some c ∧
        diagnostic.index = index ∧ diagnostic.char = some c ∧ diagnostic.source = raw ∧
        diagnostic.state = Text.ofString "Format") ∧
    ∀ r₁ r₂,
      (∀ l₁ l₂, format asciiOnly d r₁ = .ok l₁ → format asciiOnly d r₂ = .ok l₂ →
        ∃ b₁ b₂ : Text, l₁ = b₁.inQuotes ∧ l₂ = b₂.inQuotes ∧
          format asciiOnly d (r₁ ++ r₂) = .ok (b₁ ++ b₂).inQuotes) ∧
      (∀ fault, format asciiOnly d r₁ = .error fault →
        ∃ diagnostic fault', fault.complaint r₁ = .malformed diagnostic ∧
          format asciiOnly d (r₁ ++ r₂) = .error fault' ∧
          fault'.complaint (r₁ ++ r₂) = .malformed { diagnostic with source := r₁ ++ r₂ }) ∧
      ∀ l₁ fault, format asciiOnly d r₁ = .ok l₁ → format asciiOnly d r₂ = .error fault →
        ∃ diagnostic fault', fault.complaint r₂ = .malformed diagnostic ∧
          format asciiOnly d (r₁ ++ r₂) = .error fault' ∧
          fault'.complaint (r₁ ++ r₂) =
            .malformed
              { diagnostic with
                source := r₁ ++ r₂
                index := diagnostic.index + r₁.length } := by
  refine ⟨?_, ?_, ?_⟩
  · intro raw
    rw [← exists_unwritable_iff]
    constructor
    · rintro ⟨c, hc, hascii, hunwritable⟩
      exact ⟨hascii, c, hc, hunwritable⟩
    · rintro ⟨hascii, c, hc, hunwritable⟩
      exact ⟨c, hc, hascii, hunwritable⟩
  · intro raw fault hformat
    rcases breaks_of_format hformat with ⟨index, c, hbreaks, rfl⟩
    have hleast := hbreaks.isLeast
    simp only [Unwritable, hbreaks.unwritable.1, true_and] at hleast
    exact ⟨_, c, index, complaint_of_breaks hbreaks, hleast, hbreaks.getElem?_eq, rfl, rfl, rfl,
      rfl⟩
  · intro r₁ r₂
    refine ⟨?_, ?_, ?_⟩
    · intro l₁ l₂ h₁ h₂
      rcases exists_body_of_format h₁ with ⟨body₁, hwrites₁, rfl⟩
      rcases exists_body_of_format h₂ with ⟨body₂, hwrites₂, rfl⟩
      refine ⟨body₁.text, body₂.text, rfl, rfl, ?_⟩
      rw [format_of_writes (hwrites₁.append hwrites₂), Body.text_append]
      rfl
    · intro fault h₁
      rcases breaks_of_format h₁ with ⟨index, c, hbreaks, rfl⟩
      have hjoined := hbreaks.append r₂
      exact ⟨_, _, complaint_of_breaks hbreaks, format_of_breaks hjoined,
        complaint_of_breaks hjoined⟩
    · intro l₁ fault h₁ h₂
      rcases exists_body_of_format h₁ with ⟨body₁, hwrites₁, rfl⟩
      rcases breaks_of_format h₂ with ⟨index, c, hbreaks, rfl⟩
      have hjoined := hbreaks.behind hwrites₁.not_unwritable
      rw [Nat.add_comm] at hjoined
      exact ⟨_, _, complaint_of_breaks hbreaks, format_of_breaks hjoined,
        complaint_of_breaks hjoined⟩

/-- Of the two characters behind a first text only the second one is beyond the unicode escapes. -/
theorem format_compositional_astral :
    format true ⟨0x40⟩ [.ofNat 0xE9] =
        .ok [.doubleQuote, .backslash, 'u', '0', '0', 'e', '9', .doubleQuote] ∧
      format true ⟨0x40⟩ [.ofNat 0xFFFF, .ofNat 0x1F600] =
        .error ⟨.notAscii (.ofNat 0x1F600), 1, .writing⟩ ∧
      ∃ fault diagnostic,
        format true ⟨0x40⟩ [.ofNat 0xE9, .ofNat 0xFFFF, .ofNat 0x1F600] = .error fault ∧
        fault.complaint [.ofNat 0xE9, .ofNat 0xFFFF, .ofNat 0x1F600] = .malformed diagnostic ∧
        diagnostic.index = 2 := by
  have h₁ : format true ⟨0x40⟩ [.ofNat 0xE9] =
      .ok [.doubleQuote, .backslash, 'u', '0', '0', 'e', '9', .doubleQuote] := by
    decide
  have h₂ : format true ⟨0x40⟩ [.ofNat 0xFFFF, .ofNat 0x1F600] =
      .error ⟨.notAscii (.ofNat 0x1F600), 1, .writing⟩ := by
    decide
  rcases ((format_compositional true ⟨0x40⟩).2.2 _ _).2.2 _ _ h₁ h₂ with
    ⟨diagnostic, fault, hcomplaint, hformat, hjoined⟩
  refine ⟨h₁, h₂, fault, _, hformat, hjoined, ?_⟩
  cases hcomplaint
  rfl

end QuotedLiteral
