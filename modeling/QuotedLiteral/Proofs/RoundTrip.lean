import QuotedLiteral.Proofs.Recognition
import QuotedLiteral.Proofs.Spelling

/-!
# Round trips

A literal that is written under one dialect is read back, wherever it stands in
a source, under every dialect with at least the same flags.
-/

namespace QuotedLiteral

/-- The only texts excepted are those with a double quote or a backslash that the writing dialect
has no mnemonic for. -/
theorem parse_of_format (asciiOnly : Bool) (d e : Dialect) (raw literal before after : Text)
    (hquote : .doubleQuote ∈ raw → d.has .doubleQuote = true)
    (hslash : .backslash ∈ raw → d.has .backslash = true)
    (hformat : format asciiOnly d raw = .ok literal)
    (hflags : ∀ f, d.has f = true → e.has f = true) :
    parse e (before ++ literal ++ after) before.length =
      .ok ⟨before.length + literal.length - 1, raw⟩ := by
  rcases exists_body_of_format hformat with ⟨body, hwrites, rfl⟩
  have hlegal : body.LegalBefore (.doubleQuote :: after) :=
    hwrites.legalBefore hquote hslash (.doubleQuote :: after)
  have hadmits : e.Admits body := hwrites.admits.mono hflags
  have hsource : before ++ (.doubleQuote :: (body.text ++ [.doubleQuote])) ++ after =
      before ++ .doubleQuote :: (body.text ++ .doubleQuote :: after) := by
    simp
  have hclose :
      before.length + (CodePoint.doubleQuote :: (body.text ++ [.doubleQuote])).length - 1 =
        before.length + 1 + body.text.length := by
    rw [List.length_cons, List.length_append, List.length_singleton]
    lia
  rw [hsource, hclose, parse_closed hlegal hadmits, hwrites.denoted_eq]

/-- A bell before a digit, a surrogate and a character that has to be escaped, in a source where
digits surround the literal. -/
theorem parse_of_format_java :
    (∀ f, Preset.java.dialect.has f = true → Dialect.has ⟨-1⟩ f = true) ∧
      format true Preset.java.dialect [.ofNat 0x07, '7', .ofNat 0xD800, .backslash] =
        .ok [.doubleQuote, .backslash, '0', '0', '7', '7', .backslash, 'u', 'd', '8', '0', '0',
          .backslash, .backslash, .doubleQuote] ∧
      parse ⟨-1⟩
          [.tab, .doubleQuote, .backslash, '0', '0', '7', '7', .backslash, 'u', 'd', '8', '0', '0',
            .backslash, .backslash, .doubleQuote, '7'] 1 =
        .ok ⟨15, [.ofNat 0x07, '7', .ofNat 0xD800, .backslash]⟩ := by
  have hflags : ∀ f, Preset.java.dialect.has f = true → Dialect.has ⟨-1⟩ f = true := by
    intro f
    cases f <;> decide
  have hformat : format true Preset.java.dialect [.ofNat 0x07, '7', .ofNat 0xD800, .backslash] =
      .ok [.doubleQuote, .backslash, '0', '0', '7', '7', .backslash, 'u', 'd', '8', '0', '0',
        .backslash, .backslash, .doubleQuote] := by
    decide
  refine ⟨hflags, hformat, ?_⟩
  exact parse_of_format true Preset.java.dialect ⟨-1⟩ _ _ [.tab] ['7'] (fun _ => by decide)
    (fun _ => by decide) hformat hflags

end QuotedLiteral
