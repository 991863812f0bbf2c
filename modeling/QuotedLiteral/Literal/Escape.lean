import QuotedLiteral.Dialect.Basic

/-!
# Escapes

The character after the backslash of an escape selects its kind.  Every
selector is guarded by exactly one flag, and no two kinds share a selector.
-/

namespace QuotedLiteral

/-- An escape of one letter or mark for one fixed character. -/
structure Mnemonic where
  flag : Flag
  selector : CodePoint
  denoted : CodePoint
deriving DecidableEq

/-- Two mnemonics denote the escape character; the first of them is preferred in writing. -/
def mnemonics : List Mnemonic :=
  [⟨.bell, 'a', .ofNat 0x07⟩,
   ⟨.backspace, 'b', .ofNat 0x08⟩,
   ⟨.formFeed, 'f', .ofNat 0x0C⟩,
   ⟨.newline, 'n', .lineFeed⟩,
   ⟨.carriageReturn, 'r', .carriageReturn⟩,
   ⟨.tab, 't', .tab⟩,
   ⟨.verticalTab, 'v', .ofNat 0x0B⟩,
   ⟨.backslash, .backslash, .backslash⟩,
   ⟨.singleQuote, .apostrophe, .apostrophe⟩,
   ⟨.doubleQuote, .doubleQuote, .doubleQuote⟩,
   ⟨.questionMark, '?', '?'⟩,
   ⟨.escapeLower, 'e', .ofNat 0x1B⟩,
   ⟨.escapeUpper, 'E', .ofNat 0x1B⟩]

/-- What a selector announces: a character at once, or digits to come. -/
inductive Announced where
  | character (denoted : CodePoint)
  | octal
  | hex
  | unicode
deriving DecidableEq

/-- The flag that guards a selector and what the selector announces.  An octal escape has no
letter: its first digit is the selector. -/
def selection? (c : CodePoint) : Option (Flag × Announced) :=
  match mnemonics.find? fun m => m.selector = c with
  | some m => some (m.flag, .character m.denoted)
  | none =>
      if c = 'u' then some (.unicode, .unicode)
      else if c = 'x' then some (.hex, .hex)
      else if Numeral.isOctalDigit c then some (.octal, .octal)
      else none

/-- The mnemonic that a dialect writes for a character. -/
def mnemonic? (d : Dialect) (c : CodePoint) : Option Mnemonic :=
  mnemonics.find? fun m => m.denoted = c && d.has m.flag

end QuotedLiteral
