import QuotedLiteral.Text.Numeral

/-!
# Encodings

What an output encoding can hold, escapes for what it cannot, and the reading
of UTF-8 bytes.
-/

namespace QuotedLiteral

inductive Encoding where
  | utf8
  | ascii
  | latin1
deriving DecidableEq

namespace Encoding

def holds : Encoding → CodePoint → Bool
  | utf8, c => !c.isSurrogate
  | ascii, c => c.value < 0x80
  | latin1, c => c.value < 0x100

/-- Code points that the encoding cannot hold become numeric escapes. -/
def escapeUnheld (encoding : Encoding) (t : Text) : Text :=
  t.flatMap fun c => if encoding.holds c then [c] else Numeral.escape c

theorem escapeUnheld_append (encoding : Encoding) (s t : Text) :
    encoding.escapeUnheld (s ++ t) = encoding.escapeUnheld s ++ encoding.escapeUnheld t := by
  simp [escapeUnheld]

theorem escapeUnheld_eq_self {encoding : Encoding} {t : Text}
    (held : ∀ c ∈ t, encoding.holds c = true) : encoding.escapeUnheld t = t := by
  induction t with
  | nil =>
      rfl
  | cons c rest ih =>
      have here : encoding.holds c = true := held c (by simp)
      have there := ih fun d member => held d (by simp [member])
      simp only [escapeUnheld] at there
      simp [escapeUnheld, here, there]

def label : Encoding → String
  | utf8 => "utf-8"
  | ascii => "ascii"
  | latin1 => "latin-1"

/-- Why the encoding cannot hold a code point. -/
def limit : Encoding → String
  | utf8 => "surrogates not allowed"
  | ascii => "ordinal not in range(128)"
  | latin1 => "ordinal not in range(256)"

end Encoding

/-- The first run of code points in a text that an encoding cannot hold. -/
structure Unheld where
  encoding : Encoding
  first : Nat
  last : Nat
  char : CodePoint
deriving DecidableEq

namespace Unheld

def find? (encoding : Encoding) (t : Text) : Option Unheld :=
  match t.dropWhile encoding.holds with
  | [] => none
  | c :: rest =>
      let first := (t.takeWhile encoding.holds).length
      some ⟨encoding, first, first + (rest.takeWhile fun d => !encoding.holds d).length, c⟩

theorem find?_eq_none {encoding : Encoding} {t : Text}
    (held : ∀ c ∈ t, encoding.holds c = true) : find? encoding t = none := by
  induction t with
  | nil =>
      rfl
  | cons c rest ih =>
      have here : encoding.holds c = true := held c (by simp)
      have there := ih fun d member => held d (by simp [member])
      unfold find? at there ⊢
      rw [List.dropWhile_cons, if_pos here]
      split at there
      · rfl
      · cases there

def message (u : Unheld) : Text :=
  let place :=
    if u.first = u.last then
      Text.ofString "character '" ++ Numeral.escape u.char ++ Text.ofString "' in position "
        ++ Numeral.digits 10 u.first
    else
      Text.ofString "characters in position " ++ Numeral.digits 10 u.first ++ Text.ofString "-"
        ++ Numeral.digits 10 u.last
  Text.ofString "'" ++ Text.ofString u.encoding.label ++ Text.ofString "' codec can't encode "
    ++ place ++ Text.ofString ": " ++ Text.ofString u.encoding.limit

end Unheld

/-!
## UTF-8

A byte sequence that is not well formed gives one U+FFFD for each maximal
beginning of a well-formed sequence in it, and one for every byte that begins
none.
-/

namespace Utf8

/-- A begun sequence: its value so far, the continuation bytes it still lacks, and the range
of the next of them. -/
structure Sequence where
  value : Nat
  lacking : Nat
  low : Nat
  high : Nat

/-- What a byte begins, if it stands where a sequence can begin. -/
def begin (byte : Nat) : Text × Option Sequence :=
  if byte < 0x80 then ([CodePoint.ofNat byte], none)
  else if 0xC2 ≤ byte ∧ byte ≤ 0xDF then ([], some ⟨byte - 0xC0, 0, 0x80, 0xBF⟩)
  else if byte = 0xE0 then ([], some ⟨0, 1, 0xA0, 0xBF⟩)
  else if byte = 0xED then ([], some ⟨0xD, 1, 0x80, 0x9F⟩)
  else if 0xE1 ≤ byte ∧ byte ≤ 0xEF then ([], some ⟨byte - 0xE0, 1, 0x80, 0xBF⟩)
  else if byte = 0xF0 then ([], some ⟨0, 2, 0x90, 0xBF⟩)
  else if byte = 0xF4 then ([], some ⟨4, 2, 0x80, 0x8F⟩)
  else if 0xF1 ≤ byte ∧ byte ≤ 0xF3 then ([], some ⟨byte - 0xF0, 2, 0x80, 0xBF⟩)
  else ([CodePoint.replacement], none)

def advance (byte : Nat) : Option Sequence → Text × Option Sequence
  | none => begin byte
  | some s =>
      if s.low ≤ byte ∧ byte ≤ s.high then
        let value := s.value * 0x40 + (byte - 0x80)
        match s.lacking with
        | 0 => ([CodePoint.ofNat value], none)
        | lacking + 1 => ([], some ⟨value, lacking, 0x80, 0xBF⟩)
      else
        (CodePoint.replacement :: (begin byte).1, (begin byte).2)

def decodeFrom : Option Sequence → List UInt8 → Text
  | none, [] => []
  | some _, [] => [CodePoint.replacement]
  | pending, byte :: rest =>
      let read := advance byte.toNat pending
      read.1 ++ decodeFrom read.2 rest

def decode (bytes : List UInt8) : Text :=
  decodeFrom none bytes

end Utf8
end QuotedLiteral
