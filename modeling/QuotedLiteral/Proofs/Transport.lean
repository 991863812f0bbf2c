import Mathlib.Data.List.Basic
import QuotedLiteral.Proofs.Printable
import QuotedLiteral.Text.Encoding
import QuotedLiteral.Text.Line

/-!
# Text on its way from an output to an input

Plain lines are held by every encoding, each character in one byte, and are
neither changed by the reading of bytes nor by the translation of line ends.
-/

namespace QuotedLiteral

/-- A line of plain characters, or several. -/
def Text.IsPlainLines (t : Text) : Prop :=
  ∀ c ∈ t, c.IsPlain ∨ c = .lineFeed

namespace Text

theorem IsPlain.isPlainLines {t : Text} (h : t.IsPlain) : IsPlainLines (t ++ [.lineFeed]) := by
  intro c hc
  rcases List.mem_append.mp hc with hmem | hlast
  · exact Or.inl (h c hmem)
  · exact Or.inr (List.mem_singleton.mp hlast)

theorem IsPlainLines.value_lt {t : Text} (h : t.IsPlainLines) : ∀ c ∈ t, c.value < 0x80 := by
  intro c hc
  rcases h c hc with hplain | rfl
  · exact Nat.lt_trans hplain.2 (by decide)
  · decide

/-!
# Line ends
-/

theorem normalizeNewlines_eq_self {t : Text} (h : .carriageReturn ∉ t) :
    t.normalizeNewlines = t := by
  unfold normalizeNewlines
  induction t with
  | nil =>
      rfl
  | cons c rest ih =>
      rw [List.mem_cons, not_or] at h
      rw [normalizeNewlinesFrom, if_neg (Ne.symm h.1)]
      simpa using ih h.2

theorem IsPlainLines.carriageReturn_notMem {t : Text} (h : t.IsPlainLines) :
    .carriageReturn ∉ t := by
  intro hmem
  rcases h _ hmem with hplain | heq
  · exact absurd hplain (by decide)
  · cases heq

theorem dropFinalNewline_concat (t : Text) : dropFinalNewline (t ++ [.lineFeed]) = t := by
  rw [dropFinalNewline, List.getLast?_concat, if_pos rfl, List.dropLast_concat]

end Text

/-!
# Encodings
-/

namespace Encoding

theorem holds_of_lt {c : CodePoint} (h : c.value < 0x80) (encoding : Encoding) :
    encoding.holds c = true := by
  cases encoding with
  | utf8 =>
      have hsurrogate : c.isSurrogate = false := by
        rw [CodePoint.isSurrogate, Bool.and_eq_false_iff]
        exact Or.inl (decide_eq_false (by lia))
      rw [holds, hsurrogate]
      rfl
  | ascii =>
      exact decide_eq_true h
  | latin1 =>
      exact decide_eq_true (Nat.lt_trans h (by decide))

theorem escapeUnheld_plainLines {t : Text} (h : t.IsPlainLines) (encoding : Encoding) :
    encoding.escapeUnheld t = t :=
  escapeUnheld_eq_self fun c hc => holds_of_lt (h.value_lt c hc) encoding

theorem escapeUnheld_concat (encoding : Encoding) (t : Text) :
    encoding.escapeUnheld (t ++ [.lineFeed]) = encoding.escapeUnheld t ++ [.lineFeed] := by
  have hlast : Text.IsPlainLines [.lineFeed] := by
    intro c hc
    exact Or.inr (List.mem_singleton.mp hc)
  rw [escapeUnheld_append, escapeUnheld_plainLines hlast]

theorem count_lineFeed_escapeUnheld (encoding : Encoding) (t : Text) :
    (encoding.escapeUnheld t).count .lineFeed = t.count .lineFeed := by
  induction t with
  | nil =>
      rfl
  | cons c rest ih =>
      have hcons : encoding.escapeUnheld (c :: rest) =
          (if encoding.holds c then [c] else Numeral.escape c) ++ encoding.escapeUnheld rest :=
        rfl
      rw [hcons, List.count_append, ih]
      split
      · rw [← List.count_append, List.singleton_append]
      · next hunheld =>
          have hc : c ≠ .lineFeed := by
            intro hlineFeed
            rw [hlineFeed] at hunheld
            exact hunheld (holds_of_lt (by decide) encoding)
          have hescape := (Numeral.isPlain_escape c).isPrintable.lineFeed_notMem
          rw [List.count_eq_zero_of_not_mem hescape, List.count_cons_of_ne hc, Nat.zero_add]

theorem lineFeed_notMem_escapeUnheld (encoding : Encoding) {t : Text} (ht : .lineFeed ∉ t) :
    .lineFeed ∉ encoding.escapeUnheld t := by
  rw [← List.count_eq_zero] at ht ⊢
  rw [count_lineFeed_escapeUnheld, ht]

end Encoding

/-!
# Bytes
-/

namespace Utf8

/-- The bytes of a code point, in groups of six bits behind the first byte. -/
def encode (c : CodePoint) : List UInt8 :=
  let continuation (n : Nat) : UInt8 := (0x80 + n % 0x40).toUInt8
  if c.value < 0x80 then [c.value.toUInt8]
  else if c.value < 0x800 then [(0xC0 + c.value / 0x40).toUInt8, continuation c.value]
  else if c.value < 0x10000 then
    [(0xE0 + c.value / 0x1000).toUInt8, continuation (c.value / 0x40), continuation c.value]
  else
    [(0xF0 + c.value / 0x40000).toUInt8, continuation (c.value / 0x1000),
      continuation (c.value / 0x40), continuation c.value]

end Utf8

/-- The bytes of a text that the encoding holds. -/
def Encoding.bytes : Encoding → Text → List UInt8
  | utf8, t => t.flatMap Utf8.encode
  | _, t => t.map fun c => c.value.toUInt8

/-- Below U+0080 all encodings write the same bytes. -/
theorem Encoding.bytes_of_lt (encoding : Encoding) {t : Text} (h : ∀ c ∈ t, c.value < 0x80) :
    encoding.bytes t = t.map fun c => c.value.toUInt8 := by
  cases encoding with
  | utf8 =>
      rw [bytes, List.map_eq_flatMap]
      apply List.flatMap_congr
      intro c hc
      exact if_pos (h c hc)
  | ascii =>
      rfl
  | latin1 =>
      rfl

theorem Utf8.decode_bytes (encoding : Encoding) {t : Text} (h : ∀ c ∈ t, c.value < 0x80) :
    decode (encoding.bytes t) = t := by
  rw [encoding.bytes_of_lt h]
  unfold decode
  induction t with
  | nil =>
      rfl
  | cons c rest ih =>
      have hlt : c.value < 0x80 := h c List.mem_cons_self
      have hbyte : c.value.toUInt8.toNat = c.value := by
        rw [Nat.toUInt8_eq, UInt8.toNat_ofNat']
        exact Nat.mod_eq_of_lt (Nat.lt_trans hlt (by decide))
      have hread : advance c.value.toUInt8.toNat none = ([c], none) := by
        rw [hbyte, advance, begin, if_pos hlt, CodePoint.ofNat_value]
      have hrest := ih fun d hd => h d (List.mem_cons_of_mem c hd)
      rw [List.map_cons]
      change (advance c.value.toUInt8.toNat none).1 ++
        decodeFrom (advance c.value.toUInt8.toNat none).2 (rest.map _) = c :: rest
      rw [hread, hrest]
      rfl

end QuotedLiteral
