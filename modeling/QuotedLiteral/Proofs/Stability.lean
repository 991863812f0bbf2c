import QuotedLiteral.Proofs.Recognition
import QuotedLiteral.Proofs.Spelling

/-!
# The writer's choice is stable

Each character is written by the first form of a list that the dialect has.
Taking away flags that no written form needs changes no choice: forms that come
before the chosen one were not there, and the chosen one stays.
-/

namespace QuotedLiteral

theorem find?_eq_some_of_imp {α : Type} {p q : α → Bool} {xs : List α} {x : α}
    (hfind : xs.find? p = some x) (hx : q x = true) (himp : ∀ y, q y = true → p y = true) :
    xs.find? q = some x := by
  rcases List.find?_eq_some_iff_append.mp hfind with ⟨-, front, back, hsplit, hfront⟩
  refine List.find?_eq_some_iff_append.mpr ⟨hx, front, back, hsplit, ?_⟩
  intro y hy
  rw [Bool.not_eq_true', Bool.eq_false_iff]
  intro hqy
  have hnot := hfront y hy
  rw [himp y hqy] at hnot
  cases hnot

namespace Writing

variable {asciiOnly : Bool} {d e : Dialect} {c : CodePoint} {item : Item}

/-!
# One character
-/

theorem mnemonic?_stable {m : Mnemonic} (hmnemonic : mnemonic? d c = some m)
    (hhas : e.has m.flag = true) (hflags : ∀ f, e.has f = true → d.has f = true) :
    mnemonic? e c = some m := by
  rcases mnemonic?_eq_some hmnemonic with ⟨-, hdenoted, -⟩
  apply find?_eq_some_of_imp hmnemonic
  · rw [hhas, hdenoted]
    simp
  · intro n hn
    rw [Bool.and_eq_true] at hn ⊢
    exact ⟨hn.1, hflags n.flag hn.2⟩

theorem mnemonic?_eq_none_of_fewer (hmnemonic : mnemonic? d c = none)
    (hflags : ∀ f, e.has f = true → d.has f = true) : mnemonic? e c = none := by
  cases he : mnemonic? e c with
  | none =>
      rfl
  | some m =>
      rcases mnemonic?_eq_some he with ⟨hm, hdenoted, hhas⟩
      have hlacks := lacks_of_mnemonic?_eq_none hmnemonic hm hdenoted
      rw [hflags m.flag hhas] at hlacks
      cases hlacks

theorem lacks_of_fewer {f : Flag} (hlacks : d.has f = false)
    (hflags : ∀ g, e.has g = true → d.has g = true) : e.has f = false := by
  rw [Bool.eq_false_iff]
  intro hhas
  rw [hflags f hhas] at hlacks
  cases hlacks

theorem plainItem_stable (hguard : ∀ f, (plainItem d c).guard? = some f → e.has f = true)
    (hflags : ∀ f, e.has f = true → d.has f = true) : plainItem e c = plainItem d c := by
  unfold plainItem at hguard ⊢
  cases hcontrol : isControl c.value with
  | false =>
      rfl
  | true =>
      simp only [hcontrol, if_true] at hguard ⊢
      cases hoctal : d.has .octal with
      | true =>
          rw [hoctal] at hguard
          rw [hguard .octal rfl]
          rfl
      | false =>
          rw [lacks_of_fewer hoctal hflags]
          cases hhex : d.has .hex with
          | true =>
              rw [hoctal, hhex] at hguard
              rw [hguard .hex rfl]
              rfl
          | false =>
              rw [lacks_of_fewer hhex hflags]
              cases hunicode : d.has .unicode with
              | true =>
                  rw [hoctal, hhex, hunicode] at hguard
                  rw [hguard .unicode rfl]
              | false =>
                  rw [lacks_of_fewer hunicode hflags]

/-- A dialect between the flag that an item needs and the dialect that chose it chooses it too. -/
theorem item?_stable (hitem : item? asciiOnly d c = some item)
    (hguard : ∀ f, item.guard? = some f → e.has f = true)
    (hflags : ∀ f, e.has f = true → d.has f = true) : item? asciiOnly e c = some item := by
  unfold item? at hitem ⊢
  cases hmnemonic : mnemonic? d c with
  | some m =>
      rw [hmnemonic] at hitem
      cases hitem
      rw [mnemonic?_stable hmnemonic (hguard m.flag rfl) hflags]
  | none =>
      rw [hmnemonic] at hitem
      rw [mnemonic?_eq_none_of_fewer hmnemonic hflags]
      simp only at hitem ⊢
      split at hitem
      · next hascii =>
          rw [if_pos hascii]
          split at hitem
          · next hunicode =>
              cases hitem
              rw [if_pos ⟨hguard .unicode rfl, hunicode.2⟩]
          · cases hitem
      · next hascii =>
          cases hitem
          rw [if_neg hascii, plainItem_stable hguard hflags]

/-!
# Whole texts
-/

theorem Writes.stable {raw : Text} {body : Body} (hwrites : Writes asciiOnly d raw body)
    (hadmits : e.Admits body) (hflags : ∀ f, e.has f = true → d.has f = true) :
    Writes asciiOnly e raw body := by
  induction hwrites with
  | nil =>
      exact List.Forall₂.nil
  | cons hitem hlater ih =>
      rcases Dialect.admits_cons.mp hadmits with ⟨hguard, hadmitsLater⟩
      exact List.Forall₂.cons (item?_stable hitem hguard hflags) (ih hadmitsLater)

theorem Writes.bodyFrom_eq {raw : Text} {body : Body} (hwrites : Writes asciiOnly d raw body)
    (index : Nat) : bodyFrom asciiOnly d index raw = .ok body.text := by
  induction hwrites generalizing index with
  | nil =>
      rfl
  | cons hitem hlater ih =>
      rw [bodyFrom, piece?_eq_map_item?, hitem]
      simp only [Option.map_some, ih, Body.text_cons]
      rfl

end Writing

theorem format_of_writes {asciiOnly : Bool} {d : Dialect} {raw : Text} {body : Body}
    (hwrites : Writing.Writes asciiOnly d raw body) :
    format asciiOnly d raw = .ok (.doubleQuote :: (body.text ++ [.doubleQuote])) := by
  rw [format, hwrites.bodyFrom_eq]
  rfl

theorem exists_parse_iff_of_between {e : Dialect} {source : Text} {index : Int} {close : Nat}
    {body : Body} (hbetween : body.Between source index close) :
    (∃ l, parse e source index = .ok l) ↔ e.Admits body := by
  constructor
  · rintro ⟨l, hparse⟩
    rcases parse_eq_ok_iff.mp hparse with ⟨body', hbetween', hadmits, -⟩
    rcases hbetween.unique hbetween' with ⟨rfl, -⟩
    exact hadmits
  · intro hadmits
    refine ⟨⟨close, body.denoted⟩, parse_eq_ok_iff.mpr ?_⟩
    exact (spells_iff_of_between hbetween).mpr ⟨hadmits, rfl⟩

/-- The escapes in a written literal need flags that the dialect has, and every dialect between
those flags and the dialect writes the same literal.  They are the least flags to read it with. -/
theorem format_stable (asciiOnly : Bool) (d : Dialect) (raw literal : Text)
    (hquote : .doubleQuote ∈ raw → d.has .doubleQuote = true)
    (hslash : .backslash ∈ raw → d.has .backslash = true)
    (hformat : format asciiOnly d raw = .ok literal) :
    ∃ body : Body, body.Between literal 0 (literal.length - 1) ∧
      (∀ e : Dialect, (∃ l, parse e literal 0 = .ok l) ↔ ∀ f ∈ body.flags, e.has f = true) ∧
      (∀ f ∈ body.flags, d.has f = true) ∧
      ∀ e : Dialect, (∀ f ∈ body.flags, e.has f = true) →
        (∀ f, e.has f = true → d.has f = true) → format asciiOnly e raw = .ok literal := by
  rcases exists_body_of_format hformat with ⟨body, hwrites, rfl⟩
  have hlegal : body.LegalBefore [.doubleQuote] :=
    hwrites.legalBefore hquote hslash [.doubleQuote]
  have hlength : (CodePoint.doubleQuote :: (body.text ++ [.doubleQuote])).length - 1 =
      List.length ([] : Text) + 1 + body.text.length := by
    rw [List.length_cons, List.length_append, List.length_singleton, List.length_nil]
    lia
  have hbetween : body.Between (.doubleQuote :: (body.text ++ [.doubleQuote])) 0
      ((CodePoint.doubleQuote :: (body.text ++ [.doubleQuote])).length - 1) :=
    Body.between_iff.mpr ⟨[], [], rfl, rfl, hlength, hlegal⟩
  refine ⟨body, hbetween, ?_, hwrites.admits, ?_⟩
  · intro e
    exact exists_parse_iff_of_between hbetween
  · intro e hadmits hflags
    exact format_of_writes (hwrites.stable hadmits hflags)

/-- Of the two escapes for the escape character only the one chosen is needed. -/
theorem format_stable_escape :
    (.doubleQuote ∈ [CodePoint.ofNat 0x1B, .ofNat 0x01, .doubleQuote] →
        Dialect.has ⟨-1⟩ .doubleQuote = true) ∧
      (.backslash ∈ [CodePoint.ofNat 0x1B, .ofNat 0x01, .doubleQuote] →
        Dialect.has ⟨-1⟩ .backslash = true) ∧
      format true ⟨-1⟩ [.ofNat 0x1B, .ofNat 0x01, .doubleQuote] =
        .ok [.doubleQuote, .backslash, 'e', .backslash, '0', '0', '1', .backslash, .doubleQuote,
          .doubleQuote] ∧
      ∃ body : Body,
        body.Between [.doubleQuote, .backslash, 'e', .backslash, '0', '0', '1', .backslash,
          .doubleQuote, .doubleQuote] 0 9 ∧
        ∀ e : Dialect, (∀ f ∈ body.flags, e.has f = true) →
          (∀ f, e.has f = true → Dialect.has ⟨-1⟩ f = true) →
          format true e [.ofNat 0x1B, .ofNat 0x01, .doubleQuote] =
            .ok [.doubleQuote, .backslash, 'e', .backslash, '0', '0', '1', .backslash,
              .doubleQuote, .doubleQuote] := by
  have hformat : format true ⟨-1⟩ [.ofNat 0x1B, .ofNat 0x01, .doubleQuote] =
      .ok [.doubleQuote, .backslash, 'e', .backslash, '0', '0', '1', .backslash, .doubleQuote,
        .doubleQuote] := by
    decide
  rcases format_stable true ⟨-1⟩ _ _ (fun _ => by decide) (fun _ => by decide) hformat with
    ⟨body, hbetween, -, -, hsame⟩
  exact ⟨fun _ => by decide, fun _ => by decide, hformat, body, hbetween, hsame⟩

end QuotedLiteral
