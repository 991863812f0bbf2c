import QuotedLiteral.Dialect.Basic
import QuotedLiteral.Text.Whitespace

/-!
# Dialect specs

A spec writes a dialect as names of presets and flags, joined by commas or plus
signs, in any letter case and with white space around each.  The dialect is the
union of what the names stand for; blank items stand for nothing.
-/

namespace QuotedLiteral

structure UnknownName where
  item : Text
deriving DecidableEq

def UnknownName.message (u : UnknownName) : Text :=
  Text.ofString "unknown escape flag or dialect preset '" ++ u.item ++ Text.ofString "'"

namespace Dialect
namespace Spec

def isSeparator (c : CodePoint) : Bool :=
  c = ',' || c = '+'

def items (spec : Text) : List Text :=
  (spec.splitOnP isSeparator).map Text.strip

/-- Flags are looked up by label, the upper case of the item's lower case. -/
def flag? (lowered : Text) : Option Flag :=
  Flag.all.find? fun f => Text.ofString f.label = Text.upper lowered

def preset? (lowered : Text) : Option Preset :=
  Preset.all.find? fun p => p.name = lowered

/-- The mask that an item stands for. -/
def itemMask? (item : Text) : Option Nat :=
  let lowered := Text.lower item
  if lowered = [] then some 0
  else
    match preset? lowered with
    | some p => some (maskOf p.flags)
    | none => (flag? lowered).map Flag.value

/-- The union of the items' masks; the first unknown item is reported. -/
def unite : List Text → Except UnknownName Nat
  | [] => .ok 0
  | item :: rest =>
      match itemMask? item with
      | none => .error ⟨item⟩
      | some mask => (unite rest).map (mask ||| ·)

theorem unite_append (xs ys : List Text) :
    unite (xs ++ ys) =
      match unite xs with
      | .error unknown => .error unknown
      | .ok mask => (unite ys).map (mask ||| ·) := by
  induction xs with
  | nil =>
      cases h : unite ys <;> simp [unite, h, Except.map]
  | cons item rest ih =>
      rw [List.cons_append, unite, unite]
      cases itemMask? item with
      | none =>
          rfl
      | some mask =>
          rw [ih]
          cases unite rest with
          | error unknown =>
              rfl
          | ok more =>
              cases unite ys with
              | error unknown =>
                  rfl
              | ok last =>
                  simp [Except.map, Nat.or_assoc]

end Spec

def ofSpec (spec : Text) : Except UnknownName Dialect :=
  (Spec.unite (Spec.items spec)).map fun mask => ⟨mask⟩

end Dialect
end QuotedLiteral
