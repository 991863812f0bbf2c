import QuotedLiteral.Dialect.Spec
import QuotedLiteral.Log

/-!
# Settings

The settings of a command come from its options and, where an option is not
given, from environment variables.
-/

namespace QuotedLiteral

/-- The environment variables that are looked at; one that is not set has no value. -/
structure Variables where
  dialect : Option Text := none
  ascii : Option Text := none
deriving DecidableEq

/-- The options that hold for every command. -/
structure Preferences where
  verbosity : Int := 0
  rich : Bool := false
  dialect : Option Text := none
deriving DecidableEq

structure Settings where
  dialect : Dialect
  asciiOnly : Bool
  log : LogSetting
deriving DecidableEq

namespace Variables

/-- The variable's spec, or that of C if it is unset or empty. -/
def dialectSpec (v : Variables) : Text :=
  match v.dialect with
  | some (c :: rest) => c :: rest
  | _ => Preset.c.name

def denials : List Text :=
  ["0", "false", "no", "off"].map Text.ofString

/-- Literals are kept to ASCII unless the variable denies it, in any letter case. -/
def asciiOnly (v : Variables) : Bool :=
  match v.ascii with
  | none => true
  | some value => !denials.contains (Text.lower value.strip)

end Variables

namespace Preferences

/-- An empty spec on the command line is the empty dialect, and not the lack of a spec. -/
def dialectSpec (p : Preferences) (v : Variables) : Text :=
  p.dialect.getD v.dialectSpec

def logLevel (p : Preferences) : Int :=
  if 3 ≤ p.verbosity then Severity.debug.level
  else if 1 ≤ p.verbosity then Severity.info.level
  else Severity.error.level

def settings (p : Preferences) (v : Variables) : Except UnknownName Settings :=
  (Dialect.ofSpec (p.dialectSpec v)).map fun d =>
    { dialect := d
      asciiOnly := v.asciiOnly
      log := { level := p.logLevel, rich := p.rich } }

end Preferences
end QuotedLiteral
