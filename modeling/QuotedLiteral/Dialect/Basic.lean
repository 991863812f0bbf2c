import QuotedLiteral.Dialect.Flag
import QuotedLiteral.Text.Numeral

/-!
# Dialects

A dialect is the set of escapes that a literal may use, held as a number of any
size and sign whose low sixteen bits are the flags.  Negative numbers are read
in two's complement, so that minus one has every flag.
-/

namespace QuotedLiteral

/-- Bitwise conjunction and disjunction of integers in two's complement. -/
def conjunction : Int → Int → Int
  | .ofNat m, .ofNat n => .ofNat (m &&& n)
  | .ofNat m, .negSucc n => .ofNat (m ^^^ (m &&& n))
  | .negSucc m, .ofNat n => .ofNat (n ^^^ (n &&& m))
  | .negSucc m, .negSucc n => .negSucc (m ||| n)

structure Dialect where
  mask : Int
deriving DecidableEq

namespace Dialect

/-- Whether the dialect shares a bit with the mask. -/
def meets (d : Dialect) (mask : Int) : Bool :=
  conjunction d.mask mask ≠ 0

def has (d : Dialect) (f : Flag) : Bool :=
  d.meets f.value

def maskOf (flags : List Flag) : Nat :=
  flags.foldr (fun f mask => f.value ||| mask) 0

def ofFlags (flags : List Flag) : Dialect where
  mask := maskOf flags

def flags (d : Dialect) : List Flag :=
  Flag.all.filter d.has

end Dialect

/-!
## Presets
-/

inductive Preset where
  | c
  | gcc
  | java
  | scala
  | permissive
deriving DecidableEq, Repr

namespace Preset

/-- Presets with equal flags are told apart by this order: the first one names the dialect. -/
def all : List Preset :=
  [c, gcc, java, scala, permissive]

def label : Preset → String
  | c => "c"
  | gcc => "gcc"
  | java => "java"
  | scala => "scala"
  | permissive => "permissive"

def name (p : Preset) : Text :=
  Text.ofString p.label

def cFlags : List Flag :=
  [.bell, .backspace, .formFeed, .newline, .carriageReturn, .tab, .verticalTab, .hex,
   .backslash, .singleQuote, .doubleQuote, .questionMark, .octal]

def javaFlags : List Flag :=
  [.backspace, .formFeed, .newline, .carriageReturn, .tab, .unicode, .backslash,
   .singleQuote, .doubleQuote, .octal]

def flags : Preset → List Flag
  | c => cFlags
  | gcc => cFlags ++ [.escapeLower, .escapeUpper]
  | java => javaFlags
  | scala => javaFlags
  | permissive => Flag.all

def dialect (p : Preset) : Dialect :=
  .ofFlags p.flags

end Preset

namespace Dialect

def preset? (d : Dialect) : Option Preset :=
  Preset.all.find? fun p => p.dialect = d

/-- One line for a dialect: its name, its number and the names of its flags. -/
def describe (name : Text) (d : Dialect) : Text :=
  let names :=
    match d.flags with
    | [] => Text.ofString "<none>"
    | flags => Text.join (Text.ofString " ") (flags.map Flag.name)
  name ++ Text.ofString ": " ++ Numeral.hexadecimal 6 d.mask ++ Text.ofString " " ++ names

end Dialect
end QuotedLiteral
