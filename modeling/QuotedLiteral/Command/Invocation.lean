import QuotedLiteral.Arguments.Scan
import QuotedLiteral.Command.Page
import QuotedLiteral.Command.Settings
import QuotedLiteral.Text.Integer

/-!
# Invocations

What an argument vector asks for: a command with its options, a page of help,
or nothing that makes sense.  Options are heeded from left to right, so that
help given before a mistake is help.
-/

namespace QuotedLiteral

open Arguments

/-- The index is missing if its option was given without a value. -/
inductive Task where
  | parse (index : Option Int) (showIndex : Bool) (literal : Option Text)
  | format (verbatim : Bool) (raw : Option Text)
  | flags (spec : Option Text)
deriving DecidableEq

/-- The options that hold for every command, and the command.  The dialect's option may be
absent, and it may be given without a value. -/
structure Invocation where
  verbosity : Int := 0
  rich : Bool := false
  dialect : Option (Option Text) := none
  task : Task
deriving DecidableEq

/-- There are no preferences if the dialect's option was given without a value. -/
def Invocation.preferences? (i : Invocation) : Option Preferences :=
  match i.dialect with
  | none => some ⟨i.verbosity, i.rich, none⟩
  | some none => none
  | some (some spec) => some ⟨i.verbosity, i.rich, some spec⟩

/-- Why no command is carried out. -/
inductive Refusal where
  | help (page : Page)
  | misuse (page : Page) (problem : Problem)
deriving DecidableEq

namespace Invocation

/-!
## Grammars
-/

inductive Key where
  | help
  | verbose
  | log
  | dialect
  | index
  | showIndex
  | verbatim
deriving DecidableEq

def switch (key : Key) (names : List String) (takesValue : Bool) : Switch Key where
  key := key
  names := names.map Text.ofString
  takesValue := takesValue

def helpSwitch : Switch Key :=
  switch .help ["-h", "--help"] false

def grammar : Page → Grammar Key
  | .program =>
      { switches :=
          [helpSwitch, switch .verbose ["-v", "--verbose"] false, switch .log ["-l", "--log"] false,
           switch .dialect ["-d", "--dialect"] true]
        operands := .command }
  | .parse =>
      { switches :=
          [helpSwitch, switch .index ["--index", "-i"] true,
           switch .showIndex ["--show-index"] false]
        operands := .optional }
  | .format =>
      { switches := [helpSwitch, switch .verbatim ["--unicode", "-u"] false]
        operands := .optional }
  | .flags =>
      { switches := [helpSwitch]
        operands := .optional }

/-- The names of the commands, the second name of a command behind its first. -/
def commandNames : List (Text × Page) :=
  [("parse", Page.parse), ("decode", .parse), ("format", .format), ("encode", .format),
   ("flags", .flags)].map fun entry => (Text.ofString entry.1, entry.2)

/-!
## Arguments of the commands
-/

/-- The arguments of a command; those of the other commands keep their defaults. -/
structure Chosen where
  index : Option Int := some 0
  showIndex : Bool := false
  verbatim : Bool := false
  operand : Option Text := none
deriving DecidableEq

def Chosen.heed (page : Page) (chosen : Chosen) : Given Key → Except Refusal Chosen
  | .switch .help _ _ => .error (.help page)
  | .switch .index _ none => .ok { chosen with index := none }
  | .switch .index title (some numeral) =>
      match Integer.read? numeral with
      | some n => .ok { chosen with index := some n }
      | none => .error (.misuse page (.badInteger title numeral))
  | .switch .showIndex _ _ => .ok { chosen with showIndex := true }
  | .switch .verbatim _ _ => .ok { chosen with verbatim := true }
  | .switch _ _ _ => .ok chosen
  | .operands words => .ok { chosen with operand := words.head? }

/-- A task and the words that fit nowhere. -/
structure Request where
  task : Task
  extra : List Text

def taskOf (page : Page) (chosen : Chosen) : Task :=
  match page with
  | .format => .format chosen.verbatim chosen.operand
  | .flags => .flags chosen.operand
  | _ => .parse chosen.index chosen.showIndex chosen.operand

def ofCommandWords (page : Page) (words : List Text) : Except Refusal Request :=
  let scan := Scan.ofWords (grammar page) words
  match scan.given.foldlM (Chosen.heed page) {} with
  | .error refusal => .error refusal
  | .ok chosen =>
      match scan.problem with
      | some problem => .error (.misuse page problem)
      | none => .ok ⟨taskOf page chosen, scan.extra⟩

/-!
## Arguments of the program
-/

def commandRequest : List Text → Except Refusal Request
  | [] => .error (.misuse .program (.missingOperand Scan.commandTitle))
  | name :: words =>
      match commandNames.lookup name with
      | some page => ofCommandWords page words
      | none =>
          .error
            (.misuse .program
              (.unknownChoice Scan.commandTitle name (commandNames.map Prod.fst)))

structure Progress where
  verbosity : Int := 0
  rich : Bool := false
  dialect : Option (Option Text) := none
  request : Option Request := none

def Progress.heed (progress : Progress) : Given Key → Except Refusal Progress
  | .switch .help _ _ => .error (.help .program)
  | .switch .verbose _ _ => .ok { progress with verbosity := progress.verbosity + 1 }
  | .switch .log _ _ => .ok { progress with rich := true }
  | .switch .dialect _ value => .ok { progress with dialect := some value }
  | .switch _ _ _ => .ok progress
  | .operands words => (commandRequest words).map fun request =>
      { progress with request := some request }

/-- Extra words are a mistake, but one that is noticed last. -/
def ofArguments (words : List Text) : Except Refusal Invocation :=
  let scan := Scan.ofWords (grammar .program) words
  match scan.given.foldlM Progress.heed {} with
  | .error refusal => .error refusal
  | .ok progress =>
      match scan.problem, progress.request with
      | some problem, _ => .error (.misuse .program problem)
      | none, none => .error (.misuse .program (.missingOperand Scan.commandTitle))
      | none, some request =>
          match scan.extra ++ request.extra with
          | [] => .ok ⟨progress.verbosity, progress.rich, progress.dialect, request.task⟩
          | extra => .error (.misuse .program (.unrecognized extra))

end Invocation
end QuotedLiteral
