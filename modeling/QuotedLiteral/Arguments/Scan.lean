import QuotedLiteral.Arguments.Token

/-!
# Scanning arguments

A scan goes through the words once and says, in their order, which options were
given with which values and what was given as operands.  It stops at the first
problem; what was given before it stands.
-/

namespace QuotedLiteral
namespace Arguments

/-- An option that takes a value may be given without it, if the value was dropped. -/
inductive Given (κ : Type) where
  | switch (key : κ) (title : Text) (value : Option Text)
  | operands (words : List Text)

/-- Words that fit nowhere are extra; they are no problem of the scan. -/
structure Scan (κ : Type) where
  given : List (Given κ)
  extra : List Text
  problem : Option Problem

/-- What one word says: the options in it, and the one whose value the next word has to give. -/
structure Cluster (κ : Type) where
  given : List (Given κ)
  awaiting : Option (Switch κ)

namespace Cluster

variable {κ : Type}

def bare (s : Switch κ) : Cluster κ :=
  if s.takesValue then ⟨[], some s⟩ else ⟨[.switch s.key s.title none], none⟩

/-- A value in the same word that is the terminator is dropped. -/
def assigned (s : Switch κ) (value : Text) : Except Problem (Cluster κ) :=
  if s.takesValue then
    .ok ⟨[.switch s.key s.title (if value = terminator then none else some value)], none⟩
  else
    .error (.unusedValue s.title value)

/-- The tail is the value of an option that takes one.  Behind an option that takes none it
starts with the letter of another option. -/
def ofTail (g : Grammar κ) (s : Switch κ) : Text → Except Problem (Cluster κ)
  | [] => assigned s []
  | c :: rest =>
      if s.takesValue then assigned s (c :: rest)
      else
        match g.find? [dash, c] with
        | none => .error (.unusedValue s.title (c :: rest))
        | some next =>
            (if rest = [] then .ok (bare next) else ofTail g next rest).map fun later =>
              { later with given := .switch s.key s.title none :: later.given }

def ofAttachment (g : Grammar κ) (s : Switch κ) : Attachment → Except Problem (Cluster κ)
  | .nothing => .ok (bare s)
  | .assigned value => assigned s value
  | .tail rest => ofTail g s rest

end Cluster

namespace Scan

variable {κ : Type}

def stop (problem : Problem) : Scan κ where
  given := []
  extra := []
  problem := some problem

def withGiven (given : List (Given κ)) (extra : List Text) (scan : Scan κ) : Scan κ where
  given := given ++ scan.given
  extra := extra ++ scan.extra
  problem := scan.problem

def dropTerminator : List (Text × Token κ) → List (Text × Token κ)
  | (_, .terminator) :: words => words
  | words => words

theorem length_dropTerminator_le (words : List (Text × Token κ)) :
    (dropTerminator words).length ≤ words.length := by
  unfold dropTerminator
  split
  · simp
  · exact Nat.le_refl _

def commandTitle : Text := Text.ofString "command"

/-- The flag tells whether the operand was taken already. -/
def ofTokens (g : Grammar κ) (taken : Bool) : List (Text × Token κ) → Scan κ
  | [] =>
      if g.operands = .command ∧ !taken then stop (.missingOperand commandTitle)
      else ⟨[], [], none⟩
  | (word, .unknown) :: words => (ofTokens g taken words).withGiven [] [word]
  | (word, .operand) :: words =>
      if taken then (ofTokens g taken words).withGiven [] [word]
      else
        match g.operands with
        | .command => ⟨[.operands (word :: words.map Prod.fst)], [], none⟩
        | .optional =>
            have := length_dropTerminator_le words
            (ofTokens g true (dropTerminator words)).withGiven [.operands [word]] []
  | (word, .terminator) :: words =>
      if taken then (ofTokens g taken words).withGiven [] [word]
      else
        match g.operands with
        | .command =>
            if words.isEmpty then (stop (.missingOperand commandTitle)).withGiven [] [word]
            else ⟨[.operands (word :: words.map Prod.fst)], [], none⟩
        | .optional => ofTokens g taken words
  | (_, .switch s attachment) :: words =>
      match Cluster.ofAttachment g s attachment with
      | .error problem => stop problem
      | .ok cluster =>
          match cluster.awaiting with
          | none => (ofTokens g taken words).withGiven cluster.given []
          | some last =>
              match behind : words with
              | (value, .operand) :: later =>
                  (ofTokens g taken later).withGiven
                    (cluster.given ++ [.switch last.key last.title (some value)]) []
              | _ => stop (.missingValue last.title)
termination_by words => words.length
decreasing_by
  all_goals simp only [List.length_cons]
  all_goals omega

def ofWords (g : Grammar κ) (words : List Text) : Scan κ :=
  match Token.ofWords g words with
  | .error problem => stop problem
  | .ok tokens => ofTokens g false tokens

end Scan
end Arguments
end QuotedLiteral
