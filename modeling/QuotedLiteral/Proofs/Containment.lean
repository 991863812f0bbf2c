import QuotedLiteral.Proofs.Reach

/-!
# What a run looks at

A run that reads a literal makes the steps of a configuration that is advanced
under one dialect.  Hence it looks at the source from its index on and not
beyond the end, and whatever stops it is a fault of the literal.
-/

namespace QuotedLiteral

/-!
# Complaints
-/

/-- The diagnostic that a fault of the literal is told in. -/
def Fault.diagnostic (source : Text) (fault : Fault) : Diagnostic where
  message := fault.message
  char := source.at? fault.index
  source := source
  index := fault.index
  state := Text.ofString fault.stage.label

theorem Fault.complaint_eq_malformed {fault : Fault} {code : Code}
    (hcode : fault.cause.code? = some code) (source : Text) :
    fault.complaint source = .malformed (fault.diagnostic source) := by
  rw [complaint, hcode]
  rfl

/-!
# Runs
-/

namespace Run

variable {source : Text} {start : Int} {d : Dialect}

/-- Where a run stopped on a character. -/
def stop? : Except Fault Literal → Option Int
  | .ok l => some l.close
  | .error fault =>
      if fault.cause = .unterminated ∨ fault.cause = .outsideSource then none
      else some fault.index

/-- The indexes at which a run looked at the source: one for each step, and where it stopped. -/
def lookups (run : Run) : List Int :=
  run.trace.map (fun entry => (entry.index : Int)) ++ (stop? run.outcome).toList

theorem lookups_after (entry : Entry) (run : Run) :
    (after entry run).lookups = (entry.index : Int) :: run.lookups := by
  have hstop : stop? (after entry run).outcome = stop? run.outcome := by
    cases run with
    | mk trace outcome =>
        cases outcome <;> rfl
  rw [lookups, hstop]
  rfl

/-- The run looks at the source from the start on, sees what stands there, and ends in no fault but
one of the literal. -/
structure StaysIn (source : Text) (start : Int) (run : Run) : Prop where
  lookups_mem : ∀ i ∈ run.lookups, start ≤ i ∧ i < source.length
  entry_char : ∀ entry ∈ run.trace, source.at? entry.index = some entry.char
  fault_code : ∀ fault, run.outcome = .error fault → ∃ code, fault.cause.code? = some code

theorem staysIn_fail {fault : Fault} {code : Code} (hcode : fault.cause.code? = some code)
    (hstop : stop? (.error fault) = none ∨
      start ≤ fault.index ∧ fault.index < source.length) :
    (fail fault).StaysIn source start where
  lookups_mem := by
    intro i hi
    change i ∈ (stop? (.error fault)).toList at hi
    rcases hstop with hnone | hinside
    · rw [hnone] at hi
      cases hi
    · have hindex : i = fault.index := by
        simp only [stop?] at hi
        split at hi
        · cases hi
        · exact List.mem_singleton.mp hi
      rw [hindex]
      exact hinside
  entry_char := by
    intro entry hentry
    cases hentry
  fault_code := by
    intro fault' hfault
    cases hfault
    exact ⟨code, hcode⟩

theorem StaysIn.after {entry : Entry} {run : Run} (hrun : run.StaysIn source start)
    (hchar : source.at? entry.index = some entry.char)
    (hindex : start ≤ entry.index ∧ (entry.index : Int) < source.length) :
    (after entry run).StaysIn source start where
  lookups_mem := by
    rw [lookups_after]
    exact List.forall_mem_cons.mpr ⟨hindex, hrun.lookups_mem⟩
  entry_char := List.forall_mem_cons.mpr ⟨hchar, hrun.entry_char⟩
  fault_code := by
    intro fault hfault
    apply hrun.fault_code fault
    cases houtcome : run.outcome with
    | error fault' =>
        simpa [Run.after, houtcome, Except.map] using hfault
    | ok l =>
        simp [Run.after, houtcome, Except.map] at hfault

theorem ofRest_staysIn {s : State} {index : Nat} {rest : Text}
    (hfits : s.FitsAt source start index) (hrest : source.drop index = rest) :
    (ofRest d s index rest).StaysIn source start := by
  induction s, index, rest using stepwise d with
  | ended s index =>
      rw [ofRest_nil]
      exact staysIn_fail rfl (Or.inl rfl)
  | closed index rest =>
      rw [ofRest_quote]
      have hlt : (index : Int) < source.length := hfits.index_lt hrest
      refine ⟨?_, by simp, by simp⟩
      intro i hi
      rw [List.mem_singleton.mp hi]
      exact ⟨hfits.start_le, hlt⟩
  | refused s index c rest cause hopen hstep =>
      rw [ofRest_of_step_error hopen hstep]
      rcases hfits.code?_of_step hrest hstep with ⟨code, hcode⟩
      exact staysIn_fail hcode (Or.inr ⟨hfits.start_le, hfits.index_lt hrest⟩)
  | moved s index c rest move hopen hstep ih =>
      rw [ofRest_of_move hopen hstep]
      have hchar : source.at? index = some c := at?_of_drop_eq_cons hrest
      have hleft : source.drop (index + (move.taken c).length) = move.left c rest :=
        (hfits.texts_of_move hrest move).2
      exact (ih (hfits.of_step hrest hstep) hleft).after hchar
        ⟨hfits.start_le, hfits.index_lt hrest⟩

end Run

theorem read_staysIn (d : Dialect) (source : Text) (index : Int) :
    (read d source index).StaysIn source index := by
  unfold read
  split
  · next hinside =>
      have hindex : (index.toNat : Int) = index := Int.toNat_of_nonneg hinside.1
      apply Run.ofRest_staysIn _ rfl
      rw [hindex]
      exact State.FitsAt.outside hinside
  · exact Run.staysIn_fail rfl (Or.inl rfl)

theorem parse_ok_or_malformed (d : Dialect) (source : Text) (index : Int) :
    (∃ l, parse d source index = .ok l) ∨
      ∃ fault, parse d source index = .error fault ∧
        fault.complaint source = .malformed (fault.diagnostic source) := by
  cases hparse : parse d source index with
  | ok l =>
      exact Or.inl ⟨l, rfl⟩
  | error fault =>
      rcases (read_staysIn d source index).fault_code fault hparse with ⟨code, hcode⟩
      exact Or.inr ⟨fault, rfl, fault.complaint_eq_malformed hcode source⟩

/-!
# The reader stays in its source
-/

end QuotedLiteral
