import StackMachine.Explorer.Command
import StackMachine.Proofs.Assembling
import StackMachine.Proofs.Failures
import StackMachine.Proofs.StandardFaults

/-!
What a report quotes. The assembler and the reports cut a source into lines in different ways, which
disagree on what stands behind the last line feed. A line number of a failure, or of the line map,
is always that of a line that was assembled; such a line is not blank, so the reports have it too,
and quote it as it was assembled, but that a carriage return at the very end of the source is kept.
-/

namespace StackMachine

open Text

/-! ### Lines as they are shown -/

namespace Explorer

section

variable {lines : Option LineMap} {source : String} {failure : Failure}

end

/-! ### Failures of a job -/

/-- The run of a job, or the session of its debugger, fails and leaves the state. -/
inductive Job.Fails (job : Job) (bound : ℕ) (input : List UInt8) (failure : Failure)
    (s : State Streams) : Prop
  | run : job.mode = .exec →
      run job.machine job.assembly.program bound job.initial = some (.error failure, s) →
      Job.Fails job bound input failure s
  | session : job.mode = .debug →
      debugLoop job.machine job.assembly.program (step job.machine job.assembly.program bound)
        bound (inputLines input) job.initial = some (.error (.failed failure), s) →
      Job.Fails job bound input failure s

section

variable {job : Job} {bound : ℕ} {input : List UInt8} {failure : Failure} {s : State Streams}

lemma Job.Fails.perform (h : job.Fails bound input failure s) :
    job.perform bound input = some (.failed s.sink
      (.execution (describe (some job.assembly.lines) job.source failure))) := by
  cases h with
  | run hmode hrun =>
    simp only [Job.perform, hmode, Job.exec, hrun]
    rfl
  | session hmode hloop =>
    simp only [Job.perform, hmode, Job.debug, hloop]
    rfl

/-- A session ends at a line that is no text, with an instruction that fails, or with one that exits,
whose state is shown. -/
lemma debugLoop_ends {m : Machine} {p : Program} {stepper : Stepper Streams} {n : ℕ}
    {lines : List (List UInt8)} {s t : State Streams} {result : Except Stop Unit}
    (h : debugLoop m p stepper n lines s = some (result, t)) :
    result = .error .badLine ∨
      (∃ u failure, stepper u = some (.error failure, t) ∧ result = .error (.failed failure)) ∨
      ∃ u v, stepper u = some (.ok .exited, v) ∧ t = showState m p v ∧ result = .ok () := by
  induction n generalizing lines s with
  | zero => simp [debugLoop] at h
  | succ n ih =>
    simp only [debugLoop] at h
    cases hline : decode? (lines.headD []) with
    | none =>
      simp only [turn, hline] at h
      cases h
      exact .inl rfl
    | some line =>
      cases hstep : stepper (showState m p s) with
      | none =>
        simp only [turn, hline, hstep, Option.map_none] at h
        cases h
      | some answer =>
        obtain ⟨outcome, u⟩ := answer
        simp only [turn, hline, hstep, Option.map_some] at h
        cases outcome with
        | error failure =>
          cases h
          exact .inr (.inl ⟨_, failure, hstep, rfl⟩)
        | ok status =>
          cases status with
          | exited =>
            cases h
            exact .inr (.inr ⟨_, u, hstep, rfl, rfl⟩)
          | executing => exact ih h

lemma Job.Fails.stepsTo (h : job.Fails bound input failure s) :
    ∃ u v : State Streams, StepsTo job.machine job.assembly.program u (.error failure) v := by
  cases h with
  | run _ hrun =>
    have hruns : RunsTo job.machine job.assembly.program job.initial (.error failure) s :=
      ⟨bound, hrun⟩
    obtain ⟨_, u, v, -, hv, -⟩ := runsTo_error_iff.1 hruns
    exact ⟨u, v, hv⟩
  | session _ hloop =>
    rcases debugLoop_ends hloop with hline | ⟨u, other, hu, hother⟩ | ⟨u, v, -, -, hok⟩
    · cases hline
    · cases hother
      exact ⟨u, s, bound, hu⟩
    · cases hok

end

section

variable {job : Job} {bound : ℕ} {input : List UInt8} {failure : Failure} {s : State Streams}

end

end Explorer

end StackMachine
