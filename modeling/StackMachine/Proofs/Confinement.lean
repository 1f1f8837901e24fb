import Mathlib.Tactic.Common
import StackMachine.Session

/-!
Runs in a store are confined. Whatever is asked of the run of a task, and whatever the routines of the
machine find in the memory and leave there, of all tasks only this one changes, and of this one only
the state. The lemmas follow execution: a request, a routine, an instruction, a run, an operation.
-/

namespace StackMachine

variable {γ α β : Type}

namespace Session

variable {i : ℕ} {s t u : Session γ}

/-! ### The store -/

section

variable (f : State Transcript → State Transcript)

lemma getElem?_modify_self :
    (s.modify i f).tasks[i]? = s.tasks[i]?.map fun task => { task with state := f task.state } :=
  List.getElem?_modify_eq ..

lemma getElem?_modify_of_ne {j : ℕ} (h : j ≠ i) : (s.modify i f).tasks[j]? = s.tasks[j]? :=
  List.getElem?_modify_ne _ _ h.symm

end

/-- From `s` to `t` only the memory and the state of task number `i` may have changed. -/
structure Confined (i : ℕ) (s t : Session γ) : Prop where
  machine : t.machine = s.machine
  length : t.tasks.length = s.tasks.length
  program : t.tasks[i]?.map Task.program = s.tasks[i]?.map Task.program
  others : ∀ j, j ≠ i → t.tasks[j]? = s.tasks[j]?

namespace Confined

lemma refl (i : ℕ) (s : Session γ) : Confined i s s :=
  ⟨rfl, rfl, rfl, fun _ _ => rfl⟩

lemma trans (h : Confined i s t) (h' : Confined i t u) : Confined i s u where
  machine := h'.machine.trans h.machine
  length := h'.length.trans h.length
  program := h'.program.trans h.program
  others j hj := (h'.others j hj).trans (h.others j hj)

lemma modify (i : ℕ) (f : State Transcript → State Transcript) (s : Session γ) :
    Confined i s (s.modify i f) where
  machine := rfl
  length := List.length_modify ..
  program := by
    rw [getElem?_modify_self]
    cases s.tasks[i]? <;> rfl
  others _ hj := getElem?_modify_of_ne f hj

lemma memory (i : ℕ) (s : Session γ) (memory : γ) : Confined i s { s with memory } :=
  ⟨rfl, rfl, rfl, fun _ _ => rfl⟩

end Confined

/-- Where the way of going on gives something, it has stayed with task number `i`. -/
def Confines (i : ℕ) (f : Session γ → Option (β × Session γ)) : Prop :=
  ∀ ⦃s b t⦄, f s = some (b, t) → Confined i s t

/-! ### Requests and routines -/

theorem serve_confines {step : Stepper γ} {run : Runner γ} (hstep : Confines i step)
    (hrun : Confines i run) (r : Request) : Confines i (serve i step run r) := by
  intro s reply t h
  cases r with
  | step => exact hstep h
  | run => exact hrun h
  | stack | pc | output | debugging | display =>
    obtain ⟨_, -, heq⟩ := Option.map_eq_some_iff.1 h
    cases heq
    exact .refl i s
  | setStack | jump | write | print | debug | reset =>
    cases h
    exact .modify i _ s

end Session

open Session

theorem Routine.exec_confines {i : ℕ} {host : Session.Host γ} (h : ∀ r, Confines i (host r))
    (routine : Routine γ α) : Confines i (routine.exec host) := by
  intro s b t heq
  induction routine generalizing s with
  | pure value =>
    cases heq
    exact .refl i _
  | fail fault =>
    cases heq
    exact .refl i _
  | ask r next ih =>
    rw [Routine.exec] at heq
    cases hr : host r s with
    | none => simp [hr] at heq
    | some answer =>
      rw [hr] at heq
      exact (h r hr).trans (ih answer.1 heq)
  | access keep next ih => exact (Confined.memory i s (keep s.memory)).trans (ih s.memory heq)

namespace Session

variable {i : ℕ} {s : Session γ}

/-! ### Execution -/

theorem cycle_confines {host : Host γ} (h : ∀ r, Confines i (host r)) :
    Confines i (cycle i host) := by
  intro s result t heq
  cases htask : s.tasks[i]? with
  | none => simp [cycle, htask] at heq
  | some task =>
    cases hfetch : task.program.fetch? task.state.pc with
    | none =>
      cases (cycle_of_fetch_none htask hfetch).symm.trans heq
      exact .refl i s
    | some instr =>
      cases haction : s.machine.instructions.action? instr.op with
      | none =>
        cases (cycle_of_action_none htask hfetch haction).symm.trans heq
        exact .modify i _ s
      | some action =>
        cases hnext : nextAddress? task.state.pc with
        | none =>
          cases (cycle_of_next_none htask hfetch haction hnext).symm.trans heq
          exact .modify i _ s
        | some next =>
          rw [cycle_of_action htask hfetch haction hnext] at heq
          obtain ⟨⟨done, u⟩, hexec, hsettle⟩ := Option.bind_eq_some_iff.1 heq
          obtain ⟨state, -, hlast⟩ := Option.map_eq_some_iff.1 hsettle
          cases hlast
          exact ((Confined.modify i _ s).trans (.modify i _ _)).trans
            (Routine.exec_confines h _ hexec)

lemma announce_confined (i : ℕ) (s : Session γ) : Confined i s (announce i s) := by
  unfold announce
  split
  · exact .refl i s
  · exact .modify i _ s

theorem loop_confines {step : Stepper γ} (h : Confines i step) (n : ℕ) :
    Confines i (loop i step n) := by
  intro s result t heq
  induction n generalizing s with
  | zero => cases heq
  | succ n ih =>
    rw [loop] at heq
    split at heq
    · cases heq
    · next hstep =>
      cases heq
      exact (h hstep).trans (.modify i _ _)
    · next hstep =>
      obtain ⟨_, -, heq⟩ := Option.map_eq_some_iff.1 heq
      cases heq
      exact h hstep
    · next hstep => exact (h hstep).trans (ih heq)

/-- **A step** stays within the task, and so does every step and run that its routine makes. -/
theorem step_confines (i n : ℕ) : Confines i (step i n : Stepper γ) := by
  -- steps and runs that are nested in this one have the smaller bound
  induction n with
  | zero =>
    intro s result t heq
    cases heq
  | succ n ih =>
    refine cycle_confines (serve_confines ih fun s result t heq => ?_)
    exact (announce_confined i s).trans (loop_confines ih n heq)

theorem run_confines (i n : ℕ) : Confines i (run i n : Runner γ) :=
  fun s _ _ heq => (announce_confined i s).trans (loop_confines (step_confines i n) n heq)

/-- **An operation** stays within its task. -/
theorem perform_confines (bound i : ℕ) (script : Script α) :
    Confines i (perform bound i script : Session γ → _) := by
  intro s report t heq
  have hanswer : ∀ r, Confines i (answer i bound r : Session γ → _) :=
    serve_confines (step_confines i bound) (run_confines i bound)
  unfold perform at heq
  split at heq
  · cases heq
  · next hexec =>
    obtain ⟨_, -, heq⟩ := Option.map_eq_some_iff.1 heq
    cases heq
    exact (Confined.modify i _ s).trans (Routine.exec_confines hanswer _ hexec)

end Session

end StackMachine
