import StackMachine.Proofs.Confinement
import StackMachine.Proofs.Simulation

/-!
Runs that share a machine do what they do alone. The routines of a machine may keep things in its
memory, such as counts or values found before, as long as what they ask of a run does not depend on
them: each plays the script of an action, whatever it finds in the memory. Then a run in the store is
simulated by the run of its state alone, in which there is no memory.
-/

namespace StackMachine

variable {γ α : Type} {I : γ → Prop}

/-! ### Routines that do not depend on the memory -/

/-- Whatever it finds in a memory that satisfies `I`, the routine asks what the script asks and ends
as it ends, and what it leaves in the memory satisfies `I`. -/
inductive Routine.Plays (I : γ → Prop) : Routine γ α → Script α → Prop
  | pure (value : α) : Plays I (.pure value) (.pure value)
  | fail (fault : Fault) : Plays I (.fail fault) (.fail fault)
  | ask {r : Request} {next : r.Reply → Routine γ α} {next' : r.Reply → Script α} :
      (∀ reply, Plays I (next reply) (next' reply)) → Plays I (.ask r next) (.ask r next')
  | access {keep : γ → γ} {next : γ → Routine γ α} {script : Script α} :
      (∀ memory, I memory → I (keep memory)) → (∀ memory, I memory → Plays I (next memory) script) →
      Plays I (.access keep next) script

lemma Script.routine_plays (script : Script α) : Routine.Plays I script.routine script := by
  induction script with
  | pure value => exact .pure value
  | fail fault => exact .fail fault
  | ask r next ih => exact .ask ih

/-- The routines of the machine play its actions. -/
def SharedMachine.Plays (m : SharedMachine γ) (I : γ → Prop) : Prop :=
  ∀ id action, m.instructions.action? id = some action →
    ∀ arg, (m.routine id arg).Plays I (action arg)

namespace Session

/-- In the store task number `i` is a run of `p` in state `t`, on the machine `m`, and the memory
satisfies `I`. -/
structure Shows (m : SharedMachine γ) (I : γ → Prop) (i : ℕ) (p : Program) (s : Session γ)
    (t : State Transcript) : Prop where
  machine : s.machine = m
  memory : I s.memory
  task : s.tasks[i]? = some ⟨p, t⟩

variable {m : SharedMachine γ} {i : ℕ} {p : Program} {s : Session γ} {t : State Transcript}

namespace Shows

lemma state? (h : Shows m I i p s t) : s.state? i = some t := by
  rw [Session.state?, h.task]
  rfl

lemma modify (h : Shows m I i p s t) (f : State Transcript → State Transcript) :
    Shows m I i p (s.modify i f) (f t) where
  machine := h.machine
  memory := h.memory
  task := by
    rw [getElem?_modify_self, h.task]
    rfl

lemma access (h : Shows m I i p s t) {keep : γ → γ} (hkeep : ∀ memory, I memory → I (keep memory)) :
    Shows m I i p { s with memory := keep s.memory } t :=
  ⟨h.machine, hkeep _ h.memory, h.task⟩

end Shows

/-! ### Requests and routines -/

theorem serve_alike {step : Stepper γ} {run : Runner γ}
    {step' : StackMachine.Stepper Transcript} {run' : StackMachine.Runner Transcript}
    (hstep : ∀ s t, Shows m I i p s t → Alike (Shows m I i p) (step s) (step' t))
    (hrun : ∀ s t, Shows m I i p s t → Alike (Shows m I i p) (run s) (run' t)) (r : Request)
    (h : Shows m I i p s t) :
    Alike (Shows m I i p) (serve i step run r s)
      (StackMachine.serve m.toMachine p step' run' r t) := by
  cases r with
  | step => exact hstep s t h
  | run => exact hrun s t h
  | stack | pc | output | debugging =>
    simp only [serve, StackMachine.serve, h.state?]
    exact Alike.some _ h
  | display =>
    simp only [serve, StackMachine.serve, h.task, h.machine]
    exact Alike.some _ h
  | reset =>
    simp only [serve, StackMachine.serve, h.machine]
    exact Alike.some _ (h.modify _)
  | setStack | jump | write | print | debug => exact Alike.some _ (h.modify _)

/-- **A routine** in the store does what the script does that it plays. -/
theorem exec_alike {host : Host γ} {host' : StackMachine.Host Transcript}
    (hhost : ∀ r s t, Shows m I i p s t → Alike (Shows m I i p) (host r s) (host' r t))
    {routine : Routine γ α} {script : Script α} (hplays : routine.Plays I script)
    (h : Shows m I i p s t) :
    Alike (Shows m I i p) (routine.exec host s) (script.exec host' t) := by
  induction hplays generalizing s t with
  | pure value => exact Alike.some _ h
  | fail fault => exact Alike.some _ h
  | @ask r next next' hnext ih =>
    simp only [Routine.exec, Script.exec]
    rcases (hhost r s t h).cases with ⟨hx, hy⟩ | ⟨reply, s', t', hx, hy, h'⟩
    · rw [hx, hy]
      exact Alike.none
    · rw [hx, hy]
      exact ih reply h'
  -- the script goes on when the memory has been used
  | access hkeep hnext ih => exact ih s.memory h.memory (h.access hkeep)

/-! ### Execution -/

theorem cycle_alike (hm : m.Plays I) {host : Host γ} {host' : StackMachine.Host Transcript}
    (hhost : ∀ r s t, Shows m I i p s t → Alike (Shows m I i p) (host r s) (host' r t))
    (h : Shows m I i p s t) :
    Alike (Shows m I i p) (cycle i host s) (StackMachine.cycle m.toMachine p host' t) := by
  have htask := h.task
  cases hf : p.fetch? t.pc with
  | none =>
    rw [cycle_of_fetch_none htask hf, StackMachine.cycle_of_fetch_none hf]
    exact Alike.some _ h
  | some instr =>
    have htraced := h.modify (trace m.toMachine instr)
    cases ha : m.instructions.action? instr.op with
    | none =>
      rw [cycle_of_action_none htask hf (h.machine ▸ ha), StackMachine.cycle_of_action_none hf ha,
        h.machine]
      exact Alike.some _ htraced
    | some action =>
      cases hn : nextAddress? t.pc with
      | none =>
        rw [cycle_of_next_none htask hf (h.machine ▸ ha) hn,
          StackMachine.cycle_of_next_none hf ha hn, h.machine]
        exact Alike.some _ htraced
      | some next =>
        rw [cycle_of_action htask hf (h.machine ▸ ha) hn, StackMachine.cycle_of_action hf ha hn,
          h.machine]
        have hexec := exec_alike hhost (hm _ _ ha instr.arg)
          (htraced.modify fun u => { u with pc := next })
        rcases hexec.cases with ⟨hx, hy⟩ | ⟨result, s', t', hx, hy, h'⟩
        · rw [hx, hy]
          exact Alike.none
        · rw [hx, hy]
          simp only [Option.bind_some, h'.state?]
          exact Alike.some _ h'

lemma announce_shows_state (h : Shows m I i p s t) :
    Shows m I i p (announce i s) (StackMachine.announce m.toMachine p t) := by
  rw [announce, h.task, h.machine]
  exact h.modify _

theorem loop_alike {step : Stepper γ} {step' : StackMachine.Stepper Transcript}
    (hstep : ∀ s t, Shows m I i p s t → Alike (Shows m I i p) (step s) (step' t)) (n : ℕ)
    (h : Shows m I i p s t) :
    Alike (Shows m I i p) (loop i step n s) (StackMachine.loop step' n t) := by
  induction n generalizing s t with
  | zero => exact Alike.none
  | succ n ih =>
    simp only [loop, StackMachine.loop]
    rcases (hstep s t h).cases with ⟨hx, hy⟩ | ⟨result, s', t', hx, hy, h'⟩
    · rw [hx, hy]
      exact Alike.none
    · rw [hx, hy]
      cases result with
      | error failure => exact Alike.some _ (h'.modify _)
      | ok status =>
        cases status with
        | exited =>
          simp only [h'.state?]
          exact Alike.some _ h'
        | executing => exact ih h'

/-- **A step** in the store is one of its state, with all steps and runs that its routine makes. -/
theorem step_alike (hm : m.Plays I) (n : ℕ) (h : Shows m I i p s t) :
    Alike (Shows m I i p) (step i n s) (StackMachine.step m.toMachine p n t) := by
  -- a nested step or run is made within the smaller bound
  induction n generalizing s t with
  | zero => exact Alike.none
  | succ n ih =>
    refine cycle_alike hm (fun r s t => serve_alike (fun s t => ih) (fun s t h => ?_) r) h
    exact loop_alike (fun s t => ih) n (announce_shows_state h)

theorem run_alike (hm : m.Plays I) (n : ℕ) (h : Shows m I i p s t) :
    Alike (Shows m I i p) (run i n s) (StackMachine.run m.toMachine p n t) :=
  loop_alike (fun _ _ => step_alike hm n) n (announce_shows_state h)

lemma answer_alike (hm : m.Plays I) (n : ℕ) (r : Request) (s : Session γ) (t : State Transcript)
    (h : Shows m I i p s t) :
    Alike (Shows m I i p) (answer i n r s) (StackMachine.answer m.toMachine p n r t) :=
  serve_alike (fun _ _ => step_alike hm n) (fun _ _ => run_alike hm n) r h

end Session

/-! ### Operations -/

/-- Carries out a script on a task that is alone with a machine, within a bound. -/
def Task.perform (m : Machine) (bound : ℕ) (script : Script α) (task : Task) :
    Option (Report α × Task) :=
  (script.exec (answer m task.program bound) { task.state with sink := {} }).map
    fun (result, state) => (⟨result, state⟩, { task with state })

namespace Session

variable {bound i : ℕ} {s : Session γ} {script : Script α}

lemma perform_eq_none (h : s.tasks[i]? = none) : s.perform bound i script = none := by
  cases hperform : s.perform bound i script with
  | none => rfl
  | some answer =>
    -- what is reported is the state of the task, so there is one
    obtain ⟨report, t⟩ := answer
    have hlength := (perform_confines bound i script hperform).length
    have hnone : t.tasks[i]? = none := by
      rw [List.getElem?_eq_none_iff] at h ⊢
      omega
    unfold perform at hperform
    split at hperform
    · cases hperform
    · obtain ⟨_, hstate, heq⟩ := Option.map_eq_some_iff.1 hperform
      cases heq
      simp [state?, hnone] at hstate

/-- **An operation** on a task does what it does when the task is alone with the machine, and leaves
all others as they are. -/
theorem perform_shared (hm : s.machine.Plays I) (hI : I s.memory) {task : Task}
    (htask : s.tasks[i]? = some task) :
    (s.perform bound i script = none ∧
      task.perform s.machine.toMachine bound script = none) ∨
    ∃ report task' t, s.perform bound i script = some (report, t) ∧
      task.perform s.machine.toMachine bound script = some (report, task') ∧
      t.machine = s.machine ∧ I t.memory ∧ t.tasks = s.tasks.set i task' := by
  obtain ⟨p, state⟩ := task
  have hshows : Shows s.machine I i p s state := ⟨rfl, hI, htask⟩
  have hexec := exec_alike (answer_alike hm bound) script.routine_plays
    (hshows.modify fun u => { u with sink := {} })
  rcases hexec.cases with ⟨hx, hy⟩ | ⟨result, t, state', hx, hy, h⟩
  · left
    constructor
    · rw [perform, hx]
    · rw [Task.perform, hy]
      rfl
  · right
    have hperform : s.perform bound i script = some (⟨result, state'⟩, t) := by
      rw [perform, hx]
      simp only [h.state?, Option.map_some]
    refine ⟨⟨result, state'⟩, ⟨p, state'⟩, t, hperform, ?_, h.machine, h.memory, ?_⟩
    · rw [Task.perform, hy]
      rfl
    · -- that the other tasks stay is not seen in the run of this one
      have hconfined := perform_confines bound i script hperform
      refine List.ext_getElem? fun j => ?_
      by_cases hj : j = i
      · subst hj
        rw [h.task, List.getElem?_set_self (List.getElem?_eq_some_iff.1 htask).1]
      · rw [hconfined.others j hj, List.getElem?_set_ne (Ne.symm hj)]

end Session

end StackMachine
