import StackMachine.Proofs.Agreement

/-!
A reset is as good as a new run. What was done to a run before a reset is left in its sink only, and
nothing that a script asks for depends on what the sink was given before. So scripts that are carried
out behind a reset have the results of a new run and leave its states, and their diagnostics stand
behind those from before the reset.
-/

namespace StackMachine

variable {σ α : Type}

/-! ### Scripts one after the other -/

/-- Carries out scripts one after the other, also behind one that faults: the result of each with the
state that it left, and the last state. -/
def carryOut (host : Host σ) : List (Script α) → State σ →
    Option (List (Except Fault α × State σ) × State σ)
  | [], s => some ([], s)
  | script :: rest, s =>
    match script.exec host s with
    | none => none
    | some (result, t) =>
      (carryOut host rest t).map fun (done, u) => ((result, t) :: done, u)

lemma carryOut_append (host : Host σ) (scripts scripts' : List (Script α)) (s : State σ) :
    carryOut host (scripts ++ scripts') s =
      (carryOut host scripts s).bind fun (done, t) =>
        (carryOut host scripts' t).map fun (done', u) => (done ++ done', u) := by
  induction scripts generalizing s with
  | nil => simp [carryOut]
  | cons script rest ih =>
    rw [List.cons_append, carryOut, carryOut]
    cases script.exec host s with
    | none => rfl
    | some answer =>
      simp only [ih]
      cases carryOut host rest answer.2 with
      | none => rfl
      | some answer' =>
        simp only [Option.bind_some, Option.map_some]
        cases carryOut host scripts' answer'.2 <;> rfl

/-! ### Behind a reset -/

/-- Resets the run, with a value as the result. -/
def resetting (value : α) : Script α := do
  Script.reset
  return value

section

variable (m : Machine) (p : Program) (n : ℕ)

lemma Script.exec_after (script : Script α) (x : Transcript) (s : State Transcript) :
    script.exec (answer m p n) (s.after x) =
      (script.exec (answer m p n) s).map fun (result, t) => (result, t.after x) := by
  induction script generalizing s with
  | pure value => rfl
  | fail fault => rfl
  | ask r next ih =>
    simp only [Script.exec, answer_after]
    cases answer m p n r s with
    | none => rfl
    | some reply => exact ih reply.1 reply.2

lemma carryOut_after (scripts : List (Script α)) (x : Transcript) (s : State Transcript) :
    carryOut (answer m p n) scripts (s.after x) =
      (carryOut (answer m p n) scripts s).map fun (done, t) =>
        (done.map fun (result, u) => (result, u.after x), t.after x) := by
  induction scripts generalizing s with
  | nil => rfl
  | cons script rest ih =>
    simp only [carryOut, Script.exec_after]
    cases script.exec (answer m p n) s with
    | none => rfl
    | some answer' =>
      simp only [Option.map_some, ih]
      cases carryOut (answer m p n) rest answer'.2 <;> rfl

/-- A reset leaves a new run, but for what the sink was given before. -/
lemma exec_resetting (value : α) (t : State Transcript) :
    (resetting value).exec (answer m p n) t =
      some (.ok value, (State.initial m {}).after t.sink) := by
  have hsink : t.sink = t.sink ++ {} :=
    congrArg₂ Transcript.mk Array.append_empty.symm Array.append_empty.symm
  have hreset : t.reset m = (State.initial m {}).after t.sink :=
    (t.reset_eq_initial m).trans (congrArg (State.initial m) hsink)
  rw [← hreset]
  rfl

/-- **A reset is as good as a new run.** Let any scripts be carried out on any state, then a reset,
and then further scripts. The further ones complete if they do on a new run; their results, and the
states that they leave, are those of the new run, with its diagnostics behind those from before the
reset. -/
theorem reset_as_new (history further : List (Script α)) (value : α) (s : State Transcript) :
    carryOut (answer m p n) (history ++ resetting value :: further) s =
      (carryOut (answer m p n) history s).bind fun (past, t) =>
        (carryOut (answer m p n) further (.initial m {})).map fun (done, u) =>
          (past ++ (.ok value, (State.initial m {}).after t.sink) ::
              done.map fun (result, v) => (result, v.after t.sink),
            u.after t.sink) := by
  rw [carryOut_append]
  refine congrArg (Option.bind _) (funext fun (past, t) => ?_)
  simp only [carryOut, exec_resetting, carryOut_after, Option.map_map]
  rfl

end

end StackMachine
