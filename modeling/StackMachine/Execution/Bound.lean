import StackMachine.Execution

/-!
Bounds. A bound decides whether there is an answer, never which one: what a script, an instruction
or a run gives within one bound, it gives within every larger bound.
-/

namespace StackMachine

variable {σ α : Type}

/-- Every answer of `f` is also the answer of `g`. -/
def Within (f g : State σ → Option α) : Prop :=
  ∀ s a, f s = some a → g s = some a

theorem Within.refl (f : State σ → Option α) : Within f f :=
  fun _ _ h => h

theorem Script.exec_within {host larger : Host σ} (h : ∀ r, Within (host r) (larger r))
    (script : Script α) :
    Within (script.exec host) (script.exec larger) := by
  induction script with
  | pure value => exact Within.refl _
  | fail fault => exact Within.refl _
  | ask r next ih =>
    intro s a ha
    simp only [Script.exec] at ha ⊢
    cases hr : host r s with
    | none => simp [hr] at ha
    | some reply =>
      rw [hr] at ha
      rw [h r s reply hr]
      exact ih reply.1 reply.2 a ha

variable [Sink σ] {m : Machine} {p : Program}

theorem serve_within {step step' : Stepper σ} {run run' : Runner σ} (hs : Within step step')
    (hr : Within run run') (r : Request) :
    Within (serve m p step run r) (serve m p step' run' r) := by
  cases r with
  | step => exact hs
  | run => exact hr
  | _ => exact Within.refl _

theorem cycle_within {host larger : Host σ} (h : ∀ r, Within (host r) (larger r)) :
    Within (cycle m p host) (cycle m p larger) := by
  intro s a ha
  cases hf : p.fetch? s.pc with
  | none => rwa [cycle_of_fetch_none hf] at ha ⊢
  | some i =>
    cases hact : m.instructions.action? i.op with
    | none => rwa [cycle_of_action_none hf hact] at ha ⊢
    | some action =>
      cases hn : nextAddress? s.pc with
      | none => rwa [cycle_of_next_none hf hact hn] at ha ⊢
      | some next =>
        rw [cycle_of_action hf hact hn] at ha ⊢
        obtain ⟨result, hexec, rfl⟩ := Option.map_eq_some_iff.1 ha
        rw [Script.exec_within h _ _ _ hexec]
        rfl

theorem loop_within {step step' : Stepper σ} (h : Within step step') {n k : Nat} (hnk : n ≤ k) :
    Within (loop step n) (loop step' k) := by
  induction n generalizing k with
  | zero => intro s a ha; simp [loop] at ha
  | succ n ih =>
    obtain ⟨k, rfl⟩ : ∃ j, k = j + 1 := ⟨k - 1, by omega⟩
    intro s a ha
    simp only [loop] at ha ⊢
    cases hs : step s with
    | none => simp [hs] at ha
    | some result =>
      rw [hs] at ha
      rw [h s result hs]
      obtain ⟨status, t⟩ := result
      match status with
      | .error _ | .ok .exited => exact ha
      | .ok .executing => exact ih (by omega) t a ha

/-- **An instruction does the same within every bound.** -/
theorem step_within {n k : Nat} (hnk : n ≤ k) : Within (step m p n : Stepper σ) (step m p k) := by
  induction n generalizing k with
  | zero => intro s a ha; simp [step] at ha
  | succ n ih =>
    obtain ⟨k, rfl⟩ : ∃ j, k = j + 1 := ⟨k - 1, by omega⟩
    have hstep := ih (k := k) (by omega)
    exact cycle_within (serve_within hstep fun s => loop_within hstep (by omega) _)

/-- **A run does the same within every bound.** -/
theorem run_within {n k : Nat} (hnk : n ≤ k) : Within (run m p n : Runner σ) (run m p k) :=
  fun s => loop_within (step_within hnk) hnk (announce m p s)

end StackMachine
