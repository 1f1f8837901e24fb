import StackMachine.Proofs.Iteration
import StackMachine.Proofs.Opcode

/-!
Longer programs. What stands behind the end of a program is met by no run that stays inside. With
debugging on it is listed, and an instruction without a name in it switches debugging off, so there
may be other debug lines; but a run that ends in the program without a seg fault ends in the same way
whatever is appended to it.
-/

namespace StackMachine

variable {σ : Type} [Sink σ] {debug : Bool} {p : Program}

/-! ### A step inside -/

lemma Program.fetch?_append {pc : UInt64} {i : Instruction} (h : p.fetch? pc = some i)
    (q : Program) : Program.fetch? (p ++ q) pc = some i := by
  have hlt : pc.toNat < p.size := (Array.getElem?_eq_some_iff.1 h).1
  rw [Program.fetch?, Array.getElem?_append_left hlt]
  exact h

section

variable {s t : State σ} {i : Instruction} {result : Except Failure Status}

lemma step_append (debug : Bool) (n : ℕ) (hf : p.fetch? s.pc = some i) (q : Program) :
    step (.standard debug) (p ++ q) (n + 1) s = step (.standard debug) p (n + 1) s := by
  have hf' := Program.fetch?_append hf q
  rw [step_succ, step_succ]
  rcases Opcode.action?_cases i.op with ⟨op, -, ha⟩ | ⟨-, ha⟩
  · cases hn : nextAddress? s.pc with
    | none => rw [cycle_of_next_none hf' ha hn, cycle_of_next_none hf ha hn]
    | some next =>
      -- the script of an opcode does not ask for the program
      rw [cycle_of_action hf' ha hn, cycle_of_action hf ha hn, Opcode.exec_action,
        Opcode.exec_action]
  · rw [cycle_of_action_none hf' ha, cycle_of_action_none hf ha]

lemma StepsTo.append (h : StepsTo (.standard debug) p s result t) (hf : p.fetch? s.pc = some i)
    (q : Program) : StepsTo (.standard debug) (p ++ q) s result t := by
  obtain ⟨b, hb⟩ := h.eventually
  refine ⟨b + 1, ?_⟩
  rw [step_append debug b hf q]
  exact hb (b + 1) (by omega)

/-- A step that does not end in a seg fault is one at an instruction of the program. -/
lemma StepsTo.exists_fetch {m : Machine} (h : StepsTo m p s result t)
    (hresult : ∀ failure, result = .error failure → failure.fault ≠ .segFault) :
    ∃ i, p.fetch? s.pc = some i := by
  cases hf : p.fetch? s.pc with
  | some i => exact ⟨i, rfl⟩
  | none =>
    have hout : StepsTo m p s (.error (Fault.segFault.atPc s.pc)) s := ⟨1, cycle_of_fetch_none hf⟩
    exact absurd rfl (hresult _ (h.unique hout).1)

end

/-! ### States that are the same but for debugging -/

/-- The states are the same but for the debug flag and the debug lines that were sent. -/
abbrev State.SameButDebug (s t : State Transcript) : Prop :=
  s.Agree (fun _ _ => True) SameTrace t

section

variable {s t u : State Transcript} {result : Except Failure Status}

lemma StepsTo.sameButDebug (h : StepsTo (.standard debug) p s result t) (hu : s.SameButDebug u) :
    ∃ v, StepsTo (.standard debug) p u result v ∧ t.SameButDebug v := by
  have hasks : InstructionSet.standard.OnlyAsks (· ≠ .debugging) :=
    InstructionSet.standard_onlyAsks.mono fun r hr hd => by
      subst hd
      exact hr
  have hsim := agree_simulation stable_sameTrace .standard debug debug trivial p hasks
    fun hr => absurd rfl hr
  exact hsim.stepsTo h hu

lemma announce_sameButDebug (m : Machine) (p q : Program) (s : State Transcript) :
    (announce m p s).SameButDebug (announce m q s) := by
  cases hs : s.debug with
  | false =>
    rw [announce_of_debug_off hs, announce_of_debug_off hs]
    exact ⟨rfl, rfl, rfl, trivial, rfl, rfl⟩
  | true =>
    rw [announce_of_debug_on hs, announce_of_debug_on hs]
    refine ⟨rfl, rfl, rfl, trivial, ?_⟩
    have hright : SameTrace s.sink ((m.instructions.debugListing q).foldl Sink.debug s.sink) :=
      stable_sameTrace.foldl_debug_right trivial _ ⟨rfl, rfl⟩
    exact stable_sameTrace.foldl_debug_left trivial _ hright

/-! ### A run inside -/

/-- A step that does not end in a seg fault is followed by the longer program. -/
lemma StepsTo.followed (h : StepsTo (.standard debug) p s result t)
    (hresult : ∀ failure, result = .error failure → failure.fault ≠ .segFault)
    (hu : s.SameButDebug u) (q : Program) :
    ∃ v, StepsTo (.standard debug) (p ++ q) u result v ∧ t.SameButDebug v := by
  obtain ⟨i, hf⟩ := h.exists_fetch hresult
  exact (h.append hf q).sameButDebug hu

lemma Executes.followed {k : ℕ} (h : Executes (.standard debug) p k s t) (hu : s.SameButDebug u)
    (q : Program) : ∃ v, Executes (.standard debug) (p ++ q) k u v ∧ t.SameButDebug v := by
  induction h generalizing u with
  | refl s => exact ⟨u, .refl u, hu⟩
  | head hs _ ih =>
    obtain ⟨v, hv, hsv⟩ := hs.followed (fun _ hfails => nomatch hfails) hu q
    obtain ⟨w, hw, htw⟩ := ih hsv
    exact ⟨w, .head hv hw, htw⟩

lemma Finishes.followed {outcome : Except Failure RunResult}
    (h : Finishes (.standard debug) p s outcome t)
    (houtcome : ∀ failure, outcome = .error failure → failure.fault ≠ .segFault)
    (hu : s.SameButDebug u) (q : Program) :
    ∃ v, Finishes (.standard debug) (p ++ q) u outcome v ∧ t.SameButDebug v := by
  cases h with
  | exited ht =>
    obtain ⟨v, hv, htv⟩ := ht.followed (fun _ hfails => nomatch hfails) hu q
    have hconclude : conclude t = conclude v := by
      simp only [conclude, htv.stack, htv.pc, htv.output]
    exact ⟨v, hconclude ▸ .exited hv, htv⟩
  | failed ht =>
    obtain ⟨v, hv, htv⟩ := ht.followed (fun _ hfails => houtcome _ (by cases hfails; rfl)) hu q
    exact ⟨_, .failed hv, htv.stack, htv.pc, htv.output, trivial,
      stable_sameTrace.record _ htv.sink⟩

end

/-- **What is appended to a program does not disturb a run that stays inside.** Let a run of a program
on the standard machine, from any state, succeed or fail otherwise than with a seg fault. Whatever
instructions are appended, known or unknown, the run of the longer program from that state has the same
result, or the same failure at the same address. It leaves the same stack, counter and output, and the
same values were printed and the same was recorded. -/
theorem run_undisturbed_by_appended (debug : Bool) (p q : Program) (s t : State Transcript)
    (result : Except Failure RunResult) (h : RunsTo (.standard debug) p s result t)
    (hinside : ∀ failure, result = .error failure → failure.fault ≠ .segFault) :
    ∃ u, RunsTo (.standard debug) (p ++ q) s result u ∧ u.stack = t.stack ∧ u.pc = t.pc ∧
      u.output = t.output ∧ u.sink.prints = t.sink.prints ∧ u.sink.log = t.sink.log := by
  obtain ⟨k, v, hk, hv⟩ := runsTo_iff.1 h
  have hstart := announce_sameButDebug (.standard debug) p (p ++ q) s
  obtain ⟨w, hw, hvw⟩ := hk.followed hstart q
  obtain ⟨u, hu, htu⟩ := hv.followed hinside hvw q
  exact ⟨u, runsTo_iff.2 ⟨k, w, hw, hu⟩, htu.stack.symm, htu.pc.symm, htu.output.symm,
    htu.sink.1.symm, htu.sink.2.symm⟩

/-- A value is printed and divided by zero. An operation of no name behind it switches debugging off,
and all but the flag is as before. -/
theorem run_undisturbed_by_appended_unnamed :
    let m := Machine.standard true
    let p : Program := #[⟨1, 7⟩, ⟨0, 0⟩, ⟨1, 0⟩, ⟨5, 0⟩]
    let failure := Fault.divisionByZero.atPc 3
    failure.fault ≠ .segFault ∧
      ∃ t u : State Transcript, RunsTo m p (.initial m {}) (.error failure) t ∧
        RunsTo m (p ++ #[⟨99, 0⟩]) (.initial m {}) (.error failure) u ∧
        t.debug = true ∧ u.debug = false ∧ u.stack = [0, 7] ∧ u.sink.prints = [7] := by
  intro m p failure
  have hfault : failure.fault ≠ .segFault := by decide
  have hinside : ∀ other : Failure,
      (.error failure : Except Failure RunResult) = .error other → other.fault ≠ .segFault := by
    rintro _ ⟨⟩
    exact hfault
  obtain ⟨t, ht, hdebug, hstack, hprints⟩ : ∃ t : State Transcript,
      RunsTo m p (.initial m {}) (.error failure) t ∧ t.debug = true ∧ t.stack = [0, 7] ∧
        t.sink.prints = [7] := by
    refine ⟨_, ⟨5, rfl⟩, ?_, ?_, ?_⟩ <;> decide
  obtain ⟨u, hu, hustack, -, -, huprints, -⟩ :=
    run_undisturbed_by_appended true p #[⟨99, 0⟩] _ t _ ht hinside
  obtain ⟨v, hv, hoff⟩ : ∃ v : State Transcript,
      RunsTo m (p ++ #[⟨99, 0⟩]) (.initial m {}) (.error failure) v ∧ v.debug = false := by
    refine ⟨_, ⟨5, rfl⟩, ?_⟩
    decide
  obtain ⟨-, rfl⟩ := hu.unique hv
  exact ⟨hfault, t, u, ht, hu, hdebug, hoff, hustack.trans hstack, huprints.trans hprints⟩

end StackMachine
