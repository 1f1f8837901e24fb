import StackMachine.Proofs.Iteration

/-!
How instructions fail, and where. An instruction fails in four ways only, and whatever its script
has done to the counter, the failure is placed at the address that the counter had before. The
counter of a run inside a program can always advance, so the machine itself breaks no promise: an
internal fault is one that a script ends in.
-/

namespace StackMachine

variable {σ : Type} [Sink σ] {m : Machine} {p : Program} {s t u : State σ}

lemma Failure.pc?_eq_some_iff {failure : Failure} {pc : UInt64} :
    failure.pc? = some pc ↔ failure.location = some (.pc pc) := by
  obtain ⟨fault, location⟩ := failure
  rcases location with _ | ⟨_ | _⟩ <;> simp [Failure.pc?]

/-! ### The ways of failing -/

/-- The current instruction fails in `s` and leaves `t`: there is none, it has no action, its script
ends in a fault, or its script ends well but leaves no value on the stack. -/
inductive Fails (m : Machine) (p : Program) (s : State σ) : Fault → State σ → Prop
  | outside : p.fetch? s.pc = none → Fails m p s .segFault s
  | unknown {i : Instruction} : p.fetch? s.pc = some i → m.instructions.action? i.op = none →
      Fails m p s (.unknownOpcode i.op) (trace m i s)
  | raised {i : Instruction} {action : Action} {n : ℕ} {fault : Fault} {t : State σ} :
      p.fetch? s.pc = some i → m.instructions.action? i.op = some action →
      (action i.arg).exec (answer m p n) { trace m i s with pc := s.pc + 1 } =
        some (.error fault, t) →
      Fails m p s fault t
  | emptied {i : Instruction} {action : Action} {n : ℕ} {status : Status} {t : State σ} :
      p.fetch? s.pc = some i → m.instructions.action? i.op = some action →
      (action i.arg).exec (answer m p n) { trace m i s with pc := s.pc + 1 } =
        some (.ok status, t) →
      t.stack = [] → Fails m p s .emptyStack t

lemma settle_ok_of_stack_ne_nil {pc : UInt64} {status : Status} {stack : Stack} (h : stack ≠ []) :
    settle pc (.ok status) stack = .ok status := by
  obtain ⟨value, rest, rfl⟩ := List.exists_cons_of_ne_nil h
  rfl

lemma stepsTo_of_exec (hp : p.size < 2 ^ 64) {i : Instruction} {action : Action} {n : ℕ}
    {result : Except Fault Status} (hf : p.fetch? s.pc = some i)
    (ha : m.instructions.action? i.op = some action)
    (hexec : (action i.arg).exec (answer m p n) { trace m i s with pc := s.pc + 1 } =
      some (result, t)) :
    StepsTo m p s (settle s.pc result t.stack) t := by
  obtain ⟨hnext, -⟩ := nextAddress?_of_fetch hp hf
  refine ⟨n + 1, ?_⟩
  rw [step_succ, cycle_of_action hf ha hnext, hexec]
  rfl

lemma Fails.stepsTo (hp : p.size < 2 ^ 64) {fault : Fault} (h : Fails m p s fault t) :
    StepsTo m p s (.error (fault.atPc s.pc)) t := by
  cases h with
  | outside hf => exact ⟨1, cycle_of_fetch_none hf⟩
  | unknown hf ha => exact ⟨1, cycle_of_action_none hf ha⟩
  | raised hf ha hexec => exact stepsTo_of_exec hp hf ha hexec
  | emptied hf ha hexec hempty =>
    have h := stepsTo_of_exec hp hf ha hexec
    rw [hempty] at h
    exact h

/-- **An instruction fails in these ways only**, and the failure is placed at the counter. -/
theorem stepsTo_error_iff (hp : p.size < 2 ^ 64) {failure : Failure} :
    StepsTo m p s (.error failure) t ↔
      failure.location = some (.pc s.pc) ∧ Fails m p s failure.fault t := by
  constructor
  · intro h
    obtain ⟨n, h⟩ := h.transition
    generalize hx : Except.error failure = x at h
    cases h with
    | outside hf =>
      cases hx
      exact ⟨rfl, .outside hf⟩
    | unknown hf ha =>
      cases hx
      exact ⟨rfl, .unknown hf ha⟩
    | overflow hf ha hn =>
      rw [(nextAddress?_of_fetch hp hf).1] at hn
      cases hn
    | @performed i action next result t hf ha hn hexec =>
      rw [(nextAddress?_of_fetch hp hf).1] at hn
      cases hn
      cases result with
      | error fault =>
        cases hx
        exact ⟨rfl, .raised hf ha hexec⟩
      | ok status =>
        -- the action went well, so it can only have left no value
        by_cases hempty : t.stack = []
        · rw [hempty] at hx
          cases hx
          exact ⟨rfl, .emptied hf ha hexec hempty⟩
        · rw [settle_ok_of_stack_ne_nil hempty] at hx
          cases hx
  · rintro ⟨hlocation, hfails⟩
    obtain ⟨fault, location⟩ := failure
    obtain rfl : location = some (.pc s.pc) := hlocation
    exact hfails.stepsTo hp

lemma Fails.raised_of_internal {message : String} (h : Fails m p s (.internal message) t) :
    ∃ i action n, p.fetch? s.pc = some i ∧ m.instructions.action? i.op = some action ∧
      (action i.arg).exec (answer m p n) { trace m i s with pc := s.pc + 1 } =
        some (.error (.internal message), t) := by
  generalize hx : Fault.internal message = fault at h
  cases h with
  | outside => cases hx
  | unknown => cases hx
  | raised hf ha hexec =>
    subst hx
    exact ⟨_, _, _, hf, ha, hexec⟩
  | emptied => cases hx

/-- Behind a jump to a negative target the counter is at the last address of all, which is outside
every program. -/
lemma stepsTo_of_negative_jump (hp : p.size < 2 ^ 64) (s : State σ) {target : Int64}
    (h : target < 0) : (s.jump target).pc.toNat = 2 ^ 64 - 1 ∧
      StepsTo m p (s.jump target) (.error ⟨.segFault, some (.pc 0xFFFFFFFFFFFFFFFF)⟩)
        (s.jump target) := by
  have hpc : (s.jump target).pc = 0xFFFFFFFFFFFFFFFF := if_pos h
  have hout : p.fetch? (s.jump target).pc = none := by
    rw [hpc]
    refine Array.getElem?_eq_none ?_
    change p.size ≤ 2 ^ 64 - 1
    omega
  have hstep := Fails.stepsTo hp (.outside (m := m) hout)
  rw [hpc] at hstep
  exact ⟨congrArg UInt64.toNat hpc, hstep⟩

/-! ### Failing runs -/

lemma finishes_error_iff {failure : Failure} :
    Finishes m p s (.error failure) t ↔
      ∃ v, StepsTo m p s (.error failure) v ∧ t = v.record (.fault failure) := by
  constructor
  · intro h
    generalize hx : Except.error failure = x at h
    cases h with
    | failed ht =>
      cases hx
      exact ⟨_, ht, rfl⟩
    | exited ht =>
      -- a run that has exited does not fail in its conclusion
      obtain ⟨value, rest, -, hconclude⟩ := conclude_of_exited ht
      rw [hconclude] at hx
      cases hx
  · rintro ⟨v, ht, rfl⟩
    exact .failed ht

theorem runsTo_error_iff {failure : Failure} :
    RunsTo m p s (.error failure) t ↔
      ∃ k u v, Executes m p k (announce m p s) u ∧ StepsTo m p u (.error failure) v ∧
        t = v.record (.fault failure) := by
  rw [runsTo_iff]
  constructor
  · rintro ⟨k, u, hk, hu⟩
    obtain ⟨v, ht, rfl⟩ := finishes_error_iff.1 hu
    exact ⟨k, u, v, hk, ht, rfl⟩
  · rintro ⟨k, u, v, hk, ht, rfl⟩
    exact ⟨k, u, hk, finishes_error_iff.2 ⟨v, ht, rfl⟩⟩

/-- **Every failure is placed at the address of the faulting instruction, and the counter never
overflows.** An instruction fails in exactly the four ways, at the address that the counter had
before it, whatever its script has done since; a run fails as its last instruction does, at its
address. So no failure is without a place. Wherever there is an instruction the counter can advance;
behind a jump to a negative target it is at the last address of all, where the failure is a seg
fault. An internal fault is one that a script ends in. -/
theorem failure_placed_at_counter (m : Machine) (p : Program) (hp : p.size < 2 ^ 64) :
    (∀ (s t : State σ) failure, StepsTo m p s (.error failure) t ↔
      failure.location = some (.pc s.pc) ∧ Fails m p s failure.fault t) ∧
    (∀ (s t : State σ) failure, RunsTo m p s (.error failure) t ↔
      ∃ k u v, Executes m p k (announce m p s) u ∧ failure.location = some (.pc u.pc) ∧
        Fails m p u failure.fault v ∧ t = v.record (.fault failure)) ∧
    (∀ pc i, p.fetch? pc = some i →
      nextAddress? pc = some (pc + 1) ∧ (pc + 1).toNat = pc.toNat + 1) ∧
    (∀ (s : State σ) target, target < 0 → (s.jump target).pc.toNat = 2 ^ 64 - 1 ∧
      StepsTo m p (s.jump target) (.error ⟨.segFault, some (.pc 0xFFFFFFFFFFFFFFFF)⟩)
        (s.jump target)) ∧
    ∀ (s t : State σ) message, Fails m p s (.internal message) t →
      ∃ i action n, p.fetch? s.pc = some i ∧ m.instructions.action? i.op = some action ∧
        (action i.arg).exec (answer m p n) { trace m i s with pc := s.pc + 1 } =
          some (.error (.internal message), t) := by
  refine ⟨fun s t failure => stepsTo_error_iff hp, fun s t failure => ?_,
    fun pc i hf => nextAddress?_of_fetch hp hf, fun s target => stepsTo_of_negative_jump hp s,
    fun s t message h => h.raised_of_internal⟩
  rw [runsTo_error_iff]
  simp only [stepsTo_error_iff hp, and_assoc]

/-- An action jumps to a negative target and executes what is there. The seg fault that it forwards is
placed where the action is. -/
theorem failure_placed_at_counter_forwarded :
    ∃ m : Machine, m.instructions.action? 0 = some (fun _ => do
        Script.jump (-1)
        match ← Script.step with
        | .ok status => return status
        | .error failure => Script.fail failure.fault) ∧
      (#[⟨0, 0⟩] : Program).size < 2 ^ 64 ∧
      StepsTo m #[⟨0, 0⟩] (.initial m {}) (.error ⟨.segFault, some (.pc 0)⟩)
        ({ pc := 0xFFFFFFFFFFFFFFFF, debug := false,
           sink := { log := #[.exec 0 "FORWARD" 0] } } : State Transcript) := by
  have hp : (#[⟨0, 0⟩] : Program).size < 2 ^ 64 := by decide
  refine ⟨⟨.ofList [("FORWARD", _)], false⟩, rfl, hp, ?_⟩
  refine ((failure_placed_at_counter _ _ hp).1 _ _ _).2 ⟨rfl, ?_⟩
  exact .raised (n := 1) rfl rfl rfl

end StackMachine
