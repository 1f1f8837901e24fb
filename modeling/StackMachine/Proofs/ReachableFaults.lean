import StackMachine.Proofs.Grammar
import StackMachine.Proofs.Iteration
import StackMachine.Proofs.StandardFaults

/-!
Which faults are reached. A run begins with an empty stack, on which only a constant can be loaded, and
an instruction that succeeds leaves a value. So there is a value before every instruction but the
first, and what can be missing is only the second of two.
-/

namespace StackMachine

variable {σ : Type} [Sink σ]

/-! ### Opcodes on few values -/

namespace Opcode

variable {op : Opcode} {stack : Stack}

lemma need_pos_iff : 0 < op.need ↔ op ≠ loadConst := by
  cases op <;> decide

lemma need_le_two (op : Opcode) : op.need ≤ 2 := by
  cases op <;> decide

lemma fault?_nil_eq_none_iff : op.fault? [] = none ↔ op = loadConst := by
  rw [fault?_eq_none_iff]
  constructor
  · rintro ⟨hneed, -⟩
    by_contra hop
    have hpos := need_pos_iff.2 hop
    rw [List.length_nil] at hneed
    omega
  · rintro rfl
    exact ⟨Nat.le_refl 0, by simp⟩

lemma exists_fault_iff (hne : stack ≠ []) :
    (∃ fault, op.fault? stack = some fault) ↔
      op.need = 2 ∧ stack.length = 1 ∨ op = div ∧ stack.head? = some 0 := by
  have hpos : 0 < stack.length := List.length_pos_iff.2 hne
  have htwo := op.need_le_two
  rw [← Option.ne_none_iff_exists', ne_eq, fault?_eq_none_iff, not_and_or, not_not]
  apply or_congr_left
  omega

end Opcode

lemma id_of_name? {op : Opcode} {id : OpId}
    (h : InstructionSet.standard.name? id = some op.name) : op.id = id := by
  have hop := InstructionSet.id?_eq_some_iff.2 (Opcode.name?_id op)
  rw [InstructionSet.id?_eq_some_iff.2 h] at hop
  exact (Option.some.inj hop).symm

/-! ### The first instruction -/

section

variable (debug : Bool) {p : Program} {s : State σ}

lemma stepsTo_ok_iff_of_stack_nil (hp : p.size < 2 ^ 64) (hs : s.stack = []) :
    (∃ status t, StepsTo (.standard debug) p s (.ok status) t) ↔
      ∃ i, p.fetch? s.pc = some i ∧ InstructionSet.standard.name? i.op = some "LOAD_CONST" := by
  constructor
  · rintro ⟨status, t, h⟩
    obtain ⟨i, op, next, hf, hop, -, hfault, -, -⟩ := h.opcode_of_ok
    rw [hs] at hfault
    obtain rfl := Opcode.fault?_nil_eq_none_iff.1 hfault
    refine ⟨i, hf, ?_⟩
    rw [← hop]
    exact Opcode.name?_id .loadConst
  · rintro ⟨i, hf, hname⟩
    have hop : Opcode.loadConst.id = i.op := id_of_name? hname
    obtain ⟨hn, -⟩ := nextAddress?_of_fetch hp hf
    have hstep := stepsTo_of_opcode debug hf hop hn
    rw [hs, Opcode.outcome_eq_ok_iff.2 ⟨Opcode.fault?_nil_eq_none_iff.2 rfl, rfl⟩] at hstep
    exact ⟨_, _, hstep⟩

/-! ### Later instructions -/

/-- Where there is a value, an opcode has a result, which is a failure if the opcode needs two values and
there is one, or divides by zero. -/
lemma exists_stepsTo_of_value (hp : p.size < 2 ^ 64) (hs : s.stack ≠ []) {i : Instruction}
    {op : Opcode} (hf : p.fetch? s.pc = some i) (hop : op.id = i.op) :
    ∃ result t, StepsTo (.standard debug) p s result t ∧
      ((∃ failure, result = .error failure) ↔
        op.need = 2 ∧ s.stack.length = 1 ∨ op = .div ∧ s.stack.head? = some 0) := by
  obtain ⟨hn, -⟩ := nextAddress?_of_fetch hp hf
  refine ⟨_, _, stepsTo_of_opcode debug hf hop hn, ?_⟩
  rw [← Opcode.exists_fault_iff hs]
  constructor
  · rintro ⟨failure, hfailure⟩
    obtain ⟨fault, hfault, -⟩ := Opcode.outcome_eq_error_iff.1 hfailure
    exact ⟨fault, hfault⟩
  · rintro ⟨fault, hfault⟩
    exact ⟨_, Opcode.outcome_eq_fault_iff.2 hfault⟩

end

/-- **The faults that a run can reach are confined.** A run begins in a fresh state, or behind the listing
of the program. The first instruction succeeds if and only if there is one and it is `LOAD_CONST`. After
any instructions that have succeeded there is a value on the stack, and the next one, if it is an
opcode, has a result. It is no failure for `LOAD_CONST`, `PRINT`, `EXIT`, `DUP`, `JMP`, `WRITE` and
`WRITE_CHAR`. It is one for `POP`, `JMPZ`, `ADD`, `EQ` and `NEQ` if and only if there is a single value,
and for `DIV` if and only if there is a single value or the top value is zero. -/
theorem reachable_faults_confined (debug : Bool) (p : Program) (hp : p.size < 2 ^ 64) (sink : σ) :
    let m := Machine.standard debug
    ∀ s : State σ, s = .initial m sink ∨ s = announce m p (.initial m sink) →
      ((∃ status t, StepsTo m p s (.ok status) t) ↔
        ∃ i, p[0]? = some i ∧ InstructionSet.standard.name? i.op = some "LOAD_CONST") ∧
      ∀ steps t, Succeeds m p s steps t → steps ≠ [] →
        t.stack ≠ [] ∧
        ∀ i (op : Opcode), p[t.pc.toNat]? = some i →
          InstructionSet.standard.name? i.op = some op.name →
          ∃ result u, StepsTo m p t result u ∧
            (op ∈ [.loadConst, .print, .exit, .dup, .jmp, .write, .writeChar] →
              ∃ status, result = .ok status) ∧
            (op ∈ [.pop, .jmpz, .add, .eq, .neq] →
              ((∃ failure, result = .error failure) ↔ t.stack.length = 1)) ∧
            (op = .div →
              ((∃ failure, result = .error failure) ↔
                t.stack.length = 1 ∨ t.stack.head? = some 0)) := by
  intro m s hs
  have hstart : s.stack = [] ∧ s.pc = 0 := by
    rcases hs with rfl | rfl
    · exact ⟨rfl, rfl⟩
    · cases debug <;> exact ⟨rfl, rfl⟩
  refine ⟨?_, ?_⟩
  · have hiff := stepsTo_ok_iff_of_stack_nil debug hp hstart.1
    rw [hstart.2] at hiff
    exact hiff
  · intro steps t hsteps hne
    have hvalue : t.stack ≠ [] := hsteps.stack_ne_nil hne
    refine ⟨hvalue, ?_⟩
    intro i op hi hname
    obtain ⟨result, u, hstep, hiff⟩ :=
      exists_stepsTo_of_value debug hp hvalue hi (id_of_name? hname)
    refine ⟨result, u, hstep, ?_, ?_, ?_⟩
    · intro hop
      cases result with
      | ok status => exact ⟨status, rfl⟩
      | error failure =>
        -- none of these needs two values or divides
        exfalso
        have hfails := hiff.1 ⟨failure, rfl⟩
        cases op <;> simp [Opcode.need] at hop hfails
    · intro hop
      rw [hiff]
      cases op <;> simp [Opcode.need] at hop ⊢
    · rintro rfl
      rw [hiff]
      simp [Opcode.need]

/-- A zero divided by itself: two instructions succeed, and the third fails on two values. -/
theorem reachable_faults_confined_div :
    let m := Machine.standard true
    let p : Program := #[⟨1, 0⟩, ⟨8, 0⟩, ⟨5, 0⟩]
    p.size < 2 ^ 64 ∧
      ∃ (steps : List (Status × State Transcript)) (t u : State Transcript) (failure : Failure),
        Succeeds m p (.initial m {}) steps t ∧ steps.length = 2 ∧ t.stack = [0, 0] ∧
          StepsTo m p t (.error failure) u := by
  intro m p
  have hp : p.size < 2 ^ 64 := by decide
  obtain ⟨steps, t, hsteps, hlength, hstack, hpc⟩ :
      ∃ (steps : List (Status × State Transcript)) (t : State Transcript),
        Succeeds m p (.initial m {}) steps t ∧ steps.length = 2 ∧ t.stack = [0, 0] ∧ t.pc = 2 := by
    refine ⟨_, _, .head ⟨1, rfl⟩ (.head ⟨1, rfl⟩ (.refl _)), ?_, ?_, ?_⟩ <;> rfl
  have hne : steps ≠ [] := by
    rintro rfl
    cases hlength
  obtain ⟨-, hlater⟩ := reachable_faults_confined true p hp ({} : Transcript) _ (.inl rfl)
  obtain ⟨-, hopcode⟩ := hlater steps t hsteps hne
  have hi : p[t.pc.toNat]? = some ⟨5, 0⟩ := by
    rw [hpc]
    rfl
  obtain ⟨result, u, hstep, -, -, hdiv⟩ := hopcode _ .div hi (by decide)
  obtain ⟨failure, rfl⟩ := (hdiv rfl).2 (.inr (by rw [hstack]; rfl))
  exact ⟨hp, steps, t, u, failure, hsteps, hlength, hstack, hstep⟩

end StackMachine
