import StackMachine.Proofs.Assembling
import StackMachine.Proofs.Failures
import StackMachine.Proofs.StandardFaults

/-!
Failures of assembling and of executing. A failure has a line if it arose in assembling and an address
if it arose in executing. Whether it is one of assembling can be told from its fault alone only if
every instruction is an opcode: a number that is none is refused in executing with the kind of fault
that an unknown name has in assembling.
-/

namespace StackMachine

variable {σ : Type} [Sink σ] {debug : Bool} {p : Program} {s t : State σ} {failure : Failure}

/-! ### Assembling -/

lemma Offends.isAssemblyError {set : InstructionSet} {line : List Char} {fault : Fault}
    (h : Offends set line fault) : fault.isAssemblyError = true := by
  cases h <;> rfl

lemma isAssemblyError_of_assemble {set : InstructionSet} {text : String}
    (h : set.assemble text = .error failure) :
    failure.fault.isAssemblyError = true ∧ ∃ n, failure.location = some (.line n) := by
  obtain ⟨before, line, n, after, fault, -, -, -, hoffends, rfl⟩ :=
    InstructionSet.firstOffence_of_assemble h
  exact ⟨hoffends.isAssemblyError, n, rfl⟩

/-! ### Executing -/

/-- At the address there is an instruction, and its operation is none of the standard ones. -/
def Program.UnknownAt (p : Program) (pc : UInt64) : Prop :=
  ∃ i, p[pc.toNat]? = some i ∧ ¬ i.op < 13

lemma Opcode.not_isAssemblyError {op : Opcode} {stack : Stack} {fault : Fault}
    (h : op.fault? stack = some fault) : fault.isAssemblyError = false := by
  have hmem := mem_of_fault? h
  simp only [List.mem_cons, List.not_mem_nil, or_false] at hmem
  rcases hmem with rfl | rfl | rfl <;> rfl

/-- A step of the standard machine fails with a fault of assembling at an unknown operation, and only
there. -/
lemma StepsTo.isAssemblyError_iff (hp : p.size < 2 ^ 64)
    (h : StepsTo (.standard debug) p s (.error failure) t) :
    failure.fault.isAssemblyError = true ↔ p.UnknownAt s.pc := by
  cases h.standard with
  | outside hout =>
    refine iff_of_false (by simp [Fault.atPc, Fault.isAssemblyError]) ?_
    rintro ⟨i, hi, -⟩
    have hlt : s.pc.toNat < p.size := (Array.getElem?_eq_some_iff.1 hi).1
    omega
  | @unknown i hf hop => exact iff_of_true rfl ⟨i, hf, hop⟩
  | overflow hf hn =>
    rw [(nextAddress?_of_fetch hp hf).1] at hn
    cases hn
  | @opcode i op next _ hf hop hn houtcome =>
    obtain ⟨fault, hfault, rfl⟩ := Opcode.outcome_eq_error_iff.1 houtcome
    refine iff_of_false ?_ ?_
    · show ¬ fault.isAssemblyError = true
      simp [Opcode.not_isAssemblyError hfault]
    · -- the instruction at the counter is an opcode
      rintro ⟨j, hj, hunknown⟩
      obtain rfl : i = j := Option.some.inj (hf.symm.trans hj)
      exact hunknown (Opcode.exists_id_iff.1 ⟨op, hop⟩)

/-- **Which failures are told to be of assembling.** On the standard machine a text that cannot be
assembled has a failure with a line and a fault of assembling. A step of a program, from any state,
fails at the address of the counter before it, and its fault is one of assembling if and only if there
is an instruction at this address that is no opcode. A run fails so at the address of its last step. So
assembling is told from executing as long as no such instruction is reached. -/
theorem isAssemblyError_iff_assembling_or_unknown (debug : Bool) :
    let m := Machine.standard debug
    (∀ text failure, m.assemble text = .error failure →
      failure.fault.isAssemblyError = true ∧ ∃ n, failure.location = some (.line n)) ∧
    ∀ p : Program, p.size < 2 ^ 64 →
      (∀ (s t : State σ) failure, StepsTo m p s (.error failure) t →
        failure.location = some (.pc s.pc) ∧
          (failure.fault.isAssemblyError = true ↔ p.UnknownAt s.pc)) ∧
      ∀ (s t : State σ) failure, RunsTo m p s (.error failure) t →
        ∃ k u v, Executes m p k (announce m p s) u ∧ StepsTo m p u (.error failure) v ∧
          failure.location = some (.pc u.pc) ∧
          (failure.fault.isAssemblyError = true ↔ p.UnknownAt u.pc) := by
  intro m
  refine ⟨fun text failure h => isAssemblyError_of_assemble h, fun p hp => ⟨?_, ?_⟩⟩
  · intro s t failure h
    exact ⟨((stepsTo_error_iff hp).1 h).1, h.isAssemblyError_iff hp⟩
  · intro s t failure h
    obtain ⟨k, u, v, hk, hv, -⟩ := runsTo_error_iff.1 h
    exact ⟨k, u, v, hk, hv, ((stepsTo_error_iff hp).1 hv).1, hv.isAssemblyError_iff hp⟩

/-- A division by zero is told from a line with two arguments. -/
theorem isAssemblyError_iff_assembling_or_unknown_division :
    let m := Machine.standard true
    let p : Program := #[⟨1, 0⟩, ⟨8, 0⟩, ⟨5, 0⟩]
    let failure := Fault.divisionByZero.atPc 2
    p.size < 2 ^ 64 ∧
      (∃ t : State Transcript, RunsTo m p (.initial m {}) (.error failure) t) ∧
      failure.fault.isAssemblyError = false ∧
      m.assemble "LOAD_CONST 0 0" = .error ((Fault.tooManyArguments "LOAD_CONST 0 0").atLine 1) ∧
      (Fault.tooManyArguments "LOAD_CONST 0 0").isAssemblyError = true := by
  intro m p failure
  have hp : p.size < 2 ^ 64 := by decide
  obtain ⟨hassemble, hexecute⟩ :=
    isAssemblyError_iff_assembling_or_unknown (σ := Transcript) true
  obtain ⟨t, ht⟩ : ∃ t : State Transcript, RunsTo m p (.initial m {}) (.error failure) t :=
    ⟨_, 4, rfl⟩
  obtain ⟨k, u, v, -, -, hlocation, hiff⟩ := (hexecute p hp).2 _ t failure ht
  have htext : m.assemble "LOAD_CONST 0 0" =
      .error ((Fault.tooManyArguments "LOAD_CONST 0 0").atLine 1) := by rfl
  refine ⟨hp, ⟨t, ht⟩, ?_, htext, (hassemble _ _ htext).1⟩
  have hpc : 2 = u.pc := by simpa [failure, Fault.atPc] using hlocation
  have hknown : ¬ p.UnknownAt u.pc := by
    rw [← hpc]
    rintro ⟨i, hi, hop⟩
    obtain rfl : ⟨5, 0⟩ = i := Option.some.inj hi
    exact hop (by decide)
  simpa using mt hiff.1 hknown

/-- The operation 13 is unknown, and a program of it alone fails in executing, at address 0, with a
fault of assembling. -/
theorem unknown_opcode_isAssemblyError :
    ∃ (t : State Transcript) (failure : Failure),
      RunsTo (.standard false) #[⟨13, 0⟩] (.initial (.standard false) {}) (.error failure) t ∧
      failure.location = some (.pc 0) ∧ failure.fault.isAssemblyError = true :=
  ⟨_, (Fault.unknownOpcode 13).atPc 0, ⟨2, rfl⟩, rfl, rfl⟩

end StackMachine
