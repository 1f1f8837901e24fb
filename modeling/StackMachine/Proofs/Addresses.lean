import StackMachine.Proofs.Failures
import StackMachine.Proofs.ReachableFaults

/-!
Where the counter goes. A step on the standard machine leaves the counter where it is, puts it behind
the instruction or at the target of a jump of the program; the first only in failing, and the second at
no `JMP` and, if the run goes on, at no `EXIT`. So a run that begins at address 0 leaves the program
only behind its last instruction or by a jump, and a program that closes both ways is never left.
-/

namespace StackMachine

variable {σ : Type} [Sink σ]

/-! ### Jumps -/

namespace Instruction

/-- The instruction is the standard one of this name. -/
def Named (i : Instruction) (name : String) : Prop :=
  InstructionSet.standard.name? i.op = some name

instance (i : Instruction) (name : String) : Decidable (i.Named name) :=
  inferInstanceAs (Decidable (_ = _))

def IsJump (i : Instruction) : Prop :=
  i.Named "JMP" ∨ i.Named "JMPZ"

instance (i : Instruction) : Decidable i.IsJump :=
  inferInstanceAs (Decidable (_ ∨ _))

/-- The address that a jump leads to: its argument, or the last address of all if that is
negative. -/
def target (i : Instruction) : ℕ :=
  if i.arg.toInt < 0 then 2 ^ 64 - 1 else i.arg.toInt.toNat

end Instruction

lemma Opcode.named_iff {op : Opcode} {i : Instruction} (hop : op.id = i.op) (op' : Opcode) :
    i.Named op'.name ↔ op = op' := by
  rw [← Opcode.id_inj, hop]
  constructor
  · intro h
    exact (id_of_name? h).symm
  · intro h
    rw [Instruction.Named, h]
    exact Opcode.name?_id op'

lemma Opcode.isJump_iff {op : Opcode} {i : Instruction} (hop : op.id = i.op) :
    i.IsJump ↔ op = jmp ∨ op = jmpz :=
  or_congr (named_iff hop jmp) (named_iff hop jmpz)

/-! ### What a step does to the counter -/

/-- What a step of the given result can do to the counter: it stays, if the step fails; it advances; or
it jumps. -/
inductive Moves (p : Program) (pc : UInt64) (result : Except Failure Status) : UInt64 → Prop
  | stays {failure : Failure} : result = .error failure → Moves p pc result pc
  | advances {i : Instruction} {next : UInt64} : p.fetch? pc = some i → ¬ i.Named "JMP" →
      (result = .ok .executing → ¬ i.Named "EXIT") → next.toNat = pc.toNat + 1 →
      Moves p pc result next
  | jumps {i : Instruction} {next : UInt64} : p.fetch? pc = some i → i.IsJump →
      next.toNat = i.target → Moves p pc result next

section

variable {debug : Bool} {p : Program} {s t : State σ} {i : Instruction} {op : Opcode}
  {next : UInt64}

lemma moves_of_fault?_eq_none (hp : p.size < 2 ^ 64) (hf : p.fetch? s.pc = some i)
    (hop : op.id = i.op) (hfault : op.fault? s.stack = none) :
    Moves p s.pc (.ok op.status)
      (op.perform i.arg { trace (.standard debug) i s with pc := s.pc + 1 }).2.pc := by
  -- the opcode works on the state that was traced and whose counter has advanced
  generalize hu : ({ trace (.standard debug) i s with pc := s.pc + 1 } : State σ) = u
  have hustack : u.stack = s.stack := by simp [← hu]
  have hupc : u.pc.toNat = s.pc.toNat + 1 := by
    rw [← hu]
    exact (nextAddress?_of_fetch hp hf).2
  rw [← hustack] at hfault
  obtain ⟨text, -, hperform⟩ := Opcode.perform_of_fault?_eq_none i.arg hfault
  rw [hperform]
  dsimp only
  split_ifs with hjumps
  · have hjump : op = .jmp ∨ op = .jmpz := hjumps.imp_right And.left
    exact .jumps hf ((Opcode.isJump_iff hop).2 hjump) (Opcode.toNat_addressOfTarget i.arg)
  · refine .advances hf ?_ ?_ hupc
    · intro hjmp
      exact hjumps (.inl ((Opcode.named_iff hop .jmp).1 hjmp))
    · intro hgo hexit
      obtain rfl := (Opcode.named_iff hop .exit).1 hexit
      cases hgo

lemma moves_of_fault?_eq_some (hp : p.size < 2 ^ 64) (hf : p.fetch? s.pc = some i)
    (hop : op.id = i.op) {fault : Fault} (hfault : op.fault? s.stack = some fault)
    (failure : Failure) :
    Moves p s.pc (.error failure)
      (op.perform i.arg { trace (.standard debug) i s with pc := s.pc + 1 }).2.pc := by
  generalize hu : ({ trace (.standard debug) i s with pc := s.pc + 1 } : State σ) = u
  have hustack : u.stack = s.stack := by simp [← hu]
  have hupc : u.pc.toNat = s.pc.toNat + 1 := by
    rw [← hu]
    exact (nextAddress?_of_fetch hp hf).2
  rw [← hustack] at hfault
  rw [Opcode.perform_of_fault?_eq_some i.arg hfault]
  dsimp only
  split_ifs with hjumps
  · have hjump : op = .jmp ∨ op = .jmpz := hjumps.imp And.left And.left
    exact .jumps hf ((Opcode.isJump_iff hop).2 hjump) (Opcode.toNat_addressOfTarget i.arg)
  · refine .advances hf ?_ (fun hgo => nomatch hgo) hupc
    intro hjmp
    obtain rfl := (Opcode.named_iff hop .jmp).1 hjmp
    -- a jump that fails found no value
    refine hjumps (.inl ⟨rfl, ?_⟩)
    by_contra hne
    have hpos : 0 < u.stack.length := List.length_pos_iff.2 hne
    have hnone : Opcode.jmp.fault? u.stack = none :=
      Opcode.fault?_eq_none_iff.2 ⟨hpos, fun h => nomatch h.1⟩
    cases hnone.symm.trans hfault

/-- **A step of the standard machine moves the counter so.** -/
theorem StepsTo.moves {result : Except Failure Status} (hp : p.size < 2 ^ 64)
    (h : StepsTo (.standard debug) p s result t) : Moves p s.pc result t.pc := by
  cases h.standard with
  | outside => exact .stays rfl
  | unknown hf hop =>
    rw [trace_pc]
    exact .stays rfl
  | overflow hf hn =>
    -- wherever there is an instruction the counter can advance
    rw [(nextAddress?_of_fetch hp hf).1] at hn
    cases hn
  | @opcode i op next _ hf hop hn houtcome =>
    obtain rfl : s.pc + 1 = next := Option.some.inj ((nextAddress?_of_fetch hp hf).1.symm.trans hn)
    cases hfault : op.fault? s.stack with
    | none =>
      obtain rfl : .ok op.status = result :=
        (Opcode.outcome_eq_ok_iff.2 ⟨hfault, rfl⟩).symm.trans houtcome
      exact moves_of_fault?_eq_none hp hf hop hfault
    | some fault =>
      obtain rfl : .error (fault.atPc s.pc) = result :=
        (Opcode.outcome_eq_fault_iff.2 hfault).symm.trans houtcome
      exact moves_of_fault?_eq_some hp hf hop hfault _

end

lemma announce_pc (m : Machine) (p : Program) (s : State σ) : (announce m p s).pc = s.pc := by
  cases hs : s.debug with
  | false => rw [announce_of_debug_off hs]
  | true =>
    rw [announce_of_debug_on hs]
    rfl

/-! ### Where a run can come -/

/-- Steps and runs, one after the other and whatever they give, lead from one state to another. -/
inductive Reaches (m : Machine) (p : Program) (s : State σ) : State σ → Prop
  | refl : Reaches m p s s
  | step {t u : State σ} {result : Except Failure Status} : Reaches m p s t →
      StepsTo m p t result u → Reaches m p s u
  | run {t u : State σ} {result : Except Failure RunResult} : Reaches m p s t →
      RunsTo m p t result u → Reaches m p s u

/-- An address that is inside the program, or just behind it, or the target of one of its jumps. -/
def Program.Leads (p : Program) (address : ℕ) : Prop :=
  address ≤ p.size ∨ ∃ i ∈ p, i.IsJump ∧ address = i.target

section

variable {m : Machine} {debug : Bool} {p : Program} {s t : State σ}

lemma Moves.leads {pc next : UInt64} {result : Except Failure Status} (h : Moves p pc result next)
    (hpc : p.Leads pc.toNat) : p.Leads next.toNat := by
  cases h with
  | stays => exact hpc
  | advances hf _ _ hnext =>
    have hlt : pc.toNat < p.size := (Array.getElem?_eq_some_iff.1 hf).1
    left
    omega
  | jumps hf hjump hnext => exact .inr ⟨_, Array.mem_of_getElem? hf, hjump, hnext⟩

lemma Executes.leads {k : ℕ} (hp : p.size < 2 ^ 64) (h : Executes (.standard debug) p k s t)
    (hs : p.Leads s.pc.toNat) : p.Leads t.pc.toNat := by
  induction h with
  | refl s => exact hs
  | head hst _ ih => exact ih ((hst.moves hp).leads hs)

lemma RunsTo.leads {result : Except Failure RunResult} (hp : p.size < 2 ^ 64)
    (h : RunsTo (.standard debug) p s result t) (hs : p.Leads s.pc.toNat) :
    p.Leads t.pc.toNat := by
  obtain ⟨k, u, hk, hu⟩ := runsTo_iff.1 h
  rw [← announce_pc (.standard debug) p s] at hs
  have hleads := hk.leads hp hs
  cases hu with
  | exited ht => exact (ht.moves hp).leads hleads
  | failed ht => exact (ht.moves hp).leads hleads

lemma Reaches.leads (hp : p.size < 2 ^ 64) (h : Reaches (.standard debug) p s t)
    (hs : p.Leads s.pc.toNat) : p.Leads t.pc.toNat := by
  induction h with
  | refl => exact hs
  | step _ ht ih => exact (ht.moves hp).leads ih
  | run _ ht ih => exact ht.leads hp ih

/-- The failure is placed outside the program, just behind it or at the target of one of its jumps. -/
def Program.LeftBy (p : Program) (failure : Failure) : Prop :=
  ∃ pc, failure.location = some (.pc pc) ∧ p.size ≤ pc.toNat ∧
    (pc.toNat = p.size ∨ ∃ i ∈ p, i.IsJump ∧ pc.toNat = i.target)

lemma StepsTo.size_le_of_segFault {failure : Failure} (hp : p.size < 2 ^ 64)
    (h : StepsTo (.standard debug) p s (.error failure) t) (hfault : failure.fault = .segFault) :
    failure.location = some (.pc s.pc) ∧ p.size ≤ s.pc.toNat := by
  have hlocation := ((stepsTo_error_iff hp).1 h).1
  exact ⟨hlocation, (segFault_iff_of_standard h (Failure.pc?_eq_some_iff.2 hlocation)).2 hfault⟩

lemma StepsTo.leftBy {failure : Failure} (hp : p.size < 2 ^ 64)
    (h : StepsTo (.standard debug) p s (.error failure) t) (hs : p.Leads s.pc.toNat)
    (hfault : failure.fault = .segFault) : p.LeftBy failure := by
  obtain ⟨hlocation, hsize⟩ := h.size_le_of_segFault hp hfault
  exact ⟨s.pc, hlocation, hsize, hs.imp_left fun hle => Nat.le_antisymm hle hsize⟩

end

/-! ### Programs that are not left -/

/-- There is an instruction, every jump leads to one, and the last one is `EXIT` or `JMP`. -/
structure Program.Enclosed (p : Program) : Prop where
  ne_empty : p ≠ #[]
  targets : ∀ i ∈ p, i.IsJump → 0 ≤ i.arg.toInt ∧ i.arg.toInt ≤ p.size - 1
  last : ∃ i, p[p.size - 1]? = some i ∧ (i.Named "EXIT" ∨ i.Named "JMP")

section

variable {debug : Bool} {p : Program} {s t : State σ}

lemma Moves.lt_size {pc next : UInt64} (hp : p.Enclosed) (h : Moves p pc (.ok .executing) next) :
    next.toNat < p.size := by
  cases h with
  | stays hfails => cases hfails
  | @advances i _ hf hjmp hexit hnext =>
    have hlt : pc.toNat < p.size := (Array.getElem?_eq_some_iff.1 hf).1
    by_contra hge
    -- the instruction would be the last one
    obtain ⟨last, hlast, hname⟩ := hp.last
    have hpc : p.size - 1 = pc.toNat := by omega
    rw [hpc] at hlast
    obtain rfl : i = last := Option.some.inj (hf.symm.trans hlast)
    rcases hname with hname | hname
    · exact hexit rfl hname
    · exact hjmp hname
  | @jumps i _ hf hjump hnext =>
    obtain ⟨hge, hle⟩ := hp.targets i (Array.mem_of_getElem? hf) hjump
    rw [hnext, Instruction.target, if_neg (by omega)]
    omega

lemma Executes.lt_size {k : ℕ} (hsize : p.size < 2 ^ 64) (hp : p.Enclosed)
    (h : Executes (.standard debug) p k s t) (hs : s.pc.toNat < p.size) : t.pc.toNat < p.size := by
  induction h with
  | refl s => exact hs
  | head hst _ ih => exact ih ((hst.moves hsize).lt_size hp)

lemma StepsTo.ne_segFault {failure : Failure} (hp : p.size < 2 ^ 64)
    (h : StepsTo (.standard debug) p s (.error failure) t) (hs : s.pc.toNat < p.size) :
    failure.fault ≠ .segFault := by
  intro hfault
  have hsize := (h.size_le_of_segFault hp hfault).2
  omega

lemma RunsTo.ne_segFault {failure : Failure} (hsize : p.size < 2 ^ 64) (hp : p.Enclosed)
    (h : RunsTo (.standard debug) p s (.error failure) t) (hs : s.pc.toNat < p.size) :
    failure.fault ≠ .segFault := by
  obtain ⟨k, u, v, hk, hv, -⟩ := runsTo_error_iff.1 h
  rw [← announce_pc (.standard debug) p s] at hs
  exact hv.ne_segFault hsize (hk.lt_size hsize hp hs)

end

/-- **When there can be a seg fault.** From address 0, let steps and runs be made one after the other,
whatever they give. If then a step or a run fails with a seg fault, it is outside the program, and
either just behind it or at the target of one of its jumps, where a negative argument stands for the
last address of all. So let the program have an instruction, let all its jumps lead to instructions, and
let its last one be `EXIT` or `JMP`. Then, as long as instructions go on, the counter is inside the
program, and neither the next step nor a run from there fails with a seg fault. -/
theorem segFault_behind_end_or_at_target (debug : Bool) (p : Program) (hp : p.size < 2 ^ 64) :
    let m := Machine.standard debug
    (∀ s t : State σ, s.pc = 0 → Reaches m p s t →
      (∀ failure u, StepsTo m p t (.error failure) u → failure.fault = .segFault →
        p.LeftBy failure) ∧
      ∀ failure u, RunsTo m p t (.error failure) u → failure.fault = .segFault →
        p.LeftBy failure) ∧
    (p.Enclosed → ∀ (s t : State σ) k, s.pc = 0 → Executes m p k s t →
      t.pc.toNat < p.size ∧
      (∀ failure u, StepsTo m p t (.error failure) u → failure.fault ≠ .segFault) ∧
      ∀ failure u, RunsTo m p t (.error failure) u → failure.fault ≠ .segFault) := by
  intro m
  constructor
  · intro s t hs hreaches
    have hstart : p.Leads s.pc.toNat := by
      rw [hs]
      exact .inl (Nat.zero_le _)
    have hleads := hreaches.leads hp hstart
    refine ⟨fun failure u h => h.leftBy hp hleads, ?_⟩
    intro failure u h hfault
    obtain ⟨k, v, w, hk, hw, -⟩ := runsTo_error_iff.1 h
    -- the listing of the run does not move the counter
    rw [← announce_pc m p t] at hleads
    exact hw.leftBy hp (hk.leads hp hleads) hfault
  · intro henclosed s t k hs hk
    have hstart : s.pc.toNat < p.size := by
      rw [hs]
      exact Array.size_pos_iff.2 henclosed.ne_empty
    have hlt := hk.lt_size hp henclosed hstart
    exact ⟨hlt, fun failure u h => h.ne_segFault hp hlt, fun failure u h =>
      h.ne_segFault hp henclosed hlt⟩

/-- A jump to a negative target ends in a seg fault at the last address of all. A program that jumps
back to its beginning goes on inside. -/
theorem segFault_behind_end_or_at_target_loop :
    let m := Machine.standard true
    let left : Program := #[⟨1, 0⟩, ⟨9, -1⟩]
    let kept : Program := #[⟨1, 0⟩, ⟨9, 0⟩]
    left.size < 2 ^ 64 ∧ kept.size < 2 ^ 64 ∧
      (∃ t : State Transcript,
        RunsTo m left (.initial m {}) (.error (Fault.segFault.atPc 0xFFFFFFFFFFFFFFFF)) t) ∧
      left.LeftBy (Fault.segFault.atPc 0xFFFFFFFFFFFFFFFF) ∧
      kept.Enclosed ∧
      ∃ t : State Transcript, Executes m kept 3 (.initial m {}) t ∧ t.pc.toNat < kept.size := by
  intro m left kept
  have hleft : left.size < 2 ^ 64 := by decide
  have hkept : kept.size < 2 ^ 64 := by decide
  obtain ⟨t, ht⟩ : ∃ t : State Transcript,
      RunsTo m left (.initial m {}) (.error (Fault.segFault.atPc 0xFFFFFFFFFFFFFFFF)) t :=
    ⟨_, 4, rfl⟩
  have hby := ((segFault_behind_end_or_at_target true left hleft).1 _ _ rfl .refl).2 _ t ht rfl
  have henclosed : kept.Enclosed :=
    ⟨by decide, by decide, ⟨⟨9, 0⟩, by decide, by decide⟩⟩
  obtain ⟨u, hu⟩ : ∃ u : State Transcript, Executes m kept 3 (.initial m {}) u :=
    ⟨_, .head ⟨1, rfl⟩ (.head ⟨1, rfl⟩ (.head ⟨1, rfl⟩ (.refl _)))⟩
  have hinside := (segFault_behind_end_or_at_target true kept hkept).2 henclosed _ u 3 rfl hu
  exact ⟨hleft, hkept, ⟨t, ht⟩, hby, henclosed, u, hu, hinside.1⟩

end StackMachine
