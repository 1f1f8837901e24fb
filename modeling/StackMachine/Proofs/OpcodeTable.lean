import StackMachine.Proofs.DebugFlag
import StackMachine.Proofs.Numerals
import StackMachine.Proofs.Opcode

/-!
The opcode table. Its columns say, for an opcode and a stack, which fault there is, if any, and
otherwise the status, the stack, the address, the text written and the values printed. Arithmetic is
that of the integers, brought back into the range of a word. A step of a machine with the standard
instructions does what the table says, and fails besides only outside the program and at a number
that is no opcode.
-/

namespace StackMachine

namespace Opcode

/-! ### The columns -/

/-- The fault of an opcode on a stack. -/
def fault? (op : Opcode) (stack : Stack) : Option Fault :=
  if op ∈ [add, div, eq, neq] ∧ stack.length < 2 then some .shortStack
  else if op ∈ [print, exit, pop, dup, jmp, jmpz, write, writeChar] ∧ stack = [] ∨
      op ∈ [pop, jmpz] ∧ stack.length = 1 then some .emptyStack
  else if op = div ∧ stack.head? = some 0 then some .divisionByZero
  else none

/-- The status after an opcode. -/
def status (op : Opcode) : Status :=
  if op = exit then .exited else .executing

/-- The result of an opcode at `pc`. -/
def outcome (op : Opcode) (stack : Stack) (pc : UInt64) : Except Failure Status :=
  match op.fault? stack with
  | some fault => .error (fault.atPc pc)
  | none => .ok op.status

/-- The stack after an opcode. -/
def stackAfter (op : Opcode) (arg : Int64) (stack : Stack) : Stack :=
  match op, stack with
  | loadConst, stack => arg :: stack
  | dup, top :: rest => top :: top :: rest
  | pop, _ :: rest | jmpz, _ :: rest => rest
  | add, top :: below :: rest => Int64.ofInt (below.toInt + top.toInt) :: rest
  | div, top :: below :: rest => Int64.ofInt (below.toInt.tdiv top.toInt) :: rest
  | eq, top :: below :: rest => (if below.toInt = top.toInt then 1 else 0) :: rest
  | neq, top :: below :: rest => (if below.toInt = top.toInt then 0 else 1) :: rest
  | _, stack => stack

/-- The opcode is a jump, and it is taken. -/
def Jumps (op : Opcode) (stack : Stack) : Prop :=
  op = jmp ∨ op = jmpz ∧ stack.head? = some 0

instance (op : Opcode) (stack : Stack) : Decidable (op.Jumps stack) :=
  inferInstanceAs (Decidable (_ ∨ _))

/-- The address after an opcode at `pc`: the argument of a jump that is taken, or the last address
of all if that is negative, and else the next address. -/
def pcAfter (op : Opcode) (arg : Int64) (pc : ℕ) (stack : Stack) : ℕ :=
  if op.Jumps stack then if arg.toInt < 0 then 2 ^ 64 - 1 else arg.toInt.toNat
  else pc + 1

/-- The character of a code point, or the replacement character if there is none. -/
def IsCharacter (code : ℤ) (c : Char) : Prop :=
  (c.toNat : ℤ) = code ∨ c = '\ufffd' ∧ ∀ c' : Char, (c'.toNat : ℤ) ≠ code

/-- The text that an opcode writes. -/
def Writes (op : Opcode) (stack : Stack) (text : String) : Prop :=
  match op, stack with
  | write, top :: _ => text = toString top.toInt
  | writeChar, top :: _ => ∃ c, IsCharacter top.toInt c ∧ text = String.singleton c
  | _, _ => text = ""

/-- The values that an opcode prints. -/
def printed (op : Opcode) (stack : Stack) : List Int64 :=
  match op, stack with
  | print, top :: _ => [top]
  | _, _ => []

/-- The state `t` is what the table says an opcode makes of `s`. -/
structure Effect (op : Opcode) (arg : Int64) (s t : State Transcript) : Prop where
  stack : t.stack = op.stackAfter arg s.stack
  pc : t.pc.toNat = op.pcAfter arg s.pc.toNat s.stack
  output : ∃ text, op.Writes s.stack text ∧ t.output = s.output ++ text
  prints : t.sink.prints = s.sink.prints ++ op.printed s.stack

/-! ### What the columns say of each other -/

section

variable {op : Opcode} {stack : Stack}

lemma fault?_eq_shortStack_iff :
    op.fault? stack = some .shortStack ↔ op ∈ [add, div, eq, neq] ∧ stack.length < 2 := by
  unfold fault?
  split_ifs with h1 h2 h3
  · exact iff_of_true rfl h1
  · exact iff_of_false (by decide) h1
  · exact iff_of_false (by decide) h1
  · exact iff_of_false (by decide) h1

lemma fault?_eq_emptyStack_iff :
    op.fault? stack = some .emptyStack ↔
      op ∈ [print, exit, pop, dup, jmp, jmpz, write, writeChar] ∧ stack = [] ∨
        op ∈ [pop, jmpz] ∧ stack.length = 1 := by
  unfold fault?
  split_ifs with h1 h2 h3
  · refine iff_of_false (by decide) ?_
    -- no opcode that takes two values takes one
    obtain ⟨h1, -⟩ := h1
    cases op <;> simp at h1 ⊢
  · exact iff_of_true rfl h2
  · exact iff_of_false (by decide) h2
  · exact iff_of_false (by decide) h2

lemma fault?_eq_divisionByZero_iff :
    op.fault? stack = some .divisionByZero ↔
      op = div ∧ 2 ≤ stack.length ∧ stack.head? = some 0 := by
  unfold fault?
  split_ifs with h1 h2 h3
  · refine iff_of_false (by decide) ?_
    rintro ⟨-, hlen, -⟩
    omega
  · refine iff_of_false (by decide) ?_
    rintro ⟨rfl, -, -⟩
    simp at h2
  · refine iff_of_true rfl ⟨h3.1, ?_, h3.2⟩
    by_contra hlen
    exact h1 ⟨by simp [h3.1], by omega⟩
  · exact iff_of_false (by decide) fun h => h3 ⟨h.1, h.2.2⟩

lemma outcome_eq_error_iff {pc : UInt64} {failure : Failure} :
    op.outcome stack pc = .error failure ↔
      ∃ fault, op.fault? stack = some fault ∧ failure = fault.atPc pc := by
  unfold outcome
  cases op.fault? stack with
  | none => simp
  | some fault => simp [eq_comm]

lemma outcome_eq_ok_iff {pc : UInt64} {status : Status} :
    op.outcome stack pc = .ok status ↔ op.fault? stack = none ∧ status = op.status := by
  unfold outcome
  cases op.fault? stack with
  | none => simp [eq_comm]
  | some fault => simp

lemma atPc_inj {fault fault' : Fault} {pc : UInt64} :
    fault.atPc pc = fault'.atPc pc ↔ fault = fault' := by
  simp [Fault.atPc]

lemma outcome_eq_fault_iff {pc : UInt64} {fault : Fault} :
    op.outcome stack pc = .error (fault.atPc pc) ↔ op.fault? stack = some fault := by
  rw [outcome_eq_error_iff]
  constructor
  · rintro ⟨fault', hfault, heq⟩
    rwa [atPc_inj.1 heq]
  · exact fun h => ⟨fault, h, rfl⟩

lemma mem_of_fault? {fault : Fault} (h : op.fault? stack = some fault) :
    fault ∈ [Fault.shortStack, .emptyStack, .divisionByZero] := by
  unfold fault? at h
  split_ifs at h <;> simp_all

lemma ne_segFault_of_fault? {fault : Fault} (h : op.fault? stack = some fault) :
    fault ≠ .segFault := by
  rintro rfl
  have hmem := mem_of_fault? h
  simp [Fault.shortStack, Fault.emptyStack] at hmem

end

/-! ### The opcodes do what the table says -/

lemma toNat_addressOfTarget (target : Int64) :
    (addressOfTarget target).toNat =
      if target.toInt < 0 then 2 ^ 64 - 1 else target.toInt.toNat := by
  have hiff : target < 0 ↔ target.toInt < 0 := by simp [Int64.lt_iff_toInt_lt]
  unfold addressOfTarget
  by_cases h : target.toInt < 0
  · rw [if_pos (hiff.2 h), if_pos h]
    rfl
  · rw [if_neg (mt hiff.1 h), if_neg h, Int64.toNat_toUInt64_of_le]
    · rfl
    · simpa [Int64.le_iff_toInt_le] using h

lemma isCharacter_charOfCodePoint (value : Int64) :
    IsCharacter value.toInt (InstructionSet.Standard.charOfCodePoint value) := by
  unfold InstructionSet.Standard.charOfCodePoint
  by_cases h : 0 ≤ value.toInt ∧ value.toInt.toNat.isValidChar
  · rw [if_pos h]
    left
    have hc : (Char.ofNat value.toInt.toNat).toNat = value.toInt.toNat := by
      unfold Char.ofNat
      rw [dif_pos h.2]
      rfl
    omega
  · rw [if_neg h]
    refine Or.inr ⟨rfl, fun c hc => h ⟨by omega, ?_⟩⟩
    rw [← hc]
    exact c.valid

variable {σ : Type} [Sink σ]

lemma settle_perform (op : Opcode) (arg : Int64) (pc : UInt64) (s : State σ) :
    settle pc (op.perform arg s).1 (op.perform arg s).2.stack = op.outcome s.stack pc := by
  obtain ⟨stack, spc, output, debug, sink⟩ := s
  cases op with
  | div =>
    rcases stack with _ | ⟨top, _ | ⟨below, rest⟩⟩
    · rfl
    · rfl
    · have hlen : ¬ rest.length + 1 + 1 < 2 := by omega
      by_cases h : top = 0
      · simp [perform, outcome, fault?, settle, h, hlen]
      · simp [perform, outcome, fault?, settle, Stack.peek, status, h, hlen]
  | jmpz =>
    rcases stack with _ | ⟨top, _ | ⟨below, rest⟩⟩
    · rfl
    · by_cases h : top = 0 <;> simp [perform, outcome, fault?, settle, Stack.peek, State.jump, h]
    · by_cases h : top = 0 <;>
        simp [perform, outcome, fault?, settle, Stack.peek, State.jump, status, h]
  | _ => rcases stack with _ | ⟨top, _ | ⟨below, rest⟩⟩ <;> rfl

lemma div_eq_ofInt (a b : Int64) : a / b = Int64.ofInt (a.toInt.tdiv b.toInt) := by
  rw [← Int64.toInt_inj, Int64.toInt_div, Int64.toInt_ofInt]

lemma perform_of_fault?_eq_none {op : Opcode} (arg : Int64) {s : State σ}
    (h : op.fault? s.stack = none) :
    ∃ text, op.Writes s.stack text ∧ (op.perform arg s).2 =
      { s with
        stack := op.stackAfter arg s.stack
        pc := if op.Jumps s.stack then addressOfTarget arg else s.pc
        output := s.output ++ text
        sink := (op.printed s.stack).foldl Sink.print s.sink } := by
  obtain ⟨stack, pc, output, debug, sink⟩ := s
  cases op with
  | write =>
    rcases stack with _ | ⟨top, rest⟩
    · simp [fault?] at h
    · exact ⟨_, Numeral.text_eq_toString _,
        by simp [perform, stackAfter, Jumps, printed, State.write]⟩
  | writeChar =>
    rcases stack with _ | ⟨top, rest⟩
    · simp [fault?] at h
    · exact ⟨_, ⟨_, isCharacter_charOfCodePoint top, rfl⟩,
        by simp [perform, stackAfter, Jumps, printed, State.write]⟩
  | jmpz =>
    rcases stack with _ | ⟨top, rest⟩
    · simp [fault?] at h
    · refine ⟨"", rfl, ?_⟩
      by_cases htop : top = 0 <;> simp [perform, stackAfter, Jumps, printed, State.jump, htop]
  | div =>
    rcases stack with _ | ⟨top, _ | ⟨below, rest⟩⟩
    · simp [fault?] at h
    · simp [fault?] at h
    · have htop : top ≠ 0 := by
        rintro rfl
        have hdiv : div.fault? (0 :: below :: rest) = some .divisionByZero :=
          fault?_eq_divisionByZero_iff.2 ⟨rfl, by simp, rfl⟩
        exact absurd (hdiv.symm.trans h) (by simp)
      exact ⟨"", rfl, by simp [perform, stackAfter, Jumps, printed, htop, div_eq_ofInt]⟩
  | _ =>
    rcases stack with _ | ⟨top, _ | ⟨below, rest⟩⟩ <;>
      exact ⟨"", rfl, by simp [perform, stackAfter, Jumps, printed, State.jump, State.print,
        Int64.ofInt_add, Int64.toInt_inj]⟩

lemma prints_foldl_print (values : List Int64) (x : Transcript) :
    (values.foldl Sink.print x).prints = x.prints ++ values := by
  induction values generalizing x with
  | nil => simp
  | cons value rest ih => rw [List.foldl_cons, ih, Transcript.prints_print, List.append_assoc]; rfl

end Opcode

/-! ### A step of the standard machine -/

/-- A step at an opcode gives the result of the table and leaves what the opcode makes of the state, of
which the instruction has been traced and the counter advanced. -/
lemma step_eq_perform {σ : Type} [Sink σ] (debug : Bool) {p : Program} {s : State σ}
    {i : Instruction} {op : Opcode} {next : UInt64} (n : ℕ) (hf : p.fetch? s.pc = some i)
    (hop : op.id = i.op) (hn : nextAddress? s.pc = some next) :
    step (.standard debug) p (n + 1) s = some (op.outcome s.stack s.pc,
      (op.perform i.arg { trace (.standard debug) i s with pc := next }).2) := by
  have haction : (Machine.standard debug).instructions.action? i.op = some op.action := by
    rw [← hop]
    exact Opcode.action?_id op
  generalize hu : ({ trace (.standard debug) i s with pc := next } : State σ) = u
  have hustack : u.stack = s.stack := by simp [← hu]
  rw [step_succ, cycle_of_action hf haction hn, hu, Opcode.exec_action, Option.map_some, ← hustack,
    ← Opcode.settle_perform]

section

variable (debug : Bool) {p : Program} {s : State Transcript} {i : Instruction} (n : ℕ)

lemma prints_trace (m : Machine) (i : Instruction) (s : State Transcript) :
    (trace m i s).sink.prints = s.sink.prints := by
  cases hd : s.debug <;> cases hn : m.instructions.name? i.op <;>
    simp [trace, hd, hn, State.record, State.debugLines]

lemma step_outside (h : p.size ≤ s.pc.toNat) :
    step (.standard debug) p (n + 1) s = some (.error (Fault.segFault.atPc s.pc), s) :=
  cycle_of_fetch_none (Array.getElem?_eq_none h)

lemma step_unknown (hf : p.fetch? s.pc = some i) (h : ¬ i.op < 13) :
    step (.standard debug) p (n + 1) s =
      some (.error ((Fault.unknownOpcode i.op).atPc s.pc), trace (.standard debug) i s) :=
  cycle_of_action_none hf (Opcode.action?_eq_none h)

lemma step_opcode (hp : p.size < 2 ^ 64) (hf : p.fetch? s.pc = some i) {op : Opcode}
    (hop : op.id = i.op) :
    ∃ t, step (.standard debug) p (n + 1) s = some (op.outcome s.stack s.pc, t) ∧
      (op.fault? s.stack = none → op.Effect i.arg s t) := by
  obtain ⟨hnext, hpc⟩ := nextAddress?_of_fetch hp hf
  refine ⟨_, step_eq_perform debug n hf hop hnext, fun h => ?_⟩
  -- the state in which the script is carried out: traced, and with the counter advanced
  generalize hu : ({ trace (.standard debug) i s with pc := s.pc + 1 } : State Transcript) = u
  have hustack : u.stack = s.stack := by simp [← hu]
  have huoutput : u.output = s.output := by simp [← hu]
  have huprints : u.sink.prints = s.sink.prints := by simp [← hu, prints_trace]
  have hupc : u.pc.toNat = s.pc.toNat + 1 := by simp [← hu, hpc]
  rw [← hustack] at h
  obtain ⟨text, hwrites, ht⟩ := Opcode.perform_of_fault?_eq_none i.arg h
  rw [ht, hustack]
  refine ⟨rfl, ?_, ⟨text, hustack ▸ hwrites, by rw [huoutput]⟩, ?_⟩
  · rw [Opcode.pcAfter, ← Opcode.toNat_addressOfTarget, apply_ite UInt64.toNat, hupc]
  · rw [Opcode.prints_foldl_print, huprints]

end

/-- **A step of the standard machine does what the opcode table says.** It answers at any bound. It
fails with a seg fault if and only if the counter is outside the program. Else it fails for want of
an opcode if and only if there is none of that number. Else it fails as the opcode does, for exactly
the three reasons given; and if it does not fail, then it exits if and only if the opcode is `EXIT`,
and the stack, the counter, the output and the printed values are those of the table. -/
theorem step_standard_refines_table (debug : Bool) (p : Program) (hp : p.size < 2 ^ 64)
    (s : State Transcript) (n : ℕ) :
    ∃ result t, step (.standard debug) p (n + 1) s = some (result, t) ∧
      (result = .error (Fault.segFault.atPc s.pc) ↔ p.size ≤ s.pc.toNat) ∧
      ∀ i, p[s.pc.toNat]? = some i →
        (result = .error (Fault.atPc (.invalidInstruction ("unknown opcode " ++ toString i.op))
          s.pc) ↔ ¬ i.op < 13) ∧
        (i.op < 13 → ∃ op : Opcode, InstructionSet.standard.name? i.op = some op.name ∧
          (result = .error (Fault.atPc (.stackFailure "stack size not sufficient") s.pc) ↔
            op ∈ [.add, .div, .eq, .neq] ∧ s.stack.length < 2) ∧
          (result = .error (Fault.atPc (.stackFailure "empty stack") s.pc) ↔
            op ∈ [.print, .exit, .pop, .dup, .jmp, .jmpz, .write, .writeChar] ∧ s.stack = [] ∨
              op ∈ [.pop, .jmpz] ∧ s.stack.length = 1) ∧
          (result = .error (Fault.divisionByZero.atPc s.pc) ↔
            op = .div ∧ 2 ≤ s.stack.length ∧ s.stack.head? = some 0) ∧
          (∀ failure, result = .error failure →
            ∃ fault ∈ [Fault.stackFailure "stack size not sufficient", .stackFailure "empty stack",
              .divisionByZero], failure = fault.atPc s.pc) ∧
          ∀ status, result = .ok status →
            (status = .exited ↔ op = .exit) ∧ op.Effect i.arg s t) := by
  by_cases hout : p.size ≤ s.pc.toNat
  · refine ⟨_, _, step_outside debug n hout, iff_of_true rfl hout, fun i hi => ?_⟩
    have hlt : s.pc.toNat < p.size := (Array.getElem?_eq_some_iff.1 hi).1
    omega
  obtain ⟨i, hf⟩ : ∃ i, p.fetch? s.pc = some i :=
    ⟨_, Array.getElem?_eq_getElem (Nat.lt_of_not_le hout)⟩
  by_cases hop : i.op < 13
  · obtain ⟨op, hid⟩ := Opcode.exists_id_iff.2 hop
    obtain ⟨t, hstep, heffect⟩ := step_opcode debug n hp hf hid
    refine ⟨_, t, hstep, iff_of_false (fun h => ?_) hout, fun j hj => ?_⟩
    · have hmem := Opcode.mem_of_fault? (Opcode.outcome_eq_fault_iff.1 h)
      simp [Fault.shortStack, Fault.emptyStack] at hmem
    obtain rfl : i = j := Option.some.inj (hf.symm.trans hj)
    refine ⟨iff_of_false (fun h => ?_) (not_not_intro hop), fun _ => ⟨op, ?_, ?_, ?_, ?_, ?_, ?_⟩⟩
    · have hmem := Opcode.mem_of_fault? (Opcode.outcome_eq_fault_iff.1 h)
      simp [Fault.shortStack, Fault.emptyStack] at hmem
    · rw [← hid, Opcode.name?_id]
    · exact Opcode.outcome_eq_fault_iff.trans Opcode.fault?_eq_shortStack_iff
    · exact Opcode.outcome_eq_fault_iff.trans Opcode.fault?_eq_emptyStack_iff
    · rw [Opcode.outcome_eq_fault_iff, Opcode.fault?_eq_divisionByZero_iff]
    · intro failure h
      obtain ⟨fault, hfault, rfl⟩ := Opcode.outcome_eq_error_iff.1 h
      exact ⟨fault, Opcode.mem_of_fault? hfault, rfl⟩
    · intro status h
      obtain ⟨hnone, rfl⟩ := Opcode.outcome_eq_ok_iff.1 h
      exact ⟨by simp [Opcode.status], heffect hnone⟩
  · -- no opcode has this number
    refine ⟨_, _, step_unknown debug n hf hop, iff_of_false ?_ hout, fun j hj => ?_⟩
    · simp [Fault.unknownOpcode, Fault.atPc]
    obtain rfl : i = j := Option.some.inj (hf.symm.trans hj)
    have hwording : Fault.unknownOpcode i.op =
        .invalidInstruction ("unknown opcode " ++ toString i.op) := by
      rw [Fault.unknownOpcode, Numeral.text_eq_toString]
      rfl
    rw [hwording]
    exact ⟨iff_of_true rfl hop, fun h => absurd h hop⟩

/-- The least word divided by minus one is the least word. -/
theorem step_standard_refines_table_div : (#[⟨5, 0⟩] : Program).size < 2 ^ 64 ∧
    ∃ t, step (.standard true) #[⟨5, 0⟩] 1
        ({ stack := [-1, Int64.minValue], debug := true, sink := {} } : State Transcript) =
      some (.ok .executing, t) ∧ t.stack = [Int64.minValue] ∧ t.pc.toNat = 1 := by
  have hp : (#[⟨5, 0⟩] : Program).size < 2 ^ 64 := by decide
  obtain ⟨result, t, hstep, -, htable⟩ := step_standard_refines_table true #[⟨5, 0⟩] hp
    { stack := [-1, Int64.minValue], debug := true, sink := {} } 0
  obtain ⟨op, hname, -, -, -, -, heffect⟩ := (htable _ rfl).2 (by decide)
  have hop : op = .div := by
    cases op <;> first | rfl | exact absurd hname (by decide)
  have hresult : result = .ok .executing := by
    cases hstep
    rfl
  obtain ⟨-, hstack, hpc, -⟩ := heffect _ hresult
  rw [hop] at hstack hpc
  rw [hresult] at hstep
  exact ⟨hp, t, hstep, hstack.trans (by decide), hpc.trans (by decide)⟩

end StackMachine
