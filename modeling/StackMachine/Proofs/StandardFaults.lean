import StackMachine.Proofs.OpcodeTable

/-!
What a fault of a standard instruction leaves behind. A step of the standard machine goes one of four
ways, of which the last is that of the opcode table. An opcode that fails has changed nothing, but
for three of them, which take the last value or jump before the stack is found empty.
-/

namespace StackMachine

variable {σ : Type} [Sink σ]

/-! ### The ways of a standard instruction -/

/-- What a step of the standard machine can do in `s`: there is no instruction, or none of its number,
or the counter cannot advance, or an opcode is performed. -/
inductive StandardStep (debug : Bool) (p : Program) (s : State σ) :
    Except Failure Status → State σ → Prop
  | outside : p.size ≤ s.pc.toNat → StandardStep debug p s (.error (Fault.segFault.atPc s.pc)) s
  | unknown {i : Instruction} : p.fetch? s.pc = some i → ¬ i.op < 13 →
      StandardStep debug p s (.error ((Fault.unknownOpcode i.op).atPc s.pc))
        (trace (.standard debug) i s)
  | overflow {i : Instruction} : p.fetch? s.pc = some i → nextAddress? s.pc = none →
      StandardStep debug p s (.error ⟨.counterOverflow, none⟩) (trace (.standard debug) i s)
  | opcode {i : Instruction} {op : Opcode} {next : UInt64} {result : Except Failure Status} :
      p.fetch? s.pc = some i → op.id = i.op → nextAddress? s.pc = some next →
      op.outcome s.stack s.pc = result →
      StandardStep debug p s result
        (op.perform i.arg { trace (.standard debug) i s with pc := next }).2

/-- **A step of the standard machine goes one of these ways.** -/
theorem StepsTo.standard {debug : Bool} {p : Program} {s t : State σ}
    {result : Except Failure Status} (h : StepsTo (.standard debug) p s result t) :
    StandardStep debug p s result t := by
  obtain ⟨n, h⟩ := h.transition
  cases h with
  | outside hf => exact .outside (Array.getElem?_eq_none_iff.1 hf)
  | @unknown i hf ha =>
    rcases Opcode.action?_cases i.op with ⟨op, -, hsome⟩ | ⟨hop, -⟩
    · cases ha.symm.trans hsome
    · exact .unknown hf hop
  | overflow hf ha hn => exact .overflow hf hn
  | @performed i action next result t hf ha hn hexec =>
    rcases Opcode.action?_cases i.op with ⟨op, hid, hsome⟩ | ⟨-, hnone⟩
    · obtain rfl : op.action = action := Option.some.inj (hsome.symm.trans ha)
      have hstep : StandardStep debug p s _ _ := .opcode hf hid hn rfl
      -- the state in which the script is carried out has the stack of `s`
      generalize hu : ({ trace (.standard debug) i s with pc := next } : State σ) = u
        at hexec hstep
      have hustack : u.stack = s.stack := by simp [← hu]
      rw [Opcode.exec_action] at hexec
      have hperform : op.perform i.arg u = (result, t) := Option.some.inj hexec
      rw [← hustack, ← Opcode.settle_perform op i.arg, hperform] at hstep
      exact hstep
    · cases ha.symm.trans hnone

lemma stepsTo_of_opcode (debug : Bool) {p : Program} {s : State σ} {i : Instruction} {op : Opcode}
    {next : UInt64} (hf : p.fetch? s.pc = some i) (hop : op.id = i.op)
    (hn : nextAddress? s.pc = some next) :
    StepsTo (.standard debug) p s (op.outcome s.stack s.pc)
      (op.perform i.arg { trace (.standard debug) i s with pc := next }).2 :=
  ⟨1, step_eq_perform debug 0 hf hop hn⟩

lemma exists_stepsTo (debug : Bool) (p : Program) (s : State σ) :
    ∃ result t, StepsTo (.standard debug) p s result t := by
  cases hf : p.fetch? s.pc with
  | none => exact ⟨_, _, 1, cycle_of_fetch_none hf⟩
  | some i =>
    rcases Opcode.action?_cases i.op with ⟨op, hop, ha⟩ | ⟨-, ha⟩
    · cases hn : nextAddress? s.pc with
      | none => exact ⟨_, _, 1, cycle_of_next_none hf ha hn⟩
      | some next => exact ⟨_, _, stepsTo_of_opcode debug hf hop hn⟩
    · exact ⟨_, _, 1, cycle_of_action_none hf ha⟩

lemma StepsTo.opcode_of_ok {debug : Bool} {p : Program} {s t : State σ} {status : Status}
    (h : StepsTo (.standard debug) p s (.ok status) t) :
    ∃ i, ∃ op : Opcode, ∃ next, p.fetch? s.pc = some i ∧ op.id = i.op ∧
      nextAddress? s.pc = some next ∧ op.fault? s.stack = none ∧ status = op.status ∧
      t = (op.perform i.arg { trace (.standard debug) i s with pc := next }).2 := by
  have hstep := h.standard
  generalize hx : Except.ok status = x at hstep
  cases hstep with
  | outside | unknown | overflow => cases hx
  | opcode hf hop hn houtcome =>
    subst hx
    obtain ⟨hfault, hstatus⟩ := Opcode.outcome_eq_ok_iff.1 houtcome
    exact ⟨_, _, _, hf, hop, hn, hfault, hstatus, rfl⟩

lemma segFault_iff_of_standard {debug : Bool} {p : Program} {s t : State σ}
    {failure : Failure} {pc : UInt64} (h : StepsTo (.standard debug) p s (.error failure) t)
    (hpc : failure.pc? = some pc) : p.size ≤ pc.toNat ↔ failure.fault = .segFault := by
  cases h.standard with
  | outside hout =>
    cases hpc
    exact iff_of_true hout rfl
  | @unknown i hf hop =>
    cases hpc
    have hlt : s.pc.toNat < p.size := (Array.getElem?_eq_some_iff.1 hf).1
    exact iff_of_false (by omega) (by simp [Fault.atPc, Fault.unknownOpcode])
  | overflow hf hn => cases hpc
  | @opcode i op next _ hf hop hn houtcome =>
    obtain ⟨fault, hfault, rfl⟩ := Opcode.outcome_eq_error_iff.1 houtcome
    cases hpc
    have hlt : s.pc.toNat < p.size := (Array.getElem?_eq_some_iff.1 hf).1
    exact iff_of_false (by omega) (Opcode.ne_segFault_of_fault? hfault)

/-! ### How many values an opcode needs -/

namespace Opcode

/-- The least number of values on which an opcode does not fail: what it takes and reads, and enough
for one to be left. -/
def need : Opcode → ℕ
  | loadConst => 0
  | print | exit | dup | jmp | write | writeChar => 1
  | pop | add | div | eq | neq | jmpz => 2

/-- **An opcode fails for want of values, or in a division by zero.** -/
theorem fault?_eq_none_iff {op : Opcode} {stack : Stack} :
    op.fault? stack = none ↔ op.need ≤ stack.length ∧ ¬ (op = div ∧ stack.head? = some 0) := by
  rcases stack with _ | ⟨top, _ | ⟨below, rest⟩⟩ <;> cases op <;> simp +arith [fault?, need]

end Opcode

/-! ### What a fault leaves -/

namespace Opcode

variable {op : Opcode}

lemma eq_div_of_fault?_cons_cons {top below : Int64} {rest : Stack} {fault : Fault}
    (h : op.fault? (top :: below :: rest) = some fault) : op = div ∧ top = 0 := by
  by_contra hdiv
  simp +arith [fault?] at h
  exact hdiv h.1

/-- An opcode that fails leaves the state as it is, but that `POP` and `JMPZ` have taken the last value,
and `JMP` and `JMPZ` have jumped, before there is found to be no value. -/
lemma perform_of_fault?_eq_some (arg : Int64) {s : State σ} {fault : Fault}
    (h : op.fault? s.stack = some fault) :
    (op.perform arg s).2 =
      { s with
        stack := if op ∈ [pop, jmpz] ∧ s.stack.length = 1 then [] else s.stack
        pc := if op = jmp ∧ s.stack = [] ∨ op = jmpz ∧ s.stack = [0] then addressOfTarget arg
          else s.pc } := by
  obtain ⟨stack, pc, output, debug, sink⟩ := s
  rcases stack with _ | ⟨top, _ | ⟨below, rest⟩⟩
  · cases op with
    | loadConst => simp [fault?] at h
    | _ => rfl
  · cases op with
    | add | div | eq | neq | pop => rfl
    | jmpz => by_cases htop : top = 0 <;> simp [perform, State.jump, htop]
    | _ => simp [fault?] at h
  · obtain ⟨rfl, rfl⟩ := eq_div_of_fault?_cons_cons h
    simp [perform]

end Opcode

/-! ### What fetching shows -/

section

variable {m : Machine} {i : Instruction} {s : State Transcript}

lemma trace_of_name?_eq_none (h : m.instructions.name? i.op = none) :
    (trace m i s).debug = false ∧ (trace m i s).sink.events = s.sink.events := by
  cases hd : s.debug <;> simp [trace, hd, h, State.record, Sink.record]

lemma trace_of_name?_eq_some {name : String} (h : m.instructions.name? i.op = some name) :
    (trace m i s).debug = s.debug ∧
      (trace m i s).sink.events.toList =
        s.sink.events.toList ++
          (if s.debug then [traceLine name i.arg s.pc] else []).map .debug := by
  cases hd : s.debug <;>
    simp [trace, hd, h, State.record, State.debugLines, Sink.record, Sink.debug]

end

/-! ### The state behind a failed step -/

/-- What an opcode that fails with its argument in `s` leaves. The output is as it was and nothing is
printed; the stack is as it was, unless its only value is taken; the counter has advanced, unless an
empty stack is found behind a jump. -/
structure Opcode.Leaves (op : Opcode) (arg : Int64) (s t : State Transcript) : Prop where
  stack : t.stack = if op ∈ [.pop, .jmpz] ∧ s.stack.length = 1 then [] else s.stack
  pc : t.pc.toNat =
    if op = .jmp ∧ s.stack = [] ∨ op = .jmpz ∧ s.stack = [0] then
      if arg.toInt < 0 then 2 ^ 64 - 1 else arg.toInt.toNat
    else s.pc.toNat + 1
  output : t.output = s.output
  debug : t.debug = s.debug
  events : t.sink.events.toList =
    s.sink.events.toList ++ (if s.debug then [traceLine op.name arg s.pc] else []).map .debug

/-- Nothing was printed between two states if what was shown between them are debug lines. -/
lemma prints_eq_of_events {s t : State Transcript} (lines : List String)
    (h : t.sink.events.toList = s.sink.events.toList ++ lines.map .debug) :
    t.sink.prints = s.sink.prints := by
  have hlines : (lines.map SinkEvent.debug).filterMap SinkEvent.printed? = [] := by
    simp [SinkEvent.printed?]
  rw [Transcript.prints, Transcript.prints, h, List.filterMap_append, hlines, List.append_nil]

lemma Opcode.leaves_of_fault?_eq_some (debug : Bool) {p : Program} (hp : p.size < 2 ^ 64)
    {s : State Transcript} {i : Instruction} (hf : p.fetch? s.pc = some i) {op : Opcode}
    (hop : op.id = i.op) {fault : Fault} (h : op.fault? s.stack = some fault) :
    op.Leaves i.arg s
      (op.perform i.arg { trace (.standard debug) i s with pc := s.pc + 1 }).2 := by
  obtain ⟨-, hpc⟩ := nextAddress?_of_fetch hp hf
  have hname : (Machine.standard debug).instructions.name? i.op = some op.name := by
    rw [← hop]
    exact Opcode.name?_id op
  obtain ⟨hdebug, hevents⟩ := trace_of_name?_eq_some (s := s) hname
  generalize hu : ({ trace (.standard debug) i s with pc := s.pc + 1 } : State Transcript) = u
  have hustack : u.stack = s.stack := by simp [← hu]
  rw [← hustack] at h
  rw [Opcode.perform_of_fault?_eq_some i.arg h, hustack]
  refine ⟨rfl, ?_, by simp [← hu], by simpa [← hu] using hdebug, by simpa [← hu] using hevents⟩
  -- the counter has advanced, unless the opcode jumps before it fails
  dsimp only
  split_ifs with hjump hneg
  · rw [Opcode.toNat_addressOfTarget, if_pos hneg]
  · rw [Opcode.toNat_addressOfTarget, if_neg hneg]
  · simp [← hu, hpc]

/-- **What a fault of the standard machine leaves behind.** The output is unchanged and nothing has been
printed. Outside the program the whole state is unchanged. At a number that is no opcode the stack,
the output, the counter and what the sink was given to show are unchanged, and debugging is off. Else
the stack is unchanged, but that `POP` and `JMPZ` leave none of a single value; debugging is as it
was, and its line of the instruction is all that was shown; and the counter is behind the
instruction, but that it is at the target of `JMP` on an empty stack and of `JMPZ` on a single zero. -/
theorem step_standard_fault_leaves (debug : Bool) (p : Program) (hp : p.size < 2 ^ 64)
    (s t : State Transcript) (failure : Failure)
    (h : StepsTo (.standard debug) p s (.error failure) t) :
    t.output = s.output ∧ t.sink.prints = s.sink.prints ∧
      (failure.fault = .segFault ∧ t = s ∨
        (∃ i, p[s.pc.toNat]? = some i ∧ failure.fault = .unknownOpcode i.op ∧
          t.stack = s.stack ∧ t.pc = s.pc ∧ t.sink.events = s.sink.events ∧ t.debug = false) ∨
        ∃ i, ∃ op : Opcode, p[s.pc.toNat]? = some i ∧
          InstructionSet.standard.name? i.op = some op.name ∧
          failure.fault ∈ [Fault.shortStack, .emptyStack, .divisionByZero] ∧ op.Leaves i.arg s t) := by
  cases h.standard with
  | outside => exact ⟨rfl, rfl, .inl ⟨rfl, rfl⟩⟩
  | @unknown i hf hop =>
    have hname : InstructionSet.standard.name? i.op = none := by
      simpa [InstructionSet.name?, InstructionSet.action?] using Opcode.action?_eq_none hop
    obtain ⟨hdebug, hevents⟩ := trace_of_name?_eq_none (m := .standard debug) (s := s) hname
    exact ⟨by simp, prints_trace _ i s,
      .inr (.inl ⟨i, hf, rfl, by simp, by simp, hevents, hdebug⟩)⟩
  | overflow hf hn =>
    rw [(nextAddress?_of_fetch hp hf).1] at hn
    cases hn
  | @opcode i op next _ hf hop hn houtcome =>
    obtain ⟨fault, hfault, rfl⟩ := Opcode.outcome_eq_error_iff.1 houtcome
    obtain rfl : s.pc + 1 = next := Option.some.inj ((nextAddress?_of_fetch hp hf).1.symm.trans hn)
    have hleaves := Opcode.leaves_of_fault?_eq_some debug hp hf hop hfault
    refine ⟨hleaves.output, prints_eq_of_events _ hleaves.events,
      .inr (.inr ⟨i, op, hf, ?_, Opcode.mem_of_fault? hfault, hleaves⟩)⟩
    rw [← hop]
    exact Opcode.name?_id op

/-- A conditional jump takes a single zero and goes to the last address of all before it fails. -/
theorem step_standard_fault_leaves_jmpz : (#[⟨10, -1⟩] : Program).size < 2 ^ 64 ∧
    ∃ t : State Transcript, StepsTo (.standard true) #[⟨10, -1⟩]
        { stack := [0], output := "x", debug := true, sink := {} }
        (.error (Fault.emptyStack.atPc 0)) t ∧
      t.stack = [] ∧ t.pc.toNat = 2 ^ 64 - 1 ∧ t.output = "x" ∧ t.debug = true ∧
      t.sink.events.toList = [.debug "-- exec JMPZ arg=-1 at pc=0"] := by
  have hp : (#[⟨10, -1⟩] : Program).size < 2 ^ 64 := by decide
  obtain ⟨t, ht⟩ : ∃ t : State Transcript, StepsTo (.standard true) #[⟨10, -1⟩]
      { stack := [0], output := "x", debug := true, sink := {} }
      (.error (Fault.emptyStack.atPc 0)) t := ⟨_, 1, rfl⟩
  obtain ⟨houtput, -, hcases⟩ := step_standard_fault_leaves true _ hp _ t _ ht
  refine ⟨hp, t, ht, ?_⟩
  rcases hcases with ⟨hfault, -⟩ | ⟨i, -, hfault, -⟩ | ⟨i, op, hi, hname, -, hleaves⟩
  · simp [Fault.atPc, Fault.emptyStack] at hfault
  · simp [Fault.atPc, Fault.emptyStack, Fault.unknownOpcode] at hfault
  · obtain rfl : ⟨10, -1⟩ = i := Option.some.inj hi
    obtain rfl : op = .jmpz := by
      revert hname
      cases op <;> decide
    exact ⟨hleaves.stack, hleaves.pc, houtput, hleaves.debug, hleaves.events.trans (by decide)⟩

end StackMachine
