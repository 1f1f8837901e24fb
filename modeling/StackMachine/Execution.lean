import StackMachine.State

/-!
Execution. An instruction is fetched, traced and looked up; the counter advances; its script is
carried out; and there must be a value on the stack afterwards. A run repeats this until an
instruction exits. A script may itself step and run the state it works on, so execution need not
end: `step` and `run` take a bound on the depth of such calls and on the number of steps of each
run, and answer `none` if it is reached. Whatever is answered for one bound is answered for every
larger one.
-/

namespace StackMachine

variable {σ : Type}

/-! ### Carrying out a script -/

/-- A way of answering requests; `none` if an answer takes too long. -/
abbrev Host (σ : Type) := (r : Request) → State σ → Option (r.Reply × State σ)

def Script.exec {α : Type} (host : Host σ) :
    Script α → State σ → Option (Except Fault α × State σ)
  | .pure value, s => some (.ok value, s)
  | .fail fault, s => some (.error fault, s)
  | .ask r next, s =>
    match host r s with
    | some (reply, t) => (next reply).exec host t
    | none => none

abbrev Stepper (σ : Type) := State σ → Option (Except Failure Status × State σ)

abbrev Runner (σ : Type) := State σ → Option (Except Failure RunResult × State σ)

section
variable [Sink σ] (m : Machine) (p : Program)

/-- Answers requests in a run of `p` on `m`, with the given ways of stepping and running. -/
def serve (step : Stepper σ) (run : Runner σ) : Host σ
  | .stack, s => some (s.stack, s)
  | .setStack values, s => some ((), { s with stack := values })
  | .pc, s => some (s.pc, s)
  | .jump target, s => some ((), s.jump target)
  | .output, s => some (s.output, s)
  | .write text, s => some ((), s.write text)
  | .debugging, s => some (s.debug, s)
  | .print value, s => some ((), s.print value)
  | .debug line, s => some ((), s.debugLines [line])
  | .reset, s => some ((), s.reset m)
  | .display, s => some (s.display m p, s)
  | .step, s => step s
  | .run, s => run s

/-! ### One instruction -/

/-- The debug line of an instruction. -/
def traceLine (name : String) (arg : Int64) (pc : UInt64) : String :=
  "-- exec " ++ name ++ " arg=" ++ Numeral.text arg.toInt ++ " at pc=" ++ Numeral.text pc.toNat

/-- Records that an instruction was fetched, and shows it if debugging is on; one without a name
switches debugging off. -/
def trace (i : Instruction) (s : State σ) : State σ :=
  let name := m.instructions.name? i.op
  let recorded := s.record (.exec s.pc (name.getD "?") i.arg)
  if s.debug then
    match name with
    | some name => recorded.debugLines [traceLine name i.arg s.pc]
    | none => { recorded with debug := false }
  else recorded

@[simp] theorem trace_stack (i : Instruction) (s : State σ) : (trace m i s).stack = s.stack := by
  cases hd : s.debug <;> cases hn : m.instructions.name? i.op <;> simp [trace, hd, hn] <;> rfl

@[simp] theorem trace_pc (i : Instruction) (s : State σ) : (trace m i s).pc = s.pc := by
  cases hd : s.debug <;> cases hn : m.instructions.name? i.op <;> simp [trace, hd, hn] <;> rfl

@[simp] theorem trace_output (i : Instruction) (s : State σ) : (trace m i s).output = s.output := by
  cases hd : s.debug <;> cases hn : m.instructions.name? i.op <;> simp [trace, hd, hn] <;> rfl

/-- The outcome of the instruction at `pc`, whose script gave `result` and left `stack`, on which
there must be a value. -/
def settle (pc : UInt64) (result : Except Fault Status) (stack : Stack) : Except Failure Status :=
  match result, stack.peek with
  | .ok status, .ok _ => .ok status
  | .ok _, .error fault => .error (fault.atPc pc)
  | .error fault, _ => .error (fault.atPc pc)

/-- The address behind `pc`, unless it is the last of all. -/
def nextAddress? (pc : UInt64) : Option UInt64 :=
  if pc = 0xFFFFFFFFFFFFFFFF then none else some (pc + 1)

/-- Executes the current instruction, with its requests answered by `host`. -/
def cycle (host : Host σ) (s : State σ) : Option (Except Failure Status × State σ) :=
  match p.fetch? s.pc with
  | none => some (.error (Fault.segFault.atPc s.pc), s)
  | some i =>
    match m.instructions.action? i.op, nextAddress? s.pc with
    | none, _ => some (.error ((Fault.unknownOpcode i.op).atPc s.pc), trace m i s)
    | some _, none => some (.error ⟨.counterOverflow, none⟩, trace m i s)
    | some action, some next =>
      ((action i.arg).exec host { trace m i s with pc := next }).map
        fun (result, t) => (settle s.pc result t.stack, t)

section
variable {m p} {host : Host σ} {s : State σ} {i : Instruction}

theorem cycle_of_fetch_none (hf : p.fetch? s.pc = none) :
    cycle m p host s = some (.error (Fault.segFault.atPc s.pc), s) := by
  simp [cycle, hf]

theorem cycle_of_action_none (hf : p.fetch? s.pc = some i)
    (ha : m.instructions.action? i.op = none) :
    cycle m p host s = some (.error ((Fault.unknownOpcode i.op).atPc s.pc), trace m i s) := by
  simp [cycle, hf, ha]

theorem cycle_of_next_none {action : Action} (hf : p.fetch? s.pc = some i)
    (ha : m.instructions.action? i.op = some action) (hn : nextAddress? s.pc = none) :
    cycle m p host s = some (.error ⟨.counterOverflow, none⟩, trace m i s) := by
  simp [cycle, hf, ha, hn]

theorem cycle_of_action {action : Action} {next : UInt64} (hf : p.fetch? s.pc = some i)
    (ha : m.instructions.action? i.op = some action) (hn : nextAddress? s.pc = some next) :
    cycle m p host s = ((action i.arg).exec host { trace m i s with pc := next }).map
      fun (result, t) => (settle s.pc result t.stack, t) := by
  simp [cycle, hf, ha, hn]

end

/-! ### Runs -/

/-- Begins a run: if debugging is on, the program is listed, and an instruction without a name
switches debugging off. -/
def announce (s : State σ) : State σ :=
  if s.debug then
    { s.debugLines (m.instructions.debugListing p) with
      debug := p.toList.all m.instructions.isNamed }
  else s

/-- What a run that has exited leaves. -/
def conclude (s : State σ) : Except Failure RunResult :=
  match s.stack.peek with
  | .ok value => .ok ⟨value, s.output⟩
  | .error fault => .error (fault.atPc s.pc)

/-- Repeats `step`, at most `n` times, until an instruction exits or fails. A failure is
recorded. -/
def loop (step : Stepper σ) : Nat → Runner σ
  | 0, _ => none
  | n + 1, s =>
    match step s with
    | none => none
    | some (.error failure, t) => some (.error failure, t.record (.fault failure))
    | some (.ok .exited, t) => some (conclude t, t)
    | some (.ok .executing, t) => loop step n t

/-- Executes one instruction of `p` on `m` within a bound. -/
def step : Nat → Stepper σ
  | 0, _ => none
  | n + 1, s =>
    let run t := loop (fun u => step n u) n (announce m p t)
    cycle m p (serve m p (fun t => step n t) run) s

/-- Runs `p` on `m` within a bound. -/
def run (n : Nat) : Runner σ := fun s =>
  loop (step m p n) n (announce m p s)

/-- Answers requests in a run of `p` on `m` within a bound. -/
def answer (n : Nat) : Host σ :=
  serve m p (step m p n) (run m p n)

theorem step_succ (n : Nat) (s : State σ) : step m p (n + 1) s = cycle m p (answer m p n) s :=
  rfl

end

end StackMachine
