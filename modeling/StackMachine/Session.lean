import StackMachine.Execution
import StackMachine.Routine

/-!
Sessions: several tasks, each a program with the state of a run of it, on one machine. The machine,
the memory of its instructions and all tasks are in one store, and a run goes by the number of its
task: what is asked of it is looked up in the store and changed in the store. An operation on a task
is a script; what it did is recorded with the diagnostics of that operation alone.

Execution is that of `StackMachine.Execution`, carried out in the store. That it comes to the same,
and that the operations on one task leave all others as they are, is not a matter of types: a routine
finds in the memory what other runs have left there.
-/

namespace StackMachine

/-- A program and the state of a run of it. -/
structure Task where
  program : Program
  state : State Transcript

/-- What one operation did: its result and the state that it left, with the diagnostics of this
operation alone. -/
structure Report (α : Type) where
  result : Except Fault α
  state : State Transcript

/-- The store of a session. -/
structure Session (γ : Type := Unit) where
  machine : SharedMachine γ
  memory : γ
  tasks : List Task

variable {γ α : Type}

namespace Session

/-! ### The store -/

/-- The session with a fresh run of each program, on a machine whose instructions keep nothing. -/
def start (m : Machine) (programs : List Program) : Session :=
  ⟨m.shared, (), programs.map fun program => ⟨program, .initial m {}⟩⟩

/-- The state of task number `i`. -/
def state? (i : Nat) (s : Session γ) : Option (State Transcript) :=
  s.tasks[i]?.map Task.state

/-- Changes the state of task number `i`. -/
def modify (i : Nat) (f : State Transcript → State Transcript) (s : Session γ) : Session γ :=
  { s with tasks := s.tasks.modify i fun task => { task with state := f task.state } }

/-- A way of answering the requests of one run in the store. -/
abbrev Host (γ : Type) := (r : Request) → Session γ → Option (r.Reply × Session γ)

abbrev Stepper (γ : Type) := Session γ → Option (Except Failure Status × Session γ)

abbrev Runner (γ : Type) := Session γ → Option (Except Failure RunResult × Session γ)

end Session

/-- Carries out a routine in the store. -/
def Routine.exec (host : Session.Host γ) :
    Routine γ α → Session γ → Option (Except Fault α × Session γ)
  | .pure value, s => some (.ok value, s)
  | .fail fault, s => some (.error fault, s)
  | .ask r next, s =>
    match host r s with
    | some (reply, t) => (next reply).exec host t
    | none => none
  | .access keep next, s => (next s.memory).exec host { s with memory := keep s.memory }

namespace Session

/-! ### The run of a task -/

section
variable (i : Nat)

/-- Answers requests in the run of task number `i`, with the given ways of stepping and running. -/
def serve (step : Stepper γ) (run : Runner γ) : Host γ
  | .stack, s => (s.state? i).map fun t => (t.stack, s)
  | .setStack values, s => some ((), s.modify i fun t => { t with stack := values })
  | .pc, s => (s.state? i).map fun t => (t.pc, s)
  | .jump target, s => some ((), s.modify i fun t => t.jump target)
  | .output, s => (s.state? i).map fun t => (t.output, s)
  | .write text, s => some ((), s.modify i fun t => t.write text)
  | .debugging, s => (s.state? i).map fun t => (t.debug, s)
  | .print value, s => some ((), s.modify i fun t => t.print value)
  | .debug line, s => some ((), s.modify i fun t => t.debugLines [line])
  | .reset, s => some ((), s.modify i fun t => t.reset s.machine.toMachine)
  | .display, s =>
    s.tasks[i]?.map fun task => (task.state.display s.machine.toMachine task.program, s)
  | .step, s => step s
  | .run, s => run s

/-- Executes the current instruction of task number `i`, with its requests answered by `host`. -/
def cycle (host : Host γ) (s : Session γ) : Option (Except Failure Status × Session γ) :=
  match s.tasks[i]? with
  | none => none
  | some ⟨program, state⟩ =>
    match program.fetch? state.pc with
    | none => some (.error (Fault.segFault.atPc state.pc), s)
    | some instr =>
      let traced := s.modify i (trace s.machine.toMachine instr)
      match s.machine.instructions.action? instr.op, nextAddress? state.pc with
      | none, _ => some (.error ((Fault.unknownOpcode instr.op).atPc state.pc), traced)
      | some _, none => some (.error ⟨.counterOverflow, none⟩, traced)
      | some _, some next =>
        let advanced := traced.modify i fun t => { t with pc := next }
        match (s.machine.routine instr.op instr.arg).exec host advanced with
        | none => none
        | some (result, t) => (t.state? i).map fun u => (settle state.pc result u.stack, t)

section
variable {i} {host : Host γ} {s : Session γ} {task : Task} {instr : Instruction}

theorem cycle_of_fetch_none (ht : s.tasks[i]? = some task)
    (hf : task.program.fetch? task.state.pc = none) :
    cycle i host s = some (.error (Fault.segFault.atPc task.state.pc), s) := by
  simp [cycle, ht, hf]

theorem cycle_of_action_none (ht : s.tasks[i]? = some task)
    (hf : task.program.fetch? task.state.pc = some instr)
    (ha : s.machine.instructions.action? instr.op = none) :
    cycle i host s = some (.error ((Fault.unknownOpcode instr.op).atPc task.state.pc),
      s.modify i (trace s.machine.toMachine instr)) := by
  simp [cycle, ht, hf, ha]

theorem cycle_of_next_none {action : Action} (ht : s.tasks[i]? = some task)
    (hf : task.program.fetch? task.state.pc = some instr)
    (ha : s.machine.instructions.action? instr.op = some action)
    (hn : nextAddress? task.state.pc = none) :
    cycle i host s = some (.error ⟨.counterOverflow, none⟩,
      s.modify i (trace s.machine.toMachine instr)) := by
  simp [cycle, ht, hf, ha, hn]

theorem cycle_of_action {action : Action} {next : UInt64} (ht : s.tasks[i]? = some task)
    (hf : task.program.fetch? task.state.pc = some instr)
    (ha : s.machine.instructions.action? instr.op = some action)
    (hn : nextAddress? task.state.pc = some next) :
    cycle i host s =
      ((s.machine.routine instr.op instr.arg).exec host
        ((s.modify i (trace s.machine.toMachine instr)).modify i fun t =>
          { t with pc := next })).bind fun (result, t) =>
            (t.state? i).map fun u => (settle task.state.pc result u.stack, t) := by
  simp only [cycle, ht, hf, ha, hn]
  split <;> simp_all

end

/-- Begins the run of task number `i`. -/
def announce (s : Session γ) : Session γ :=
  match s.tasks[i]? with
  | none => s
  | some task => s.modify i (StackMachine.announce s.machine.toMachine task.program)

/-- Repeats `step`, at most `n` times, until an instruction exits or fails. A failure is
recorded. -/
def loop (step : Stepper γ) : Nat → Runner γ
  | 0, _ => none
  | n + 1, s =>
    match step s with
    | none => none
    | some (.error failure, t) => some (.error failure, t.modify i fun u => u.record (.fault failure))
    | some (.ok .exited, t) => (t.state? i).map fun u => (conclude u, t)
    | some (.ok .executing, t) => loop step n t

/-- Executes one instruction of task number `i` within a bound. -/
def step : Nat → Stepper γ
  | 0, _ => none
  | n + 1, s =>
    let run t := loop i (fun u => step n u) n (announce i t)
    cycle i (serve i (fun t => step n t) run) s

/-- Runs task number `i` within a bound. -/
def run (n : Nat) : Runner γ := fun s =>
  loop i (step i n) n (announce i s)

/-- Answers requests in the run of task number `i` within a bound. -/
def answer (n : Nat) : Host γ :=
  serve i (step i n) (run i n)

end

/-! ### Operations -/

/-- Carries out a script on task number `i`, within a bound; `none` if there is no such task or the
bound is reached. -/
def perform (bound : Nat) (i : Nat) (script : Script α) (s : Session γ) :
    Option (Report α × Session γ) :=
  match script.routine.exec (answer i bound) (s.modify i fun t => { t with sink := {} }) with
  | none => none
  | some (result, t) => (t.state? i).map fun u => (⟨result, u⟩, t)

/-- Carries out numbered scripts one after the other. -/
def performAll (bound : Nat) :
    List (Nat × Script α) → Session γ → Option (List (Report α) × Session γ)
  | [], s => some ([], s)
  | (i, script) :: rest, s =>
    match s.perform bound i script with
    | none => none
    | some (report, s) => (performAll bound rest s).map fun (reports, s) => (report :: reports, s)

end Session

end StackMachine
