import StackMachine.Machine

/-!
The state of a run: what changes while a machine executes a program, with the sink of its
diagnostics.
-/

namespace StackMachine

/-- The state of a run with a sink of type `σ`. -/
structure State (σ : Type) where
  stack : Stack := []
  pc : UInt64 := 0
  output : String := ""
  debug : Bool
  sink : σ
  deriving DecidableEq, Repr

/-- The address of a jump target. A negative target is the last address of all, where no program has
an instruction. -/
def addressOfTarget (target : Int64) : UInt64 :=
  if target < 0 then 0xFFFFFFFFFFFFFFFF else target.toUInt64

namespace State

variable {σ : Type}

/-- The state in which a run on a machine begins. -/
def initial (m : Machine) (sink : σ) : State σ :=
  { debug := m.debug, sink }

/-- Empties the stack and the output, goes back to the first instruction and sets debugging as the
machine has it. -/
def reset (m : Machine) (s : State σ) : State σ :=
  { s with stack := [], output := "", pc := 0, debug := m.debug }

/-- All but the sink is as it began. -/
theorem reset_eq_initial (m : Machine) (s : State σ) : s.reset m = initial m s.sink :=
  rfl

def jump (s : State σ) (target : Int64) : State σ :=
  { s with pc := addressOfTarget target }

def write (s : State σ) (text : String) : State σ :=
  { s with output := s.output ++ text }

def print [Sink σ] (s : State σ) (value : Int64) : State σ :=
  { s with sink := Sink.print s.sink value }

def debugLines [Sink σ] (s : State σ) (lines : List String) : State σ :=
  { s with sink := lines.foldl Sink.debug s.sink }

def record [Sink σ] (s : State σ) (entry : LogRecord) : State σ :=
  { s with sink := Sink.record s.sink entry }

/-- The picture of a state: its stack, its output and the program with the current instruction
marked. The characters of `hidden` are shown by their numbers in the output. -/
def displayWith (hidden : Char → Bool) (m : Machine) (p : Program) (s : State σ) : String :=
  Text.unlines ["# Stack:", s.stack.text, "# Output:", Text.quoteWith hidden s.output, "# Program:"]
    ++ m.instructions.listing (some s.pc) p

/-- The picture of a state, with unprintable characters of the output escaped. -/
def display (m : Machine) (p : Program) (s : State σ) : String :=
  s.displayWith Text.isUnprintable m p

end State

end StackMachine
