import StackMachine.Explorer.Arguments
import StackMachine.Explorer.Debugger

/-!
The explorer: it reads and assembles a program, does with it what the command line asks, and says
what came of it.
-/

namespace StackMachine.Explorer

/-- What the explorer leaves: an exit code and the text of its streams. -/
structure Outcome where
  exitCode : UInt32
  out : String
  err : String
  deriving DecidableEq, Repr

def Outcome.done (streams : Streams) : Outcome :=
  ⟨0, streams.out, streams.err⟩

/-- The outcome of a problem, which is reported behind what was shown before. -/
def Outcome.failed (streams : Streams) (problem : Problem) : Outcome :=
  ⟨1, streams.out, streams.err ++ "Error: " ++ problem.message ++ "\n"⟩

/-- A program to explore: its text, the machine that assembled it, and the result. -/
structure Job where
  mode : Mode
  source : String
  machine : Machine
  assembly : Assembly

/-- The text of the program that the command line names; `file` is the content of the named file. -/
def readSource (args : Arguments) (file : Except ReadFailure (List UInt8)) (input : List UInt8) :
    Except Problem String :=
  if args.file = "-" then
    match decode? input with
    | some text => .ok text
    | none => .error (.unreadableInput .notUtf8)
  else
    match file with
    | .error reason => .error (.unreadableFile args.file reason)
    | .ok bytes =>
      match decode? bytes with
      | some text => .ok text
      | none => .error (.unreadableFile args.file .notUtf8)

/-- The job of assembling and exploring a text. -/
def assembleJob (args : Arguments) (source : String) : Except Problem Job :=
  let machine := Machine.standard args.trace
  match machine.assemble source with
  | .ok assembly => .ok { mode := args.mode, source, machine, assembly }
  | .error failure => .error (.assembly (describe none source failure))

def prepare (args : Arguments) (file : Except ReadFailure (List UInt8)) (input : List UInt8) :
    Except Problem Job :=
  if args.mode = .debug ∧ args.file = "-" then .error .inputInUse
  else
    match readSource args file input with
    | .error problem => .error problem
    | .ok source => assembleJob args source

namespace Job

/-- The state in which the run of a job begins. -/
def initial (job : Job) : State Streams :=
  .initial job.machine {}

/-- The lines about a run that has exited. -/
def statusText {σ : Type} (s : State σ) : String :=
  let exited :=
    match s.stack with
    | [] => "Exited"
    | value :: _ => "Exited(" ++ Numeral.text value.toInt ++ ")"
  Text.unlines [exited, "Output: " ++ Text.quote s.output]

/-- The outcome of a run that ended in a state, or stopped there. -/
def finish (job : Job) : Except Stop Unit → State Streams → Outcome
  | .ok (), s => .done (showText (statusText s) s).sink
  | .error stop, s => .failed s.sink (.execution (stop.describe job.assembly.lines job.source))

/-- Runs the program within a bound. -/
def exec (bound : Nat) (job : Job) : Option Outcome :=
  match run job.machine job.assembly.program bound job.initial with
  | none => none
  | some (.ok _, s) => some (job.finish (.ok ()) s)
  | some (.error failure, s) => some (job.finish (.error (.failed failure)) s)

/-- Steps through the program within a bound, with the lines of the input. -/
def debug (bound : Nat) (job : Job) (input : List UInt8) : Option Outcome :=
  let p := job.assembly.program
  let stepper := step job.machine p bound
  (debugLoop job.machine p stepper bound (inputLines input) job.initial).map
    fun (result, s) => job.finish result s

def disassemble (job : Job) : Outcome :=
  .done { out := job.machine.listing job.assembly.program }

/-- Does what the mode of the job asks, within a bound. -/
def perform (bound : Nat) (job : Job) (input : List UInt8) : Option Outcome :=
  match job.mode with
  | .exec => job.exec bound
  | .debug => job.debug bound input
  | .disassemble => some job.disassemble

end Job

/-- Explores the program that a command line names, within a bound; `file` is the content of the
named file. -/
def explore (bound : Nat) (args : Arguments) (file : Except ReadFailure (List UInt8))
    (input : List UInt8) : Option Outcome :=
  match prepare args file input with
  | .error problem => some (.failed {} problem)
  | .ok job => job.perform bound input

end StackMachine.Explorer
