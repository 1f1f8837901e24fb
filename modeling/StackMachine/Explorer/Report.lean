import StackMachine.Execution

/-!
What the explorer says when something goes wrong. The report of a failure quotes the source line at
which it arose, if the failure has one: its own line, or the line of the instruction at its address.
-/

namespace StackMachine.Explorer

/-- A line of a text as a report shows it, counted from 1. -/
def shownLine? (source : String) : Nat → Option String
  | 0 => none
  | n + 1 => (Text.shownLines source.toList)[n]?.map String.ofList

/-- The number of the line at which a failure arose; `lines` are those of the program, if any. -/
def failureLine? (lines : Option LineMap) (failure : Failure) : Option Nat :=
  failure.line?.or do
    let lines ← lines
    let pc ← failure.pc?
    lines.line? pc.toNat

def describe (lines : Option LineMap) (source : String) (failure : Failure) : String :=
  let quoted := do
    let n ← failureLine? lines failure
    let text ← shownLine? source n
    return (n, text)
  match quoted with
  | some (n, text) => failure.text ++ "\n  --> line " ++ Numeral.text n ++ ": " ++ text
  | none => failure.text

/-- Why a file has no text. -/
inductive ReadFailure where
  /-- The system refuses to read it. -/
  | system (reason : String) (code : Nat)
  | notUtf8
  deriving DecidableEq, Repr

def ReadFailure.message : ReadFailure → String
  | .system reason code => reason ++ " (os error " ++ Numeral.text code ++ ")"
  | .notUtf8 => "stream did not contain valid UTF-8"

/-- Why the explorer cannot do what it is asked to. -/
inductive Problem where
  /-- The debugger takes lines from the input, so the program cannot come from there. -/
  | inputInUse
  | unreadableInput (reason : ReadFailure)
  | unreadableFile (name : String) (reason : ReadFailure)
  /-- The program cannot be assembled. -/
  | assembly (report : String)
  /-- The program stopped before an instruction exited. -/
  | execution (report : String)
  deriving DecidableEq, Repr

def Problem.message : Problem → String
  | .inputInUse => "the step debugger reads stdin; the program must come from a file"
  | .unreadableInput reason => reason.message
  | .unreadableFile name reason =>
    "could not read `" ++ name ++ "`\n\nCaused by:\n    " ++ reason.message
  | .assembly report => "Assembly failed: " ++ report
  | .execution report => "execution stopped: " ++ report

end StackMachine.Explorer
