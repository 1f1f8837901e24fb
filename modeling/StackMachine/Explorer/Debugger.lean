import StackMachine.Explorer.Report

/-!
The step debugger: it shows the state of a run, takes a line of input, executes one instruction, and
does so until an instruction exits or fails. What a line says does not matter, but it must be text;
the end of the input is an empty line.
-/

namespace StackMachine.Explorer

def decode? (bytes : List UInt8) : Option String :=
  String.fromUTF8? ⟨bytes.toArray⟩

/-- The lines of the input, of which only a line feed ends one. -/
def inputLines (bytes : List UInt8) : List (List UInt8) :=
  bytes.splitOn 10

/-- Why a debugger stops before an instruction exits. -/
inductive Stop where
  | failed (failure : Failure)
  /-- A line of the input is not text. -/
  | badLine
  deriving DecidableEq, Repr

def Stop.describe (lines : LineMap) (source : String) : Stop → String
  | .failed failure => Explorer.describe (some lines) source failure
  | .badLine => ReadFailure.notUtf8.message

/-- Shows text on the first stream of a run. -/
def showText (text : String) (s : State Streams) : State Streams :=
  { s with sink := { s.sink with out := s.sink.out ++ text } }

def showState (m : Machine) (p : Program) (s : State Streams) : State Streams :=
  showText (s.display m p ++ "\n") s

/-- Executes one instruction upon a line of input, which is `none` if it is not text. -/
def turn (step : Stepper Streams) (line : Option String) (s : State Streams) :
    Option (Except Stop Status × State Streams) :=
  match line with
  | none => some (.error .badLine, s)
  | some _ => (step s).map fun (result, t) => (result.mapError .failed, t)

/-- Shows the state and takes a turn for each line, at most `n` times. -/
def debugLoop (m : Machine) (p : Program) (step : Stepper Streams) :
    Nat → List (List UInt8) → State Streams → Option (Except Stop Unit × State Streams)
  | 0, _, _ => none
  | n + 1, lines, s =>
    match turn step (decode? (lines.headD [])) (showState m p s) with
    | none => none
    | some (.error stop, t) => some (.error stop, t)
    | some (.ok .exited, t) => some (.ok (), showState m p t)
    | some (.ok .executing, t) => debugLoop m p step n lines.tail t

end StackMachine.Explorer
