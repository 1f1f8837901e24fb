import StackMachine.Explorer.Command

/-!
The explorer as a program: it reads the command line, the file and the input, and shows the outcome.
The debugger talks to the terminal line by line. The text for an invalid command line is its own.
-/

namespace StackMachine.Explorer

/-- The bound of a run, which no run reaches in practice. -/
def executionBound : Nat :=
  0x4000000000000000

/-- What is shown for an invalid command line. -/
def usage : String :=
  "usage: stack-machine-explorer (--exec | --debug | --disassemble) [--trace] FILE\n\n" ++
  "  -e, --exec         assemble and run the program, then show the result and the output\n" ++
  "  -d, --debug        step through the program, one instruction for each line of input\n" ++
  "  -s, --disassemble  show the assembled instructions\n" ++
  "  -t, --trace        show a listing and every executed instruction on the error stream\n" ++
  "  FILE               the program, or - to read it from the input\n"

def readFile (name : String) : IO (Except ReadFailure (List UInt8)) := do
  try
    return .ok (← IO.FS.readBinFile name).toList
  catch
    | .noFileOrDirectory _ _ _ => return .error (.system "No such file or directory" 2)
    | .inappropriateType _ code details
    | .permissionDenied _ code details
    | .otherError code details =>
      return .error (.system details code.toNat)
    | failure => return .error (.system (toString failure) 0)

/-- Shows what a run has sent to its streams and empties them. -/
def flush (s : State Streams) : IO (State Streams) := do
  IO.print s.sink.out
  IO.eprint s.sink.err
  (← IO.getStdout).flush
  return { s with sink := {} }

/-- Shows an outcome and gives its exit code. -/
def conclude (outcome : Outcome) : IO UInt32 := do
  IO.print outcome.out
  IO.eprint outcome.err
  return outcome.exitCode

/-- The next line of a stream, behind the bytes already read. -/
partial def readLine (input : IO.FS.Stream) (bytes : ByteArray) : IO (List UInt8) := do
  let next ← input.read 1
  if next.isEmpty || next.data[0]? = some 10 then return bytes.toList
  else readLine input (bytes ++ next)

/-- Steps through a job, one instruction for each line of the input. -/
partial def debugJob (job : Job) (s : State Streams) : IO UInt32 := do
  let program := job.assembly.program
  let shown ← flush (showState job.machine program s)
  let line ← readLine (← IO.getStdin) .empty
  match turn (step job.machine program executionBound) (decode? line) shown with
  | none => return 1
  | some (.error stop, t) => conclude (job.finish (.error stop) t)
  | some (.ok .exited, t) => conclude (job.finish (.ok ()) (showState job.machine program t))
  | some (.ok .executing, t) => debugJob job t

end StackMachine.Explorer

open StackMachine.Explorer in
/-- Explores the program that the command line names. -/
def main (words : List String) : IO UInt32 := do
  match Arguments.parse? words with
  | none =>
    IO.eprint usage
    return 2
  | some args =>
    let input ←
      if args.file = "-" ∧ args.mode ≠ .debug then
        pure (← (← IO.getStdin).readBinToEnd).toList
      else pure []
    let file ← if args.file = "-" then pure (.ok []) else readFile args.file
    match prepare args file input with
    | .error problem => conclude (.failed {} problem)
    | .ok job =>
      if job.mode = .debug then debugJob job job.initial
      else
        match job.perform executionBound input with
        | none => return 1
        | some outcome => conclude outcome
