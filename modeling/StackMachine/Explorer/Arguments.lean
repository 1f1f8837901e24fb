/-!
The command line of the explorer: exactly one of three modes, tracing or not, and one file. Flags
may be joined behind one dash and stand anywhere; behind two dashes alone everything is a file. Any
irregularity makes the command line invalid.

That words are read in this way (`Arguments.split?` and `Arguments.parse?`) is a convention of
command-line libraries and not of the explorer. Only the program of `StackMachine.Main` reads words;
what is stated of the explorer is stated of `Arguments` that have been read.
-/

namespace StackMachine.Explorer

/-- What is done with a program. -/
inductive Mode where
  /-- Run it and show what it leaves. -/
  | exec
  /-- Show its state before each instruction, and take a line of input for each. -/
  | debug
  /-- List it. -/
  | disassemble
  deriving DecidableEq, Repr

structure Arguments where
  mode : Mode
  trace : Bool
  /-- The name of a file, or a dash for the input. -/
  file : String
  deriving DecidableEq, Repr

inductive Flag where
  | mode (m : Mode)
  | trace
  deriving DecidableEq, Repr

namespace Flag

def ofName? : String → Option Flag
  | "exec" => some (.mode .exec)
  | "debug" => some (.mode .debug)
  | "disassemble" => some (.mode .disassemble)
  | "trace" => some .trace
  | _ => none

def ofLetter? : Char → Option Flag
  | 'e' => some (.mode .exec)
  | 'd' => some (.mode .debug)
  | 's' => some (.mode .disassemble)
  | 't' => some .trace
  | _ => none

/-- The mode that a flag selects. -/
def mode? : Flag → Option Mode
  | .mode m => some m
  | .trace => none

end Flag

namespace Arguments

/-- The flags and the files of a command line; `none` if a flag is unknown. -/
def split? : List String → Option (List Flag × List String)
  | [] => some ([], [])
  | word :: rest =>
    match word.toList with
    | ['-', '-'] => some ([], rest)
    | '-' :: '-' :: name => do
      let flag ← Flag.ofName? (String.ofList name)
      let (flags, files) ← split? rest
      return (flag :: flags, files)
    | '-' :: letter :: letters => do
      let joined ← (letter :: letters).mapM Flag.ofLetter?
      let (flags, files) ← split? rest
      return (joined ++ flags, files)
    | _ => do
      let (flags, files) ← split? rest
      return (flags, word :: files)

/-- Reads a command line: no flag is repeated, one mode is selected and one file is named. -/
def parse? (words : List String) : Option Arguments :=
  match split? words with
  | some (flags, [file]) =>
    match flags.filterMap Flag.mode? with
    | [mode] => if flags.Nodup then some ⟨mode, flags.contains .trace, file⟩ else none
    | _ => none
  | _ => none

end Arguments

end StackMachine.Explorer
