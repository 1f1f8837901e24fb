import StackMachine.InstructionSet
import StackMachine.Text.Blank
import StackMachine.Text.Lines

/-!
Assembling: from a text with one instruction on a line to a program and the map of its lines. A line
holds the name of an instruction or a name, one space and a numeral; blank lines hold nothing. The
first line that is none of these is reported.
-/

namespace StackMachine

/-- A program and the source line of each of its instructions. -/
structure Assembly where
  program : Program
  lines : LineMap
  deriving DecidableEq, Repr

namespace InstructionSet

def readArgument (text : List Char) : Except Fault Int64 :=
  (Numeral.read text).mapError (.invalidArgument (String.ofList text))

/-- The instruction of a name and an argument text, if any; the name is looked up first. -/
def instruction (set : InstructionSet) (name : List Char) (argument : Option (List Char)) :
    Except Fault Instruction :=
  match set.id? (String.ofList name) with
  | none => .error (.unknownInstruction (String.ofList name))
  | some op =>
    match argument with
    | none => .ok ⟨op, 0⟩
    | some text => (readArgument text).map fun arg => ⟨op, arg⟩

/-- The instruction on a line. -/
def assembleLine (set : InstructionSet) (line : List Char) : Except Fault Instruction :=
  match line.splitOn ' ' with
  | [name] => set.instruction name none
  | [name, argument] => set.instruction name (some argument)
  | _ => .error (.tooManyArguments (String.ofList line))

/-- The lines of a text that are not blank, with their numbers. -/
def numberedLines (text : List Char) : List (List Char × Nat) :=
  ((Text.sourceLines text).zipIdx 1).filter fun (line, _) => !Text.isBlank line

/-- The instructions on numbered lines, each with its number, up to the first line that has none. -/
def assembleLines (set : InstructionSet) :
    List (List Char × Nat) → Except Failure (List (Instruction × Nat)) :=
  List.mapM fun (line, number) =>
    match set.assembleLine line with
    | .ok instruction => .ok (instruction, number)
    | .error fault => .error (fault.atLine number)

def assemble (set : InstructionSet) (text : String) : Except Failure Assembly :=
  (set.assembleLines (numberedLines text.toList)).map fun rows =>
    ⟨(rows.map Prod.fst).toArray, (rows.map Prod.snd).toArray⟩

end InstructionSet

end StackMachine
