import StackMachine.InstructionSet
import StackMachine.Text.Lines

/-!
Listings: programs as text. The plain listing has a row for each instruction with its address and,
behind a mark, the one that a run is at; the debug listing of a run names the instructions up to the
first one that has no name.
-/

namespace StackMachine.InstructionSet

/-- The name of an operation, or its number if it has none, and the argument. -/
def instructionText (set : InstructionSet) (i : Instruction) : String :=
  match set.name? i.op with
  | some name => name ++ " " ++ Numeral.text i.arg.toInt
  | none => "<unknown op " ++ Numeral.text i.op ++ "> " ++ Numeral.text i.arg.toInt

/-- An address, right-aligned in four columns. -/
def addressText (address : Nat) : String :=
  String.ofList ((Numeral.chars address).leftpad 4 ' ')

/-- The row of the instruction at an address, marked if that is the address `pc`. -/
def listingRow (set : InstructionSet) (pc : Option UInt64) (i : Instruction) (address : Nat) :
    String :=
  let mark := if pc.map UInt64.toNat = some address then "*" else " "
  mark ++ " " ++ addressText address ++ "  " ++ set.instructionText i

/-- The listing of a program, with a mark at the address `pc`. -/
def listing (set : InstructionSet) (pc : Option UInt64) (p : Program) : String :=
  Text.unlines (p.toList.zipIdx.map fun (i, address) => set.listingRow pc i address)

def isNamed (set : InstructionSet) (i : Instruction) : Bool :=
  (set.name? i.op).isSome

/-- The debug lines with which a run begins. -/
def debugListing (set : InstructionSet) (p : Program) : List String :=
  ["=== running vm ======================", "disassembly of run code:"]
    ++ (p.toList.takeWhile set.isNamed).map set.instructionText
    ++ (if p.toList.all set.isNamed then []
      else ["could not disassemble - op_id unknown...", "turning off debug mode."])
    ++ ["=== end of disassembly"]

end StackMachine.InstructionSet
