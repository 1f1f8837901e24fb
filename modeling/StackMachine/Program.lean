/-!
Programs: instructions at the addresses 0, 1, 2, …, and the map from addresses to the source lines
they were written on.
-/

namespace StackMachine

/-- The number of a registered instruction, in order of registration from 0. -/
abbrev OpId := Nat

/-- An operation and its immediate argument. -/
structure Instruction where
  op : OpId
  arg : Int64
  deriving DecidableEq, Repr

/-- The instructions of a program, by address. -/
abbrev Program := Array Instruction

def Program.fetch? (p : Program) (pc : UInt64) : Option Instruction :=
  p[pc.toNat]?

/-- The source line, counted from 1, of each instruction of a program. -/
abbrev LineMap := Array Nat

/-- The line of the instruction at `address`. -/
def LineMap.line? (lines : LineMap) (address : Nat) : Option Nat :=
  lines[address]?

/-- The address of the first instruction written on line `number`. -/
def LineMap.address? (lines : LineMap) (number : Nat) : Option Nat :=
  lines.findIdx? (· == number)

end StackMachine
