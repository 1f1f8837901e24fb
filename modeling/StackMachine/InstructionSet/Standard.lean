import StackMachine.InstructionSet

/-!
The thirteen standard instructions. Those that compute take the two values on top of the stack and
push one; those that write or print leave the stack as it is; arithmetic wraps around at 64 bits.
-/

namespace StackMachine.InstructionSet

namespace Standard

def print : Action := fun _ => do
  Script.print (← Script.peek)
  return .executing

def loadConst : Action := fun arg => do
  Script.push arg
  return .executing

/-- Ends the run; the top value is its value. -/
def exit : Action := fun _ => do
  Script.require 1
  return .exited

def pop : Action := fun _ => do
  let _ ← Script.pop
  return .executing

def add : Action := fun _ => do
  let (below, top) ← Script.popPair
  Script.push (below + top)
  return .executing

/-- Divides the value below the top by the top value, rounding toward zero. -/
def div : Action := fun _ => do
  Script.require 2
  if (← Script.peek) = 0 then
    Script.fail .divisionByZero
  else do
    let (below, top) ← Script.popPair
    Script.push (below / top)
    return .executing

/-- Pushes 1 in place of two equal values, 0 in place of two different ones. -/
def eq : Action := fun _ => do
  let (below, top) ← Script.popPair
  Script.push (if below = top then 1 else 0)
  return .executing

/-- Pushes 0 in place of two equal values, 1 in place of two different ones. -/
def neq : Action := fun _ => do
  let (below, top) ← Script.popPair
  Script.push (if below = top then 0 else 1)
  return .executing

def dup : Action := fun _ => do
  Script.push (← Script.peek)
  return .executing

def jmp : Action := fun arg => do
  Script.jump arg
  return .executing

/-- Takes the top value and goes on at the address of the argument if it was 0. -/
def jmpz : Action := fun arg => do
  if (← Script.pop) = 0 then
    Script.jump arg
  return .executing

def write : Action := fun _ => do
  let top ← Script.peek
  Script.write (Numeral.text top.toInt)
  return .executing

/-- The character of a code point, or the replacement character if there is none. -/
def charOfCodePoint (value : Int64) : Char :=
  if 0 ≤ value.toInt ∧ value.toInt.toNat.isValidChar then Char.ofNat value.toInt.toNat
  else '\ufffd'

/-- Writes the character whose code point is the top value. -/
def writeChar : Action := fun _ => do
  let top ← Script.peek
  Script.write (String.singleton (charOfCodePoint top))
  return .executing

def table : List (String × Action) :=
  [("PRINT", print), ("LOAD_CONST", loadConst), ("EXIT", exit), ("POP", pop), ("ADD", add),
    ("DIV", div), ("EQ", eq), ("NEQ", neq), ("DUP", dup), ("JMP", jmp), ("JMPZ", jmpz),
    ("WRITE", write), ("WRITE_CHAR", writeChar)]

end Standard

def standard : InstructionSet :=
  .ofList Standard.table

/-- No standard name is registered twice, so every instruction of the table has its place in it as
number. -/
theorem entries_standard :
    standard.entries = Standard.table.map fun (name, action) => ⟨name, action⟩ :=
  rfl

end StackMachine.InstructionSet
