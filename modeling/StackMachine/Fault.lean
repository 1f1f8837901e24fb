import StackMachine.Numeral

/-!
What can go wrong, and where. A `Fault` is a cause; a `Failure` is a cause with the place at which
it arose, a line of the source for what is found in assembling it, an address for what happens in
executing it. All wording is in this module.
-/

namespace StackMachine

/-! ### Causes -/

/-- Why a text cannot be assembled, an instruction cannot be executed or a name cannot be
registered. -/
inductive Fault where
  /-- A malformed line, an unknown name or an operation that has no action. -/
  | invalidInstruction (detail : String)
  /-- An argument that is no numeral of a word. -/
  | invalidArgument (text : String) (cause : Numeral.ReadError)
  | stackFailure (reason : String)
  | divisionByZero
  /-- An address outside the program. -/
  | segFault
  /-- A name that is already registered. -/
  | alreadyDefined (name : String)
  /-- A broken promise of the machine itself. -/
  | internal (message : String)
  deriving DecidableEq, Repr

namespace Fault

/-- A line of more than two words. -/
def tooManyArguments (line : String) : Fault :=
  .invalidInstruction ("more than one instruction argument: " ++ line)

/-- A name under which nothing is registered. -/
def unknownInstruction (name : String) : Fault :=
  .invalidInstruction ("unknown instruction: " ++ name)

/-- An operation that no registered instruction has. -/
def unknownOpcode (op : Nat) : Fault :=
  .invalidInstruction ("unknown opcode " ++ Numeral.text op)

/-- One value was needed and there is none. -/
def emptyStack : Fault :=
  .stackFailure "empty stack"

/-- Several values were needed and there are fewer. -/
def shortStack : Fault :=
  .stackFailure "stack size not sufficient"

/-- The program counter is at its last value and cannot advance. -/
def counterOverflow : Fault :=
  .internal "self.pc + 1 must not wrap"

def text : Fault → String
  | .invalidInstruction detail => "invalid instruction: " ++ detail
  | .invalidArgument text _ => "invalid instruction argument `" ++ text ++ "`"
  | .stackFailure reason => "stack failure: " ++ reason
  | .divisionByZero => "cannot divide by zero"
  | .segFault => "seg fault"
  | .alreadyDefined name => "instruction `" ++ name ++ "` already defined"
  | .internal message => "bug: " ++ message

/-- The text of a fault, but of an internal one the message alone. -/
def message : Fault → String
  | .internal message => message
  | fault => fault.text

/-- The reading error behind a fault, where there is one. -/
def cause? : Fault → Option Numeral.ReadError
  | .invalidArgument _ cause => some cause
  | _ => none

/-- Whether the fault is one of those that assembling a text can find. -/
def isAssemblyError : Fault → Bool
  | .invalidInstruction _ | .invalidArgument _ _ => true
  | _ => false

end Fault

/-! ### Places -/

inductive Location where
  /-- A line of the source, counted from 1. -/
  | line (number : Nat)
  /-- The address of the instruction that was being executed. -/
  | pc (address : UInt64)
  deriving DecidableEq, Repr

def Location.text : Location → String
  | .line number => "line " ++ Numeral.text number
  | .pc address => "pc " ++ Numeral.text address.toNat

/-- A fault and where it arose, if that is known. -/
structure Failure where
  fault : Fault
  location : Option Location := none
  deriving DecidableEq, Repr

/-- The failure of executing the instruction at `address`. -/
def Fault.atPc (fault : Fault) (address : UInt64) : Failure :=
  ⟨fault, some (.pc address)⟩

/-- The failure of assembling line `number`. -/
def Fault.atLine (fault : Fault) (number : Nat) : Failure :=
  ⟨fault, some (.line number)⟩

namespace Failure

/-- The wording of a failure: the fault and its place. -/
def text : Failure → String
  | ⟨fault, none⟩ => fault.text
  | ⟨fault, some location⟩ => fault.text ++ " at " ++ location.text

/-- The text of a failure, but of an internal one the message alone. -/
def message : Failure → String
  | ⟨.internal message, _⟩ => message
  | failure => failure.text

/-- The address at which the failure arose. -/
def pc? : Failure → Option UInt64
  | ⟨_, some (.pc address)⟩ => some address
  | _ => none

/-- The source line in which the failure arose. -/
def line? : Failure → Option Nat
  | ⟨_, some (.line number)⟩ => some number
  | _ => none

end Failure

@[simp] theorem Fault.pc?_atPc (fault : Fault) (address : UInt64) :
    (fault.atPc address).pc? = some address :=
  rfl

@[simp] theorem Fault.line?_atLine (fault : Fault) (number : Nat) :
    (fault.atLine number).line? = some number :=
  rfl

end StackMachine
