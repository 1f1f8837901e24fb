import StackMachine.Assembly
import StackMachine.InstructionSet.Standard
import StackMachine.Listing
import StackMachine.Sink

/-!
Machines: an instruction set and whether runs start with debugging on. A machine does not change
when it runs a program, so any number of runs can share one.
-/

namespace StackMachine

/-- What all runs on a machine have in common. -/
structure Machine where
  instructions : InstructionSet
  debug : Bool := false

namespace Machine

/-- The machine with the standard instructions. -/
def standard (debug : Bool) : Machine :=
  ⟨.standard, debug⟩

def empty (debug : Bool) : Machine :=
  ⟨.empty, debug⟩

/-- Registers an instruction and records that it was registered; a machine that has one of this name
stays as it is. -/
def register {σ : Type} [Sink σ] (m : Machine) (name : String) (action : Action) (sink : σ) :
    Except Failure OpId × Machine × σ :=
  match m.instructions.register name action with
  | .ok (id, larger) =>
    (.ok id, { m with instructions := larger }, Sink.record sink (.registered name id))
  | .error fault => (.error ⟨fault, none⟩, m, sink)

def assemble (m : Machine) (text : String) : Except Failure Assembly :=
  m.instructions.assemble text

def listing (m : Machine) (p : Program) : String :=
  m.instructions.listing none p

end Machine

end StackMachine
