import StackMachine.Machine

/-!
Routines: what an instruction does that keeps something between its calls. A routine asks its run for
what a script can ask it for, and besides it may use a memory, which all runs on a machine share and
all instructions of the machine. What a run does may then depend on what others did before.
-/

namespace StackMachine

/-- A script that may also use a memory of type `γ`. -/
inductive Routine (γ α : Type) where
  | pure (value : α)
  | fail (fault : Fault)
  | ask (request : Request) (next : request.Reply → Routine γ α)
  /-- Puts `keep` of the memory in its place, and goes on with what was there. -/
  | access (keep : γ → γ) (next : γ → Routine γ α)

/-- The routine of a script, which leaves the memory alone. -/
def Script.routine {γ α : Type} : Script α → Routine γ α
  | .pure value => .pure value
  | .fail fault => .fail fault
  | .ask request next => .ask request fun reply => (next reply).routine

/-- A machine whose instructions share a memory of type `γ`. They are carried out as routines. The
actions of the machine are what is to be seen of this in a run, if nothing of the memory is. -/
structure SharedMachine (γ : Type) extends Machine where
  routine : OpId → Int64 → Routine γ Status

/-- The machine as one whose instructions keep nothing. -/
def Machine.shared (m : Machine) : SharedMachine Unit where
  toMachine := m
  routine id arg :=
    match m.instructions.action? id with
    | some action => (action arg).routine
    | none => .fail (.unknownOpcode id)

end StackMachine
