import StackMachine.Program
import StackMachine.Script
import StackMachine.Text.Quoted

/-!
Instruction sets: named actions, numbered in order of registration. No name is registered twice, so
the number of an instruction and its name determine each other.
-/

namespace StackMachine

/-- A registered instruction. -/
structure Entry where
  name : String
  action : Action

/-- Registered instructions by number. -/
structure InstructionSet where
  entries : List Entry
  names_nodup : (entries.map Entry.name).Nodup

namespace InstructionSet

/-! ### Queries -/

def size (set : InstructionSet) : Nat :=
  set.entries.length

/-- The number of the instruction of a given name. -/
def id? (set : InstructionSet) (name : String) : Option OpId :=
  set.entries.findIdx? (·.name == name)

def name? (set : InstructionSet) (id : OpId) : Option String :=
  set.entries[id]?.map Entry.name

def action? (set : InstructionSet) (id : OpId) : Option Action :=
  set.entries[id]?.map Entry.action

/-- The numbers and names of all instructions, in order. -/
def toList (set : InstructionSet) : List (OpId × String) :=
  set.entries.zipIdx.map fun (entry, id) => (id, entry.name)

/-- The numbers and names of all instructions as one line. -/
def summary (set : InstructionSet) : String :=
  let rows := set.toList.map fun (id, name) =>
    "OpId(" ++ Numeral.text id ++ "): " ++ Text.quote name
  "\x7b" ++ ", ".intercalate rows ++ "\x7d"

/-! ### Registration -/

def empty : InstructionSet :=
  ⟨[], .nil⟩

theorem names_nodup_append {set : InstructionSet} {name : String} (h : set.id? name = none)
    (action : Action) :
    ((set.entries ++ [Entry.mk name action]).map Entry.name).Nodup := by
  rw [List.map_append, List.nodup_append]
  refine ⟨set.names_nodup, by simp, ?_⟩
  simp only [id?, List.findIdx?_eq_none_iff, beq_eq_false_iff_ne] at h
  rintro _ ha b hb rfl
  obtain ⟨entry, he, rfl⟩ := List.mem_map.1 ha
  exact h entry he (by simpa using hb)

/-- The set with one more instruction and the number given to it, unless the name is taken. -/
def register (set : InstructionSet) (name : String) (action : Action) :
    Except Fault (OpId × InstructionSet) :=
  match h : set.id? name with
  | some _ => .error (.alreadyDefined name)
  | none => .ok (set.size, ⟨set.entries ++ [Entry.mk name action], names_nodup_append h action⟩)

/-- The set of the given instructions in their order; of several with one name, the first counts. -/
def ofList (instructions : List (String × Action)) : InstructionSet :=
  instructions.foldl (fun set (name, action) =>
    match set.register name action with
    | .ok (_, larger) => larger
    | .error _ => set) empty

end InstructionSet

end StackMachine
