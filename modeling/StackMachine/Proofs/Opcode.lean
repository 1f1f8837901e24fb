import Mathlib.Tactic.Common
import StackMachine.Execution

/-!
The standard instructions on the states of a run. An opcode is a standard instruction, and `perform`
is what its script comes to when it is carried out: the script asks for the stack, and what it does
depends on the values on top. So a step of a machine with the standard instructions is one function
of the state, whatever the bound.
-/

namespace StackMachine

/-! ### Opcodes -/

/-- The standard instructions. -/
inductive Opcode where
  | print | loadConst | exit | pop | add | div | eq | neq | dup | jmp | jmpz | write | writeChar
  deriving DecidableEq, Repr

namespace Opcode

def all : List Opcode :=
  [print, loadConst, exit, pop, add, div, eq, neq, dup, jmp, jmpz, write, writeChar]

def id (op : Opcode) : OpId :=
  all.idxOf op

def name : Opcode → String
  | print => "PRINT" | loadConst => "LOAD_CONST" | exit => "EXIT" | pop => "POP" | add => "ADD"
  | div => "DIV" | eq => "EQ" | neq => "NEQ" | dup => "DUP" | jmp => "JMP" | jmpz => "JMPZ"
  | write => "WRITE" | writeChar => "WRITE_CHAR"

open InstructionSet in
def action : Opcode → Action
  | print => Standard.print | loadConst => Standard.loadConst | exit => Standard.exit
  | pop => Standard.pop | add => Standard.add | div => Standard.div | eq => Standard.eq
  | neq => Standard.neq | dup => Standard.dup | jmp => Standard.jmp | jmpz => Standard.jmpz
  | write => Standard.write | writeChar => Standard.writeChar

lemma entries_eq : InstructionSet.standard.entries = all.map fun op => ⟨op.name, op.action⟩ :=
  rfl

lemma getElem?_id (op : Opcode) : all[op.id]? = some op := by
  cases op <;> rfl

lemma id_of_getElem? {id : OpId} {op : Opcode} (h : all[id]? = some op) : op.id = id := by
  have hlt : id < all.length := (List.getElem?_eq_some_iff.1 h).1
  have hnodup : all.Nodup := by decide
  exact ((List.getElem?_inj hlt hnodup).1 (h.trans (getElem?_id op).symm)).symm

lemma id_inj {op op' : Opcode} : op.id = op'.id ↔ op = op' := by
  constructor
  · intro h
    have hget := getElem?_id op
    rw [h, getElem?_id op'] at hget
    exact (Option.some.inj hget).symm
  · exact congrArg id

lemma exists_id_iff {id : OpId} : (∃ op : Opcode, op.id = id) ↔ id < 13 := by
  constructor
  · rintro ⟨op, rfl⟩
    cases op <;> decide
  · intro h
    exact ⟨all[id], id_of_getElem? (List.getElem?_eq_getElem h)⟩

@[simp] lemma name?_id (op : Opcode) : InstructionSet.standard.name? op.id = some op.name := by
  rw [InstructionSet.name?, entries_eq, List.getElem?_map, getElem?_id]
  rfl

@[simp] lemma action?_id (op : Opcode) : InstructionSet.standard.action? op.id = some op.action := by
  rw [InstructionSet.action?, entries_eq, List.getElem?_map, getElem?_id]
  rfl

lemma action?_eq_none {id : OpId} (h : ¬ id < 13) : InstructionSet.standard.action? id = none := by
  rw [InstructionSet.action?, entries_eq, List.getElem?_eq_none (by simpa [all] using h)]
  rfl

/-- A number is that of an opcode, whose action it has, or has no action. -/
lemma action?_cases (id : OpId) :
    (∃ op : Opcode, op.id = id ∧ InstructionSet.standard.action? id = some op.action) ∨
      ¬ id < 13 ∧ InstructionSet.standard.action? id = none := by
  by_cases h : id < 13
  · obtain ⟨op, rfl⟩ := exists_id_iff.2 h
    exact .inl ⟨op, rfl, action?_id op⟩
  · exact .inr ⟨h, action?_eq_none h⟩

/-! ### What an opcode does -/

variable {σ : Type} [Sink σ]

/-- What an opcode does with its argument to a state: its result and the state it leaves, before it
is seen whether there is a value on the stack. -/
def perform (op : Opcode) (arg : Int64) (s : State σ) : Except Fault Status × State σ :=
  match op, s.stack with
  | loadConst, stack => (.ok .executing, { s with stack := arg :: stack })
  | jmp, _ => (.ok .executing, s.jump arg)
  | print, top :: _ => (.ok .executing, s.print top)
  | exit, _ :: _ => (.ok .exited, s)
  | pop, _ :: rest => (.ok .executing, { s with stack := rest })
  | dup, top :: rest => (.ok .executing, { s with stack := top :: top :: rest })
  | jmpz, top :: rest =>
    (.ok .executing,
      if top = 0 then State.jump { s with stack := rest } arg else { s with stack := rest })
  | write, top :: _ => (.ok .executing, s.write (Numeral.text top.toInt))
  | writeChar, top :: _ =>
    (.ok .executing, s.write (String.singleton (InstructionSet.Standard.charOfCodePoint top)))
  | add, top :: below :: rest => (.ok .executing, { s with stack := (below + top) :: rest })
  | div, top :: below :: rest =>
    if top = 0 then (.error .divisionByZero, s)
    else (.ok .executing, { s with stack := (below / top) :: rest })
  | eq, top :: below :: rest =>
    (.ok .executing, { s with stack := (if below = top then 1 else 0) :: rest })
  | neq, top :: below :: rest =>
    (.ok .executing, { s with stack := (if below = top then 0 else 1) :: rest })
  | add, _ | div, _ | eq, _ | neq, _ => (.error .shortStack, s)
  | _, _ => (.error .emptyStack, s)

/-- **The script of an opcode comes to what the opcode does.** -/
theorem exec_action (m : Machine) (p : Program) (n : ℕ) (op : Opcode) (arg : Int64) (s : State σ) :
    (op.action arg).exec (answer m p n) s = some (op.perform arg s) := by
  obtain ⟨stack, pc, output, debug, sink⟩ := s
  -- no opcode looks at more than two values
  cases op with
  | div =>
    rcases stack with _ | ⟨top, _ | ⟨below, rest⟩⟩
    · rfl
    · rfl
    · by_cases h : top = 0
      · subst h
        rfl
      · simp only [perform, if_neg h]
        change Script.exec _ (if top = 0 then _ else _) _ = _
        rw [if_neg h]
        rfl
  | jmpz =>
    rcases stack with _ | ⟨top, rest⟩
    · rfl
    · by_cases h : top = 0
      · subst h
        rfl
      · simp only [perform, if_neg h]
        change Script.exec _ (if top = 0 then _ else _) _ = _
        rw [if_neg h]
        rfl
  | _ => rcases stack with _ | ⟨top, _ | ⟨below, rest⟩⟩ <;> rfl

end Opcode

end StackMachine
