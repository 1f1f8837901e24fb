import StackMachine.Proofs.ListingRoundTrip
import StackMachine.Proofs.Opcode

/-!
Statements: lines of which it is known what they are assembled to. A statement is an opcode, alone or
with an argument. It is written as the name of the opcode, behind which there may be a space and the
argument in decimal. Some of these lines, with a line feed behind each or only between them, are a
text that the standard machine assembles to their instructions.
-/

namespace StackMachine

open Text

/-! ### Texts of lines -/

/-- The text has these lines and nothing else: a line feed is behind each of them, or only between
them. -/
inductive MadeOf (lines : List String) : String → Prop
  | terminated : MadeOf lines (unlines lines)
  | joined : MadeOf lines ("\n".intercalate lines)

/-- Of a text that is made of rows, cutting gives the rows, and at most an empty piece behind them. -/
lemma MadeOf.splitOn {lines : List String} {text : String} (h : MadeOf lines text)
    (hlines : ∀ line ∈ lines, '\n' ∉ line.toList) :
    ∃ blanks, text.toList.splitOn '\n' = lines.map String.toList ++ blanks ∧
      ∀ piece ∈ blanks, piece = [] := by
  have hrows : ∀ row ∈ lines.map String.toList, '\n' ∉ row := List.forall_mem_map.2 hlines
  cases h with
  | terminated =>
    rw [toList_unlines]
    exact ⟨[[]], splitOn_terminated hrows, by simp⟩
  | joined =>
    rw [String.toList_intercalate]
    exact splitOn_joined hrows

/-! ### Statements -/

/-- An opcode as it is written on a line, alone or with an argument. -/
inductive Statement where
  | bare (op : Opcode)
  | applied (op : Opcode) (arg : Int64)

namespace Statement

def line : Statement → String
  | bare op => op.name
  | applied op arg => op.name ++ " " ++ toString arg.toInt

/-- An opcode that is written alone has the argument 0. -/
def instruction : Statement → Instruction
  | bare op => ⟨op.id, 0⟩
  | applied op arg => ⟨op.id, arg⟩

lemma isRow_name (op : Opcode) : IsRow op.name.toList := by
  have hvisible : op.name.toList.any (fun c => !isBlankChar c) = true := by
    cases op <;> decide
  exact
    { newline_not_mem := by cases op <;> decide
      last := by cases op <;> decide
      visible := by simpa using hvisible }

lemma space_not_mem_name (op : Opcode) : ' ' ∉ op.name.toList := by
  cases op <;> decide

lemma writable_id (op : Opcode) (arg : Int64) : Writable .standard ⟨op.id, arg⟩ :=
  ⟨op.name, Opcode.name?_id op, space_not_mem_name op, (isRow_name op).newline_not_mem⟩

lemma toString_ofNat {n : ℕ} (hn : n < 2 ^ 63) : toString (Int64.ofNat n).toInt = toString n := by
  rw [Int64.toInt_ofNat_of_lt hn]
  rfl

lemma line_applied (op : Opcode) (arg : Int64) :
    (applied op arg).line = InstructionSet.standard.instructionText ⟨op.id, arg⟩ := by
  simp only [line, InstructionSet.instructionText, Opcode.name?_id, Numeral.text_eq_toString]

lemma isRow_line (statement : Statement) : IsRow statement.line.toList := by
  cases statement with
  | bare op => exact isRow_name op
  | applied op arg =>
    rw [line_applied]
    exact isRow_instructionText (writable_id op arg)

lemma denotes_line (statement : Statement) :
    Denotes .standard statement.line.toList statement.instruction := by
  cases statement with
  | bare op => exact .bare (.one (space_not_mem_name op)) (by simp [line])
  | applied op arg =>
    rw [line_applied]
    exact denotes_instructionText (writable_id op arg)

end Statement

/-- **A text of statements is assembled to their instructions**, one on each line. -/
theorem assemble_statements {statements : List Statement} {text : String}
    (h : MadeOf (statements.map Statement.line) text) :
    InstructionSet.standard.assemble text =
      .ok ⟨(statements.map Statement.instruction).toArray, Array.range' 1 statements.length⟩ := by
  have hrows : ∀ row ∈ (statements.map Statement.line).map String.toList, IsRow row := by
    simp only [List.forall_mem_map]
    exact fun statement _ => statement.isRow_line
  have hdenotes : List.Forall₂ (Denotes .standard)
      ((statements.map Statement.line).map String.toList)
      (statements.map Statement.instruction) := by
    rw [List.map_map, List.forall₂_map_left_iff, List.forall₂_map_right_iff, List.forall₂_same]
    exact fun statement _ => statement.denotes_line
  obtain ⟨blanks, hcut, hblanks⟩ :=
    h.splitOn fun line hline => (hrows _ (List.mem_map_of_mem hline)).newline_not_mem
  have hassemble := assemble_of_rows hcut hblanks hrows (p := (statements.map _).toArray) hdenotes
  rwa [List.size_toArray, List.length_map] at hassemble

end StackMachine
