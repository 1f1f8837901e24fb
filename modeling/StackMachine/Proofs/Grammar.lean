import StackMachine.Assembly
import StackMachine.Proofs.Numerals

/-!
The grammar of a source line. A line holds a name, or a name, one space and an argument. It denotes
an instruction if the name is registered and the argument, if there is one, is a numeral; else it
offends, against the number of spaces before the name and against the name before the argument. The
assembler decides between the two on every line.
-/

namespace StackMachine

/-! ### Cutting a text at a character -/

/-- The pieces are what is left of the text when it is cut at every occurrence of the separator. -/
structure IsCut (sep : Char) (text : List Char) (pieces : List (List Char)) : Prop where
  ne_nil : pieces ≠ []
  not_mem : ∀ piece ∈ pieces, sep ∉ piece
  join : [sep].intercalate pieces = text

section

variable {sep : Char} {text : List Char} {pieces : List (List Char)}

lemma not_mem_of_mem_splitOn : ∀ piece ∈ text.splitOn sep, sep ∉ piece := by
  induction text with
  | nil => simp
  | cons c rest ih =>
    rw [List.splitOn_cons_eq_if_modifyHead]
    by_cases hc : c = sep
    · rw [if_pos (by simpa using hc)]
      intro piece hpiece
      rcases List.mem_cons.1 hpiece with rfl | hpiece
      · simp
      · exact ih piece hpiece
    · rw [if_neg (by simpa using hc)]
      obtain ⟨first, others, heq⟩ := List.exists_cons_of_ne_nil (List.splitOn_ne_nil sep rest)
      rw [heq] at ih ⊢
      intro piece hpiece
      rcases List.mem_cons.1 hpiece with rfl | hpiece
      · have hfirst := ih first (List.mem_cons_self ..)
        simp [hfirst, Ne.symm hc]
      · exact ih piece (List.mem_cons_of_mem _ hpiece)

/-- There is one way to cut a text. -/
theorem isCut_iff : IsCut sep text pieces ↔ text.splitOn sep = pieces := by
  constructor
  · rintro ⟨hne, hmem, rfl⟩
    exact List.splitOn_intercalate sep hmem hne
  · rintro rfl
    exact ⟨List.splitOn_ne_nil sep text, not_mem_of_mem_splitOn, List.intercalate_splitOn sep⟩

lemma IsCut.length (h : IsCut sep text pieces) : pieces.length = text.count sep + 1 := by
  obtain ⟨hne, hmem, rfl⟩ := h
  induction pieces with
  | nil => exact absurd rfl hne
  | cons piece rest ih =>
    have hpiece : piece.count sep = 0 := List.count_eq_zero.2 (hmem piece (List.mem_cons_self ..))
    cases rest with
    | nil => simp [hpiece]
    | cons next rest =>
      have hrest := ih (by simp) fun l hl => hmem l (List.mem_cons_of_mem _ hl)
      rw [List.intercalate_cons_cons, List.length_cons, hrest]
      simp [hpiece]

end

/-! ### Names -/

namespace InstructionSet

variable {set : InstructionSet} {name : String} {op : OpId}

theorem id?_eq_some_iff : set.id? name = some op ↔ set.name? op = some name := by
  rw [id?, name?, List.findIdx?_eq_some_iff_getElem, Option.map_eq_some_iff]
  constructor
  · rintro ⟨hlt, hname, -⟩
    exact ⟨_, List.getElem?_eq_getElem hlt, by simpa using hname⟩
  · rintro ⟨entry, hentry, rfl⟩
    obtain ⟨hlt, rfl⟩ := List.getElem?_eq_some_iff.1 hentry
    refine ⟨hlt, by simp, fun j hj hname => ?_⟩
    -- two instructions of one name have one number
    have hj' : j < (set.entries.map Entry.name).length := by
      rw [List.length_map]
      omega
    have hsame : (set.entries.map Entry.name)[j]? = (set.entries.map Entry.name)[op]? := by
      simpa [List.getElem?_eq_getElem, hlt, Nat.lt_trans hj hlt] using hname
    have heq : j = op := (List.getElem?_inj hj' set.names_nodup).1 hsame
    omega

lemma id?_eq_none_iff : set.id? name = none ↔ ∀ op, set.name? op ≠ some name := by
  rw [Option.eq_none_iff_forall_ne_some]
  exact forall_congr' fun op => not_congr id?_eq_some_iff

end InstructionSet

/-! ### The words of a line -/

/-- The line is a name, or a name, one space and an argument, in neither of which there is a
space. -/
inductive Words : List Char → List Char → Option (List Char) → Prop
  | one {name : List Char} : ' ' ∉ name → Words name name none
  | two {name argument : List Char} : ' ' ∉ name → ' ' ∉ argument →
      Words (name ++ ' ' :: argument) name (some argument)

section

variable {line name : List Char} {argument : Option (List Char)}

lemma Words.isCut (h : Words line name argument) : IsCut ' ' line (name :: argument.toList) := by
  cases h with
  | one hname => exact ⟨by simp, by simpa using hname, by simp⟩
  | two hname hargument => exact ⟨by simp, by simp [hname, hargument], by simp⟩

lemma words_of_isCut (h : IsCut ' ' line (name :: argument.toList)) : Words line name argument := by
  obtain ⟨-, hmem, rfl⟩ := h
  cases argument with
  | none => simpa using Words.one (hmem name (List.mem_cons_self ..))
  | some argument => simpa using Words.two (hmem name (by simp)) (hmem argument (by simp))

lemma exists_words (h : line.count ' ' < 2) : ∃ name argument, Words line name argument := by
  have hcut : IsCut ' ' line (line.splitOn ' ') := isCut_iff.2 rfl
  have hlength := hcut.length
  match hpieces : line.splitOn ' ' with
  | [] => exact absurd hpieces (List.splitOn_ne_nil ' ' line)
  | [name] => exact ⟨name, none, words_of_isCut (hpieces ▸ hcut)⟩
  | [name, argument] => exact ⟨name, some argument, words_of_isCut (hpieces ▸ hcut)⟩
  | _ :: _ :: _ :: _ =>
    rw [hpieces] at hlength
    simp only [List.length_cons] at hlength
    omega

end

/-! ### The instruction of a line, or its offence -/

/-- The line denotes the instruction. -/
inductive Denotes (set : InstructionSet) (line : List Char) : Instruction → Prop
  | bare {name : List Char} {op : OpId} : Words line name none →
      set.name? op = some (String.ofList name) → Denotes set line ⟨op, 0⟩
  | applied {name argument : List Char} {op : OpId} {value : Int64} :
      Words line name (some argument) → set.name? op = some (String.ofList name) →
      Numeral.Literal argument value → Denotes set line ⟨op, value⟩

/-- The line denotes no instruction, and this is its first offence. -/
inductive Offends (set : InstructionSet) (line : List Char) : Fault → Prop
  | tooManyArguments : 2 ≤ line.count ' ' →
      Offends set line
        (.invalidInstruction ("more than one instruction argument: " ++ String.ofList line))
  | unknownInstruction {name : List Char} {argument : Option (List Char)} :
      Words line name argument → (∀ op, set.name? op ≠ some (String.ofList name)) →
      Offends set line (.invalidInstruction ("unknown instruction: " ++ String.ofList name))
  | invalidArgument {name argument : List Char} {op : OpId} {cause : Numeral.ReadError} :
      Words line name (some argument) → set.name? op = some (String.ofList name) →
      Numeral.Misread argument cause →
      Offends set line (.invalidArgument (String.ofList argument) cause)

namespace InstructionSet

variable {set : InstructionSet} {line name : List Char} {argument : Option (List Char)}

lemma assembleLine_of_words (h : Words line name argument) :
    set.assembleLine line = set.instruction name argument := by
  rw [assembleLine, isCut_iff.1 h.isCut]
  cases argument <;> rfl

lemma assembleLine_of_count (h : 2 ≤ line.count ' ') :
    set.assembleLine line = .error (.tooManyArguments (String.ofList line)) := by
  have hcut : IsCut ' ' line (line.splitOn ' ') := isCut_iff.2 rfl
  have hthree : 3 ≤ (line.splitOn ' ').length := by
    rw [hcut.length]
    omega
  rw [assembleLine]
  match hpieces : line.splitOn ' ' with
  | [] | [_] | [_, _] => simp [hpieces] at hthree
  | _ :: _ :: _ :: _ => rfl

lemma instruction_of_none {op : OpId} (hop : set.id? (String.ofList name) = some op) :
    set.instruction name none = .ok ⟨op, 0⟩ := by
  simp only [instruction, hop]

lemma instruction_of_some {op : OpId} (hop : set.id? (String.ofList name) = some op)
    (argument : List Char) :
    set.instruction name (some argument) =
      (readArgument argument).map fun value => ⟨op, value⟩ := by
  simp only [instruction, hop]

lemma instruction_of_unknown (hname : set.id? (String.ofList name) = none) :
    set.instruction name argument = .error (.unknownInstruction (String.ofList name)) := by
  simp only [instruction, hname]

lemma assembleLine_of_denotes {i : Instruction} (h : Denotes set line i) :
    set.assembleLine line = .ok i := by
  cases h with
  | bare hwords hop => rw [assembleLine_of_words hwords, instruction_of_none (id?_eq_some_iff.2 hop)]
  | applied hwords hop hvalue =>
    rw [assembleLine_of_words hwords, instruction_of_some (id?_eq_some_iff.2 hop), readArgument,
      Numeral.read_eq_ok_iff.2 hvalue]
    rfl

lemma assembleLine_of_offends {fault : Fault} (h : Offends set line fault) :
    set.assembleLine line = .error fault := by
  cases h with
  | tooManyArguments hcount => exact assembleLine_of_count hcount
  | unknownInstruction hwords hname =>
    rw [assembleLine_of_words hwords, instruction_of_unknown (id?_eq_none_iff.2 hname)]
    rfl
  | invalidArgument hwords hop hcause =>
    rw [assembleLine_of_words hwords, instruction_of_some (id?_eq_some_iff.2 hop), readArgument,
      Numeral.read_eq_error_iff.2 hcause]
    rfl

theorem denotes_or_offends (set : InstructionSet) (line : List Char) :
    (∃ i, Denotes set line i) ∨ ∃ fault, Offends set line fault := by
  rcases Nat.lt_or_ge (line.count ' ') 2 with hcount | hcount
  · obtain ⟨name, argument, hwords⟩ := exists_words hcount
    by_cases hname : ∃ op, set.name? op = some (String.ofList name)
    · obtain ⟨op, hop⟩ := hname
      cases argument with
      | none => exact .inl ⟨_, .bare hwords hop⟩
      | some argument =>
        cases hread : Numeral.read argument with
        | ok value => exact .inl ⟨_, .applied hwords hop (Numeral.read_eq_ok_iff.1 hread)⟩
        | error cause =>
          exact .inr ⟨_, .invalidArgument hwords hop (Numeral.read_eq_error_iff.1 hread)⟩
    · rw [not_exists] at hname
      exact .inr ⟨_, .unknownInstruction hwords hname⟩
  · exact .inr ⟨_, .tooManyArguments hcount⟩

end InstructionSet

end StackMachine
