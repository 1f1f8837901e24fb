import StackMachine.Proofs.ListingRoundTrip
import StackMachine.Proofs.Opcode
import StackMachine.Proofs.Quotation

/-!
The picture of a state is faithful. It is a text of lines, none of which has a line feed in it, so equal
pictures have equal lines. From the line of the stack the words are read off between the spaces, from
the quoted line the output, and from a row of the listing the operation and its argument at the last
space. The counter is seen at the mark, and so only if it is inside the program.
-/

namespace StackMachine

open Text

/-! ### Joined pieces -/

section

variable {sep c : Char} {pieces pieces' : List (List Char)}

lemma not_mem_intercalate (hsep : c ≠ sep) (h : ∀ piece ∈ pieces, c ∉ piece) :
    c ∉ [sep].intercalate pieces := by
  induction pieces with
  | nil => simp
  | cons piece rest ih =>
    obtain ⟨hpiece, hrest⟩ := List.forall_mem_cons.1 h
    cases rest with
    | nil => simpa using hpiece
    | cons next rest =>
      rw [List.intercalate_cons_cons]
      simp [hpiece, hsep, ih hrest]

lemma filter_splitOn_joined (h : ∀ piece ∈ pieces, piece ≠ [] ∧ sep ∉ piece) :
    (([sep].intercalate pieces).splitOn sep).filter (!·.isEmpty) = pieces := by
  obtain ⟨blanks, hcut, hblanks⟩ := splitOn_joined fun piece hpiece => (h piece hpiece).2
  rw [hcut, List.filter_append, List.filter_eq_self.2, List.filter_eq_nil_iff.2, List.append_nil]
  · intro piece hpiece
    simp [hblanks piece hpiece]
  · intro piece hpiece
    simpa using (h piece hpiece).1

lemma joined_inj (h : ∀ piece ∈ pieces, piece ≠ [] ∧ sep ∉ piece)
    (h' : ∀ piece ∈ pieces', piece ≠ [] ∧ sep ∉ piece)
    (heq : [sep].intercalate pieces = [sep].intercalate pieces') : pieces = pieces' := by
  rw [← filter_splitOn_joined h, heq, filter_splitOn_joined h']

end

lemma append_cons_inj_last {sep : Char} {front front' back back' : List Char} (h : sep ∉ back)
    (h' : sep ∉ back') (heq : front ++ sep :: back = front' ++ sep :: back') :
    front = front' ∧ back = back' := by
  have hreverse : back.reverse ++ sep :: front.reverse = back'.reverse ++ sep :: front'.reverse := by
    simpa using congrArg List.reverse heq
  obtain ⟨hback, hfront⟩ := append_cons_inj (by simpa using h) (by simpa using h') hreverse
  exact ⟨List.reverse_injective hfront, List.reverse_injective hback⟩

/-! ### Stacks -/

namespace Stack

theorem text_injective : Function.Injective Stack.text := by
  have hpieces : ∀ stack : Stack,
      ∀ piece ∈ stack.bottomFirst.map fun word => Numeral.chars word.toInt,
        piece ≠ [] ∧ ' ' ∉ piece := by
    intro stack
    refine List.forall_mem_map.2 fun word _ => ?_
    exact ⟨Numeral.chars_ne_nil _, space_not_mem_chars _⟩
  have hword : Function.Injective fun word : Int64 => Numeral.chars word.toInt :=
    fun _ _ h => Int64.toInt_inj.1 (Numeral.chars_injective h)
  intro stack stack' h
  have hlist := congrArg String.toList h
  rw [toList_text, toList_text] at hlist
  exact List.reverse_injective
    (List.map_injective_iff.2 hword (joined_inj (hpieces stack) (hpieces stack') hlist))

lemma newline_not_mem_text (stack : Stack) : '\n' ∉ stack.text.toList := by
  rw [toList_text]
  exact not_mem_intercalate (by decide)
    (List.forall_mem_map.2 fun word _ => newline_not_mem_chars word.toInt)

end Stack

/-! ### Instructions -/

namespace InstructionSet

/-- No name can be taken for more than a line, or for the number of an operation without one. -/
structure Legible (set : InstructionSet) : Prop where
  newline_not_mem : ∀ op name, set.name? op = some name → '\n' ∉ name.toList
  unbracketed : ∀ op name, set.name? op = some name → name.toList.head? ≠ some '<'

lemma legible_standard : standard.Legible := by
  have hname : ∀ op name, standard.name? op = some name → ∃ code : Opcode, code.name = name := by
    intro op name h
    rw [name?, Opcode.entries_eq, List.getElem?_map, Option.map_map, Option.map_eq_some_iff] at h
    obtain ⟨code, -, hcode⟩ := h
    exact ⟨code, hcode⟩
  constructor
  · intro op name h
    obtain ⟨code, rfl⟩ := hname op name h
    cases code <;> decide
  · intro op name h
    obtain ⟨code, rfl⟩ := hname op name h
    cases code <;> decide

/-- What stands before the argument of an operation. -/
def label (set : InstructionSet) (op : OpId) : List Char :=
  match set.name? op with
  | some name => name.toList
  | none => "<unknown op ".toList ++ Numeral.chars op ++ ['>']

variable {set : InstructionSet} {op op' : OpId} {i j : Instruction} {pc pc' : UInt64} {p q : Program}

lemma label_of_name? {name : String} (h : set.name? op = some name) :
    set.label op = name.toList := by
  rw [label, h]

lemma label_of_unnamed (h : set.name? op = none) :
    set.label op = "<unknown op ".toList ++ Numeral.chars op ++ ['>'] := by
  rw [label, h]

lemma head?_label_of_unnamed (h : set.name? op = none) : (set.label op).head? = some '<' := by
  rw [label_of_unnamed h]
  rfl

lemma label_injective (hset : set.Legible) : Function.Injective set.label := by
  intro op op' heq
  cases h : set.name? op with
  | some name =>
    cases h' : set.name? op' with
    | some name' =>
      rw [label_of_name? h, label_of_name? h', String.toList_inj] at heq
      have hid := id?_eq_some_iff.2 h
      rw [heq, id?_eq_some_iff.2 h'] at hid
      exact (Option.some.inj hid).symm
    | none =>
      have hhead := head?_label_of_unnamed h'
      rw [← heq, label_of_name? h] at hhead
      exact absurd hhead (hset.unbracketed op name h)
  | none =>
    cases h' : set.name? op' with
    | some name' =>
      have hhead := head?_label_of_unnamed h
      rw [heq, label_of_name? h'] at hhead
      exact absurd hhead (hset.unbracketed op' name' h')
    | none =>
      rw [label_of_unnamed h, label_of_unnamed h'] at heq
      have hchars := List.append_cancel_left (List.append_cancel_right heq)
      exact Int.ofNat_inj.1 (Numeral.chars_injective hchars)

lemma toList_instructionText_eq (set : InstructionSet) (i : Instruction) :
    (set.instructionText i).toList = set.label i.op ++ ' ' :: Numeral.chars i.arg.toInt := by
  cases h : set.name? i.op with
  | some name => rw [label_of_name? h, toList_instructionText h]
  | none => simp [instructionText, label_of_unnamed h, h]

/-- The argument is behind the last space, whatever spaces there are in the label. -/
lemma instructionText_inj (hset : set.Legible)
    (heq : set.instructionText i = set.instructionText j) : i = j := by
  have hlist := congrArg String.toList heq
  rw [toList_instructionText_eq, toList_instructionText_eq] at hlist
  obtain ⟨hlabel, hchars⟩ :=
    append_cons_inj_last (space_not_mem_chars _) (space_not_mem_chars _) hlist
  obtain ⟨op, arg⟩ := i
  obtain ⟨op', arg'⟩ := j
  rw [Instruction.mk.injEq]
  exact ⟨label_injective hset hlabel, Int64.toInt_inj.1 (Numeral.chars_injective hchars)⟩

lemma newline_not_mem_instructionText (hset : set.Legible) (i : Instruction) :
    '\n' ∉ (set.instructionText i).toList := by
  have hlabel : '\n' ∉ set.label i.op := by
    cases h : set.name? i.op with
    | some name =>
      rw [label_of_name? h]
      exact hset.newline_not_mem i.op name h
    | none =>
      rw [label_of_unnamed h]
      simp [newline_not_mem_chars]
  rw [toList_instructionText_eq]
  simp [hlabel, newline_not_mem_chars]

/-! ### Listings -/

lemma head?_listingRow (i : Instruction) (address : ℕ) :
    (set.listingRow (some pc) i address).toList.head? = some '*' ↔ pc.toNat = address := by
  unfold listingRow
  split_ifs with h <;> simpa using h

lemma listingRow_eq_iff (hset : set.Legible) {address : ℕ} :
    set.listingRow (some pc) i address = set.listingRow (some pc') j address ↔
      i = j ∧ (pc.toNat = address ↔ pc'.toNat = address) := by
  constructor
  · intro h
    have hlist := congrArg String.toList h
    have htext := congrArg (withoutAddress address) hlist
    rw [withoutAddress_listingRow, withoutAddress_listingRow, String.toList_inj] at htext
    refine ⟨instructionText_inj hset htext, ?_⟩
    rw [← head?_listingRow i, hlist, head?_listingRow]
  · rintro ⟨rfl, hmark⟩
    simp only [listingRow, Option.map_some, Option.some.injEq, hmark]

/-- The rows of a listing with a mark. -/
def rows (set : InstructionSet) (pc : UInt64) (p : Program) : List (List Char) :=
  p.toList.mapIdx fun address i => (set.listingRow (some pc) i address).toList

lemma length_rows : (set.rows pc p).length = p.size := by
  simp [rows]

lemma getElem?_rows (address : ℕ) :
    (set.rows pc p)[address]? =
      p[address]?.map fun i => (set.listingRow (some pc) i address).toList := by
  simp [rows]

lemma newline_not_mem_rows (hset : set.Legible) : ∀ row ∈ set.rows pc p, '\n' ∉ row := by
  intro row hrow
  obtain ⟨address, hlt, rfl⟩ := List.mem_mapIdx.1 hrow
  exact newline_not_mem_listingRow (newline_not_mem_instructionText hset _) (some pc) address

/-- A listing shows the program and, if this is inside it, the counter. -/
lemma rows_eq_iff (hset : set.Legible) :
    set.rows pc p = set.rows pc' q ↔
      p = q ∧ (pc = pc' ∨ p.size ≤ pc.toNat ∧ q.size ≤ pc'.toNat) := by
  constructor
  · intro h
    have hsize : p.size = q.size := by rw [← length_rows, h, length_rows]
    have hrow : ∀ address (hp : address < p.size) (hq : address < q.size),
        p[address] = q[address] ∧ (pc.toNat = address ↔ pc'.toNat = address) := by
      intro address hp hq
      have hget := congrArg (·[address]?) h
      simp only [getElem?_rows, Array.getElem?_eq_getElem hp, Array.getElem?_eq_getElem hq,
        Option.map_some, Option.some.injEq] at hget
      exact (listingRow_eq_iff hset).1 (String.toList_inj.1 hget)
    refine ⟨Array.ext hsize fun address hp hq => (hrow address hp hq).1, ?_⟩
    -- a counter inside the program is the other one, since the mark is at both
    by_cases hp : pc.toNat < p.size
    · have hpc := ((hrow pc.toNat hp (by omega)).2.1 rfl).symm
      exact .inl (UInt64.toNat_inj.1 hpc)
    by_cases hq : pc'.toNat < q.size
    · have hpc := (hrow pc'.toNat (by omega) hq).2.2 rfl
      exact .inl (UInt64.toNat_inj.1 hpc)
    · exact .inr ⟨Nat.le_of_not_lt hp, Nat.le_of_not_lt hq⟩
  · rintro ⟨rfl, rfl | ⟨hout, hout'⟩⟩
    · rfl
    · refine List.ext_getElem? fun address => ?_
      rw [getElem?_rows, getElem?_rows]
      cases hi : p[address]? with
      | none => rfl
      | some i =>
        have hlt : address < p.size := (Array.getElem?_eq_some_iff.1 hi).1
        have hrow : set.listingRow (some pc) i address = set.listingRow (some pc') i address :=
          (listingRow_eq_iff hset).2 ⟨rfl, iff_of_false (by omega) (by omega)⟩
        rw [Option.map_some, Option.map_some, hrow]

end InstructionSet

/-! ### Pictures -/

section

variable {σ τ : Type} {hidden : Char → Bool} {m m' : Machine} {p q : Program} {s : State σ}
  {t : State τ}

/-- The lines of the picture of a state. -/
def State.lines (hidden : Char → Bool) (set : InstructionSet) (p : Program) (s : State σ) :
    List (List Char) :=
  ["# Stack:", s.stack.text, "# Output:", quoteWith hidden s.output, "# Program:"].map String.toList
    ++ set.rows s.pc p

lemma toList_displayWith :
    (s.displayWith hidden m p).toList = terminated (s.lines hidden m.instructions p) := by
  rw [State.displayWith, String.toList_append, toList_unlines, toList_listing, State.lines,
    terminated, terminated, terminated, List.flatMap_append, InstructionSet.rows]

lemma newline_not_mem_lines (hset : m.instructions.Legible) :
    ∀ line ∈ s.lines hidden m.instructions p, '\n' ∉ line := by
  intro line hline
  rcases List.mem_append.1 hline with hhead | hrow
  · simp only [List.map_cons, List.map_nil, List.mem_cons, List.not_mem_nil, or_false] at hhead
    rcases hhead with rfl | rfl | rfl | rfl | rfl
    · decide
    · exact s.stack.newline_not_mem_text
    · decide
    · exact newline_not_mem_quoteWith hidden s.output
    · decide
  · exact InstructionSet.newline_not_mem_rows hset line hrow

lemma splitOn_displayWith (hset : m.instructions.Legible) :
    (s.displayWith hidden m p).toList.splitOn '\n' =
      s.lines hidden m.instructions p ++ [[]] := by
  rw [toList_displayWith, splitOn_terminated (newline_not_mem_lines hset)]

/-- **What two pictures have in common.** On legible instruction sets equal pictures have equal lines,
and each line shows its part of the state. -/
theorem displayWith_eq_iff (hset : m.instructions.Legible) (hm : m'.instructions = m.instructions) :
    s.displayWith hidden m p = t.displayWith hidden m' q ↔
      s.stack = t.stack ∧ s.output = t.output ∧ p = q ∧
        (s.pc = t.pc ∨ p.size ≤ s.pc.toNat ∧ q.size ≤ t.pc.toNat) := by
  constructor
  · intro h
    have hset' : m'.instructions.Legible := by rwa [hm]
    have hlines := congrArg (·.toList.splitOn '\n') h
    simp only [splitOn_displayWith hset, splitOn_displayWith hset', hm] at hlines
    have hparts := List.append_cancel_right hlines
    simp only [State.lines, List.map_cons, List.map_nil, List.cons_append, List.nil_append,
      List.cons.injEq, true_and, String.toList_inj] at hparts
    obtain ⟨hstack, houtput, hrows⟩ := hparts
    exact ⟨Stack.text_injective hstack, quoteWith_injective hidden houtput,
      (InstructionSet.rows_eq_iff hset).1 hrows⟩
  · rintro ⟨hstack, houtput, hprogram⟩
    rw [← String.toList_inj, toList_displayWith, toList_displayWith, State.lines, State.lines, hm,
      hstack, houtput, (InstructionSet.rows_eq_iff hset).2 hprogram]

end

/-- In the picture of a state there is a row for each instruction, which is marked where the counter
is. -/
lemma displayWith_rows {σ : Type} (hidden : Char → Bool) (debug : Bool) (p : Program) (s : State σ) :
    ∃ rows : List (List Char),
      IsCut '\n' (s.displayWith hidden (.standard debug) p).toList
        (["# Stack:", s.stack.text, "# Output:", quoteWith hidden s.output, "# Program:"].map
          String.toList ++ rows ++ [[]]) ∧
      rows.length = p.size ∧
      ∀ address row, rows[address]? = some row →
        (row.head? = some '*' ↔ s.pc.toNat = address) := by
  refine ⟨InstructionSet.standard.rows s.pc p, ?_, InstructionSet.length_rows, ?_⟩
  · exact isCut_iff.2 (splitOn_displayWith InstructionSet.legible_standard)
  · intro address row hrow
    rw [InstructionSet.getElem?_rows, Option.map_eq_some_iff] at hrow
    obtain ⟨i, -, rfl⟩ := hrow
    exact InstructionSet.head?_listingRow i address

/-- **The picture of a state is faithful.** Two states on machines with the standard instructions have
one picture, whichever characters are hidden, if and only if their stacks, outputs and programs are
equal and their counters are, or both are outside the program. In the lines of a picture there is one
for each instruction, behind five others, and it begins with the mark if and only if the counter is at
the instruction. So it is of the pictures in which the unprintable characters are hidden; there the
output is quoted with these by their numbers. -/
theorem display_faithful {σ τ : Type} (hidden : Char → Bool) (debug debug' : Bool) (p q : Program)
    (s : State σ) (t : State τ) :
    (s.displayWith hidden (.standard debug) p = t.displayWith hidden (.standard debug') q ↔
      s.stack = t.stack ∧ s.output = t.output ∧ p = q ∧
        (s.pc = t.pc ∨ p.size ≤ s.pc.toNat ∧ q.size ≤ t.pc.toNat)) ∧
    (∃ rows : List (List Char),
      IsCut '\n' (s.displayWith hidden (.standard debug) p).toList
        (["# Stack:", s.stack.text, "# Output:", quoteWith hidden s.output, "# Program:"].map
          String.toList ++ rows ++ [[]]) ∧
      rows.length = p.size ∧
      ∀ address row, rows[address]? = some row →
        (row.head? = some '*' ↔ s.pc.toNat = address)) ∧
    (s.display (.standard debug) p = t.display (.standard debug') q ↔
      s.stack = t.stack ∧ s.output = t.output ∧ p = q ∧
        (s.pc = t.pc ∨ p.size ≤ s.pc.toNat ∧ q.size ≤ t.pc.toNat)) ∧
    ∃ (quoted : String) (rows : List (List Char)),
      Quotes isUnprintable s.output quoted ∧
      IsCut '\n' (s.display (.standard debug) p).toList
        (["# Stack:", s.stack.text, "# Output:", quoted, "# Program:"].map String.toList ++ rows ++
          [[]]) ∧
      rows.length = p.size ∧
      ∀ address row, rows[address]? = some row →
        (row.head? = some '*' ↔ s.pc.toNat = address) := by
  have hset := InstructionSet.legible_standard
  refine ⟨displayWith_eq_iff hset rfl, displayWith_rows hidden debug p s,
    displayWith_eq_iff hset rfl, ?_⟩
  obtain ⟨rows, hcut⟩ := displayWith_rows isUnprintable debug p s
  exact ⟨quoteWith isUnprintable s.output, rows, quotes_iff.2 rfl, hcut⟩

end StackMachine
