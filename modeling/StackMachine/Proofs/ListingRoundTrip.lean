import StackMachine.Proofs.Assembling
import StackMachine.Proofs.Iteration
import StackMachine.Proofs.Spelling

/-!
Listings can be assembled again. A program is the result of assembling some text if and only if all
its instructions can be written on a line, and then both of its listings are such texts: the plain
one without the columns before its instructions, and the lines of the debug listing between its
header and its footer. What is written for an instruction survives the assembler's reading of lines,
however odd its name, since its argument always follows.
-/

namespace StackMachine

open Text

/-! ### Texts made of rows -/

/-- The row comes back when a text of such rows is cut into source lines: it has no line feed, does not
end in a carriage return and is not blank. -/
structure IsRow (row : List Char) : Prop where
  newline_not_mem : '\n' ∉ row
  last : row.getLast? ≠ some '\r'
  visible : ∃ c ∈ row, ¬ isBlankChar c

/-- The rows, each with a line feed behind it. -/
def terminated (rows : List (List Char)) : List Char :=
  rows.flatMap (· ++ ['\n'])

section

variable {rows : List (List Char)}

lemma splitOn_terminated_append {last : List Char} (hrows : ∀ row ∈ rows, '\n' ∉ row)
    (hlast : '\n' ∉ last) : (terminated rows ++ last).splitOn '\n' = rows ++ [last] := by
  induction rows with
  | nil => exact List.splitOn_eq_singleton hlast
  | cons row rows ih =>
    obtain ⟨hrow, hrest⟩ := List.forall_mem_cons.1 hrows
    have hcons : terminated (row :: rows) ++ last = row ++ '\n' :: (terminated rows ++ last) := by
      simp [terminated]
    rw [hcons, List.splitOn_append_cons_self, List.splitOn_eq_singleton hrow, ih hrest]
    rfl

lemma splitOn_terminated (h : ∀ row ∈ rows, '\n' ∉ row) :
    (terminated rows).splitOn '\n' = rows ++ [[]] := by
  rw [← splitOn_terminated_append h List.not_mem_nil, List.append_nil]

lemma toList_unlines (lines : List String) :
    (unlines lines).toList = terminated (lines.map String.toList) := by
  rw [unlines, String.toList_join, terminated]
  simp [List.flatMap_map]

/-- Cutting joined rows gives them back; of no rows one empty piece is made. -/
lemma splitOn_joined {sep : Char} (h : ∀ row ∈ rows, sep ∉ row) :
    ∃ blanks, ([sep].intercalate rows).splitOn sep = rows ++ blanks ∧
      ∀ piece ∈ blanks, piece = [] := by
  by_cases hrows : rows = []
  · subst hrows
    exact ⟨[[]], rfl, by simp⟩
  · exact ⟨[], by rw [List.splitOn_intercalate _ h hrows, List.append_nil], by simp⟩

lemma remaining_rows {n : ℕ} {blanks : List (List Char)} (hrows : ∀ row ∈ rows, IsRow row)
    (hblanks : ∀ piece ∈ blanks, piece = []) : Remaining n (rows ++ blanks) (rows.zipIdx n) := by
  induction rows generalizing n with
  | nil =>
    apply Remaining.of_blank
    intro piece hpiece
    rw [hblanks piece hpiece]
    simp
  | cons row rows ih =>
    obtain ⟨hrow, hrest⟩ := List.forall_mem_cons.1 hrows
    exact .line (.inr ⟨rfl, hrow.last⟩) hrow.visible (ih hrest)

/-- **A text of rows that denote the instructions of a program is assembled to it**, line by line. -/
lemma assemble_of_rows {set : InstructionSet} {p : Program} {text : String}
    {blanks : List (List Char)} (htext : text.toList.splitOn '\n' = rows ++ blanks)
    (hblanks : ∀ piece ∈ blanks, piece = []) (hrows : ∀ row ∈ rows, IsRow row)
    (hdenotes : List.Forall₂ (Denotes set) rows p.toList) :
    set.assemble text = .ok ⟨p, Array.range' 1 p.size⟩ := by
  have hlines : InstructionSet.numberedLines text.toList = rows.zipIdx 1 := by
    rw [InstructionSet.numberedLines, sourceLines, htext]
    exact remaining_iff.1 (remaining_rows hrows hblanks)
  have hzip : List.Forall₂ (fun line i => Denotes set line.1 i) (rows.zipIdx 1) p.toList := by
    rw [← List.forall₂_map_left_iff (f := Prod.fst), List.zipIdx_map_fst]
    exact hdenotes
  have hnumbers : (List.range' 1 p.toList.length).toArray = Array.range' 1 p.size := by
    rw [← Array.toList_range', Array.toArray_toList, Array.length_toList]
  rw [InstructionSet.assemble_of_denotes (hlines ▸ hzip), hlines, List.zipIdx_map_snd,
    hdenotes.length_eq, hnumbers]

end

/-! ### The row of an instruction -/

/-- The instruction can be written on a line: it is registered, under a name in which there is neither
a space nor a line feed. -/
def Writable (set : InstructionSet) (i : Instruction) : Prop :=
  ∃ name, set.name? i.op = some name ∧ ' ' ∉ name.toList ∧ '\n' ∉ name.toList

section

variable {set : InstructionSet} {i : Instruction}

lemma toList_instructionText {name : String} (h : set.name? i.op = some name) :
    (set.instructionText i).toList = name.toList ++ ' ' :: Numeral.chars i.arg.toInt := by
  simp [InstructionSet.instructionText, h]

lemma visible_of_mem_chars {c : Char} {n : ℤ} (h : c ∈ Numeral.chars n) :
    ¬ isBlankChar c ∧ c ≠ ' ' ∧ c ≠ '\n' ∧ c ≠ '\r' := by
  have hrange : 0x2d ≤ c.toNat ∧ c.toNat ≤ 0x39 := by
    rcases Numeral.eq_minus_or_isDigit_of_mem_chars h with rfl | hdigit
    · decide
    · simp only [Char.isDigit, Bool.and_eq_true, decide_eq_true_eq] at hdigit
      have hlow : '0'.toNat ≤ c.toNat := hdigit.1
      have hhigh : c.toNat ≤ '9'.toNat := hdigit.2
      have h0 : '0'.toNat = 0x30 := rfl
      have h9 : '9'.toNat = 0x39 := rfl
      omega
  have hne : ∀ d : Char, d.toNat < 0x2d → c ≠ d := by
    rintro d hd rfl
    omega
  refine ⟨?_, hne _ (by decide), hne _ (by decide), hne _ (by decide)⟩
  simp only [isBlankChar, blankRanges, List.any_cons, List.any_nil, Bool.or_eq_true,
    Bool.and_eq_true, decide_eq_true_eq, Bool.false_eq_true, or_false]
  omega

lemma space_not_mem_chars (n : ℤ) : ' ' ∉ Numeral.chars n :=
  fun h => (visible_of_mem_chars h).2.1 rfl

lemma newline_not_mem_chars (n : ℤ) : '\n' ∉ Numeral.chars n :=
  fun h => (visible_of_mem_chars h).2.2.1 rfl

/-- The text of an instruction that can be written is a row. The last character is one of the argument,
so it does not matter how the name ends. -/
lemma isRow_instructionText (h : Writable set i) : IsRow (set.instructionText i).toList := by
  obtain ⟨name, hname, -, hnewline⟩ := h
  obtain ⟨front, last, hchars⟩ :=
    List.eq_nil_or_concat' (Numeral.chars i.arg.toInt) |>.resolve_left (Numeral.chars_ne_nil _)
  have hlast : last ∈ Numeral.chars i.arg.toInt := by simp [hchars]
  rw [toList_instructionText hname]
  refine ⟨?_, ?_, last, by simp [hlast], (visible_of_mem_chars hlast).1⟩
  · intro hmem
    rcases List.mem_append.1 hmem with hmem | hmem
    · exact hnewline hmem
    · rcases List.mem_cons.1 hmem with hspace | hmem
      · simp at hspace
      · exact newline_not_mem_chars _ hmem
  · have hget : (name.toList ++ ' ' :: Numeral.chars i.arg.toInt).getLast? = some last := by
      simp [hchars, List.getLast?_cons]
    rw [hget]
    exact fun heq => (visible_of_mem_chars hlast).2.2.2 (Option.some.inj heq)

lemma denotes_instructionText (h : Writable set i) : Denotes set (set.instructionText i).toList i := by
  obtain ⟨name, hname, hspace, -⟩ := h
  rw [toList_instructionText hname]
  exact .applied (.two hspace (space_not_mem_chars _)) (by simpa using hname)
    (Numeral.literal_chars i.arg)

lemma writable_of_denotes {line : List Char} (h : Denotes set line i) (hline : '\n' ∉ line) :
    Writable set i := by
  cases h with
  | bare hwords hname =>
    cases hwords with
    | one hspace => exact ⟨_, hname, by simpa using hspace, by simpa using hline⟩
  | applied hwords hname hvalue =>
    cases hwords with
    | two hspace _ =>
      refine ⟨_, hname, by simpa using hspace, fun hmem => hline ?_⟩
      exact List.mem_append_left _ (by simpa using hmem)

end

lemma writable_of_assemble {set : InstructionSet} {text : String} {a : Assembly}
    (h : set.assemble text = .ok a) : ∀ i ∈ a.program, Writable set i := by
  intro i hi
  obtain ⟨k, hk⟩ := Array.mem_iff_getElem?.1 hi
  obtain ⟨line, n, hline, hdenotes, -⟩ := InstructionSet.exists_line_of_assemble h hk
  obtain ⟨-, -, piece, hpiece, hstripped⟩ := InstructionSet.mem_numberedLines_iff.1 hline
  have hnewline : '\n' ∉ piece := not_mem_of_mem_splitOn piece (List.mem_of_getElem? hpiece)
  refine writable_of_denotes hdenotes fun hmem => hnewline ?_
  rcases hstripped with rfl | ⟨rfl, -⟩
  · exact List.mem_append_left _ hmem
  · exact hmem

lemma rows_of_writable {set : InstructionSet} {p : Program} (h : ∀ i ∈ p, Writable set i) :
    (∀ row ∈ p.toList.map fun i => (set.instructionText i).toList, IsRow row) ∧
      List.Forall₂ (Denotes set) (p.toList.map fun i => (set.instructionText i).toList)
        p.toList := by
  have hmem : ∀ i ∈ p.toList, Writable set i := fun i hi => h i (Array.mem_toList_iff.1 hi)
  refine ⟨List.forall_mem_map.2 fun i hi => isRow_instructionText (hmem i hi), ?_⟩
  rw [List.forall₂_map_left_iff, List.forall₂_same]
  exact fun i hi => denotes_instructionText (hmem i hi)

/-! ### The plain listing -/

/-- A row of a listing without the columns before its instruction: the mark, a blank, the address in
four columns or in as many as it has digits, and two blanks. -/
def withoutAddress (address : ℕ) (row : List Char) : List Char :=
  row.drop (1 + 1 + max 4 (Nat.toDigits 10 address).length + 2)

example : withoutAddress 10000 "* 10000  EXIT 0".toList = "EXIT 0".toList := by cbv

/-- A listing without the columns before its instructions. What does not end in a line feed is no
row. -/
def withoutColumns (listing : String) : String :=
  String.ofList (terminated ((listing.toList.splitOn '\n').dropLast.mapIdx withoutAddress))

section

variable {set : InstructionSet}

lemma withoutAddress_listingRow (pc : Option UInt64) (i : Instruction) (address : ℕ) :
    withoutAddress address (set.listingRow pc i address).toList =
      (set.instructionText i).toList := by
  have hmark : ∃ mark : Char, (set.listingRow pc i address).toList =
      (mark :: ' ' :: (Numeral.chars address).leftpad 4 ' ' ++ [' ', ' ']) ++
        (set.instructionText i).toList := by
    unfold InstructionSet.listingRow InstructionSet.addressText
    split
    · exact ⟨'*', by simp⟩
    · exact ⟨' ', by simp⟩
  obtain ⟨mark, hrow⟩ := hmark
  rw [hrow]
  refine List.drop_left' ?_
  have hchars : Numeral.chars address = Nat.toDigits 10 address := rfl
  simp only [List.length_append, List.length_cons, List.length_nil, List.length_leftpad, hchars]
  omega

lemma toList_listing (pc : Option UInt64) (p : Program) :
    (set.listing pc p).toList =
      terminated (p.toList.mapIdx fun address i => (set.listingRow pc i address).toList) := by
  rw [InstructionSet.listing, toList_unlines, List.map_map, List.mapIdx_eq_zipIdx_map]
  rfl

lemma newline_not_mem_listingRow {i : Instruction} (h : '\n' ∉ (set.instructionText i).toList)
    (pc : Option UInt64) (address : ℕ) : '\n' ∉ (set.listingRow pc i address).toList := by
  unfold InstructionSet.listingRow InstructionSet.addressText
  split <;> simpa [List.leftpad, newline_not_mem_chars] using h

lemma withoutColumns_listing {p : Program} (h : ∀ i ∈ p, Writable set i) :
    (withoutColumns (set.listing none p)).toList =
      terminated (p.toList.map fun i => (set.instructionText i).toList) := by
  have hrows : ∀ row ∈ p.toList.mapIdx fun address i => (set.listingRow none i address).toList,
      '\n' ∉ row := by
    intro row hrow
    obtain ⟨address, hlt, rfl⟩ := List.mem_mapIdx.1 hrow
    have hwritable := h _ (Array.mem_toList_iff.1 (List.getElem_mem hlt))
    exact newline_not_mem_listingRow (isRow_instructionText hwritable).newline_not_mem none address
  rw [withoutColumns, String.toList_ofList, toList_listing, splitOn_terminated hrows,
    List.dropLast_concat, List.mapIdx_mapIdx]
  simp only [Function.comp_def, withoutAddress_listingRow]
  exact congrArg terminated (List.ext_getElem (by simp) (by simp))

/-- A listing without its columns is assembled to the program, each instruction on the line behind its
address. -/
lemma assemble_withoutColumns_listing {p : Program} (h : ∀ i ∈ p, Writable set i) :
    set.assemble (withoutColumns (set.listing none p)) = .ok ⟨p, Array.range' 1 p.size⟩ := by
  obtain ⟨hrows, hdenotes⟩ := rows_of_writable h
  have hcut := splitOn_terminated fun row hrow => (hrows row hrow).newline_not_mem
  rw [← withoutColumns_listing h] at hcut
  exact assemble_of_rows hcut (by simp) hrows hdenotes

/-! ### The debug listing -/

lemma debugListing_of_named {p : Program} (h : ∀ i ∈ p, set.isNamed i) :
    set.debugListing p =
      ["=== running vm ======================", "disassembly of run code:"]
        ++ p.toList.map set.instructionText ++ ["=== end of disassembly"] := by
  have hnamed : ∀ i ∈ p.toList, set.isNamed i = true := by simpa using h
  rw [InstructionSet.debugListing, List.takeWhile_eq_self_iff.2 hnamed,
    if_pos (List.all_eq_true.2 hnamed)]
  simp

lemma debugListing_of_writable {p : Program} (h : ∀ i ∈ p, Writable set i) :
    set.debugListing p =
      ["=== running vm ======================", "disassembly of run code:"]
        ++ p.toList.map set.instructionText ++ ["=== end of disassembly"] := by
  refine debugListing_of_named fun i hi => ?_
  obtain ⟨name, hname, -⟩ := h i hi
  simp [InstructionSet.isNamed, hname]

lemma assemble_joined_instructionText {p : Program} (h : ∀ i ∈ p, Writable set i) :
    set.assemble ("\n".intercalate (p.toList.map set.instructionText)) =
      .ok ⟨p, Array.range' 1 p.size⟩ := by
  obtain ⟨hrows, hdenotes⟩ := rows_of_writable h
  obtain ⟨blanks, hcut, hblanks⟩ :=
    splitOn_joined fun row hrow => (hrows row hrow).newline_not_mem
  refine assemble_of_rows ?_ hblanks hrows hdenotes
  rw [String.toList_intercalate, List.map_map]
  exact hcut

end

lemma events_debugLines (s : State Transcript) (lines : List String) :
    (s.debugLines lines).sink.events.toList = s.sink.events.toList ++ lines.map .debug := by
  have hfold : ∀ x : Transcript, (lines.foldl Sink.debug x).events.toList =
      x.events.toList ++ lines.map .debug := by
    induction lines with
    | nil => simp
    | cons line lines ih =>
      intro x
      rw [List.foldl_cons, ih]
      simp [Sink.debug]
  exact hfold s.sink

/-- Whatever the actions of a machine do, the events of a run stand behind those of its beginning. -/
lemma RunsTo.events {m : Machine} {p : Program} {s t : State Transcript}
    {result : Except Failure RunResult} (h : RunsTo m p s result t) :
    ∃ later, t.sink.events.toList = (announce m p s).sink.events.toList ++ later := by
  obtain ⟨n, hn⟩ := h
  -- the announced state is one with an empty sink, but for what its sink was given before
  generalize hu : announce m p s = u at hn ⊢
  have hsim := (stable_after u.sink).simulation m p
  have hagree : State.Agree Eq (fun y z => z = u.sink ++ y) { u with sink := {} } u :=
    ⟨rfl, rfl, rfl, rfl, congrArg₂ Transcript.mk Array.append_empty.symm Array.append_empty.symm⟩
  have hloop := hsim.loop (fun _ _ => hsim.step n) n hagree
  rw [run, hu] at hn
  rcases hloop.cases with ⟨-, hnone⟩ | ⟨_, s', t', -, ht', hR⟩
  · rw [hn] at hnone
    cases hnone
  · rw [hn] at ht'
    cases ht'
    have hevents : t.sink.events = u.sink.events ++ s'.sink.events :=
      congrArg Transcript.events hR.sink
    exact ⟨s'.sink.events.toList, by rw [hevents, Array.toList_append]⟩

/-- **Listing and assembling are inverse to each other.** A program is what some text is assembled to if
and only if each of its instructions is registered under a name with neither a space nor a line feed.
Then its listing without the columns is assembled to the same program, each instruction on the line
behind its address. A run with debugging on begins with a header of two lines, rows and a footer, and
the rows joined by line feeds are assembled to the same program too. -/
theorem listing_inverse_of_assembling (m : Machine) (p : Program) :
    ((∃ text lines, m.assemble text = .ok ⟨p, lines⟩) ↔
      ∀ i ∈ p, ∃ name, m.instructions.name? i.op = some name ∧
        ' ' ∉ name.toList ∧ '\n' ∉ name.toList) ∧
    ((∃ text lines, m.assemble text = .ok ⟨p, lines⟩) →
      m.assemble (withoutColumns (m.listing p)) = .ok ⟨p, Array.range' 1 p.size⟩ ∧
      ∀ s : State Transcript, s.debug = true → ∃ rows,
        (announce m p s).sink.events.toList = s.sink.events.toList ++
          (["=== running vm ======================", "disassembly of run code:"] ++ rows
            ++ ["=== end of disassembly"]).map .debug ∧
        (∀ result t, RunsTo m p s result t →
          ∃ later, t.sink.events.toList = (announce m p s).sink.events.toList ++ later) ∧
        m.assemble ("\n".intercalate rows) = .ok ⟨p, Array.range' 1 p.size⟩) := by
  refine ⟨⟨fun ⟨_, _, h⟩ => writable_of_assemble h,
    fun h => ⟨_, _, assemble_withoutColumns_listing h⟩⟩, ?_⟩
  rintro ⟨text, lines, h⟩
  have hwritable := writable_of_assemble h
  refine ⟨assemble_withoutColumns_listing hwritable, fun s hs =>
    ⟨p.toList.map m.instructions.instructionText, ?_, fun result t ht => ht.events,
      assemble_joined_instructionText hwritable⟩⟩
  rw [announce_of_debug_on hs, debugListing_of_writable hwritable]
  exact events_debugLines s _

end StackMachine
