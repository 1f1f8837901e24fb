import StackMachine.Proofs.Blocks
import StackMachine.Proofs.Statements

/-!
Every text can be written. A value is loaded to begin with, and then for each character of the text its
code point, which is written as a character and taken off again. Each of these blocks finds a value on
the stack and leaves it there, and appends its character to the output, so the program writes the text
and ends with the value it began with.
-/

namespace StackMachine

/-! ### The program -/

/-- The lines of a program that writes the text. -/
def writingLines (text : String) : List String :=
  "LOAD_CONST 0" ::
    text.toList.flatMap (fun c => ["LOAD_CONST " ++ toString c.toNat, "WRITE_CHAR", "POP"]) ++
    ["EXIT"]

/-- The code point of a character as a word. -/
def codePoint (c : Char) : Int64 :=
  Int64.ofNat c.toNat

/-- The block that writes a character. -/
def writingChar (c : Char) : List Statement :=
  [.applied .loadConst (codePoint c), .bare .writeChar, .bare .pop]

def writing (text : String) : List Statement :=
  .applied .loadConst 0 :: text.toList.flatMap writingChar ++ [.bare .exit]

lemma toNat_lt_of_char (c : Char) : c.toNat < 2 ^ 63 := by
  have hlt : c.toNat < 2 ^ 32 := c.val.toNat_lt
  omega

lemma charOfCodePoint_codePoint (c : Char) :
    InstructionSet.Standard.charOfCodePoint (codePoint c) = c := by
  have hc : Opcode.IsCharacter (codePoint c).toInt c :=
    .inl (Int64.toInt_ofNat_of_lt (toNat_lt_of_char c)).symm
  exact (Opcode.isCharacter_charOfCodePoint (codePoint c)).unique hc

lemma line_writing (text : String) : (writing text).map Statement.line = writingLines text := by
  have hchar : ∀ c, (writingChar c).map Statement.line =
      ["LOAD_CONST " ++ toString c.toNat, "WRITE_CHAR", "POP"] := by
    intro c
    simp only [writingChar, List.map_cons, List.map_nil, Statement.line, codePoint,
      Statement.toString_ofNat (toNat_lt_of_char c)]
    rfl
  simp only [writing, writingLines, List.map_cons, List.map_append, List.map_nil, List.map_flatMap,
    hchar]
  rfl

lemma length_flatMap_writingChar (cs : List Char) :
    (cs.flatMap writingChar).length = 3 * cs.length := by
  have hchar : ∀ c, (writingChar c).length = 3 := fun _ => rfl
  simp only [List.length_flatMap, hchar, List.map_const', List.sum_replicate_nat]
  omega

/-! ### What it does -/

section

variable {debug : Bool} {p : Program} {address : ℕ} {top : Int64} {rest : Stack}
  {prints : List Int64}

lemma advances_writingChar (hp : p.size < 2 ^ 64) {c : Char}
    (h : p.HasAt address ((writingChar c).map Statement.instruction)) (output : String) :
    Advances debug p 3 ⟨address, top :: rest, output, prints⟩
      ⟨address + 3, top :: rest, output ++ String.singleton c, prints⟩ := by
  have hload : Advances debug p 1 ⟨address, top :: rest, output, prints⟩
      ⟨address + 1, codePoint c :: top :: rest, output, prints⟩ :=
    .opcode .loadConst (codePoint c) hp h.head rfl rfl
  have hwrite : Advances debug p 1 ⟨address + 1, codePoint c :: top :: rest, output, prints⟩
      ⟨address + 2, codePoint c :: top :: rest,
        output ++ String.singleton (InstructionSet.Standard.charOfCodePoint (codePoint c)),
        prints⟩ :=
    .opcode .writeChar 0 hp h.tail.head rfl rfl
  rw [charOfCodePoint_codePoint] at hwrite
  have hpop : Advances debug p 1
      ⟨address + 2, codePoint c :: top :: rest, output ++ String.singleton c, prints⟩
      ⟨address + 3, top :: rest, output ++ String.singleton c, prints⟩ :=
    .opcode .pop 0 hp h.tail.tail.head rfl rfl
  exact (hload.trans hwrite).trans hpop

/-- **The blocks of some characters append them to the output**, one after the other. -/
lemma advances_flatMap_writingChar (hp : p.size < 2 ^ 64) (cs : List Char)
    (h : p.HasAt address ((cs.flatMap writingChar).map Statement.instruction)) (output : String) :
    Advances debug p (3 * cs.length) ⟨address, top :: rest, output, prints⟩
      ⟨address + 3 * cs.length, top :: rest, output ++ String.ofList cs, prints⟩ := by
  -- each block begins where the one before it ended, with the output it left
  induction cs generalizing address output with
  | nil =>
    simpa using Advances.refl _
  | cons c cs ih =>
    rw [List.flatMap_cons, List.map_append] at h
    obtain ⟨hfirst, hrest⟩ := h.append
    have hothers : p.HasAt (address + 3) ((cs.flatMap writingChar).map Statement.instruction) :=
      hrest
    have hblocks := (advances_writingChar hp hfirst output).trans
      (ih hothers (output ++ String.singleton c))
    have haddress : address + 3 + 3 * cs.length = address + 3 * (cs.length + 1) := by omega
    rw [String.append_assoc, ← String.ofList_cons, haddress, Nat.add_comm] at hblocks
    exact hblocks

end

/-- **The program of a text is led to its exit**, with the text as output. -/
lemma advances_writing (debug : Bool) (text : String) {p : Program} (prints : List Int64)
    (hp : p.size < 2 ^ 64) (h : p.HasAt 0 ((writing text).map Statement.instruction)) :
    p[3 * text.length + 1]? = some ⟨Opcode.exit.id, 0⟩ ∧
      Advances debug p (3 * text.length + 1) ⟨0, [], "", prints⟩
        ⟨3 * text.length + 1, [0], text, prints⟩ := by
  rw [writing, List.map_append] at h
  obtain ⟨hfront, hexit⟩ := h.append
  have hlength : (text.toList.flatMap writingChar).length = 3 * text.length := by
    rw [length_flatMap_writingChar, String.length_toList]
  constructor
  · have hhead := hexit.head
    rwa [List.length_map, List.length_cons, hlength, Nat.zero_add] at hhead
  · have hload : Advances debug p 1 ⟨0, [], "", prints⟩ ⟨1, [0], "", prints⟩ :=
      .opcode .loadConst 0 hp hfront.head rfl rfl
    have hblocks : Advances debug p (3 * text.toList.length) ⟨1, [0], "", prints⟩ _ :=
      advances_flatMap_writingChar hp text.toList hfront.tail ""
    rw [String.length_toList, String.ofList_toList, String.empty_append] at hblocks
    have hled := hload.trans hblocks
    rwa [Nat.add_comm 1] at hled

/-- **Every text can be written.** The program loads a zero, then loads the code point of each character,
writes it as a character and takes it off again, and exits. Its text is assembled, to three instructions
for each character and two more. On a fresh state it is run to its end, each instruction once; it returns
the zero, which is all that is on the stack, and the text as its output, and prints nothing. A program has
fewer than `2 ^ 64` instructions, since each has an address. -/
theorem every_text_written (debug : Bool) (text source : String)
    (hsource : MadeOf (writingLines text) source) :
    let m := Machine.standard debug
    ∃ a, m.assemble source = .ok a ∧ a.program.size = 3 * text.length + 2 ∧
      (a.program.size < 2 ^ 64 → ∀ sink : Transcript, ∃ steps t,
        Course m a.program (announce m a.program (.initial m sink)) steps (.ok .exited) t ∧
          steps.length = a.program.size ∧
          RunsTo m a.program (.initial m sink) (.ok ⟨0, text⟩) t ∧
          t.stack = [0] ∧ t.output = text ∧ t.sink.prints = sink.prints) := by
  intro m
  rw [← line_writing] at hsource
  have hlength : (writing text).length = 3 * text.length + 2 := by
    rw [writing, List.length_append, List.length_cons, length_flatMap_writingChar,
      String.length_toList]
    rfl
  refine ⟨_, assemble_statements hsource, by simp [hlength], fun hp sink => ?_⟩
  obtain ⟨hexit, hled⟩ := advances_writing debug text sink.prints hp (.toArray _)
  have hend := hled.exits hp hexit rfl
  simpa [hlength] using hend

/-- A character beyond the first plane is written, behind one that ends lines. -/
theorem every_text_written_emoji :
    let m := Machine.standard true
    let source := "LOAD_CONST 0\nLOAD_CONST 10\nWRITE_CHAR\nPOP\nLOAD_CONST 128512\nWRITE_CHAR\n" ++
      "POP\nEXIT"
    MadeOf (writingLines "\n😀") source ∧
      ∃ a, m.assemble source = .ok a ∧ a.program.size = 8 ∧ a.program.size < 2 ^ 64 ∧
        ∃ t : State Transcript, RunsTo m a.program (.initial m {}) (.ok ⟨0, "\n😀"⟩) t ∧
          t.stack = [0] := by
  intro m source
  have hsource : MadeOf (writingLines "\n😀") source := by
    have hjoined : "\n".intercalate (writingLines "\n😀") = source := by rfl
    exact hjoined ▸ .joined
  obtain ⟨a, ha, hsize, hruns⟩ := every_text_written true _ _ hsource
  have hp : a.program.size < 2 ^ 64 := by
    rw [hsize]
    decide
  obtain ⟨steps, t, -, -, hrun, hstack, -⟩ := hruns hp {}
  exact ⟨hsource, a, ha, hsize, hp, t, hrun, hstack⟩

end StackMachine
