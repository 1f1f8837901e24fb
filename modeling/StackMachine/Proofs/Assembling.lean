import Mathlib.Data.List.Forall2
import StackMachine.Proofs.Grammar

/-!
What the assembler accepts. A source text is cut at every line feed, a carriage return at the end of
a piece is dropped, and the pieces that are not blank remain, each with its number. The text is
assembled if and only if every remaining line denotes an instruction; else the first that does not
is reported with its offence.
-/

namespace StackMachine

open Text

/-! ### The remaining lines -/

/-- The line is the piece without the carriage return at its end, if it has one. -/
def Stripped (piece line : List Char) : Prop :=
  piece = line ++ ['\r'] ∨ piece = line ∧ piece.getLast? ≠ some '\r'

/-- The lines that remain of pieces numbered from `n`, with their numbers. -/
inductive Remaining : ℕ → List (List Char) → List (List Char × ℕ) → Prop
  | nil {n : ℕ} : Remaining n [] []
  | blank {n : ℕ} {piece line : List Char} {pieces : List (List Char)}
      {lines : List (List Char × ℕ)} : Stripped piece line → (∀ c ∈ line, isBlankChar c) →
      Remaining (n + 1) pieces lines → Remaining n (piece :: pieces) lines
  | line {n : ℕ} {piece line : List Char} {pieces : List (List Char)}
      {lines : List (List Char × ℕ)} : Stripped piece line → (∃ c ∈ line, ¬ isBlankChar c) →
      Remaining (n + 1) pieces lines → Remaining n (piece :: pieces) ((line, n) :: lines)

lemma stripped_iff {piece line : List Char} : Stripped piece line ↔ dropReturn piece = line := by
  unfold Stripped dropReturn
  constructor
  · rintro (rfl | ⟨rfl, hlast⟩)
    · simp
    · rw [if_neg hlast]
  · rintro rfl
    by_cases hlast : piece.getLast? = some '\r'
    · rw [if_pos hlast]
      obtain ⟨front, rfl⟩ := List.getLast?_eq_some_iff.1 hlast
      exact Or.inl (by simp)
    · rw [if_neg hlast]
      exact Or.inr ⟨rfl, hlast⟩

/-- The lines that remain are those that are assembled. -/
theorem remaining_iff {n : ℕ} {pieces : List (List Char)} {lines : List (List Char × ℕ)} :
    Remaining n pieces lines ↔
      (((pieces.map dropReturn).zipIdx n).filter fun (line, _) => !isBlank line) = lines := by
  constructor
  · intro h
    induction h with
    | nil => rfl
    | @blank n piece line pieces lines hline hblank _ ih =>
      have hall : isBlank (dropReturn piece) = true := by
        rw [stripped_iff.1 hline]
        exact List.all_eq_true.2 hblank
      rw [List.map_cons, List.zipIdx_cons, List.filter_cons, if_neg (by simp [hall]), ih]
    | @line n piece line pieces lines hline hsome _ ih =>
      have hall : isBlank (dropReturn piece) = false := by
        rw [stripped_iff.1 hline]
        simpa [isBlank] using hsome
      rw [List.map_cons, List.zipIdx_cons, List.filter_cons, if_pos (by simp [hall]), ih,
        stripped_iff.1 hline]
  · rintro rfl
    -- one piece is taken at a time, and the number goes up with it
    induction pieces generalizing n with
    | nil => exact .nil
    | cons piece pieces ih =>
      rw [List.map_cons, List.zipIdx_cons, List.filter_cons]
      by_cases hblank : isBlank (dropReturn piece)
      · rw [if_neg (by simp [hblank])]
        exact .blank (stripped_iff.2 rfl) (List.all_eq_true.1 hblank) ih
      · rw [if_pos (by simp [hblank])]
        exact .line (stripped_iff.2 rfl) (by simpa [isBlank] using hblank) ih

/-- A line is blank if and only if its piece is, since the carriage return that it lacks is white
space. -/
lemma Stripped.blank_iff {piece line : List Char} (h : Stripped piece line) :
    (∀ c ∈ line, isBlankChar c) ↔ ∀ c ∈ piece, isBlankChar c := by
  rcases h with rfl | ⟨rfl, -⟩
  · have hreturn : isBlankChar '\r' := by decide
    rw [List.forall_mem_append]
    simp [hreturn]
  · exact Iff.rfl

namespace Remaining

variable {n : ℕ} {pieces more : List (List Char)} {lines moreLines : List (List Char × ℕ)}

lemma of_blank (h : ∀ piece ∈ pieces, ∀ c ∈ piece, isBlankChar c) : Remaining n pieces [] := by
  induction pieces generalizing n with
  | nil => exact .nil
  | cons piece pieces ih =>
    obtain ⟨hpiece, hpieces⟩ := List.forall_mem_cons.1 h
    have hline : Stripped piece (dropReturn piece) := stripped_iff.2 rfl
    exact .blank hline (hline.blank_iff.2 hpiece) (ih hpieces)

/-- The pieces of one text behind those of another are numbered from where those end. -/
lemma append (h : Remaining n pieces lines)
    (h' : Remaining (n + pieces.length) more moreLines) :
    Remaining n (pieces ++ more) (lines ++ moreLines) := by
  induction h with
  | nil => exact h'
  | @blank n piece line pieces lines hline hblank _ ih =>
    rw [List.length_cons, Nat.add_comm _ 1, ← Nat.add_assoc] at h'
    exact .blank hline hblank (ih h')
  | @line n piece line pieces lines hline hsome _ ih =>
    rw [List.length_cons, Nat.add_comm _ 1, ← Nat.add_assoc] at h'
    exact .line hline hsome (ih h')

lemma shift (k : ℕ) (h : Remaining n pieces lines) :
    Remaining (n + k) pieces (lines.map (Prod.map id (· + k))) := by
  induction h with
  | nil => exact .nil
  | @blank n piece line pieces lines hline hblank _ ih =>
    rw [show n + 1 + k = n + k + 1 by omega] at ih
    exact .blank hline hblank ih
  | @line n piece line pieces lines hline hsome _ ih =>
    rw [show n + 1 + k = n + k + 1 by omega] at ih
    exact .line hline hsome ih

lemma number_bounds (h : Remaining n pieces lines) :
    ∀ line ∈ lines, n ≤ line.2 ∧ line.2 < n + pieces.length := by
  induction h with
  | nil => simp
  | blank _ _ _ ih =>
    intro line hline
    have hbounds := ih line hline
    rw [List.length_cons]
    omega
  | @line n piece line pieces lines _ _ _ ih =>
    intro other hother
    rw [List.length_cons]
    rcases List.mem_cons.1 hother with rfl | hother
    · show n ≤ n ∧ n < n + (pieces.length + 1)
      omega
    · have hbounds := ih other hother
      omega

lemma pairwise_number (h : Remaining n pieces lines) :
    lines.Pairwise fun line other => line.2 < other.2 := by
  induction h with
  | nil => exact .nil
  | blank _ _ _ ih => exact ih
  | @line n piece line pieces lines _ _ hrest ih =>
    refine List.pairwise_cons.2 ⟨?_, ih⟩
    intro other hother
    have hbounds := hrest.number_bounds other hother
    show n < other.2
    omega

end Remaining

namespace InstructionSet

variable {set : InstructionSet} {lines : List (List Char × ℕ)}

/-! ### Assembling lines -/

lemma assembleLines_cons (line : List Char) (n : ℕ) (lines : List (List Char × ℕ)) :
    set.assembleLines ((line, n) :: lines) =
      match set.assembleLine line with
      | .ok i => (set.assembleLines lines).map ((i, n) :: ·)
      | .error fault => .error (fault.atLine n) := by
  cases hline : set.assembleLine line with
  | error fault =>
    simp only [assembleLines, List.mapM_cons, hline]
    rfl
  | ok i =>
    cases hrest : set.assembleLines lines <;> rw [assembleLines] at hrest <;>
      simp only [assembleLines, List.mapM_cons, hline, hrest] <;> rfl

lemma assembleLines_of_denotes {is : List Instruction}
    (h : List.Forall₂ (fun line i => Denotes set line.1 i) lines is) :
    set.assembleLines lines = .ok (is.zip (lines.map Prod.snd)) := by
  induction h with
  | nil => rfl
  | @cons line i lines is hi _ ih =>
    obtain ⟨line, n⟩ := line
    rw [assembleLines_cons, assembleLine_of_denotes hi, ih]
    rfl

lemma exists_of_forall₂ {is : List Instruction}
    (h : List.Forall₂ (fun line i => Denotes set line.1 i) lines is) :
    ∀ line ∈ lines, ∃ i, Denotes set line.1 i := by
  induction h with
  | nil => simp
  | cons hi _ ih => exact List.forall_mem_cons.2 ⟨⟨_, hi⟩, ih⟩

/-- All lines before one denote instructions, and this one does not; its offence is reported. -/
def FirstOffence (set : InstructionSet) (lines : List (List Char × ℕ)) (failure : Failure) : Prop :=
  ∃ before line number after fault, lines = before ++ (line, number) :: after ∧
    (∀ l ∈ before, ∃ i, Denotes set l.1 i) ∧ (∀ i, ¬ Denotes set line i) ∧
    Offends set line fault ∧ failure = fault.atLine number

lemma not_denotes_of_offends {line : List Char} {fault : Fault} (h : Offends set line fault)
    (i : Instruction) : ¬ Denotes set line i := by
  intro hi
  have heq := (assembleLine_of_denotes hi).symm.trans (assembleLine_of_offends h)
  cases heq

lemma assembleLines_of_firstOffence {failure : Failure} (h : FirstOffence set lines failure) :
    set.assembleLines lines = .error failure := by
  obtain ⟨before, line, number, after, fault, rfl, hbefore, -, hfault, rfl⟩ := h
  induction before with
  | nil =>
    rw [List.nil_append, assembleLines_cons, assembleLine_of_offends hfault]
  | cons first before ih =>
    obtain ⟨i, hi⟩ := hbefore first (List.mem_cons_self ..)
    rw [List.cons_append, assembleLines_cons, assembleLine_of_denotes hi,
      ih fun l hl => hbefore l (List.mem_cons_of_mem _ hl)]
    rfl

theorem denote_or_firstOffence (set : InstructionSet) (lines : List (List Char × ℕ)) :
    (∃ is, List.Forall₂ (fun line i => Denotes set line.1 i) lines is) ∨
      ∃ failure, FirstOffence set lines failure := by
  induction lines with
  | nil => exact .inl ⟨[], .nil⟩
  | cons line lines ih =>
    rcases denotes_or_offends set line.1 with ⟨i, hi⟩ | ⟨fault, hfault⟩
    · rcases ih with ⟨is, his⟩ | ⟨_, before, next, number, after, fault, rfl, hbefore, hrest⟩
      · exact .inl ⟨i :: is, .cons hi his⟩
      · refine .inr ⟨_, line :: before, next, number, after, fault, rfl, ?_, hrest⟩
        intro l hl
        rcases List.mem_cons.1 hl with rfl | hl
        · exact ⟨i, hi⟩
        · exact hbefore l hl
    · exact .inr ⟨_, [], line.1, line.2, lines, fault, rfl, by simp,
        not_denotes_of_offends hfault, hfault, rfl⟩

/-! ### Assembling a text -/

lemma assemble_of_denotes {text : String} {is : List Instruction}
    (h : List.Forall₂ (fun line i => Denotes set line.1 i) (numberedLines text.toList) is) :
    set.assemble text =
      .ok ⟨is.toArray, ((numberedLines text.toList).map Prod.snd).toArray⟩ := by
  have hlength := h.length_eq
  rw [assemble, assembleLines_of_denotes h]
  simp only [Except.map]
  rw [List.map_fst_zip, List.map_snd_zip] <;> simp [hlength]

lemma assemble_of_firstOffence {text : String} {failure : Failure}
    (h : FirstOffence set (numberedLines text.toList) failure) :
    set.assemble text = .error failure := by
  rw [assemble, assembleLines_of_firstOffence h]
  rfl

lemma denotes_of_assemble {text : String} {a : Assembly} (h : set.assemble text = .ok a) :
    List.Forall₂ (fun line i => Denotes set line.1 i) (numberedLines text.toList)
        a.program.toList ∧
      a.lines.toList = (numberedLines text.toList).map Prod.snd := by
  rcases denote_or_firstOffence set (numberedLines text.toList) with ⟨is, his⟩ | ⟨failure, hfirst⟩
  · rw [assemble_of_denotes his] at h
    cases h
    exact ⟨his, rfl⟩
  · rw [assemble_of_firstOffence hfirst] at h
    cases h

lemma firstOffence_of_assemble {text : String} {failure : Failure}
    (h : set.assemble text = .error failure) :
    FirstOffence set (numberedLines text.toList) failure := by
  rcases denote_or_firstOffence set (numberedLines text.toList) with ⟨is, his⟩ | ⟨other, hfirst⟩
  · rw [assemble_of_denotes his] at h
    cases h
  · rw [assemble_of_firstOffence hfirst] at h
    cases h
    exact hfirst

lemma assemble_eq_ok_iff {text : String} {a : Assembly} :
    set.assemble text = .ok a ↔
      List.Forall₂ (fun line i => Denotes set line.1 i) (numberedLines text.toList)
        a.program.toList ∧
      a.lines.toList = (numberedLines text.toList).map Prod.snd := by
  refine ⟨denotes_of_assemble, ?_⟩
  rintro ⟨hdenotes, hnumbers⟩
  rw [assemble_of_denotes hdenotes, ← hnumbers]

lemma assemble_eq_error_iff {text : String} {failure : Failure} :
    set.assemble text = .error failure ↔ FirstOffence set (numberedLines text.toList) failure :=
  ⟨firstOffence_of_assemble, assemble_of_firstOffence⟩

lemma exists_line?_iff {map : LineMap} {k : ℕ} : (∃ n, map.line? k = some n) ↔ k < map.size := by
  constructor
  · rintro ⟨n, hn⟩
    exact (Array.getElem?_eq_some_iff.1 hn).1
  · intro hk
    exact ⟨_, Array.getElem?_eq_getElem hk⟩

lemma size_lines_of_assemble {text : String} {a : Assembly} (h : set.assemble text = .ok a) :
    a.lines.size = a.program.size := by
  obtain ⟨hdenotes, hnumbers⟩ := denotes_of_assemble h
  rw [← Array.length_toList, hnumbers, List.length_map, hdenotes.length_eq, Array.length_toList]

/-- Each instruction of an assembled program is denoted by the line whose number the map has. -/
lemma exists_line_of_assemble {text : String} {a : Assembly} (h : set.assemble text = .ok a)
    {k : ℕ} {i : Instruction} (hi : a.program[k]? = some i) :
    ∃ line n, (line, n) ∈ numberedLines text.toList ∧ Denotes set line i ∧
      a.lines.line? k = some n := by
  obtain ⟨hdenotes, hnumbers⟩ := denotes_of_assemble h
  obtain ⟨hlength, hall⟩ := List.forall₂_iff_get.1 hdenotes
  obtain ⟨hk, rfl⟩ := Array.getElem?_eq_some_iff.1 hi
  have hk' : k < (numberedLines text.toList).length := by
    rw [hlength]
    exact hk
  refine ⟨_, _, List.getElem_mem hk', hall k hk' hk, ?_⟩
  rw [LineMap.line?, ← Array.getElem?_toList, hnumbers, List.getElem?_map,
    List.getElem?_eq_getElem hk']
  rfl

/-- A line that is assembled is the piece of its number, less a carriage return, and not blank. -/
lemma mem_numberedLines_iff {text line : List Char} {n : ℕ} :
    (line, n) ∈ numberedLines text ↔ 1 ≤ n ∧ isBlank line = false ∧
      ∃ piece, (text.splitOn '\n')[n - 1]? = some piece ∧ Stripped piece line := by
  rw [numberedLines, List.mem_filter, List.mem_zipIdx_iff_le_and_getElem?_sub, sourceLines,
    List.getElem?_map]
  constructor
  · rintro ⟨⟨hn, hline⟩, hblank⟩
    obtain ⟨piece, hpiece, hstripped⟩ := Option.map_eq_some_iff.1 hline
    exact ⟨hn, by simpa using hblank, piece, hpiece, stripped_iff.2 hstripped⟩
  · rintro ⟨hn, hblank, piece, hpiece, hstripped⟩
    refine ⟨⟨hn, ?_⟩, by simpa using hblank⟩
    exact Option.map_eq_some_iff.2 ⟨piece, hpiece, stripped_iff.1 hstripped⟩

/-- **The assembler accepts exactly its grammar and reports exactly the first offence.** Cut the text
at every line feed, drop at most one carriage return from the end of each piece, and leave out the
pieces that are blank. The text is assembled if and only if every remaining line denotes an
instruction, and then to these instructions, in order, with the numbers of their lines. Else the
failure is the offence of the first line that denotes none, at its number. -/
theorem assemble_iff_grammar (set : InstructionSet) (text : String) :
    ∃ pieces lines, IsCut '\n' text.toList pieces ∧ Remaining 1 pieces lines ∧
      ((∃ a, set.assemble text = .ok a) ↔ ∀ line ∈ lines, ∃ i, Denotes set line.1 i) ∧
      (∀ a, set.assemble text = .ok a ↔
        List.Forall₂ (fun line i => Denotes set line.1 i) lines a.program.toList ∧
          a.lines.toList = lines.map Prod.snd) ∧
      ∀ failure, set.assemble text = .error failure ↔ FirstOffence set lines failure := by
  refine ⟨_, numberedLines text.toList, isCut_iff.2 rfl, remaining_iff.2 rfl, ?_⟩
  rcases denote_or_firstOffence set (numberedLines text.toList) with ⟨is, his⟩ | ⟨failure, hfirst⟩
  · -- every line denotes an instruction, so no offence is the first
    have hok := assemble_of_denotes his
    refine ⟨iff_of_true ⟨_, hok⟩ (exists_of_forall₂ his), fun a => ?_, fun failure => ?_⟩
    · rw [hok]
      constructor
      · intro h
        cases h
        exact ⟨his, rfl⟩
      · rintro ⟨ha, hnumbers⟩
        rw [← hok, assemble_of_denotes ha, ← hnumbers]
    · refine iff_of_false (by simp [hok]) fun h => ?_
      have heq := hok.symm.trans (assemble_of_firstOffence h)
      cases heq
  · -- a line denotes none, so the text is not assembled to any program
    have herror := assemble_of_firstOffence hfirst
    refine ⟨iff_of_false (by simp [herror]) fun h => ?_, fun a => ?_, fun other => ?_⟩
    · obtain ⟨before, line, number, after, fault, hlines, -, hnot, -⟩ := hfirst
      obtain ⟨i, hi⟩ := h (line, number) (by simp [hlines])
      exact hnot i hi
    · refine iff_of_false (by simp [herror]) fun h => ?_
      have heq := herror.symm.trans (assemble_of_denotes h.1)
      cases heq
    · constructor
      · intro h
        obtain rfl : failure = other := by simpa [herror] using h
        exact hfirst
      · exact assemble_of_firstOffence

end InstructionSet

end StackMachine
