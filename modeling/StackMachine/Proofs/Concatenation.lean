import Mathlib.Order.Monotone.Basic
import Mathlib.Logic.Relation
import StackMachine.InstructionSet.Standard
import StackMachine.Proofs.Assembling

/-!
Texts that are joined. When two texts are joined by a line feed, the lines of the second keep what
they hold and are numbered from the end of the first, so the text is assembled piece by piece: the
programs and the line maps are put one behind the other, and the first offence is that of the first
text that has one. Blank lines hold nothing, so where they are inserted only numbers change.
-/

namespace StackMachine

open Text

namespace InstructionSet

variable {set : InstructionSet} {lines more : List (List Char × ℕ)} {failure : Failure}

/-! ### Offences among more lines -/

lemma FirstOffence.append (h : FirstOffence set lines failure) (more : List (List Char × ℕ)) :
    FirstOffence set (lines ++ more) failure := by
  obtain ⟨before, line, number, after, fault, rfl, hrest⟩ := h
  refine ⟨before, line, number, after ++ more, fault, ?_, hrest⟩
  rw [List.append_assoc, List.cons_append]

lemma FirstOffence.behind (h : FirstOffence set more failure)
    (hlines : ∀ line ∈ lines, ∃ i, Denotes set line.1 i) :
    FirstOffence set (lines ++ more) failure := by
  obtain ⟨before, line, number, after, fault, rfl, hbefore, hrest⟩ := h
  refine ⟨lines ++ before, line, number, after, fault, ?_, ?_, hrest⟩
  · rw [List.append_assoc]
  · intro other hother
    rcases List.mem_append.1 hother with hother | hother
    · exact hlines other hother
    · exact hbefore other hother

/-- With other numbers, the first offence is the same, at the other number of its line. -/
lemma FirstOffence.renumber {fault : Fault} {n : ℕ} (f : ℕ → ℕ)
    (h : FirstOffence set lines (fault.atLine n)) :
    FirstOffence set (lines.map (Prod.map id f)) (fault.atLine (f n)) := by
  obtain ⟨before, line, number, after, fault', rfl, hbefore, hnot, hoffends, heq⟩ := h
  obtain ⟨rfl, rfl⟩ : fault = fault' ∧ n = number := by simpa [Fault.atLine] using heq
  refine ⟨before.map (Prod.map id f), line, f n, after.map (Prod.map id f), fault, ?_, ?_, hnot,
    hoffends, rfl⟩
  · rw [List.map_append, List.map_cons]
    rfl
  · intro other hother
    obtain ⟨old, hold, rfl⟩ := List.mem_map.1 hother
    exact hbefore old hold

lemma atLine_of_assemble {text : String} (h : set.assemble text = .error failure) :
    ∃ n, failure = failure.fault.atLine n := by
  obtain ⟨-, -, n, -, fault, -, -, -, -, rfl⟩ := assemble_eq_error_iff.1 h
  exact ⟨n, rfl⟩

/-! ### Other numbers of the lines -/

section

variable {text larger : String} {f : ℕ → ℕ}

/-- If a text has the lines of another under other numbers, it is assembled to the same program. -/
lemma assemble_ok_of_renumbered {a : Assembly}
    (h : numberedLines larger.toList = (numberedLines text.toList).map (Prod.map id f))
    (ha : set.assemble text = .ok a) :
    set.assemble larger = .ok ⟨a.program, a.lines.map f⟩ := by
  obtain ⟨hdenotes, hnumbers⟩ := assemble_eq_ok_iff.1 ha
  rw [assemble_eq_ok_iff, h]
  constructor
  · rw [List.forall₂_map_left_iff]
    exact hdenotes
  · show (a.lines.map f).toList = _
    rw [Array.toList_map, hnumbers, List.map_map, List.map_map]
    rfl

lemma assemble_error_of_renumbered {fault : Fault} {n : ℕ}
    (h : numberedLines larger.toList = (numberedLines text.toList).map (Prod.map id f))
    (hfault : set.assemble text = .error (fault.atLine n)) :
    set.assemble larger = .error (fault.atLine (f n)) := by
  rw [assemble_eq_error_iff] at hfault ⊢
  rw [h]
  exact hfault.renumber f

end

/-! ### Two texts -/

lemma numberedLines_joined (first second : List Char) :
    numberedLines (first ++ '\n' :: second) = numberedLines first ++
      (numberedLines second).map (Prod.map id (· + (first.count '\n' + 1))) := by
  have hcut : IsCut '\n' first (first.splitOn '\n') := isCut_iff.2 rfl
  have hfirst : Remaining 1 (first.splitOn '\n') (numberedLines first) := remaining_iff.2 rfl
  have hsecond : Remaining 1 (second.splitOn '\n') (numberedLines second) := remaining_iff.2 rfl
  have hshift := hsecond.shift (first.count '\n' + 1)
  rw [← hcut.length] at hshift ⊢
  have hjoined := hfirst.append hshift
  rw [← List.splitOn_append_cons_self] at hjoined
  exact remaining_iff.1 hjoined

section

variable {first second : String}

lemma toList_joined (first second : String) :
    (first ++ "\n" ++ second).toList = first.toList ++ '\n' :: second.toList := by
  simp

lemma assemble_joined_of_error (h : set.assemble first = .error failure) :
    set.assemble (first ++ "\n" ++ second) = .error failure := by
  rw [assemble_eq_error_iff] at h ⊢
  rw [toList_joined, numberedLines_joined]
  exact h.append _

lemma assemble_joined_of_ok_error {a : Assembly} {fault : Fault} {n : ℕ}
    (ha : set.assemble first = .ok a) (h : set.assemble second = .error (fault.atLine n)) :
    set.assemble (first ++ "\n" ++ second) =
      .error (fault.atLine (n + (first.toList.count '\n' + 1))) := by
  rw [assemble_eq_error_iff] at h ⊢
  rw [toList_joined, numberedLines_joined]
  apply (h.renumber (· + (first.toList.count '\n' + 1))).behind
  exact exists_of_forall₂ (assemble_eq_ok_iff.1 ha).1

lemma assemble_joined_of_ok {a b : Assembly} (ha : set.assemble first = .ok a)
    (hb : set.assemble second = .ok b) :
    set.assemble (first ++ "\n" ++ second) =
      .ok ⟨a.program ++ b.program, a.lines ++ b.lines.map (· + (first.toList.count '\n' + 1))⟩ := by
  obtain ⟨hdenotes, hnumbers⟩ := assemble_eq_ok_iff.1 ha
  obtain ⟨hdenotes', hnumbers'⟩ := assemble_eq_ok_iff.1 hb
  rw [assemble_eq_ok_iff, toList_joined, numberedLines_joined]
  constructor
  · rw [Array.toList_append]
    apply List.rel_append hdenotes
    rw [List.forall₂_map_left_iff]
    exact hdenotes'
  · rw [Array.toList_append, Array.toList_map, hnumbers, hnumbers', List.map_append, List.map_map,
      List.map_map]
    rfl

end

/-! ### Blank lines -/

/-- The larger text is the text with blank lines inserted between two of its lines, before the first
or behind the last. -/
def InsertsBlankLines (text larger : String) : Prop :=
  ∃ before blanks after, IsCut '\n' text.toList (before ++ after) ∧
    IsCut '\n' larger.toList (before ++ blanks ++ after) ∧
    ∀ blank ∈ blanks, ∀ c ∈ blank, isBlankChar c

/-- The new number of line `n`, if `count` lines are inserted behind the first `front` lines. -/
def numberAfter (front count n : ℕ) : ℕ :=
  if n ≤ front then n else n + count

lemma strictMono_numberAfter (front count : ℕ) : StrictMono (numberAfter front count) := by
  intro n k hnk
  unfold numberAfter
  split_ifs <;> omega

/-- The larger text has the lines of the text, with larger numbers behind the blank lines. -/
lemma InsertsBlankLines.renumbers {text larger : String} (h : InsertsBlankLines text larger) :
    ∃ f, StrictMono f ∧
      numberedLines larger.toList = (numberedLines text.toList).map (Prod.map id f) := by
  obtain ⟨before, blanks, after, htext, hlarger, hblanks⟩ := h
  obtain ⟨front, hfront⟩ : ∃ front, Remaining 1 before front := ⟨_, remaining_iff.2 rfl⟩
  obtain ⟨back, hback⟩ : ∃ back, Remaining (1 + before.length) after back :=
    ⟨_, remaining_iff.2 rfl⟩
  have hlines : numberedLines text.toList = front ++ back := by
    rw [numberedLines, sourceLines, isCut_iff.1 htext]
    exact remaining_iff.1 (hfront.append hback)
  have hmore : numberedLines larger.toList =
      front ++ back.map (Prod.map id (· + blanks.length)) := by
    -- nothing remains of the blank lines, but they are counted
    have hblank := hfront.append (Remaining.of_blank hblanks)
    have hshift := hback.shift blanks.length
    have hnumber : 1 + before.length + blanks.length = 1 + (before ++ blanks).length := by
      rw [List.length_append]
      omega
    rw [List.append_nil] at hblank
    rw [hnumber] at hshift
    rw [numberedLines, sourceLines, isCut_iff.1 hlarger]
    exact remaining_iff.1 (hblank.append hshift)
  -- the numbers before the blank lines are kept, those behind them are raised
  have hkept : front.map (Prod.map id (numberAfter before.length blanks.length)) = front := by
    apply (List.map_congr_left ?_).trans (List.map_id front)
    intro line hline
    have hbounds := hfront.number_bounds line hline
    show (line.1, numberAfter before.length blanks.length line.2) = line
    rw [numberAfter, if_pos (by omega)]
  have hraised : back.map (Prod.map id (numberAfter before.length blanks.length)) =
      back.map (Prod.map id (· + blanks.length)) := by
    apply List.map_congr_left
    intro line hline
    have hbounds := hback.number_bounds line hline
    show (line.1, numberAfter before.length blanks.length line.2) = (line.1, line.2 + blanks.length)
    rw [numberAfter, if_neg (by omega)]
  refine ⟨numberAfter before.length blanks.length, strictMono_numberAfter _ _, ?_⟩
  rw [hmore, hlines, List.map_append, hkept, hraised]

lemma renumbers_of_reflTransGen {text larger : String}
    (h : Relation.ReflTransGen InsertsBlankLines text larger) :
    ∃ f, StrictMono f ∧
      numberedLines larger.toList = (numberedLines text.toList).map (Prod.map id f) := by
  induction h with
  | refl =>
    refine ⟨id, strictMono_id, ?_⟩
    rw [Prod.map_id, List.map_id]
  | tail _ hstep ih =>
    obtain ⟨f, hf, hlines⟩ := ih
    -- the numbers are changed once more, by the last insertion
    obtain ⟨g, hg, hmore⟩ := hstep.renumbers
    refine ⟨g ∘ f, hg.comp hf, ?_⟩
    rw [hmore, hlines, List.map_map, Prod.map_comp_map]
    rfl

/-! ### Joined texts -/

/-- **Assembling goes piece by piece.** Let two texts be joined by a line feed. If the first one fails,
the whole fails as it does. Else, if the second one fails at one of its lines, the whole fails for
the same reason at the number of this line behind those of the first text. Else the programs and the
line maps are put one behind the other, with the second lines so renumbered. A text fails at one of
its lines only, so there is no other case. Blank lines that are inserted anywhere, in any number of
places, change nothing but the numbers of the lines, whose order they keep. -/
theorem assemble_joined_texts (set : InstructionSet) :
    (∀ first second : String,
      let joined := first ++ "\n" ++ second
      let k := first.toList.count '\n' + 1
      (∀ failure, set.assemble first = .error failure → set.assemble joined = .error failure) ∧
      (∀ a (fault : Fault) n, set.assemble first = .ok a →
        set.assemble second = .error (fault.atLine n) →
        set.assemble joined = .error (fault.atLine (n + k))) ∧
      ∀ a b, set.assemble first = .ok a → set.assemble second = .ok b →
        set.assemble joined = .ok ⟨a.program ++ b.program, a.lines ++ b.lines.map (· + k)⟩) ∧
    (∀ text failure, set.assemble text = .error failure → ∃ n, failure = failure.fault.atLine n) ∧
    ∀ text larger, Relation.ReflTransGen InsertsBlankLines text larger →
      ∃ f : ℕ → ℕ, StrictMono f ∧
        (∀ a, set.assemble text = .ok a → set.assemble larger = .ok ⟨a.program, a.lines.map f⟩) ∧
        ∀ (fault : Fault) n, set.assemble text = .error (fault.atLine n) →
          set.assemble larger = .error (fault.atLine (f n)) := by
  refine ⟨fun first second => ⟨?_, ?_, ?_⟩, ?_, ?_⟩
  · intro failure h
    exact assemble_joined_of_error h
  · intro a fault n ha h
    exact assemble_joined_of_ok_error ha h
  · intro a b ha hb
    exact assemble_joined_of_ok ha hb
  · intro text failure h
    exact atLine_of_assemble h
  · intro text larger h
    obtain ⟨f, hf, hlines⟩ := renumbers_of_reflTransGen h
    refine ⟨f, hf, ?_, ?_⟩
    · intro a ha
      exact assemble_ok_of_renumbered hlines ha
    · intro fault n hfault
      exact assemble_error_of_renumbered hlines hfault

/-- A bad numeral behind a text that ends in a carriage return is reported at its line, and again
behind a line of spaces. -/
theorem assemble_joined_texts_numeral :
    let fault := Fault.invalidArgument "x" .invalidDigit
    let joined := "LOAD_CONST 1\r" ++ "\n" ++ "EXIT\nLOAD_CONST x"
    InstructionSet.standard.assemble "EXIT\nLOAD_CONST x" = .error (fault.atLine 2) ∧
      InstructionSet.standard.assemble joined = .error (fault.atLine 3) ∧
      InsertsBlankLines joined "LOAD_CONST 1\r\n \r\nEXIT\nLOAD_CONST x" ∧
      ∃ f : ℕ → ℕ, StrictMono f ∧
        InstructionSet.standard.assemble "LOAD_CONST 1\r\n \r\nEXIT\nLOAD_CONST x" =
          .error (fault.atLine (f 3)) := by
  intro fault joined
  obtain ⟨hjoined, -, hblank⟩ := assemble_joined_texts .standard
  have hfirst : InstructionSet.standard.assemble "LOAD_CONST 1\r" = .ok ⟨#[⟨1, 1⟩], #[1]⟩ := by rfl
  have hsecond : InstructionSet.standard.assemble "EXIT\nLOAD_CONST x" =
      .error (fault.atLine 2) := by rfl
  have hthree := (hjoined _ _).2.1 _ fault 2 hfirst hsecond
  have hinserts : InsertsBlankLines joined "LOAD_CONST 1\r\n \r\nEXIT\nLOAD_CONST x" := by
    refine ⟨["LOAD_CONST 1\r".toList], [" \r".toList], ["EXIT".toList, "LOAD_CONST x".toList],
      isCut_iff.2 ?_, isCut_iff.2 ?_, ?_⟩
    · rw [toList_joined]
      rfl
    · rfl
    · intro blank hblank
      rw [List.mem_singleton.1 hblank]
      exact List.all_eq_true.1 rfl
  obtain ⟨f, hf, -, herror⟩ := hblank joined _ (.single hinserts)
  exact ⟨hsecond, hthree, hinserts, f, hf, herror fault 3 hthree⟩

end InstructionSet

end StackMachine
