import StackMachine.Machine
import StackMachine.Proofs.Assembling

/-!
The numbers in a line map. The line map of an assembled program has the numbers of the lines that are
not blank, each once and in increasing order, so the search for the address of a line is the inverse
of the look-up of a line: between the addresses of the program and the lines that are not blank there
is a one-to-one correspondence, which keeps the order.
-/

namespace StackMachine

open Text

/-! ### Increasing line maps -/

namespace LineMap

variable {lines : LineMap} {n p : ℕ}

lemma line?_eq_getElem? (lines : LineMap) (p : ℕ) : lines.line? p = lines.toList[p]? :=
  Array.getElem?_toList.symm

lemma line?_lt_line? (h : lines.toList.Pairwise (· < ·)) {q k : ℕ} (hp : lines.line? p = some n)
    (hq : lines.line? q = some k) (hpq : p < q) : n < k := by
  rw [line?_eq_getElem?] at hp hq
  obtain ⟨hplt, rfl⟩ := List.getElem?_eq_some_iff.1 hp
  obtain ⟨hqlt, rfl⟩ := List.getElem?_eq_some_iff.1 hq
  exact List.pairwise_iff_getElem.1 h p q hplt hqlt hpq

lemma address?_eq_some_iff (h : lines.toList.Pairwise (· < ·)) :
    lines.address? n = some p ↔ lines.line? p = some n := by
  constructor
  · intro haddress
    obtain ⟨hp, hn, -⟩ := Array.findIdx?_eq_some_iff_getElem.1 haddress
    rw [line?, Array.getElem?_eq_getElem hp]
    simpa using hn
  · intro hline
    obtain ⟨hp, hn⟩ := Array.getElem?_eq_some_iff.1 hline
    refine Array.findIdx?_eq_some_iff_getElem.2 ⟨hp, by simpa using hn, ?_⟩
    -- a smaller address has a smaller line
    intro q hqp hq
    have hqn : lines.line? q = some n := by
      rw [line?, Array.getElem?_eq_getElem (Nat.lt_trans hqp hp)]
      simpa using hq
    have hlt := line?_lt_line? h hqn hline hqp
    omega

lemma address?_eq_none_iff : lines.address? n = none ↔ n ∉ lines.toList := by
  rw [address?, Array.findIdx?_eq_none_iff, Array.mem_toList_iff]
  constructor
  · intro h hn
    have hne := h n hn
    simp at hne
  · rintro h k hk
    rw [beq_eq_false_iff_ne]
    rintro rfl
    exact h hk

end LineMap

/-! ### The line map of a text -/

namespace InstructionSet

variable {set : InstructionSet} {text : String} {a : Assembly}

lemma pairwise_lines_of_assemble (h : set.assemble text = .ok a) :
    a.lines.toList.Pairwise (· < ·) := by
  have hremaining : Remaining 1 (text.toList.splitOn '\n') (numberedLines text.toList) :=
    remaining_iff.2 rfl
  rw [(assemble_eq_ok_iff.1 h).2, List.pairwise_map]
  exact hremaining.pairwise_number

lemma mem_lines_iff (h : set.assemble text = .ok a) {n : ℕ} :
    n ∈ a.lines.toList ↔
      1 ≤ n ∧ ∃ piece, (text.toList.splitOn '\n')[n - 1]? = some piece ∧
        ∃ c ∈ piece, ¬ isBlankChar c := by
  have hvisible : ∀ {piece line : List Char}, Stripped piece line →
      (isBlank line = false ↔ ∃ c ∈ piece, ¬ isBlankChar c) := by
    intro piece line hstripped
    have hiff := not_congr hstripped.blank_iff
    simpa [isBlank] using hiff
  rw [(assemble_eq_ok_iff.1 h).2, List.mem_map]
  constructor
  · rintro ⟨⟨line, number⟩, hline, rfl⟩
    obtain ⟨hn, hblank, piece, hpiece, hstripped⟩ := mem_numberedLines_iff.1 hline
    exact ⟨hn, piece, hpiece, (hvisible hstripped).1 hblank⟩
  · rintro ⟨hn, piece, hpiece, hsome⟩
    have hstripped : Stripped piece (dropReturn piece) := stripped_iff.2 rfl
    refine ⟨(dropReturn piece, n), mem_numberedLines_iff.2 ⟨hn, ?_, piece, hpiece, hstripped⟩, rfl⟩
    exact (hvisible hstripped).2 hsome

/-- No piece with something else than white space has the number `n` if and only if this is the number
of no piece, or of one that is blank. -/
lemma not_mem_lines_iff (h : set.assemble text = .ok a) {n : ℕ} :
    n ∉ a.lines.toList ↔ n = 0 ∨ (text.toList.splitOn '\n').length < n ∨
      ∃ piece, (text.toList.splitOn '\n')[n - 1]? = some piece ∧ ∀ c ∈ piece, isBlankChar c := by
  rw [mem_lines_iff h]
  generalize text.toList.splitOn '\n' = pieces
  cases n with
  | zero => simp
  | succ n =>
    rw [Nat.add_sub_cancel]
    cases hpiece : pieces[n]? with
    | none =>
      have hout : pieces.length ≤ n := List.getElem?_eq_none_iff.1 hpiece
      refine iff_of_true ?_ (.inr (.inl (by omega)))
      rintro ⟨-, piece, hsome, -⟩
      cases hsome
    | some piece =>
      have hlt : n < pieces.length := (List.getElem?_eq_some_iff.1 hpiece).1
      have hnot : ¬ pieces.length < n + 1 := by omega
      simp [hnot]

end InstructionSet

open InstructionSet

/-- **The line map is a strictly increasing bijection between the instructions and the lines that are
not blank.** Let a text be assembled, and cut it at every line feed. Every address of the program, and
no other, has a line; the lines increase with the addresses and are numbers of pieces. The address of
a line is the one that has it; a line has no address if and only if it is line 0, behind the last
piece or a piece of nothing but white space. The instruction at an address is the one that the
assembler makes of the piece of its line, less the carriage return at the end. -/
theorem line_map_bijection (m : Machine) (text : String) (a : Assembly)
    (h : m.assemble text = .ok a) :
    ∃ pieces, IsCut '\n' text.toList pieces ∧
      (∀ p, (∃ n, a.lines.line? p = some n) ↔ p < a.program.size) ∧
      (∀ p q n k, a.lines.line? p = some n → a.lines.line? q = some k → p < q → n < k) ∧
      (∀ p n, a.lines.line? p = some n → 1 ≤ n ∧ n ≤ pieces.length) ∧
      (∀ p n, a.lines.address? n = some p ↔ a.lines.line? p = some n) ∧
      (∀ n, a.lines.address? n = none ↔ n = 0 ∨ pieces.length < n ∨
        ∃ piece, pieces[n - 1]? = some piece ∧ ∀ c ∈ piece, isBlankChar c) ∧
      ∀ p i, a.program[p]? = some i → ∃ n piece line, a.lines.line? p = some n ∧
        pieces[n - 1]? = some piece ∧ Stripped piece line ∧
        m.instructions.assembleLine line = .ok i := by
  have hincreasing := pairwise_lines_of_assemble h
  refine ⟨text.toList.splitOn '\n', isCut_iff.2 rfl, ?_, ?_, ?_, ?_, ?_, ?_⟩
  · intro p
    rw [exists_line?_iff, size_lines_of_assemble h]
  · intro p q n k hp hq hpq
    exact LineMap.line?_lt_line? hincreasing hp hq hpq
  · intro p n hp
    rw [LineMap.line?_eq_getElem?] at hp
    obtain ⟨hn, piece, hpiece, -⟩ := (mem_lines_iff h).1 (List.mem_of_getElem? hp)
    have hlt := (List.getElem?_eq_some_iff.1 hpiece).1
    omega
  · intro p n
    exact LineMap.address?_eq_some_iff hincreasing
  · intro n
    rw [LineMap.address?_eq_none_iff]
    exact not_mem_lines_iff h
  · intro p i hi
    obtain ⟨line, n, hline, hdenotes, hn⟩ := exists_line_of_assemble h hi
    obtain ⟨-, -, piece, hpiece, hstripped⟩ := mem_numberedLines_iff.1 hline
    exact ⟨n, piece, line, hn, hpiece, hstripped, assembleLine_of_denotes hdenotes⟩

/-- Blank lines, one of them with a carriage return, are passed over in both directions. -/
theorem line_map_bijection_blank :
    (Machine.standard false).assemble "\nLOAD_CONST 7\r\n \t\r\n\nEXIT\n" =
        .ok ⟨#[⟨1, 7⟩, ⟨2, 0⟩], #[2, 5]⟩ ∧
      LineMap.address? #[2, 5] 5 = some 1 ∧ LineMap.address? #[2, 5] 3 = none ∧
      ∃ piece line, Stripped piece line ∧
        InstructionSet.standard.assembleLine line = .ok ⟨1, 7⟩ := by
  have ha : (Machine.standard false).assemble "\nLOAD_CONST 7\r\n \t\r\n\nEXIT\n" =
      .ok ⟨#[⟨1, 7⟩, ⟨2, 0⟩], #[2, 5]⟩ := by rfl
  obtain ⟨pieces, hcut, -, -, -, haddress, hnone, hinstruction⟩ := line_map_bijection _ _ _ ha
  have hpieces : pieces[2]? = some " \t\r".toList := by
    rw [← isCut_iff.1 hcut]
    rfl
  have hblank : ∀ c ∈ " \t\r".toList, isBlankChar c := List.all_eq_true.1 rfl
  obtain ⟨n, piece, line, -, -, hstripped, hline⟩ := hinstruction 0 ⟨1, 7⟩ rfl
  refine ⟨ha, (haddress 1 5).2 rfl, (hnone 3).2 (.inr (.inr ⟨_, hpieces, hblank⟩)), piece, line,
    hstripped, hline⟩

end StackMachine
