import StackMachine.Proofs.Blocks
import StackMachine.Proofs.Statements

/-!
Counting down. A loop writes the value on the stack, takes one off it and goes on until it is zero; a
conditional jump leads out of it and an unconditional one back. A round that begins with a positive value
ends with the next smaller one, at the exit if that is zero and else at the jump back, so from every
positive word the loop is left with zero on the stack, after six steps for each value written.
-/

namespace StackMachine

/-! ### The program -/

/-- The lines of a program that counts down from `n`. -/
def countdownLines (n : ℕ) : List String :=
  ["LOAD_CONST " ++ toString n, "WRITE", "LOAD_CONST -1", "ADD", "DUP", "JMPZ 7", "JMP 1", "EXIT"]

/-- The numbers from `n` down to 1 in decimal, one behind the other. -/
def numeralsDown (n : ℕ) : String :=
  String.join ((List.range' 1 n).reverse.map toString)

example : numeralsDown 11 = "1110987654321" := by decide

def countdown (n : ℕ) : List Statement :=
  [.applied .loadConst (.ofNat n), .bare .write, .applied .loadConst (-1), .bare .add, .bare .dup,
    .applied .jmpz 7, .applied .jmp 1, .bare .exit]

def countdownProgram (n : ℕ) : Program :=
  ((countdown n).map Statement.instruction).toArray

lemma numeralsDown_succ (n : ℕ) : numeralsDown (n + 1) = toString (n + 1) ++ numeralsDown n := by
  rw [numeralsDown, List.range'_1_concat, List.reverse_append, List.map_append, String.join_append,
    Nat.add_comm 1, numeralsDown]
  simp [String.join_cons]

lemma line_countdown {n : ℕ} (hn : n < 2 ^ 63) :
    (countdown n).map Statement.line = countdownLines n := by
  have hvalue : (Statement.applied .loadConst (.ofNat n)).line = "LOAD_CONST " ++ toString n := by
    rw [Statement.line, Statement.toString_ofNat hn]
    rfl
  rw [countdown, List.map_cons, hvalue]
  rfl

lemma size_countdownProgram (n : ℕ) : (countdownProgram n).size < 2 ^ 64 := by
  show 8 < 2 ^ 64
  decide

/-! ### The loop -/

section

variable {n k : ℕ}

lemma ofNat_less_one (hk : k + 1 < 2 ^ 63) :
    Int64.ofInt ((Int64.ofNat (k + 1)).toInt + (-1 : Int64).toInt) = .ofNat k := by
  have hminus : (-1 : Int64).toInt = -1 := by decide
  have hsum : ((k + 1 : ℕ) : ℤ) + -1 = k := by omega
  rw [Int64.toInt_ofNat_of_lt hk, hminus, hsum, Int64.ofInt_eq_ofNat]

lemma ofNat_eq_zero_iff (hk : k < 2 ^ 63) : Int64.ofNat k = 0 ↔ k = 0 := by
  rw [← Int64.toInt_inj, Int64.toInt_ofNat_of_lt hk, Int64.toInt_zero, Int.natCast_eq_zero]

variable {debug : Bool} {output : String} {prints : List Int64}

/-- The conditional jump leads to the exit if the value is zero, and else to the jump back. -/
lemma advances_jmpz (hk : k < 2 ^ 63) :
    Advances debug (countdownProgram n) 1 ⟨5, [.ofNat k, .ofNat k], output, prints⟩
      ⟨if k = 0 then 7 else 6, [.ofNat k], output, prints⟩ := by
  have hjump : Advances debug (countdownProgram n) 1 ⟨5, [.ofNat k, .ofNat k], output, prints⟩ _ :=
    .opcode .jmpz 7 (size_countdownProgram n) rfl rfl rfl
  have hpc : Opcode.jmpz.pcAfter 7 5 [.ofNat k, .ofNat k] = if k = 0 then 7 else 6 := by
    simp [Opcode.pcAfter, Opcode.Jumps, ofNat_eq_zero_iff hk]
  rw [Opcode.next, hpc] at hjump
  exact hjump

/-- **A round** writes the value and takes one off it. It ends at the exit if nothing is left, and else at
the jump back. -/
lemma advances_round (hk : k + 1 < 2 ^ 63) :
    Advances debug (countdownProgram n) 5 ⟨1, [.ofNat (k + 1)], output, prints⟩
      ⟨if k = 0 then 7 else 6, [.ofNat k], output ++ toString (k + 1), prints⟩ := by
  have hp := size_countdownProgram n
  have hwrite : Advances debug (countdownProgram n) 1 ⟨1, [.ofNat (k + 1)], output, prints⟩
      ⟨2, [.ofNat (k + 1)], output ++ toString (Int64.ofNat (k + 1)).toInt, prints⟩ :=
    .opcode .write 0 hp rfl rfl rfl
  rw [Statement.toString_ofNat hk] at hwrite
  -- nothing more is written in the round
  generalize output ++ toString (k + 1) = written at hwrite ⊢
  have hload : Advances debug (countdownProgram n) 1 ⟨2, [.ofNat (k + 1)], written, prints⟩
      ⟨3, [-1, .ofNat (k + 1)], written, prints⟩ :=
    .opcode .loadConst (-1) hp rfl rfl rfl
  have hadd : Advances debug (countdownProgram n) 1 ⟨3, [-1, .ofNat (k + 1)], written, prints⟩
      ⟨4, [.ofInt ((Int64.ofNat (k + 1)).toInt + (-1 : Int64).toInt)], written, prints⟩ :=
    .opcode .add 0 hp rfl rfl rfl
  rw [ofNat_less_one hk] at hadd
  have hdup : Advances debug (countdownProgram n) 1 ⟨4, [.ofNat k], written, prints⟩
      ⟨5, [.ofNat k, .ofNat k], written, prints⟩ :=
    .opcode .dup 0 hp rfl rfl rfl
  exact (((hwrite.trans hload).trans hadd).trans hdup).trans (advances_jmpz (by omega))

/-- **The loop** is left with zero on the stack, and has written all values down to 1. -/
lemma advances_rounds (hk : k + 1 < 2 ^ 63) :
    Advances debug (countdownProgram n) (6 * k + 5) ⟨1, [.ofNat (k + 1)], output, prints⟩
      ⟨7, [0], output ++ numeralsDown (k + 1), prints⟩ := by
  -- the round of 1 leaves the loop, every earlier one is followed by the jump back
  induction k generalizing output with
  | zero => exact advances_round hk
  | succ k ih =>
    have hround : Advances debug (countdownProgram n) 5 ⟨1, [.ofNat (k + 2)], output, prints⟩
        ⟨6, [.ofNat (k + 1)], output ++ toString (k + 2), prints⟩ := advances_round hk
    have hback : Advances debug (countdownProgram n) 1
        ⟨6, [.ofNat (k + 1)], output ++ toString (k + 2), prints⟩
        ⟨1, [.ofNat (k + 1)], output ++ toString (k + 2), prints⟩ :=
      .opcode .jmp 1 (size_countdownProgram n) rfl rfl rfl
    have hloop := (hround.trans hback).trans (ih (by omega))
    rw [String.append_assoc, ← numeralsDown_succ, Nat.add_comm (5 + 1), Nat.add_right_comm] at hloop
    exact hloop

end

/-- **The countdown is correct from every positive word.** Its text is assembled, and on a fresh state the
program is run to its end in six steps for each value and one more. It returns zero, which is all that is
on the stack; its output is the decimals of the values from the first one down to 1, one behind the other,
and nothing is printed. -/
theorem countdown_from_every_value (debug : Bool) (n : ℕ) (hpos : 1 ≤ n) (hmax : n ≤ 2 ^ 63 - 1)
    (source : String) (hsource : MadeOf (countdownLines n) source) (sink : Transcript) :
    let m := Machine.standard debug
    ∃ a, m.assemble source = .ok a ∧ ∃ steps t,
      Course m a.program (announce m a.program (.initial m sink)) steps (.ok .exited) t ∧
        steps.length = 6 * n + 1 ∧
        RunsTo m a.program (.initial m sink) (.ok ⟨0, numeralsDown n⟩) t ∧
        t.stack = [0] ∧ t.output = numeralsDown n ∧ t.sink.prints = sink.prints := by
  intro m
  obtain ⟨k, rfl⟩ : ∃ k, n = k + 1 := ⟨n - 1, by omega⟩
  have hlt : k + 1 < 2 ^ 63 := by omega
  rw [← line_countdown hlt] at hsource
  refine ⟨_, assemble_statements hsource, ?_⟩
  have hload : Advances debug (countdownProgram (k + 1)) 1 ⟨0, [], "", sink.prints⟩
      ⟨1, [.ofNat (k + 1)], "", sink.prints⟩ :=
    .opcode .loadConst (.ofNat (k + 1)) (size_countdownProgram (k + 1)) rfl rfl rfl
  have hled := hload.trans (advances_rounds hlt)
  rw [String.empty_append, show 1 + (6 * k + 5) = 6 * (k + 1) by omega] at hled
  exact hled.exits (size_countdownProgram (k + 1)) rfl rfl

/-- Three values are counted down, in nineteen steps. -/
theorem countdown_from_every_value_three :
    let m := Machine.standard true
    let source := "LOAD_CONST 3\nWRITE\nLOAD_CONST -1\nADD\nDUP\nJMPZ 7\nJMP 1\nEXIT\n"
    1 ≤ 3 ∧ 3 ≤ 2 ^ 63 - 1 ∧ MadeOf (countdownLines 3) source ∧
      ∃ a, m.assemble source = .ok a ∧ ∃ steps, ∃ t : State Transcript,
        Course m a.program (announce m a.program (.initial m {})) steps (.ok .exited) t ∧
          steps.length = 19 ∧ RunsTo m a.program (.initial m {}) (.ok ⟨0, "321"⟩) t := by
  intro m source
  have hsource : MadeOf (countdownLines 3) source := by
    have hlines : Text.unlines (countdownLines 3) = source := by rfl
    exact hlines ▸ .terminated
  obtain ⟨a, ha, steps, t, hcourse, hlength, hrun, -⟩ :=
    countdown_from_every_value true 3 (by decide) (by decide) source hsource {}
  exact ⟨by decide, by decide, hsource, a, ha, steps, t, hcourse, hlength, hrun⟩

end StackMachine
