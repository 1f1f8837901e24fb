import StackMachine.Proofs.ListingRoundTrip
import StackMachine.Proofs.ReachableFaults

/-!
Immediate arguments. On a line with a registered name and an argument, what is wrong can only be the
argument, so the line is as good as the numeral. It is accepted if it spells an integer in the range of
words, and refused for the first thing wrong with it; and wherever a word is shown, what is shown is
such a numeral of it.
-/

namespace StackMachine

/-! ### Where words are written -/

lemma Stack.text_eq (stack : Stack) :
    stack.text = " ".intercalate (stack.bottomFirst.map fun word => toString word.toInt) := by
  rw [← String.toList_inj, Stack.toList_text, String.toList_intercalate, List.map_map]
  congr 1
  refine List.map_congr_left fun word _ => ?_
  rw [Function.comp_apply, ← Numeral.text_eq_toString, Numeral.toList_text]

section

variable {σ : Type} [Sink σ]

lemma exists_stepsTo_of_write (debug : Bool) {p : Program} {s : State σ} {i : Instruction}
    {word : Int64} (hp : p.size < 2 ^ 64) (hf : p.fetch? s.pc = some i)
    (hname : InstructionSet.standard.name? i.op = some "WRITE") (htop : s.stack.head? = some word) :
    ∃ t, StepsTo (.standard debug) p s (.ok .executing) t ∧
      t.output = s.output ++ toString word.toInt := by
  have hop : Opcode.write.id = i.op := id_of_name? hname
  obtain ⟨hnext, -⟩ := nextAddress?_of_fetch hp hf
  have hstep := stepsTo_of_opcode debug hf hop hnext
  obtain ⟨rest, hstack⟩ : ∃ rest, s.stack = word :: rest := by
    cases hs : s.stack with
    | nil => simp [hs] at htop
    | cons top rest =>
      rw [hs] at htop
      exact ⟨rest, by rw [Option.some.inj htop]⟩
  have houtcome : Opcode.write.outcome s.stack s.pc = .ok .executing :=
    Opcode.outcome_eq_ok_iff.2 ⟨by rw [hstack]; rfl, rfl⟩
  rw [houtcome] at hstep
  refine ⟨_, hstep, ?_⟩
  simp [Opcode.perform, hstack, State.write, Numeral.text_eq_toString]

end

/-! ### Lines with an argument -/

namespace InstructionSet

variable {set : InstructionSet} {line name argument : List Char} {op : OpId}

lemma assembleLine_eq_map (hwords : Words line name (some argument))
    (hname : set.name? op = some (String.ofList name)) :
    set.assembleLine line = ((Numeral.read argument).mapError
      (.invalidArgument (String.ofList argument))).map fun value => ⟨op, value⟩ := by
  rw [assembleLine_of_words hwords, instruction_of_some (id?_eq_some_iff.2 hname)]
  rfl

lemma assembleLine_eq_ok_iff_read (hwords : Words line name (some argument))
    (hname : set.name? op = some (String.ofList name)) {i : Instruction} :
    set.assembleLine line = .ok i ↔ ∃ word, Numeral.read argument = .ok word ∧ ⟨op, word⟩ = i := by
  rw [assembleLine_eq_map hwords hname]
  cases Numeral.read argument <;> simp [Except.map, Except.mapError]

lemma assembleLine_eq_error_iff_read (hwords : Words line name (some argument))
    (hname : set.name? op = some (String.ofList name)) {fault : Fault} :
    set.assembleLine line = .error fault ↔
      ∃ cause, Numeral.read argument = .error cause ∧
        fault = .invalidArgument (String.ofList argument) cause := by
  rw [assembleLine_eq_map hwords hname]
  cases Numeral.read argument <;> simp [Except.map, Except.mapError, eq_comm]

/-- **Immediate arguments are read exactly.** On a line with a registered name, an argument is accepted
if and only if it spells an integer in the range of words, which is then the argument of the
instruction. Else the argument is invalid, and the cause is the empty text; or, if it spells an integer,
on which side of the range this is; or, if it spells none, on which side the integer of its leading
digits is, and an invalid digit if on neither. The decimal text of a word, which is what `WRITE` writes
and what stacks and listings show, is accepted and denotes the word. -/
theorem argument_read_exactly {σ : Type} [Sink σ] (hwords : Words line name (some argument))
    (hname : set.name? op = some (String.ofList name)) :
    ((∃ i, set.assembleLine line = .ok i) ↔
      ∃ n, Numeral.Spells argument n ∧ -2 ^ 63 ≤ n ∧ n ≤ 2 ^ 63 - 1) ∧
    (∀ i, set.assembleLine line = .ok i → i.op = op ∧ Numeral.Spells argument i.arg.toInt ∧
      ∀ n, Numeral.Spells argument n → i.arg.toInt = n) ∧
    (∀ fault, set.assembleLine line = .error fault →
      ∃ cause, fault = .invalidArgument (String.ofList argument) cause ∧
        (cause = .empty ↔ argument = []) ∧
        (∀ n, Numeral.Spells argument n →
          (cause = .tooLarge ↔ 2 ^ 63 - 1 < n) ∧ (cause = .tooSmall ↔ n < -2 ^ 63)) ∧
        (argument ≠ [] → (∀ n, ¬ Numeral.Spells argument n) →
          cause = if 2 ^ 63 - 1 < Numeral.leading argument then .tooLarge
            else if Numeral.leading argument < -2 ^ 63 then .tooSmall else .invalidDigit)) ∧
    ∀ word : Int64,
      Numeral.Spells (toString word.toInt).toList word.toInt ∧
      set.assembleLine (name ++ ' ' :: (toString word.toInt).toList) = .ok ⟨op, word⟩ ∧
      set.instructionText ⟨op, word⟩ = String.ofList name ++ " " ++ toString word.toInt ∧
      (∀ stack : Stack, stack.text =
        " ".intercalate (stack.bottomFirst.map fun value => toString value.toInt)) ∧
      ∀ (debug : Bool) (p : Program) (s : State σ) (i : Instruction), p.size < 2 ^ 64 →
        p.fetch? s.pc = some i → standard.name? i.op = some "WRITE" → s.stack.head? = some word →
        ∃ t, StepsTo (.standard debug) p s (.ok .executing) t ∧
          t.output = s.output ++ toString word.toInt := by
  refine ⟨?_, ?_, ?_, ?_⟩
  · rw [← Numeral.exists_read_iff]
    simp only [assembleLine_eq_ok_iff_read hwords hname]
    constructor
    · rintro ⟨i, word, hread, -⟩
      exact ⟨word, hread⟩
    · rintro ⟨word, hread⟩
      exact ⟨_, word, hread, rfl⟩
  · intro i hi
    obtain ⟨word, hread, rfl⟩ := (assembleLine_eq_ok_iff_read hwords hname).1 hi
    have hspells := Numeral.literal_iff_spells.1 (Numeral.read_eq_ok_iff.1 hread)
    exact ⟨rfl, hspells, fun n hn => hspells.unique hn⟩
  · intro fault hfault
    obtain ⟨cause, hread, rfl⟩ := (assembleLine_eq_error_iff_read hwords hname).1 hfault
    refine ⟨cause, rfl, Numeral.cause_eq_empty_iff hread,
      fun n hn => Numeral.cause_of_spells hread hn, fun hne hill => ?_⟩
    rw [Numeral.read_of_not_spells hne hill] at hread
    exact (Except.error.inj hread).symm
  · intro word
    have htext : (toString word.toInt).toList = Numeral.chars word.toInt := by
      rw [← Numeral.text_eq_toString, Numeral.toList_text]
    have hspace : ' ' ∉ name := by
      cases hwords with
      | two hspace => exact hspace
    -- there is no space in a decimal text, so it is read as one argument
    have hspelt : Words (name ++ ' ' :: (toString word.toInt).toList) name
        (some (toString word.toInt).toList) := by
      refine .two hspace ?_
      rw [htext]
      exact space_not_mem_chars word.toInt
    have hspells : Numeral.Spells (toString word.toInt).toList word.toInt := by
      rw [htext]
      exact Numeral.spells_chars word.toInt
    have hread := Numeral.read_eq_ok_iff.2 (Numeral.literal_iff_spells.2 hspells)
    refine ⟨hspells, ?_, ?_, Stack.text_eq, ?_⟩
    · exact (assembleLine_eq_ok_iff_read hspelt hname).2 ⟨word, hread, rfl⟩
    · simp [instructionText, hname, Numeral.text_eq_toString]
    · intro debug p s i hp hf hwrite htop
      exact exists_stepsTo_of_write debug hp hf hwrite htop

/-- A bad digit behind an excess of good ones is not seen. -/
theorem argument_read_exactly_excess :
    let name := "LOAD_CONST".toList
    let argument := "-09223372036854775809x".toList
    Words (name ++ ' ' :: argument) name (some argument) ∧
      standard.name? 1 = some (String.ofList name) ∧
      standard.assembleLine (name ++ ' ' :: argument) =
        .error (.invalidArgument (String.ofList argument) .tooSmall) := by
  intro name argument
  have hwords : Words (name ++ ' ' :: argument) name (some argument) :=
    .two (by decide) (by decide)
  have hname : standard.name? 1 = some (String.ofList name) := by
    rw [String.ofList_toList]
    rfl
  have hill : ∀ n, ¬ Numeral.Spells argument n :=
    fun n hn => absurd (Numeral.spells_iff.1 hn).1 (by decide)
  obtain ⟨-, hok, herror, -⟩ := argument_read_exactly (σ := Transcript) hwords hname
  refine ⟨hwords, hname, ?_⟩
  cases hline : standard.assembleLine (name ++ ' ' :: argument) with
  | ok i => exact absurd (hok i hline).2.1 (hill _)
  | error fault =>
    obtain ⟨cause, rfl, -, -, hcause⟩ := herror fault hline
    rw [hcause (by decide) hill]
    rfl

end InstructionSet

end StackMachine
