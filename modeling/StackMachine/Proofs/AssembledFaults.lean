import StackMachine.Proofs.Failures
import StackMachine.Proofs.Renumbering
import StackMachine.Proofs.StandardFaults

/-!
How assembled programs fail. A program that is assembled with the standard instructions has only
these, whatever else is registered, and is not longer than its text. So no instruction in it is
unknown and the counter can always advance: what fails is the stack, a division or the fetch of an
instruction, and the last of these exactly outside the program, where the line map has no number.
-/

namespace StackMachine

open InstructionSet

/-! ### The size of an assembled program -/

lemma IsCut.length_flatten_le {sep : Char} {text : List Char} {pieces : List (List Char)}
    (h : IsCut sep text pieces) : pieces.flatten.length ≤ text.length := by
  obtain ⟨-, -, rfl⟩ := h
  induction pieces with
  | nil => simp
  | cons piece rest ih =>
    cases rest with
    | nil => simp
    | cons next rest =>
      rw [List.intercalate_cons_cons, List.flatten_cons]
      simp only [List.length_append]
      omega

lemma Remaining.length_le {n : ℕ} {pieces : List (List Char)} {lines : List (List Char × ℕ)}
    (h : Remaining n pieces lines) : lines.length ≤ pieces.flatten.length := by
  induction h with
  | nil => simp
  | blank _ _ _ ih =>
    rw [List.flatten_cons, List.length_append]
    omega
  | @line n piece line pieces lines hline hsome _ ih =>
    have hpiece : piece ≠ [] := by
      obtain ⟨c, hc, -⟩ := hsome
      rintro rfl
      rcases hline with hempty | ⟨rfl, -⟩
      · simp at hempty
      · simp at hc
    have hpos : 0 < piece.length := List.length_pos_iff.2 hpiece
    rw [List.flatten_cons, List.length_append, List.length_cons]
    omega

/-- **A program has no more instructions than its text has characters.** -/
theorem size_le_of_assemble {set : InstructionSet} {text : String} {a : Assembly}
    (ha : set.assemble text = .ok a) : a.program.size ≤ text.length := by
  have hcut : IsCut '\n' text.toList (text.toList.splitOn '\n') := isCut_iff.2 rfl
  have hremaining : Remaining 1 (text.toList.splitOn '\n') (numberedLines text.toList) :=
    remaining_iff.2 rfl
  have hsize : a.program.size = (numberedLines text.toList).length := by
    rw [(denotes_of_assemble ha).1.length_eq, Array.length_toList]
  calc a.program.size = (numberedLines text.toList).length := hsize
    _ ≤ (text.toList.splitOn '\n').flatten.length := hremaining.length_le
    _ ≤ text.toList.length := hcut.length_flatten_le
    _ = text.length := String.length_toList

/-! ### The names in a text -/

/-- A line of the text is the name, or the name, a space and an argument. -/
def Uses (text name : String) : Prop :=
  ∃ line number argument, (line, number) ∈ numberedLines text.toList ∧
    Words line name.toList argument

lemma not_uses_of_splitOn {text name : String}
    (h : ∀ line ∈ numberedLines text.toList, (line.1.splitOn ' ').head? ≠ some name.toList) :
    ¬ Uses text name := by
  rintro ⟨line, number, argument, hline, hwords⟩
  have hpieces := isCut_iff.1 hwords.isCut
  exact h _ hline (by rw [hpieces]; rfl)

lemma Denotes.exists_words {set : InstructionSet} {line : List Char} {i : Instruction}
    (h : Denotes set line i) :
    ∃ name argument, Words line name argument ∧ set.name? i.op = some (String.ofList name) := by
  cases h with
  | bare hwords hname => exact ⟨_, _, hwords, hname⟩
  | applied hwords hname _ => exact ⟨_, _, hwords, hname⟩

/-- If a text uses none of the names registered later, what it is assembled to was registered
before. -/
lemma registers_of_not_uses {set : InstructionSet} {calls : List (String × Action)} {text : String}
    {a : Assembly} (hunused : ∀ call ∈ calls, ¬ Uses text call.1)
    (ha : (set.afterAll calls).assemble text = .ok a) : set.Registers a.program := by
  intro i hi
  obtain ⟨k, hk⟩ := Array.mem_iff_getElem?.1 hi
  obtain ⟨line, number, hline, hdenotes, -⟩ := exists_line_of_assemble ha hk
  obtain ⟨name, argument, hwords, hname⟩ := hdenotes.exists_words
  have hnot : String.ofList name ∉ calls.map Prod.fst := by
    intro hmem
    obtain ⟨call, hcall, hcallname⟩ := List.mem_map.1 hmem
    refine hunused call hcall ⟨line, number, argument, hline, ?_⟩
    rw [hcallname, String.toList_ofList]
    exact hwords
  have hid : set.id? (String.ofList name) = some i.op := by
    rw [← id?_afterAll_of_not_mem hnot]
    exact id?_eq_some_iff.2 hname
  exact lt_size_of_name? (id?_eq_some_iff.1 hid)

/-! ### Failures -/

/-- The failure of an assembled program, of the instruction at `pc`: the stack, a division or a seg
fault, which is one if and only if `pc` is outside the program, where there is no number of a line.
-/
structure Assembly.FailsAt (a : Assembly) (failure : Failure) (pc : UInt64) : Prop where
  location : failure.location = some (.pc pc)
  fault : (∃ reason, failure.fault = .stackFailure reason) ∨ failure.fault = .divisionByZero ∨
    failure.fault = .segFault
  inside : pc.toNat < a.program.size ↔ failure.fault ≠ .segFault
  line : (∃ number, a.lines.line? pc.toNat = some number) ↔ failure.fault ≠ .segFault

section

variable {a : Assembly} {pc : UInt64}

lemma exists_line_iff (hlines : a.lines.size = a.program.size) :
    (∃ number, a.lines.line? pc.toNat = some number) ↔ pc.toNat < a.program.size := by
  rw [← hlines]
  exact exists_line?_iff

lemma failsAt_outside (hlines : a.lines.size = a.program.size) (hpc : a.program.size ≤ pc.toNat) :
    a.FailsAt (Fault.segFault.atPc pc) pc := by
  have hinside : pc.toNat < a.program.size ↔ (Fault.segFault.atPc pc).fault ≠ .segFault :=
    iff_of_false (by omega) fun h => h rfl
  exact ⟨rfl, .inr (.inr rfl), hinside, (exists_line_iff hlines).trans hinside⟩

lemma failsAt_inside (hlines : a.lines.size = a.program.size) (hpc : pc.toNat < a.program.size)
    {op : Opcode} {stack : Stack} {fault : Fault} (hfault : op.fault? stack = some fault) :
    a.FailsAt (fault.atPc pc) pc := by
  have hinside : pc.toNat < a.program.size ↔ (fault.atPc pc).fault ≠ .segFault :=
    iff_of_true hpc (Opcode.ne_segFault_of_fault? hfault)
  refine ⟨rfl, ?_, hinside, (exists_line_iff hlines).trans hinside⟩
  have hmem := Opcode.mem_of_fault? hfault
  simp only [List.mem_cons, List.not_mem_nil, or_false] at hmem
  rcases hmem with rfl | rfl | rfl
  · exact .inl ⟨_, rfl⟩
  · exact .inl ⟨_, rfl⟩
  · exact .inr (.inl rfl)

end

lemma StepsTo.failsAt {σ : Type} [Sink σ] {debug : Bool} {a : Assembly} {s t : State σ}
    {failure : Failure} (h : StepsTo (.standard debug) a.program s (.error failure) t)
    (hlines : a.lines.size = a.program.size)
    (hregisters : InstructionSet.standard.Registers a.program)
    (hsize : a.program.size < 2 ^ 64) : a.FailsAt failure s.pc := by
  cases h.standard with
  | outside hout => exact failsAt_outside hlines hout
  | @unknown i hf hop => exact absurd (hregisters i (Array.mem_of_getElem? hf)) hop
  | overflow hf hn =>
    rw [(nextAddress?_of_fetch hsize hf).1] at hn
    cases hn
  | @opcode i op next _ hf hop hn houtcome =>
    obtain ⟨fault, hfault, rfl⟩ := Opcode.outcome_eq_error_iff.1 houtcome
    have hlt : s.pc.toNat < a.program.size := (Array.getElem?_eq_some_iff.1 hf).1
    exact failsAt_inside hlines hlt hfault

/-- **An assembled program fails in the three ways of execution only.** Let a text be assembled with
the standard machine, to which other instructions may have been registered under names that the text
does not use. A step that fails in any state, and a run that fails from any state in the step that
it ends with, fails at the address of the counter before that step, for want of values on the stack,
in a division by zero or with a seg fault. It is a seg fault if and only if the address is outside
the program, and if and only if the line map has no number for it. -/
theorem assembled_programs_fail_at_runtime {σ τ : Type} [Sink σ] [Sink τ] (debug : Bool) (sink : τ)
    (calls : List (String × Action)) (text : String) (hlength : text.length < 2 ^ 64)
    (hunused : ∀ call ∈ calls, ¬ Uses text call.1) (a : Assembly)
    (ha : ((Machine.standard debug).registerAll sink calls).1.assemble text = .ok a) :
    let m := ((Machine.standard debug).registerAll sink calls).1
    (∀ (s t : State σ) failure, StepsTo m a.program s (.error failure) t →
      a.FailsAt failure s.pc) ∧
    ∀ (s t : State σ) failure, RunsTo m a.program s (.error failure) t →
      ∃ k u v, Executes m a.program k (announce m a.program s) u ∧
        StepsTo m a.program u (.error failure) v ∧ a.FailsAt failure u.pc := by
  intro m
  have hm : m = ⟨standard.afterAll calls, debug⟩ :=
    Machine.registerAll_machine (.standard debug) sink calls
  have hassemble : (standard.afterAll calls).assemble text = .ok a := by
    have hinstructions : m.instructions = standard.afterAll calls := congrArg _ hm
    rw [← hinstructions]
    exact ha
  have hregisters := registers_of_not_uses hunused hassemble
  have hsize : a.program.size < 2 ^ 64 := by
    have hle := size_le_of_assemble hassemble
    omega
  have hstep : ∀ (s t : State σ) failure, StepsTo m a.program s (.error failure) t →
      a.FailsAt failure s.pc := by
    rintro s t failure ⟨n, hn⟩
    -- the step is one of the standard machine
    have heq := (embeds_afterAll standard calls).step_eq hregisters debug n s
    rw [Program.renumber_id, ← hm, hn] at heq
    have hstandard : StepsTo (.standard debug) a.program s (.error failure) t := ⟨n, heq.symm⟩
    exact hstandard.failsAt (size_lines_of_assemble hassemble) hregisters hsize
  refine ⟨hstep, fun s t failure hrun => ?_⟩
  obtain ⟨k, u, v, hk, hv, -⟩ := runsTo_error_iff.1 hrun
  exact ⟨k, u, v, hk, hv, hstep u v failure hv⟩

/-- A division by zero on a machine that has another instruction is at an address with a line. -/
theorem assembled_programs_fail_at_runtime_division :
    let calls : List (String × Action) := [("SQUARE", fun _ => do
      let top ← Script.pop
      Script.push (top * top)
      return .executing)]
    let m := ((Machine.standard true).registerAll () calls).1
    "LOAD_CONST 1\n\nLOAD_CONST 0\nDIV".length < 2 ^ 64 ∧
      (∀ call ∈ calls, ¬ Uses "LOAD_CONST 1\n\nLOAD_CONST 0\nDIV" call.1) ∧
      ∃ a, m.assemble "LOAD_CONST 1\n\nLOAD_CONST 0\nDIV" = .ok a ∧ a.lines.line? 2 = some 4 ∧
        (∃ t : State Transcript,
          RunsTo m a.program (.initial m {}) (.error (Fault.divisionByZero.atPc 2)) t) ∧
        a.FailsAt (Fault.divisionByZero.atPc 2) 2 := by
  intro calls m
  have hlength : "LOAD_CONST 1\n\nLOAD_CONST 0\nDIV".length < 2 ^ 64 := by decide
  have hunused : ∀ call ∈ calls, ¬ Uses "LOAD_CONST 1\n\nLOAD_CONST 0\nDIV" call.1 := by
    intro call hcall
    obtain rfl : call = _ := List.mem_singleton.1 hcall
    exact not_uses_of_splitOn (by decide)
  have ha : m.assemble "LOAD_CONST 1\n\nLOAD_CONST 0\nDIV" =
      .ok ⟨#[⟨1, 1⟩, ⟨1, 0⟩, ⟨5, 0⟩], #[1, 3, 4]⟩ := by rfl
  obtain ⟨t, ht⟩ : ∃ t : State Transcript, RunsTo m #[⟨1, 1⟩, ⟨1, 0⟩, ⟨5, 0⟩] (.initial m {})
      (.error (Fault.divisionByZero.atPc 2)) t := ⟨_, 4, rfl⟩
  obtain ⟨-, hrun⟩ :=
    @assembled_programs_fail_at_runtime Transcript _ _ _ true () calls _ hlength hunused _ ha
  obtain ⟨k, u, v, -, -, hfails⟩ := hrun (.initial m {}) t _ ht
  have hpc : 2 = u.pc := by simpa [Fault.atPc] using hfails.location
  rw [← hpc] at hfails
  exact ⟨hlength, hunused, _, ha, rfl, ⟨t, ht⟩, hfails⟩

end StackMachine
