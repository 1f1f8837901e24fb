import StackMachine.Proofs.Addresses
import StackMachine.Proofs.Courses

/-!
Blocks of instructions. To the opcodes a state is its counter, its stack and its output, and the values
printed so far. Of such a configuration an opcode that does not fail makes another one, which the
opcode table determines. So what a block of a program does is put together from what its instructions
do, and where it reaches an exit, the run ends.
-/

namespace StackMachine

/-! ### Configurations -/

/-- What the opcodes work on. -/
structure Configuration where
  pc : ℕ
  stack : Stack
  output : String
  prints : List Int64

def State.configuration (s : State Transcript) : Configuration :=
  ⟨s.pc.toNat, s.stack, s.output, s.sink.prints⟩

lemma configuration_announce_initial (debug : Bool) (p : Program) (sink : Transcript) :
    (announce (.standard debug) p (.initial (.standard debug) sink)).configuration =
      ⟨0, [], "", sink.prints⟩ := by
  obtain ⟨houtput, -, hprints, -⟩ := announce_shows debug p (.initial (.standard debug) sink)
  rw [State.configuration, announce_pc, houtput, hprints]
  cases debug <;> rfl

namespace Opcode

variable {op : Opcode} {stack : Stack}

/-- The output after an opcode. -/
def outputAfter (op : Opcode) (output : String) (stack : Stack) : String :=
  match op, stack with
  | write, top :: _ => output ++ toString top.toInt
  | writeChar, top :: _ =>
    output ++ String.singleton (InstructionSet.Standard.charOfCodePoint top)
  | _, _ => output

/-- The values printed after an opcode. -/
def printsAfter (op : Opcode) (prints : List Int64) (stack : Stack) : List Int64 :=
  match op, stack with
  | print, top :: _ => prints ++ [top]
  | _, _ => prints

lemma IsCharacter.unique {code : ℤ} {c d : Char} (hc : IsCharacter code c)
    (hd : IsCharacter code d) : c = d := by
  rcases hc with hc | ⟨rfl, hnone⟩
  · rcases hd with hd | ⟨rfl, hnone⟩
    · exact Char.toNat_inj.1 (by omega)
    · exact absurd hc (hnone c)
  · rcases hd with hd | ⟨rfl, -⟩
    · exact absurd hd (hnone d)
    · rfl

lemma outputAfter_of_writes {text : String} (h : op.Writes stack text) (output : String) :
    op.outputAfter output stack = output ++ text := by
  cases op with
  | write =>
    cases stack with
    | nil => simp [outputAfter, show text = "" from h]
    | cons top rest => rw [show text = toString top.toInt from h, outputAfter]
  | writeChar =>
    cases stack with
    | nil => simp [outputAfter, show text = "" from h]
    | cons top rest =>
      obtain ⟨c, hc, rfl⟩ := h
      rw [outputAfter, hc.unique (isCharacter_charOfCodePoint top)]
  | _ => simp [outputAfter, show text = "" from h]

lemma printsAfter_eq (prints : List Int64) :
    op.printsAfter prints stack = prints ++ op.printed stack := by
  cases op with
  | print => cases stack <;> simp [printsAfter, printed]
  | _ => simp [printsAfter, printed]

/-- What an opcode makes of a configuration. -/
def next (op : Opcode) (arg : Int64) (c : Configuration) : Configuration :=
  ⟨op.pcAfter arg c.pc c.stack, op.stackAfter arg c.stack, op.outputAfter c.output c.stack,
    op.printsAfter c.prints c.stack⟩

lemma Effect.configuration {arg : Int64} {s t : State Transcript} (h : op.Effect arg s t) :
    t.configuration = op.next arg s.configuration := by
  obtain ⟨text, hwrites, houtput⟩ := h.output
  simp only [State.configuration, next, h.stack, h.pc, h.prints, houtput,
    outputAfter_of_writes hwrites, printsAfter_eq]

end Opcode

/-- **An opcode that does not fail makes of a configuration what the table says.** -/
lemma exists_stepsTo_next (debug : Bool) {p : Program} (hp : p.size < 2 ^ 64)
    {s : State Transcript} {op : Opcode} {arg : Int64}
    (hi : p[s.configuration.pc]? = some ⟨op.id, arg⟩)
    (hfault : op.fault? s.configuration.stack = none) :
    ∃ t, StepsTo (.standard debug) p s (.ok op.status) t ∧
      t.configuration = op.next arg s.configuration := by
  obtain ⟨t, hstep, heffect⟩ := step_opcode debug 0 hp hi rfl
  have houtcome : op.outcome s.stack s.pc = .ok op.status :=
    Opcode.outcome_eq_ok_iff.2 ⟨hfault, rfl⟩
  rw [houtcome] at hstep
  exact ⟨t, ⟨1, hstep⟩, (heffect hfault).configuration⟩

/-! ### Where a block is -/

/-- The program has these instructions from the address on. -/
def Program.HasAt (p : Program) (address : ℕ) (is : List Instruction) : Prop :=
  ∀ k, k < is.length → p[address + k]? = is[k]?

namespace Program.HasAt

variable {p : Program} {address : ℕ} {i : Instruction} {is js : List Instruction}

lemma toArray (is : List Instruction) : HasAt is.toArray 0 is := by
  intro k _
  simp

lemma head (h : p.HasAt address (i :: is)) : p[address]? = some i := by
  simpa using h 0 (by simp)

lemma tail (h : p.HasAt address (i :: is)) : p.HasAt (address + 1) is := by
  intro k hk
  have hk' := h (k + 1) (by simpa using hk)
  rwa [← Nat.add_assoc, Nat.add_right_comm, List.getElem?_cons_succ] at hk'

lemma append (h : p.HasAt address (is ++ js)) :
    p.HasAt address is ∧ p.HasAt (address + is.length) js := by
  constructor
  · intro k hk
    rw [h k (by simp; omega), List.getElem?_append_left hk]
  · intro k hk
    rw [Nat.add_assoc, h (is.length + k) (by simpa using hk),
      List.getElem?_append_right (by omega), Nat.add_sub_cancel_left]

end Program.HasAt

/-! ### What a block does -/

/-- From every state of the configuration `c`, `k` instructions in a row go on and lead to the
configuration `d`. -/
def Advances (debug : Bool) (p : Program) (k : ℕ) (c d : Configuration) : Prop :=
  ∀ s : State Transcript, s.configuration = c →
    ∃ t, Executes (.standard debug) p k s t ∧ t.configuration = d

namespace Advances

variable {debug : Bool} {p : Program} {k l : ℕ} {c d e : Configuration}

lemma refl (c : Configuration) : Advances debug p 0 c c :=
  fun s hs => ⟨s, .refl s, hs⟩

lemma trans (h : Advances debug p k c d) (h' : Advances debug p l d e) :
    Advances debug p (k + l) c e := by
  intro s hs
  obtain ⟨t, ht, hd⟩ := h s hs
  obtain ⟨u, hu, he⟩ := h' t hd
  exact ⟨u, ht.trans hu, he⟩

lemma opcode (op : Opcode) (arg : Int64) (hp : p.size < 2 ^ 64)
    (hi : p[c.pc]? = some ⟨op.id, arg⟩) (hfault : op.fault? c.stack = none)
    (hstatus : op.status = .executing) : Advances debug p 1 c (op.next arg c) := by
  rintro s rfl
  obtain ⟨t, ht, hnext⟩ := exists_stepsTo_next debug hp hi hfault
  rw [hstatus] at ht
  exact ⟨t, .head ht (.refl t), hnext⟩

/-- **A fresh run that is led to an exit ends there**, after as many steps and one. Its value is on top
of the stack. -/
theorem exits {sink : Transcript} {arg value : Int64} {rest : Stack} (hp : p.size < 2 ^ 64)
    (h : Advances debug p k ⟨0, [], "", sink.prints⟩ c)
    (hi : p[c.pc]? = some ⟨Opcode.exit.id, arg⟩) (hstack : c.stack = value :: rest) :
    let m := Machine.standard debug
    ∃ steps t, Course m p (announce m p (.initial m sink)) steps (.ok .exited) t ∧
      steps.length = k + 1 ∧ RunsTo m p (.initial m sink) (.ok ⟨value, c.output⟩) t ∧
      t.stack = c.stack ∧ t.output = c.output ∧ t.sink.prints = c.prints := by
  intro m
  -- the listing with which the run begins does not change the configuration
  obtain ⟨u, hu, rfl⟩ := h _ (configuration_announce_initial debug p sink)
  have hfault : Opcode.exit.fault? u.configuration.stack = none := by
    rw [hstack]
    rfl
  obtain ⟨t, ht, hnext⟩ := exists_stepsTo_next debug hp hi hfault
  have htstack : t.stack = u.stack := congrArg Configuration.stack hnext
  have htoutput : t.output = u.output := congrArg Configuration.output hnext
  have htprints : t.sink.prints = u.sink.prints := congrArg Configuration.prints hnext
  obtain ⟨top, below, htop, hconclude⟩ := conclude_of_exited ht
  obtain rfl : top = value := by
    have hcons : top :: below = value :: rest := htop.symm.trans (htstack.trans hstack)
    exact (List.cons.inj hcons).1
  have hrun : RunsTo m p (.initial m sink) (conclude t) t := runsTo_iff.2 ⟨k, u, hu, .exited ht⟩
  rw [hconclude, htoutput] at hrun
  obtain ⟨steps, hcourse, hlength⟩ := hu.course ht (by simp [Opcode.status])
  exact ⟨steps, t, hcourse, hlength, hrun, htstack, htoutput, htprints⟩

end Advances

end StackMachine
