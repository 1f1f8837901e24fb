import StackMachine.Proofs.Iteration
import StackMachine.Proofs.StandardFaults

/-!
Deeper stacks. A standard instruction touches one or two values on top of the stack and asks for no
more than are there, so what it does without a fault it does in the same way on top of any values.
The values below are kept, and nothing else of the state depends on them. The converse fails: with
values below there may be enough of them where there were too few.
-/

namespace StackMachine

variable {σ : Type}

/-! ### States on top of values -/

/-- The state, with the values of `base` below those of its stack; the last of `base` is the highest. -/
def State.onto (base : List Int64) (s : State σ) : State σ :=
  { s with stack := .ofBottomFirst (base ++ s.stack.bottomFirst) }

section

variable (base : List Int64) (s : State σ)

lemma State.onto_eq : s.onto base = { s with stack := s.stack ++ base.reverse } := by
  simp [State.onto, Stack.ofBottomFirst, Stack.bottomFirst]

variable [Sink σ]

lemma trace_onto (m : Machine) (i : Instruction) :
    trace m i (s.onto base) = (trace m i s).onto base := by
  cases hd : s.debug <;> cases hn : m.instructions.name? i.op <;>
    simp [trace, hn, hd, State.onto, State.record, State.debugLines]

lemma announce_onto (m : Machine) (p : Program) :
    announce m p (s.onto base) = (announce m p s).onto base := by
  cases hd : s.debug <;> simp [announce, hd, State.onto, State.debugLines]

end

/-! ### One instruction -/

namespace Opcode

variable [Sink σ] {op : Opcode} {stack : Stack} {s : State σ}

lemma fault?_append (h : op.fault? stack = none) (below : Stack) :
    op.fault? (stack ++ below) = none := by
  rw [fault?_eq_none_iff] at h ⊢
  obtain ⟨hneed, hzero⟩ := h
  constructor
  · rw [List.length_append]
    omega
  · rintro ⟨rfl, hhead⟩
    apply hzero
    refine ⟨rfl, ?_⟩
    -- a division has a top value of its own
    rcases stack with _ | ⟨top, rest⟩
    · simp [need] at hneed
    · exact hhead

lemma perform_onto (arg : Int64) (h : op.fault? s.stack = none) (base : List Int64) :
    (op.perform arg (s.onto base)).2 = (op.perform arg s).2.onto base := by
  have hneed := (fault?_eq_none_iff.1 h).1
  rw [State.onto_eq, State.onto_eq]
  obtain ⟨stack, pc, output, debug, sink⟩ := s
  -- a stack is taken apart as far as the opcode looks; the values below are out of its reach
  cases op with
  | div =>
    rcases stack with _ | ⟨top, _ | ⟨below, rest⟩⟩
    · simp [need] at hneed
    · simp [need] at hneed
    · by_cases htop : top = 0 <;> simp [perform, htop]
  | jmpz =>
    rcases stack with _ | ⟨top, rest⟩
    · simp [need] at hneed
    · by_cases htop : top = 0 <;> simp [perform, State.jump, htop]
  | loadConst | jmp => rfl
  | print | exit | pop | dup | write | writeChar =>
    rcases stack with _ | ⟨top, rest⟩
    · simp [need] at hneed
    · rfl
  | add | eq | neq =>
    rcases stack with _ | ⟨top, _ | ⟨below, rest⟩⟩
    · simp [need] at hneed
    · simp [need] at hneed
    · rfl

end Opcode

variable [Sink σ] {debug : Bool} {p : Program} {s t : State σ}

/-- **A step that succeeds does so on top of any values**, which it keeps. -/
theorem StepsTo.onto {status : Status} (h : StepsTo (.standard debug) p s (.ok status) t)
    (base : List Int64) :
    StepsTo (.standard debug) p (s.onto base) (.ok status) (t.onto base) := by
  obtain ⟨i, op, next, hf, hop, hn, hfault, rfl, rfl⟩ := h.opcode_of_ok
  have hdeep : op.fault? (s.onto base).stack = none := by
    rw [State.onto_eq]
    exact Opcode.fault?_append hfault base.reverse
  have hstep := stepsTo_of_opcode (s := s.onto base) debug hf hop hn
  rw [Opcode.outcome_eq_ok_iff.2 ⟨hdeep, rfl⟩, trace_onto] at hstep
  -- the state in which the script is carried out
  generalize hu : ({ trace (.standard debug) i s with pc := next } : State σ) = u
  have huonto : ({ (trace (.standard debug) i s).onto base with pc := next } : State σ) =
      u.onto base := by rw [← hu]; rfl
  have hustack : u.stack = s.stack := by simp [← hu]
  rw [huonto, Opcode.perform_onto i.arg (hustack ▸ hfault)] at hstep
  exact hstep

/-! ### Many instructions -/

lemma Succeeds.onto {steps : List (Status × State σ)}
    (h : Succeeds (.standard debug) p s steps t) (base : List Int64) :
    Succeeds (.standard debug) p (s.onto base)
      (steps.map fun (status, u) => (status, u.onto base)) (t.onto base) := by
  induction h with
  | refl s => exact .refl _
  | head hs _ ih => exact .head (hs.onto base) ih

lemma Executes.onto {k : ℕ} (h : Executes (.standard debug) p k s t) (base : List Int64) :
    Executes (.standard debug) p k (s.onto base) (t.onto base) := by
  induction h with
  | refl s => exact .refl _
  | head hs _ ih => exact .head (hs.onto base) ih

/-- **A run that succeeds does so on top of any values**, with the same result. -/
lemma RunsTo.onto {result : RunResult} (h : RunsTo (.standard debug) p s (.ok result) t)
    (base : List Int64) : RunsTo (.standard debug) p (s.onto base) (.ok result) (t.onto base) := by
  obtain ⟨k, u, hk, hu⟩ := runsTo_iff.1 h
  rw [runsTo_iff]
  refine ⟨k, u.onto base, ?_, ?_⟩
  · rw [announce_onto]
    exact hk.onto base
  · generalize hx : Except.ok result = x at hu
    cases hu with
    | failed ht => cases hx
    | exited ht =>
      have hconclude : conclude (t.onto base) = conclude t := by
        obtain ⟨value, rest, hstack, hconclude⟩ := conclude_of_exited ht
        rw [hconclude]
        simp [conclude, State.onto_eq, hstack, Stack.peek]
      rw [← hconclude]
      exact .exited (ht.onto base)

/-- **The values below those of a stack make no difference and are left alone.** Let instructions of any
program succeed one after the other on the standard machine. On top of any other values they succeed
as well, and after each of them the status, the counter, the output, the flag and all that was shown
and recorded are the same; the stack is the other values and those that were there without them. So a
run that succeeds returns the same on top of any values. -/
theorem success_on_deeper_stack (debug : Bool) (p : Program) (base : List Int64) :
    (∀ (s t : State σ) steps, Succeeds (.standard debug) p s steps t →
      Succeeds (.standard debug) p (s.onto base)
        (steps.map fun (status, u) => (status, u.onto base)) (t.onto base)) ∧
    ∀ (s t : State σ) result, RunsTo (.standard debug) p s (.ok result) t →
      RunsTo (.standard debug) p (s.onto base) (.ok result) (t.onto base) := by
  constructor
  · intro s t steps h
    exact h.onto base
  · intro s t result h
    exact h.onto base

/-- A program that adds to the value it finds, and writes the sum as a character, does so on top of two
other values. -/
theorem success_on_deeper_stack_add :
    let p : Program := #[⟨1, 69⟩, ⟨4, 0⟩, ⟨12, 0⟩, ⟨2, 0⟩]
    ∃ s t : State Transcript, s.stack = [3] ∧ t.stack = [72] ∧
      RunsTo (.standard true) p s (.ok ⟨72, "H"⟩) t ∧
      (s.onto [8, 9]).stack = [3, 9, 8] ∧ (t.onto [8, 9]).stack = [72, 9, 8] ∧
      RunsTo (.standard true) p (s.onto [8, 9]) (.ok ⟨72, "H"⟩) (t.onto [8, 9]) := by
  intro p
  let s : State Transcript := { stack := [3], debug := true, sink := {} }
  obtain ⟨t, ht, htstack⟩ : ∃ t : State Transcript,
      RunsTo (.standard true) p s (.ok ⟨72, "H"⟩) t ∧ t.stack = [72] := by
    refine ⟨_, ⟨5, rfl⟩, ?_⟩
    rfl
  obtain ⟨-, hrun⟩ := success_on_deeper_stack (σ := Transcript) true p [8, 9]
  refine ⟨s, t, rfl, htstack, ht, rfl, ?_, hrun s t _ ht⟩
  rw [State.onto_eq, htstack]
  rfl

end StackMachine
