import StackMachine.Proofs.Addresses
import StackMachine.Proofs.Courses

/-!
Programs without backward jumps. Each instruction that goes on has moved the counter upward, also by a
negative target, which is the last address of all. So no instruction is executed twice, and a run ends
after at most as many steps as there are instructions from its first one on, and the step that finds
none.
-/

namespace StackMachine

variable {σ : Type} [Sink σ]

/-- Every jump has an argument that is negative or greater than its own address. -/
def Program.Forward (p : Program) : Prop :=
  ∀ address, (h : address < p.size) → p[address].IsJump →
    p[address].arg.toInt < 0 ∨ address < p[address].arg.toInt

instance (p : Program) : Decidable p.Forward :=
  inferInstanceAs (Decidable (∀ address, (h : address < p.size) → _))

variable {debug : Bool} {p : Program} {s t : State σ}

/-! ### The counter increases -/

lemma Moves.lt {pc next : UInt64} (hp : p.size < 2 ^ 64) (hforward : p.Forward)
    (h : Moves p pc (.ok .executing) next) : pc.toNat < p.size ∧ pc.toNat < next.toNat := by
  cases h with
  | stays hfails => cases hfails
  | advances hf _ _ hnext =>
    have hlt : pc.toNat < p.size := (Array.getElem?_eq_some_iff.1 hf).1
    omega
  | @jumps i _ hf hjump hnext =>
    obtain ⟨hlt, rfl⟩ := Array.getElem?_eq_some_iff.1 hf
    refine ⟨hlt, ?_⟩
    rw [hnext, Instruction.target]
    rcases hforward pc.toNat hlt hjump with hneg | hgreater
    · rw [if_pos hneg]
      omega
    · rw [if_neg (by omega)]
      omega

lemma StepsTo.lt_of_executing (hp : p.size < 2 ^ 64) (hforward : p.Forward)
    (h : StepsTo (.standard debug) p s (.ok .executing) t) :
    s.pc.toNat < p.size ∧ s.pc.toNat < t.pc.toNat :=
  (h.moves hp).lt hp hforward

/-! ### Courses -/

section

variable {steps : List (State σ × Except Failure Status)} {last : Except Failure Status}

lemma Course.le_pc (hp : p.size < 2 ^ 64) (hforward : p.Forward)
    (h : Course (.standard debug) p s steps last t) :
    ∀ step ∈ steps, s.pc.toNat ≤ step.1.pc.toNat := by
  induction h with
  | last => simp
  | next hs _ ih =>
    have hlt := (hs.lt_of_executing hp hforward).2
    refine List.forall_mem_cons.2 ⟨Nat.le_refl _, ?_⟩
    intro step hstep
    have hle := ih step hstep
    omega

/-- **The counter increases along a course.** -/
lemma Course.pairwise_pc (hp : p.size < 2 ^ 64) (hforward : p.Forward)
    (h : Course (.standard debug) p s steps last t) :
    steps.Pairwise fun step later => step.1.pc.toNat < later.1.pc.toNat := by
  induction h with
  | last => exact List.pairwise_singleton _ _
  | next hs hrest ih =>
    have hlt := (hs.lt_of_executing hp hforward).2
    refine List.pairwise_cons.2 ⟨?_, ih⟩
    intro later hlater
    exact Nat.lt_of_lt_of_le hlt (hrest.le_pc hp hforward later hlater)

/-- A course has at most a step for each address from its first one to the end of the program, and one
more. -/
lemma Course.length_le (hp : p.size < 2 ^ 64) (hforward : p.Forward)
    (h : Course (.standard debug) p s steps last t) :
    steps.length ≤ p.size - s.pc.toNat + 1 := by
  induction h with
  | last => simp
  | next hs _ ih =>
    obtain ⟨hinside, hlt⟩ := hs.lt_of_executing hp hforward
    rw [List.length_cons]
    omega

/-- **From every state there is a course**, since what is left of the program gets less. -/
lemma exists_course (debug : Bool) (hp : p.size < 2 ^ 64) (hforward : p.Forward) (s : State σ) :
    ∃ steps last t, Course (.standard debug) p s steps last t := by
  generalize hleft : p.size - s.pc.toNat = left
  -- a step that goes on leaves less of the program before it
  induction left using Nat.strong_induction_on generalizing s with
  | _ left ih =>
    obtain ⟨result, t, hs⟩ := exists_stepsTo debug p s
    by_cases hend : result = .ok .executing
    · subst hend
      obtain ⟨hinside, hlt⟩ := hs.lt_of_executing hp hforward
      obtain ⟨steps, last, u, hcourse⟩ := ih (p.size - t.pc.toNat) (by omega) t rfl
      exact ⟨_, last, u, .next hs hcourse⟩
    · exact ⟨_, result, t, .last hs hend⟩

end

/-- **A program without backward jumps ends.** A run of it ends from every state. So do single steps, made
one after the other from the state, or from behind the listing with which a run begins: at last an
instruction exits or fails. Before each step the counter is greater than before those that were made
earlier, and no address is executed twice. From an address in the program there are at most as many
steps as there are instructions from there on, and one more; from any other there is one. -/
theorem forward_program_ends (debug : Bool) (p : Program) (hp : p.size < 2 ^ 64)
    (hforward : p.Forward) (s : State σ) :
    let m := Machine.standard debug
    (∃ result t, RunsTo m p s result t) ∧
      ∀ u, u = s ∨ u = announce m p s →
        (∃ steps last t, Course m p u steps last t) ∧
        ∀ steps last t, Course m p u steps last t →
          (last = .ok .exited ∨ ∃ failure, last = .error failure) ∧
          (steps.Pairwise fun step later => step.1.pc.toNat < later.1.pc.toNat) ∧
          (steps.map fun step => step.1.pc).Nodup ∧
          steps.length ≤ if s.pc.toNat < p.size then p.size - s.pc.toNat + 1 else 1 := by
  intro m
  refine ⟨exists_runsTo_iff.2 (exists_course debug hp hforward _), ?_⟩
  intro u hu
  have hpc : u.pc = s.pc := by
    rcases hu with rfl | rfl
    · rfl
    · exact announce_pc m p s
  refine ⟨exists_course debug hp hforward u, ?_⟩
  intro steps last t hcourse
  have hpairwise := hcourse.pairwise_pc hp hforward
  refine ⟨?_, hpairwise, ?_, ?_⟩
  · have hend := hcourse.last_ne
    rcases last with failure | _ | _
    · exact .inr ⟨failure, rfl⟩
    · exact absurd rfl hend
    · exact .inl rfl
  · -- an address that came twice would be below itself
    refine List.pairwise_map.2 (hpairwise.imp ?_)
    intro step later hlt heq
    rw [heq] at hlt
    exact Nat.lt_irrefl _ hlt
  · have hlength := hcourse.length_le hp hforward
    rw [hpc] at hlength
    split_ifs <;> omega

/-- A zero jumps over an instruction to the exit: there are four steps, at different addresses. -/
theorem forward_program_ends_skipping :
    let m := Machine.standard true
    let p : Program := #[⟨1, 0⟩, ⟨8, 0⟩, ⟨10, 4⟩, ⟨9, -1⟩, ⟨2, 0⟩]
    let s : State Transcript := .initial m {}
    p.size < 2 ^ 64 ∧ p.Forward ∧ (∃ result t, RunsTo m p s result t) ∧
      ∃ steps t, Course m p s steps (.ok .exited) t ∧
        (steps.map fun step => step.1.pc) = [0, 1, 2, 4] ∧
        (steps.map fun step => step.1.pc).Nodup ∧ steps.length ≤ 6 := by
  intro m p s
  have hp : p.size < 2 ^ 64 := by decide
  have hforward : p.Forward := by decide
  obtain ⟨steps, t, hcourse, hpcs⟩ : ∃ steps t, Course m p s steps (.ok .exited) t ∧
      (steps.map fun step => step.1.pc) = [0, 1, 2, 4] := by
    refine ⟨_, _, .next ⟨1, rfl⟩ (.next ⟨1, rfl⟩ (.next ⟨1, rfl⟩ (.last ⟨1, rfl⟩ ?_))), rfl⟩
    simp
  obtain ⟨hrun, hcourses⟩ := forward_program_ends true p hp hforward s
  obtain ⟨-, -, hnodup, hlength⟩ := (hcourses s (.inl rfl)).2 steps _ t hcourse
  exact ⟨hp, hforward, hrun, steps, t, hcourse, hpcs, hnodup, hlength⟩

end StackMachine
