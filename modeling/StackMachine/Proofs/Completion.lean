import Mathlib.Algebra.Group.Nat.Defs
import Mathlib.Tactic.Common
import StackMachine.Execution.Bound

/-!
Execution without bounds. `StepsTo` says what one instruction gives and `RunsTo` what a run gives if
it has all the time it needs; each has at most one outcome, since a larger bound never changes an
answer. `Executes` counts the instructions that go on, none of which exits or fails.
-/

namespace StackMachine

variable {σ : Type} [Sink σ]

/-! ### The ways of an instruction -/

/-- What the next instruction can do in `s`: there is none, it has no action, the counter cannot
advance, or its script is carried out and settled. -/
inductive Transition (m : Machine) (p : Program) (host : Host σ) (s : State σ) :
    Except Failure Status → State σ → Prop
  | outside : p.fetch? s.pc = none →
      Transition m p host s (.error (Fault.segFault.atPc s.pc)) s
  | unknown {i : Instruction} : p.fetch? s.pc = some i → m.instructions.action? i.op = none →
      Transition m p host s (.error ((Fault.unknownOpcode i.op).atPc s.pc)) (trace m i s)
  | overflow {i : Instruction} {action : Action} : p.fetch? s.pc = some i →
      m.instructions.action? i.op = some action → nextAddress? s.pc = none →
      Transition m p host s (.error ⟨.counterOverflow, none⟩) (trace m i s)
  | performed {i : Instruction} {action : Action} {next : UInt64} {result : Except Fault Status}
      {t : State σ} : p.fetch? s.pc = some i → m.instructions.action? i.op = some action →
      nextAddress? s.pc = some next →
      (action i.arg).exec host { trace m i s with pc := next } = some (result, t) →
      Transition m p host s (settle s.pc result t.stack) t

theorem transition_of_cycle {m : Machine} {p : Program} {host : Host σ} {s t : State σ}
    {result : Except Failure Status} (h : cycle m p host s = some (result, t)) :
    Transition m p host s result t := by
  cases hf : p.fetch? s.pc with
  | none =>
    rw [cycle_of_fetch_none hf] at h
    cases h
    exact .outside hf
  | some i =>
    cases ha : m.instructions.action? i.op with
    | none =>
      rw [cycle_of_action_none hf ha] at h
      cases h
      exact .unknown hf ha
    | some action =>
      cases hn : nextAddress? s.pc with
      | none =>
        rw [cycle_of_next_none hf ha hn] at h
        cases h
        exact .overflow hf ha hn
      | some next =>
        rw [cycle_of_action hf ha hn] at h
        obtain ⟨⟨result, t⟩, hexec, ht⟩ := Option.map_eq_some_iff.1 h
        cases ht
        exact .performed hf ha hn hexec

/-- No instruction of a program is at the last address of all, so the counter can advance. -/
lemma nextAddress?_of_fetch {p : Program} {pc : UInt64} {i : Instruction} (hp : p.size < 2 ^ 64)
    (hf : p.fetch? pc = some i) :
    nextAddress? pc = some (pc + 1) ∧ (pc + 1).toNat = pc.toNat + 1 := by
  have hlt : pc.toNat < p.size := (Array.getElem?_eq_some_iff.1 hf).1
  have hne : pc ≠ 0xFFFFFFFFFFFFFFFF := by
    intro h
    rw [h] at hlt
    have hmax : (0xFFFFFFFFFFFFFFFF : UInt64).toNat = 2 ^ 64 - 1 := rfl
    omega
  refine ⟨if_neg hne, ?_⟩
  rw [UInt64.toNat_add]
  exact Nat.mod_eq_of_lt (by change pc.toNat + 1 < 2 ^ 64; omega)

/-! ### One instruction and one run -/

/-- In `s`, the next instruction gives `result` and leaves `t`. -/
def StepsTo (m : Machine) (p : Program) (s : State σ) (result : Except Failure Status)
    (t : State σ) : Prop :=
  ∃ n, step m p n s = some (result, t)

/-- From `s`, the run gives `result` and leaves `t`. -/
def RunsTo (m : Machine) (p : Program) (s : State σ) (result : Except Failure RunResult)
    (t : State σ) : Prop :=
  ∃ n, run m p n s = some (result, t)

section

variable {m : Machine} {p : Program} {s t u : State σ}

lemma StepsTo.transition {result : Except Failure Status} (h : StepsTo m p s result t) :
    ∃ n, Transition m p (answer m p n) s result t := by
  obtain ⟨n, hn⟩ := h
  cases n with
  | zero => simp [step] at hn
  | succ n => exact ⟨n, transition_of_cycle (by rwa [step_succ] at hn)⟩

/-- An answer within a bound is the answer within every larger one. -/
lemma StepsTo.eventually {result : Except Failure Status} (h : StepsTo m p s result t) :
    ∃ b, ∀ n, b ≤ n → step m p n s = some (result, t) := by
  obtain ⟨b, hb⟩ := h
  exact ⟨b, fun n hn => step_within hn s _ hb⟩

lemma StepsTo.unique {x y : Except Failure Status} (hx : StepsTo m p s x t)
    (hy : StepsTo m p s y u) : x = y ∧ t = u := by
  obtain ⟨b, hb⟩ := hx.eventually
  obtain ⟨c, hc⟩ := hy.eventually
  have h := (hb (max b c) (by omega)).symm.trans (hc (max b c) (by omega))
  simpa using h

lemma RunsTo.unique {x y : Except Failure RunResult} (hx : RunsTo m p s x t)
    (hy : RunsTo m p s y u) : x = y ∧ t = u := by
  obtain ⟨b, hb⟩ := hx
  obtain ⟨c, hc⟩ := hy
  have h := (run_within (Nat.le_max_left b c) s _ hb).symm.trans
    (run_within (Nat.le_max_right b c) s _ hc)
  simpa using h

theorem StepsTo.stack_ne_nil {status : Status} (h : StepsTo m p s (.ok status) t) :
    t.stack ≠ [] := by
  obtain ⟨n, h⟩ := h.transition
  generalize hx : Except.ok status = x at h
  cases h with
  | outside hf => cases hx
  | unknown hf ha => cases hx
  | overflow hf ha hn => cases hx
  | @performed i action next result t hf ha hn hexec =>
    intro hnil
    cases result <;> simp [settle, hnil, Stack.peek] at hx

end

/-! ### Instructions that go on -/

/-- From `s`, `k` instructions in a row neither exit nor fail, and leave `t`. -/
inductive Executes (m : Machine) (p : Program) : ℕ → State σ → State σ → Prop
  | refl (s : State σ) : Executes m p 0 s s
  | head {k : ℕ} {s t u : State σ} : StepsTo m p s (.ok .executing) t → Executes m p k t u →
      Executes m p (k + 1) s u

namespace Executes

variable {m : Machine} {p : Program} {s t u : State σ} {k l : ℕ}

lemma trans (h₁ : Executes m p k s t) (h₂ : Executes m p l t u) : Executes m p (k + l) s u := by
  induction h₁ with
  | refl s => simpa using h₂
  | head hs _ ih =>
    have h := head hs (ih h₂)
    convert h using 1
    omega

lemma unique (h₁ : Executes m p k s t) (h₂ : Executes m p k s u) : t = u := by
  induction h₁ with
  | refl s =>
    cases h₂
    rfl
  | head hs _ ih =>
    cases h₂ with
    | head hs' h =>
      obtain ⟨-, rfl⟩ := hs.unique hs'
      exact ih h

lemma split (h₁ : Executes m p k s t) (h₂ : Executes m p (k + l) s u) : Executes m p l t u := by
  induction h₁ with
  | refl s => simpa using h₂
  | @head k s s' t hs _ ih =>
    rw [show k + 1 + l = k + l + 1 by omega] at h₂
    cases h₂ with
    | head hs' h =>
      obtain ⟨-, rfl⟩ := hs.unique hs'
      exact ih h

end Executes

/-! ### Instructions that succeed -/

/-- From `s`, one instruction for each entry succeeds, with the status of the entry, and leaves the
state of the entry; the last of them leaves `t`. -/
inductive Succeeds (m : Machine) (p : Program) :
    State σ → List (Status × State σ) → State σ → Prop
  | refl (s : State σ) : Succeeds m p s [] s
  | head {s t u : State σ} {status : Status} {steps : List (Status × State σ)} :
      StepsTo m p s (.ok status) t → Succeeds m p t steps u →
      Succeeds m p s ((status, t) :: steps) u

lemma Succeeds.stack_ne_nil {m : Machine} {p : Program} {s t : State σ}
    {steps : List (Status × State σ)} (h : Succeeds m p s steps t) (hsteps : steps ≠ []) :
    t.stack ≠ [] := by
  induction h with
  | refl s => exact absurd rfl hsteps
  | head hs hrest ih =>
    cases hrest with
    | refl => exact hs.stack_ne_nil
    | head hs' hrest => exact ih (List.cons_ne_nil _ _)

end StackMachine
