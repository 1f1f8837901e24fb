import Mathlib.Tactic.Common
import StackMachine.Execution.Bound

/-!
Simulations between runs. A simulation relates the states of two runs, which may be on different
machines, of different programs and with different sinks, so that in related states the same
instruction is fetched and requests are answered alike. Scripts, instructions and whole runs then
have the same results and leave related states, and the one answers within a bound if the other
does.
-/

namespace StackMachine

variable {σ τ α ω υ : Type}

/-! ### Answers that are alike -/

/-- Two answers are alike: there is none on either side, or the replies are equal and the states
left are related. -/
def Alike (R : ω → υ → Prop) (x : Option (α × ω)) (y : Option (α × υ)) : Prop :=
  Option.Rel (fun a b => a.1 = b.1 ∧ R a.2 b.2) x y

section

variable {R : ω → υ → Prop}

lemma Alike.none : Alike (α := α) R none none :=
  Option.Rel.none

lemma Alike.some {s : ω} {t : υ} (a : α) (h : R s t) : Alike R (some (a, s)) (some (a, t)) :=
  Option.Rel.some ⟨rfl, h⟩

lemma Alike.cases {x : Option (α × ω)} {y : Option (α × υ)} (h : Alike R x y) :
    (x = Option.none ∧ y = Option.none) ∨
      ∃ a s t, x = Option.some (a, s) ∧ y = Option.some (a, t) ∧ R s t := by
  cases h with
  | none => exact Or.inl ⟨rfl, rfl⟩
  | @some x y h =>
    obtain ⟨a, s⟩ := x
    obtain ⟨b, t⟩ := y
    obtain ⟨rfl, hR⟩ := h
    exact Or.inr ⟨a, s, t, rfl, rfl, hR⟩

end

section

variable {R : State σ → State τ → Prop}

/-- **Hosts that answer alike carry out a script alike**, if it asks nothing else. -/
theorem Script.exec_alike {allowed : Request → Prop} {host : Host σ} {host' : Host τ}
    (h : ∀ r, allowed r → ∀ s t, R s t → Alike R (host r s) (host' r t)) (script : Script α)
    (hs : script.OnlyAsks allowed) {s : State σ} {t : State τ} (hR : R s t) :
    Alike R (script.exec host s) (script.exec host' t) := by
  induction script generalizing s t with
  | pure value => exact Alike.some _ hR
  | fail fault => exact Alike.some _ hR
  | ask r next ih =>
    obtain ⟨hr, hnext⟩ := hs
    simp only [Script.exec]
    rcases (h r hr s t hR).cases with ⟨hx, hy⟩ | ⟨reply, s', t', hx, hy, hR'⟩
    · rw [hx, hy]
      exact Alike.none
    · rw [hx, hy]
      exact ih reply (hnext reply) hR'

end

/-! ### Simulations -/

/-- The instructions `i` of `m` and `i'` of `m'` do the same: they have one action, whose script
asks only what is allowed, or neither has an action and they are shown alike. -/
inductive SameAction (m m' : Machine) (allowed : Request → Prop) (i i' : Instruction) : Prop
  | known {action : Action} : m.instructions.action? i.op = some action →
      m'.instructions.action? i'.op = some action → i.arg = i'.arg →
      (action i.arg).OnlyAsks allowed → SameAction m m' allowed i i'
  | unknown : m.instructions.action? i.op = none → m'.instructions.action? i'.op = none →
      i.op = i'.op → SameAction m m' allowed i i'

/-- A relation between the states of runs of `p` on `m` and of `p'` on `m'` that is kept by
everything they do, as long as scripts ask only what is allowed. -/
structure Simulation [Sink σ] [Sink τ] (m m' : Machine) (p p' : Program)
    (allowed : Request → Prop) (R : State σ → State τ → Prop) : Prop where
  stack {s t} : R s t → s.stack = t.stack
  pc {s t} : R s t → s.pc = t.pc
  output {s t} : R s t → s.output = t.output
  goto {s t} (address : UInt64) : R s t → R { s with pc := address } { t with pc := address }
  record {s t} (entry : LogRecord) : R s t → R (s.record entry) (t.record entry)
  announce {s t} : R s t → R (announce m p s) (announce m' p' t)
  fetch {s t} : R s t → (p.fetch? s.pc = none ∧ p'.fetch? t.pc = none) ∨
    ∃ i i', p.fetch? s.pc = some i ∧ p'.fetch? t.pc = some i' ∧ SameAction m m' allowed i i' ∧
      R (trace m i s) (trace m' i' t)
  serve {step : Stepper σ} {step' : Stepper τ} {run : Runner σ} {run' : Runner τ}
    (hstep : ∀ s t, R s t → Alike R (step s) (step' t))
    (hrun : ∀ s t, R s t → Alike R (run s) (run' t)) {r} (hr : allowed r) {s t} : R s t →
      Alike R (serve m p step run r s) (serve m' p' step' run' r t)

namespace Simulation

variable [Sink σ] [Sink τ] {m m' : Machine} {p p' : Program} {allowed : Request → Prop}
  {R : State σ → State τ → Prop}

lemma conclude_eq (h : Simulation m m' p p' allowed R) {s : State σ} {t : State τ} (hR : R s t) :
    conclude s = conclude t := by
  simp only [conclude, h.stack hR, h.pc hR, h.output hR]

lemma cycle (h : Simulation m m' p p' allowed R) {host : Host σ} {host' : Host τ}
    (hhost : ∀ r, allowed r → ∀ s t, R s t → Alike R (host r s) (host' r t)) {s : State σ}
    {t : State τ} (hR : R s t) : Alike R (cycle m p host s) (cycle m' p' host' t) := by
  have hpc := h.pc hR
  rcases h.fetch hR with ⟨hf, hf'⟩ | ⟨i, i', hf, hf', hact, htrace⟩
  · rw [cycle_of_fetch_none hf, cycle_of_fetch_none hf', hpc]
    exact Alike.some _ hR
  · cases hact with
    | unknown ha ha' hop =>
      rw [cycle_of_action_none hf ha, cycle_of_action_none hf' ha', hpc, hop]
      exact Alike.some _ htrace
    | @known action ha ha' harg hasks =>
      cases hn : nextAddress? s.pc with
      | none =>
        rw [cycle_of_next_none hf ha hn, cycle_of_next_none hf' ha' (hpc ▸ hn)]
        exact Alike.some _ htrace
      | some next =>
        rw [cycle_of_action hf ha hn, cycle_of_action hf' ha' (hpc ▸ hn), ← harg]
        have hexec := Script.exec_alike hhost (action i.arg) hasks (h.goto next htrace)
        rcases hexec.cases with ⟨hx, hy⟩ | ⟨result, s', t', hx, hy, hR'⟩
        · rw [hx, hy]
          exact Alike.none
        · have hsettle : settle s.pc result s'.stack = settle t.pc result t'.stack := by
            rw [hpc, h.stack hR']
          rw [hx, hy, Option.map_some, Option.map_some]
          exact Option.Rel.some ⟨hsettle, hR'⟩

lemma loop (h : Simulation m m' p p' allowed R) {step : Stepper σ} {step' : Stepper τ}
    (hstep : ∀ s t, R s t → Alike R (step s) (step' t)) (n : ℕ) {s : State σ} {t : State τ}
    (hR : R s t) : Alike R (loop step n s) (loop step' n t) := by
  induction n generalizing s t with
  | zero => exact Alike.none
  | succ n ih =>
    simp only [StackMachine.loop]
    rcases (hstep s t hR).cases with ⟨hx, hy⟩ | ⟨result, s', t', hx, hy, hR'⟩
    · rw [hx, hy]
      exact Alike.none
    · rw [hx, hy]
      cases result with
      | error failure => exact Alike.some _ (h.record _ hR')
      | ok status =>
        cases status with
        | exited =>
          simp only [h.conclude_eq hR']
          exact Alike.some _ hR'
        | executing => exact ih hR'

/-- **Related states execute one instruction alike**, within every bound. -/
theorem step (h : Simulation m m' p p' allowed R) (n : ℕ) {s : State σ} {t : State τ}
    (hR : R s t) : Alike R (step m p n s) (step m' p' n t) := by
  induction n generalizing s t with
  | zero => exact Alike.none
  | succ n ih =>
    refine h.cycle (fun r hr s t => h.serve (fun s t => ih) (fun s t hR => ?_) hr) hR
    exact h.loop (fun s t => ih) n (h.announce hR)

/-- **Related states run alike**, within every bound. -/
theorem run (h : Simulation m m' p p' allowed R) (n : ℕ) {s : State σ} {t : State τ}
    (hR : R s t) : Alike R (run m p n s) (run m' p' n t) :=
  h.loop (fun _ _ => h.step n) n (h.announce hR)

theorem answer (h : Simulation m m' p p' allowed R) (n : ℕ) {r : Request} (hr : allowed r)
    {s : State σ} {t : State τ} (hR : R s t) :
    Alike R (answer m p n r s) (answer m' p' n r t) :=
  h.serve (fun _ _ => h.step n) (fun _ _ => h.run n) hr hR

end Simulation

end StackMachine
