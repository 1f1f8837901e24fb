import StackMachine.Proofs.DebugFlag

/-!
A run is the iteration of single instructions. `runsTo_iff` says how a run ends: behind the listing
there are instructions that go on, and then one that exits or fails. A driver that executes
instructions one by one sees what the run would do, and with debugging off it can leave the rest to a
run at any time.
-/

namespace StackMachine

variable {σ : Type} [Sink σ] {m : Machine} {p : Program} {s t u : State σ}

/-! ### The end of a run -/

/-- The last instruction of a run exits, and the run is concluded, or it fails, and that is
recorded. -/
inductive Finishes (m : Machine) (p : Program) (s : State σ) :
    Except Failure RunResult → State σ → Prop
  | exited {t : State σ} : StepsTo m p s (.ok .exited) t → Finishes m p s (conclude t) t
  | failed {failure : Failure} {t : State σ} : StepsTo m p s (.error failure) t →
      Finishes m p s (.error failure) (t.record (.fault failure))

lemma Finishes.not_executing {result : Except Failure RunResult} (h : Finishes m p s result t) :
    ¬ StepsTo m p s (.ok .executing) u := by
  intro hu
  cases h with
  | exited ht => cases (ht.unique hu).1
  | failed ht => cases (ht.unique hu).1

theorem conclude_of_exited (h : StepsTo m p s (.ok .exited) t) :
    ∃ value rest, t.stack = value :: rest ∧ conclude t = .ok ⟨value, t.output⟩ := by
  obtain ⟨value, rest, ht⟩ := List.exists_cons_of_ne_nil h.stack_ne_nil
  exact ⟨value, rest, ht, by simp [conclude, ht, Stack.peek]⟩

/-! ### Repeating instructions -/

lemma finishes_of_loop {b n : ℕ} {result : Except Failure RunResult}
    (h : loop (step m p b) n s = some (result, t)) :
    ∃ k u, Executes m p k s u ∧ Finishes m p u result t := by
  induction n generalizing s with
  | zero => simp [loop] at h
  | succ n ih =>
    simp only [loop] at h
    cases hs : step m p b s with
    | none => simp [hs] at h
    | some answer =>
      obtain ⟨status, v⟩ := answer
      have hv : StepsTo m p s status v := ⟨b, hs⟩
      rw [hs] at h
      cases status with
      | error failure =>
        cases h
        exact ⟨0, s, .refl s, .failed hv⟩
      | ok status =>
        cases status with
        | exited =>
          cases h
          exact ⟨0, s, .refl s, .exited hv⟩
        | executing =>
          obtain ⟨k, u, hk, hu⟩ := ih h
          exact ⟨k + 1, u, .head hv hk, hu⟩

/-- A loop answers, whatever the bounds of its instructions and of itself, if they are large. -/
lemma loop_of_finishes {k : ℕ} {result : Except Failure RunResult} (hk : Executes m p k s u)
    (hu : Finishes m p u result t) :
    ∃ b, ∀ c n, b ≤ c → b ≤ n → loop (step m p c) n s = some (result, t) := by
  induction hk with
  | refl s =>
    cases hu with
    | exited ht =>
      obtain ⟨b, hb⟩ := ht.eventually
      refine ⟨b + 1, fun c n hc hn => ?_⟩
      obtain ⟨n, rfl⟩ : ∃ j, n = j + 1 := ⟨n - 1, by omega⟩
      simp only [loop, hb c (by omega)]
    | failed ht =>
      obtain ⟨b, hb⟩ := ht.eventually
      refine ⟨b + 1, fun c n hc hn => ?_⟩
      obtain ⟨n, rfl⟩ : ∃ j, n = j + 1 := ⟨n - 1, by omega⟩
      simp only [loop, hb c (by omega)]
  | head hs _ ih =>
    obtain ⟨b, hb⟩ := hs.eventually
    obtain ⟨b', hb'⟩ := ih hu
    -- one turn of the loop for this instruction, the others for what follows it
    refine ⟨b + b' + 1, fun c n hc hn => ?_⟩
    obtain ⟨n, rfl⟩ : ∃ j, n = j + 1 := ⟨n - 1, by omega⟩
    simp only [loop, hb c (by omega)]
    exact hb' c n (by omega) (by omega)

/-- **A run is the listing, instructions that go on, and one that ends it.** -/
theorem runsTo_iff {result : Except Failure RunResult} :
    RunsTo m p s result t ↔
      ∃ k u, Executes m p k (announce m p s) u ∧ Finishes m p u result t := by
  constructor
  · rintro ⟨n, h⟩
    exact finishes_of_loop h
  · rintro ⟨k, u, hk, hu⟩
    obtain ⟨b, hb⟩ := loop_of_finishes hk hu
    exact ⟨b, hb b b (Nat.le_refl b) (Nat.le_refl b)⟩

/-! ### The listing -/

lemma announce_of_debug_off (hs : s.debug = false) : announce m p s = s := by
  simp [announce, hs]

lemma announce_of_debug_on (hs : s.debug = true) :
    announce m p s = { s.debugLines (m.instructions.debugListing p) with
      debug := p.toList.all m.instructions.isNamed } := by
  simp [announce, hs]

lemma all_isNamed_eq_false_iff :
    p.toList.all m.instructions.isNamed = false ↔
      ∃ i ∈ p, m.instructions.name? i.op = none := by
  simp only [List.all_eq_false, Array.mem_toList_iff, InstructionSet.isNamed,
    Bool.not_eq_true, Option.isSome_eq_false_iff, Option.isNone_iff_eq_none]

/-! ### Leaving the rest to a run -/

lemma Executes.debug_off {k : ℕ} (hm : m.debug = false) (h : Executes m p k s t)
    (hs : s.debug = false) : t.debug = false := by
  induction h with
  | refl s => exact hs
  | head hst _ ih => exact ih (hst.debug_off hm hs)

/-- Where an execution has come, the end of the run is as far as it was, less what was done. -/
lemma finishes_behind {k l : ℕ} {v : State σ} {result : Except Failure RunResult}
    (hk : Executes m p k s u) (hl : Executes m p l s v) (hv : Finishes m p v result t) :
    ∃ j, Executes m p j u v := by
  rcases Nat.lt_or_ge l k with hlk | hkl
  · -- the instruction that ends the run would go on
    obtain ⟨j, rfl⟩ : ∃ j, k = l + (j + 1) := ⟨k - l - 1, by omega⟩
    cases hl.split hk with
    | head hgo _ => exact absurd hgo hv.not_executing
  · obtain ⟨j, rfl⟩ : ∃ j, l = k + j := ⟨l - k, by omega⟩
    exact ⟨j, hk.split hl⟩

/-- With debugging off, a run gives from a state on its way what it gives from its beginning. -/
theorem runsTo_of_executes {k : ℕ} {result : Except Failure RunResult} (hm : m.debug = false)
    (hs : s.debug = false) (hk : Executes m p k s u) :
    RunsTo m p u result t ↔ RunsTo m p s result t := by
  rw [runsTo_iff, runsTo_iff, announce_of_debug_off hs,
    announce_of_debug_off (hk.debug_off hm hs)]
  constructor
  · rintro ⟨l, v, hl, hv⟩
    exact ⟨k + l, v, hk.trans hl, hv⟩
  · rintro ⟨l, v, hl, hv⟩
    obtain ⟨j, hj⟩ := finishes_behind hk hl hv
    exact ⟨j, v, hj, hv⟩

/-- **A run is exactly the iteration of single instructions.** With debugging on it begins with debug
lines, behind which nothing but the flag has changed, which is off if and only if an instruction has
no name. It returns a value and an output if and only if, from there, instructions that go on are
followed by one that exits and leaves that value on top of the stack and that output; it fails if and
only if they are followed by one that fails so; and the state is the one left by the last of them,
where a failure is recorded. An instruction that does not fail leaves a value on the stack, so a run
that has exited does not fail. With debugging off, executing some of the instructions beforehand
makes no difference. -/
theorem run_iff_iterated_steps (m : Machine) (p : Program) (s : State σ) :
    (s.debug = false → announce m p s = s) ∧
    (s.debug = true → ∃ lines flag,
      announce m p s = { s.debugLines lines with debug := flag } ∧
      (flag = false ↔ ∃ i ∈ p, m.instructions.name? i.op = none)) ∧
    (∀ value output t, RunsTo m p s (.ok ⟨value, output⟩) t ↔
      ∃ k u, Executes m p k (announce m p s) u ∧ StepsTo m p u (.ok .exited) t ∧
        t.stack.head? = some value ∧ t.output = output) ∧
    (∀ failure t, RunsTo m p s (.error failure) t ↔
      ∃ k u v, Executes m p k (announce m p s) u ∧ StepsTo m p u (.error failure) v ∧
        t = v.record (.fault failure)) ∧
    (∀ (u : State σ) status t, StepsTo m p u (.ok status) t → t.stack ≠ []) ∧
    (∀ (u : State σ) t failure, StepsTo m p u (.ok .exited) t → conclude t ≠ .error failure) ∧
    (m.debug = false → s.debug = false → ∀ k u, Executes m p k s u →
      u.debug = false ∧ ∀ result t, RunsTo m p u result t ↔ RunsTo m p s result t) := by
  refine ⟨announce_of_debug_off, fun hs => ⟨_, _, announce_of_debug_on hs, all_isNamed_eq_false_iff⟩,
    fun value output t => ?_, fun failure t => ?_, fun u status t h => h.stack_ne_nil,
    fun u t failure h => ?_, fun hm hs k u hk =>
      ⟨hk.debug_off hm hs, fun result t => runsTo_of_executes hm hs hk⟩⟩
  · rw [runsTo_iff]
    constructor
    · rintro ⟨k, u, hk, hu⟩
      generalize hx : Except.ok (RunResult.mk value output) = x at hu
      cases hu with
      | failed ht => cases hx
      | exited ht =>
        obtain ⟨top, rest, hstack, hconclude⟩ := conclude_of_exited ht
        rw [hconclude] at hx
        cases hx
        exact ⟨k, u, hk, ht, by simp [hstack], rfl⟩
    · -- the value that the run returns is the one on top
      rintro ⟨k, u, hk, ht, htop, rfl⟩
      obtain ⟨top, rest, hstack, hconclude⟩ := conclude_of_exited ht
      obtain rfl : top = value := by simpa [hstack] using htop
      exact ⟨k, u, hk, hconclude ▸ .exited ht⟩
  · rw [runsTo_iff]
    constructor
    · rintro ⟨k, u, hk, hu⟩
      generalize hx : Except.error failure = x at hu
      cases hu with
      | failed ht =>
        cases hx
        exact ⟨k, u, _, hk, ht, rfl⟩
      | exited ht =>
        obtain ⟨top, rest, hstack, hconclude⟩ := conclude_of_exited ht
        rw [hconclude] at hx
        cases hx
    · rintro ⟨k, u, v, hk, ht, rfl⟩
      exact ⟨k, u, hk, .failed ht⟩
  · obtain ⟨top, rest, hstack, hconclude⟩ := conclude_of_exited h
    rw [hconclude]
    exact fun h => nomatch h

end StackMachine
