import StackMachine.Proofs.Requests
import StackMachine.Proofs.Simulation

/-!
States that agree. Two states agree if they have the same stack, counter and output, and debug flags
and sinks that are related in given ways. If the relations stand whatever a run does to flags and
sinks, then runs of one program on machines with the same instructions go on in agreement: nothing
but the flag and the sink itself can bring a difference in.
-/

namespace StackMachine

variable {σ τ : Type}

/-! ### Agreement -/

/-- The states agree but for the debug flag and the sink, which are related by `F` and `S`. -/
structure State.Agree (F : Bool → Bool → Prop) (S : σ → τ → Prop) (s : State σ) (t : State τ) :
    Prop where
  stack : s.stack = t.stack
  pc : s.pc = t.pc
  output : s.output = t.output
  debug : F s.debug t.debug
  sink : S s.sink t.sink

/-- The relations `F` of flags and `S` of sinks stand what a run does: it clears the flags on both
sides, prints and records on both sides, and sends debug lines where the flag is set. -/
structure Stable [Sink σ] [Sink τ] (F : Bool → Bool → Prop) (S : σ → τ → Prop) : Prop where
  and {a b : Bool} (c : Bool) : F a b → F (a && c) (b && c)
  print {x y} (value : Int64) : S x y → S (Sink.print x value) (Sink.print y value)
  record {x y} (entry : LogRecord) : S x y → S (Sink.record x entry) (Sink.record y entry)
  debug {x y} (line : String) : S x y → S (Sink.debug x line) (Sink.debug y line)
  debug_left {x y} (line : String) : F true false → S x y → S (Sink.debug x line) y
  debug_right {x y} (line : String) : F false true → S x y → S x (Sink.debug y line)

namespace Stable

variable [Sink σ] [Sink τ] {F : Bool → Bool → Prop} {S : σ → τ → Prop}

lemma foldl_debug (h : Stable F S) (lines : List String) {x : σ} {y : τ} (hxy : S x y) :
    S (lines.foldl Sink.debug x) (lines.foldl Sink.debug y) := by
  induction lines generalizing x y with
  | nil => exact hxy
  | cons line lines ih => exact ih (h.debug line hxy)

lemma foldl_debug_left (h : Stable F S) (hF : F true false) (lines : List String) {x : σ} {y : τ}
    (hxy : S x y) : S (lines.foldl Sink.debug x) y := by
  induction lines generalizing x with
  | nil => exact hxy
  | cons line lines ih => exact ih (h.debug_left line hF hxy)

lemma foldl_debug_right (h : Stable F S) (hF : F false true) (lines : List String) {x : σ} {y : τ}
    (hxy : S x y) : S x (lines.foldl Sink.debug y) := by
  induction lines generalizing y with
  | nil => exact hxy
  | cons line lines ih => exact ih (h.debug_right line hF hxy)

/-- Debug lines that are sent where the flag is set, which may then be cleared, do not end an
agreement. -/
lemma debugLines (h : Stable F S) (lines : List String) (c : Bool) {s : State σ} {t : State τ}
    (hst : s.Agree F S t) :
    State.Agree F S (if s.debug then { s.debugLines lines with debug := c } else s)
      (if t.debug then { t.debugLines lines with debug := c } else t) := by
  have hF := hst.debug
  have hc := h.and c hF
  cases hs : s.debug <;> cases ht : t.debug <;> simp only [hs, ht] at hF hc ⊢
  · exact hst
  · exact ⟨hst.stack, hst.pc, hst.output, by simpa [hs] using hc,
      h.foldl_debug_right hF lines hst.sink⟩
  · exact ⟨hst.stack, hst.pc, hst.output, by simpa [ht] using hc,
      h.foldl_debug_left hF lines hst.sink⟩
  · exact ⟨hst.stack, hst.pc, hst.output, by simpa using hc, h.foldl_debug lines hst.sink⟩

end Stable

lemma trace_eq [Sink σ] (m : Machine) (i : Instruction) (s : State σ) :
    trace m i s =
      let t := s.record (.exec s.pc ((m.instructions.name? i.op).getD "?") i.arg)
      if t.debug then
        { t.debugLines ((m.instructions.name? i.op).toList.map (traceLine · i.arg s.pc)) with
          debug := (m.instructions.name? i.op).isSome }
      else t := by
  cases hd : s.debug <;> cases hn : m.instructions.name? i.op <;>
    simp [trace, hd, hn, State.record, State.debugLines]

/-- **Runs of one program that agree stay in agreement**, on machines with the same instructions, if
no instruction looks at a flag in which they differ. -/
theorem agree_simulation [Sink σ] [Sink τ] {F : Bool → Bool → Prop} {S : σ → τ → Prop}
    (h : Stable F S) (set : InstructionSet) (d d' : Bool) (hd : F d d') (p : Program)
    {allowed : Request → Prop} (hset : set.OnlyAsks allowed)
    (hflag : allowed .debugging → ∀ a b, F a b → a = b) :
    Simulation ⟨set, d⟩ ⟨set, d'⟩ p p allowed (State.Agree F S) where
  stack := State.Agree.stack
  pc := State.Agree.pc
  output := State.Agree.output
  goto _ hst := ⟨hst.stack, rfl, hst.output, hst.debug, hst.sink⟩
  record entry hst := ⟨hst.stack, hst.pc, hst.output, hst.debug, h.record entry hst.sink⟩
  announce hst := h.debugLines _ _ hst
  fetch {s t} hst := by
    rw [← hst.pc]
    cases hf : p.fetch? s.pc with
    | none => exact Or.inl ⟨rfl, rfl⟩
    | some i =>
      refine Or.inr ⟨i, i, rfl, rfl, ?_, ?_⟩
      · cases ha : set.action? i.op with
        | none => exact .unknown ha ha rfl
        | some action => exact .known ha ha rfl (hset.of_action? ha i.arg)
      · rw [trace_eq, trace_eq, ← hst.pc]
        exact h.debugLines _ _
          ⟨hst.stack, hst.pc, hst.output, hst.debug, h.record _ hst.sink⟩
  serve {_ _ _ _} hstep hrun {r} hr {s t} hst := by
    obtain ⟨hstack, hpc, houtput, hdebug, hsink⟩ := hst
    cases r with
    | stack => exact Option.Rel.some ⟨hstack, hstack, hpc, houtput, hdebug, hsink⟩
    | pc => exact Option.Rel.some ⟨hpc, hstack, hpc, houtput, hdebug, hsink⟩
    | output => exact Option.Rel.some ⟨houtput, hstack, hpc, houtput, hdebug, hsink⟩
    -- the only request whose reply is the flag
    | debugging =>
      exact Option.Rel.some ⟨hflag hr _ _ hdebug, hstack, hpc, houtput, hdebug, hsink⟩
    | setStack values => exact Alike.some _ ⟨rfl, hpc, houtput, hdebug, hsink⟩
    | jump target => exact Alike.some _ ⟨hstack, rfl, houtput, hdebug, hsink⟩
    | write text => exact Alike.some _ ⟨hstack, hpc, congrArg (· ++ text) houtput, hdebug, hsink⟩
    | print value => exact Alike.some _ ⟨hstack, hpc, houtput, hdebug, h.print value hsink⟩
    | debug line => exact Alike.some _ ⟨hstack, hpc, houtput, hdebug, h.debug line hsink⟩
    | reset => exact Alike.some _ ⟨rfl, rfl, rfl, hd, hsink⟩
    | display =>
      have hdisplay : s.display ⟨set, d⟩ p = t.display ⟨set, d'⟩ p := by
        simp only [State.display, State.displayWith, hstack, hpc, houtput]
      exact Option.Rel.some ⟨hdisplay, hstack, hpc, houtput, hdebug, hsink⟩
    | step => exact hstep s t ⟨hstack, hpc, houtput, hdebug, hsink⟩
    | run => exact hrun s t ⟨hstack, hpc, houtput, hdebug, hsink⟩

/-- On one machine runs stay in agreement that differ in their sinks only, whatever the
instructions ask. -/
theorem Stable.simulation [Sink σ] [Sink τ] {S : σ → τ → Prop} (h : Stable Eq S) (m : Machine)
    (p : Program) : Simulation m m p p (fun _ => True) (State.Agree Eq S) :=
  agree_simulation h m.instructions m.debug m.debug rfl p
    (fun _ _ _ => Script.onlyAsks_of_forall (fun _ => trivial) _) fun _ _ _ heq => heq

/-! ### Sinks that were given something before -/

/-- The things that the second sink was given stand behind those of the first. -/
instance : Append Transcript :=
  ⟨fun x y => ⟨x.events ++ y.events, x.log ++ y.log⟩⟩

/-- The state, if its sink had been given all of `x` before. -/
def State.after (x : Transcript) (s : State Transcript) : State Transcript :=
  { s with sink := x ++ s.sink }

lemma stable_after (x : Transcript) : Stable Eq fun y z : Transcript => z = x ++ y where
  and c h := congrArg (· && c) h
  print value h := h ▸ congrArg (Transcript.mk · _) Array.append_push.symm
  record entry h := h ▸ congrArg (Transcript.mk _) Array.append_push.symm
  debug line h := h ▸ congrArg (Transcript.mk · _) Array.append_push.symm
  debug_left _ h := by simp at h
  debug_right _ h := by simp at h

lemma State.agree_after (x : Transcript) (s : State Transcript) :
    s.Agree Eq (fun y z => z = x ++ y) (s.after x) :=
  ⟨rfl, rfl, rfl, rfl, rfl⟩

lemma State.Agree.eq_after {x : Transcript} {s t : State Transcript}
    (h : s.Agree Eq (fun y z => z = x ++ y) t) : t = s.after x := by
  obtain ⟨hstack, hpc, houtput, hdebug, hsink⟩ := h
  cases t
  simp only [State.after, hstack, hpc, houtput, hdebug, ← hsink]

/-- **What a sink was given before does not matter** for the answer to a request, nor for what is
given to the sink then. -/
theorem answer_after (m : Machine) (p : Program) (n : ℕ) (r : Request) (x : Transcript)
    (s : State Transcript) :
    answer m p n r (s.after x) = (answer m p n r s).map fun (reply, t) => (reply, t.after x) := by
  have hsim := (stable_after x).simulation m p
  rcases (hsim.answer n trivial (s.agree_after x)).cases with ⟨hs, ht⟩ | ⟨reply, t, u, hs, ht, hR⟩
  · rw [hs, ht]
    rfl
  · rw [hs, ht, hR.eq_after]
    rfl

end StackMachine
