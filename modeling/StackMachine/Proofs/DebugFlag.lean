import StackMachine.Proofs.Agreement
import StackMachine.Proofs.Completion

/-!
The debug flag and the sink change nothing. What drives a machine makes requests one after the
other, steps and runs among them, and sees the replies and the states they leave. If no instruction
asks for the flag, then all of this is the same whatever the flag of the machine, printed values and
log included; and whatever the sink, everything is the same but the sink. On a machine without
debugging the flag stays off.
-/

namespace StackMachine

variable {σ τ : Type}

/-! ### What a driver sees -/

/-- A request, the reply to it and the state in which it was answered. -/
structure Answered (σ : Type) where
  request : Request
  reply : request.Reply
  state : State σ

/-- The requests and the replies are the same, and the states are related. -/
def Answered.Alike (R : State σ → State τ → Prop) (x : Answered σ) (y : Answered τ) : Prop :=
  (⟨x.request, x.reply⟩ : (r : Request) × r.Reply) = ⟨y.request, y.reply⟩ ∧ R x.state y.state

def answerAll (host : Host σ) : List Request → State σ → Option (List (Answered σ))
  | [], _ => some []
  | r :: rest, s =>
    match host r s with
    | none => none
    | some (reply, t) => (answerAll host rest t).map (⟨r, reply, t⟩ :: ·)

/-- Hosts that answer alike do so over any sequence of requests, one for one. -/
theorem answerAll_alike {R : State σ → State τ → Prop} {host : Host σ} {host' : Host τ}
    {requests : List Request}
    (h : ∀ r ∈ requests, ∀ s t, R s t → Alike R (host r s) (host' r t)) {s : State σ}
    {t : State τ} (hR : R s t) :
    Option.Rel (List.Forall₂ (Answered.Alike R)) (answerAll host requests s)
      (answerAll host' requests t) := by
  induction requests generalizing s t with
  | nil => exact .some .nil
  | cons r rest ih =>
    simp only [answerAll]
    have hr := h r (List.mem_cons_self ..) s t hR
    rcases hr.cases with ⟨hx, hy⟩ | ⟨reply, s', t', hx, hy, hR'⟩
    · rw [hx, hy]
      exact .none
    · rw [hx, hy]
      have hrest := ih (fun r hr => h r (List.mem_cons_of_mem _ hr)) hR'
      dsimp only
      generalize answerAll host rest s' = xs at hrest ⊢
      generalize answerAll host' rest t' = ys at hrest ⊢
      cases hrest with
      | none => exact .none
      | some hrest => exact .some (.cons ⟨rfl, hR'⟩ hrest)

/-! ### What a sink was given, debug lines apart -/

def SinkEvent.printed? : SinkEvent → Option Int64
  | .print value => some value
  | .debug _ => none

def Transcript.prints (x : Transcript) : List Int64 :=
  x.events.toList.filterMap SinkEvent.printed?

namespace Transcript

variable (x : Transcript)

@[simp] lemma prints_print (value : Int64) : (Sink.print x value).prints = x.prints ++ [value] := by
  simp [prints, Sink.print, SinkEvent.printed?]

@[simp] lemma prints_debug (line : String) : (Sink.debug x line).prints = x.prints := by
  simp [prints, Sink.debug, SinkEvent.printed?]

@[simp] lemma prints_record (entry : LogRecord) : (Sink.record x entry).prints = x.prints := rfl

@[simp] lemma log_print (value : Int64) : (Sink.print x value).log = x.log := rfl

@[simp] lemma log_debug (line : String) : (Sink.debug x line).log = x.log := rfl

@[simp] lemma log_record (entry : LogRecord) : (Sink.record x entry).log = x.log.push entry := rfl

end Transcript

/-- The same values were printed and the same was recorded. -/
def SameTrace (x y : Transcript) : Prop :=
  x.prints = y.prints ∧ x.log = y.log

lemma stable_sameTrace : Stable (fun _ _ => True) SameTrace where
  and _ _ := trivial
  print value h := ⟨by simp [h.1], by simp [h.2]⟩
  record entry h := ⟨by simp [h.1], by simp [h.2]⟩
  debug line h := ⟨by simp [h.1], by simp [h.2]⟩
  debug_left line _ h := ⟨by simp [h.1], by simp [h.2]⟩
  debug_right line _ h := ⟨by simp [h.1], by simp [h.2]⟩

/-- The same was recorded, by a sink that keeps the rest and by one that drops it. -/
def SameLog (x : Transcript) (y : Muted Transcript) : Prop :=
  x.log = y.inner.log

lemma stable_sameLog : Stable (fun _ _ => True) SameLog where
  and _ _ := trivial
  print _ h := h
  record entry h := congrArg (fun log : Array LogRecord => log.push entry) h
  debug _ h := h
  debug_left _ _ h := h
  debug_right _ _ h := h

lemma stable_eq [Sink σ] [Sink τ] : Stable Eq fun (_ : σ) (_ : τ) => True where
  and c h := congrArg (· && c) h
  print _ _ := trivial
  record _ _ := trivial
  debug _ _ := trivial
  debug_left _ _ _ := trivial
  debug_right _ _ _ := trivial

/-- Flags that are off stay off, and then sinks are given the same. -/
lemma stable_off [Sink σ] : Stable (fun a b => a = false ∧ b = false) (Eq : σ → σ → Prop) where
  and c h := ⟨by simp [h.1], by simp [h.2]⟩
  print _ h := h ▸ rfl
  record _ h := h ▸ rfl
  debug _ h := h ▸ rfl
  debug_left _ h := by simp at h
  debug_right _ h := by simp at h

/-! ### Steps of related states -/

lemma Simulation.stepsTo [Sink σ] [Sink τ] {m m' : Machine} {p p' : Program}
    {allowed : Request → Prop} {R : State σ → State τ → Prop}
    (h : Simulation m m' p p' allowed R) {s t : State σ} {u : State τ}
    {result : Except Failure Status} (hs : StepsTo m p s result t) (hR : R s u) :
    ∃ v, StepsTo m' p' u result v ∧ R t v := by
  obtain ⟨n, hn⟩ := hs
  rcases (h.step n hR).cases with ⟨hnone, -⟩ | ⟨_, t', v, ht', hv, hR'⟩
  · rw [hn] at hnone
    cases hnone
  · rw [hn] at ht'
    cases ht'
    exact ⟨v, ⟨n, hv⟩, hR'⟩

/-! ### The flag of a machine -/

/-- On a machine without debugging, a run without debugging goes on without it. -/
theorem StepsTo.debug_off [Sink σ] {m : Machine} {p : Program} {s t : State σ}
    {result : Except Failure Status} (hm : m.debug = false) (hs : s.debug = false)
    (h : StepsTo m p s result t) : t.debug = false := by
  obtain ⟨set, d⟩ := m
  have hall : set.OnlyAsks fun _ => True :=
    fun entry _ arg => Script.onlyAsks_of_forall (fun _ => trivial) _
  have hoff : Stable (fun a b => a = false ∧ b = false) (Eq : σ → σ → Prop) := stable_off
  have hsim := agree_simulation hoff set d d ⟨hm, hm⟩ p hall fun _ _ _ h => h.1.trans h.2.symm
  have hself : s.Agree (fun a b => a = false ∧ b = false) Eq s := ⟨rfl, rfl, rfl, ⟨hs, hs⟩, rfl⟩
  obtain ⟨_, -, hR⟩ := hsim.stepsTo h hself
  exact hR.debug.1

/-- **The debug flag changes nothing.** Let no instruction of the set ask for the flag. Requests made
of fresh runs of one program on two machines that differ in the flag get the same replies and leave
the same stack, counter and output, with the same prints and the same log; so they do if one of the
two has a sink that drops prints and debug lines. With one flag and any two sinks nothing differs but
the sinks. -/
theorem debug_changes_nothing (set : InstructionSet) (hset : set.OnlyAsks (· ≠ .debugging))
    (d d' : Bool) (p : Program) (calls : List Request) (hcalls : ∀ r ∈ calls, r ≠ .debugging)
    (n : ℕ) :
    Option.Rel (List.Forall₂ (Answered.Alike (State.Agree (fun _ _ => True) SameTrace)))
      (answerAll (answer ⟨set, d⟩ p n) calls (.initial ⟨set, d⟩ {}))
      (answerAll (answer ⟨set, d'⟩ p n) calls (.initial ⟨set, d'⟩ {})) ∧
    Option.Rel (List.Forall₂ (Answered.Alike (State.Agree (fun _ _ => True) SameLog)))
      (answerAll (answer ⟨set, d⟩ p n) calls (.initial ⟨set, d⟩ {}))
      (answerAll (answer ⟨set, d'⟩ p n) calls (.initial ⟨set, d'⟩ ⟨{}⟩)) ∧
    ∀ {σ τ : Type} [Sink σ] [Sink τ] (x : σ) (y : τ),
      Option.Rel (List.Forall₂ (Answered.Alike (State.Agree Eq fun _ _ => True)))
        (answerAll (answer ⟨set, d⟩ p n) calls (.initial ⟨set, d⟩ x))
        (answerAll (answer ⟨set, d⟩ p n) calls (.initial ⟨set, d⟩ y)) := by
  refine ⟨?_, ?_, fun {σ τ} _ _ x y => ?_⟩
  · have h := agree_simulation stable_sameTrace set d d' trivial p hset fun hr => absurd rfl hr
    exact answerAll_alike (fun r hr s t => h.answer n (hcalls r hr))
      ⟨rfl, rfl, rfl, trivial, rfl, rfl⟩
  · have h := agree_simulation stable_sameLog set d d' trivial p hset fun hr => absurd rfl hr
    exact answerAll_alike (fun r hr s t => h.answer n (hcalls r hr))
      ⟨rfl, rfl, rfl, trivial, rfl⟩
  · -- with one flag the instructions may ask for it
    have hall : set.OnlyAsks fun _ => True := hset.mono fun _ _ => trivial
    have heq : Stable Eq fun (_ : σ) (_ : τ) => True := stable_eq
    have h := agree_simulation heq set d d rfl p hall fun _ _ _ h => h
    exact answerAll_alike (fun r hr s t => h.answer n trivial) ⟨rfl, rfl, rfl, rfl, trivial⟩

/-- The instructions may run the program they are part of, and the program may hold an operation
that is not registered. -/
theorem debug_changes_nothing_nested : ∃ id set,
    InstructionSet.standard.register "RUN" (fun _ => do let _ ← Script.run; return .executing) =
      .ok (id, set) ∧
    set.OnlyAsks (· ≠ .debugging) ∧ (∀ r ∈ [Request.step, Request.run], r ≠ .debugging) ∧
    Option.Rel (List.Forall₂ (Answered.Alike (State.Agree (fun _ _ => True) SameTrace)))
      (answerAll (answer ⟨set, true⟩ #[⟨1, 7⟩, ⟨13, 0⟩, ⟨99, 0⟩] 9) [.step, .run]
        (.initial ⟨set, true⟩ {}))
      (answerAll (answer ⟨set, false⟩ #[⟨1, 7⟩, ⟨13, 0⟩, ⟨99, 0⟩] 9) [.step, .run]
        (.initial ⟨set, false⟩ {})) := by
  have hset : InstructionSet.standard.OnlyAsks (· ≠ .debugging) :=
    InstructionSet.standard_onlyAsks.mono fun r hr hd => by
      subst hd
      exact hr
  have hcalls : ∀ r ∈ [Request.step, Request.run], r ≠ .debugging := by simp
  have hrun : ∀ arg : Int64, Script.OnlyAsks (· ≠ .debugging)
      ((fun _ => do let _ ← Script.run; return .executing : Action) arg) :=
    fun _ => Script.OnlyAsks.bind (Script.onlyAsks_request (by simp)) fun _ => trivial
  obtain ⟨id, set, hr⟩ : ∃ id set, InstructionSet.standard.register "RUN"
      (fun _ => do let _ ← Script.run; return .executing) = .ok (id, set) := ⟨_, _, rfl⟩
  have hlarger : set.OnlyAsks (· ≠ .debugging) := hset.register hrun hr
  exact ⟨id, set, hr, hlarger, hcalls,
    (debug_changes_nothing set hlarger true false _ _ hcalls 9).1⟩

end StackMachine
