import StackMachine.Proofs.ListingRoundTrip
import StackMachine.Proofs.StandardFaults

/-!
What is seen of a run. The course of a run is the list of its steps, and a step that fetches an
instruction is a visit. On the standard machine all that a run shows is read off its visits, in
their order: the log has a record of each, the output the texts of those that write, and the sink the
values of those that print, each behind the debug line of its visit if debugging is on.
-/

namespace StackMachine

variable {σ : Type}

/-! ### Courses -/

section

variable [Sink σ] {m : Machine} {p : Program} {s t u v : State σ}

/-- The steps of a run from `s`, each as the state before it and its result. All go on but the last,
which gives `result` and leaves `t`. -/
inductive Course (m : Machine) (p : Program) :
    State σ → List (State σ × Except Failure Status) → Except Failure Status → State σ → Prop
  | last {s t : State σ} {result : Except Failure Status} : StepsTo m p s result t →
      result ≠ .ok .executing → Course m p s [(s, result)] result t
  | next {s t u : State σ} {steps : List (State σ × Except Failure Status)}
      {result : Except Failure Status} : StepsTo m p s (.ok .executing) t →
      Course m p t steps result u → Course m p s ((s, .ok .executing) :: steps) result u

lemma Course.unique {steps steps' : List (State σ × Except Failure Status)}
    {x y : Except Failure Status} (hx : Course m p s steps x t) (hy : Course m p s steps' y u) :
    steps = steps' ∧ x = y ∧ t = u := by
  induction hx generalizing steps' with
  | last hs hend =>
    cases hy with
    | last hs' _ =>
      obtain ⟨rfl, rfl⟩ := hs.unique hs'
      exact ⟨rfl, rfl, rfl⟩
    | next hs' _ => exact absurd (hs.unique hs').1 hend
  | next hs _ ih =>
    cases hy with
    | last hs' hend => exact absurd (hs.unique hs').1.symm hend
    | next hs' hy =>
      obtain ⟨-, rfl⟩ := hs.unique hs'
      obtain ⟨rfl, rfl, rfl⟩ := ih hy
      exact ⟨rfl, rfl, rfl⟩

lemma Course.last_ne {steps : List (State σ × Except Failure Status)}
    {last : Except Failure Status} (h : Course m p s steps last t) : last ≠ .ok .executing := by
  induction h with
  | last _ hend => exact hend
  | next _ _ ih => exact ih

lemma Executes.course {k : ℕ} {result : Except Failure Status} (hk : Executes m p k s u)
    (hu : StepsTo m p u result t) (hend : result ≠ .ok .executing) :
    ∃ steps, Course m p s steps result t ∧ steps.length = k + 1 := by
  induction hk with
  | refl s => exact ⟨_, .last hu hend, rfl⟩
  | head hs _ ih =>
    obtain ⟨steps, hsteps, hlength⟩ := ih hu
    exact ⟨_, .next hs hsteps, congrArg (· + 1) hlength⟩

lemma Course.exists_executes {steps : List (State σ × Except Failure Status)}
    {last : Except Failure Status} (h : Course m p s steps last t) :
    ∃ k u, steps.length = k + 1 ∧ Executes m p k s u ∧ StepsTo m p u last t := by
  induction h with
  | last hs _ => exact ⟨0, _, rfl, .refl _, hs⟩
  | next hs _ ih =>
    obtain ⟨k, u, hk, hexec, hu⟩ := ih
    exact ⟨k + 1, u, congrArg (· + 1) hk, .head hs hexec, hu⟩

/-- **A run that ends has a course** behind its listing. If its last step fails, so does the run, and
this is recorded; else the run returns the top value and the output. -/
theorem RunsTo.course {result : Except Failure RunResult} (h : RunsTo m p s result t) :
    ∃ steps last u, Course m p (announce m p s) steps last u ∧
      ((∃ failure, last = .error failure ∧ result = .error failure ∧
          t = u.record (.fault failure)) ∨
        last = .ok .exited ∧
          (∃ value rest, t.stack = value :: rest ∧ result = .ok ⟨value, t.output⟩) ∧ t = u) := by
  obtain ⟨k, u, hk, hu⟩ := runsTo_iff.1 h
  cases hu with
  | exited ht =>
    obtain ⟨steps, hsteps, -⟩ := hk.course ht (by simp)
    obtain ⟨value, rest, hstack, hconclude⟩ := conclude_of_exited ht
    exact ⟨steps, _, _, hsteps, .inr ⟨rfl, ⟨value, rest, hstack, hconclude⟩, rfl⟩⟩
  | failed ht =>
    obtain ⟨steps, hsteps, -⟩ := hk.course ht (by simp)
    exact ⟨steps, _, _, hsteps, .inl ⟨_, rfl, rfl, rfl⟩⟩

/-- A run ends if and only if it has a course behind its listing. -/
lemma exists_runsTo_iff : (∃ result t, RunsTo m p s result t) ↔
    ∃ steps last u, Course m p (announce m p s) steps last u := by
  constructor
  · rintro ⟨result, t, h⟩
    obtain ⟨steps, last, u, hcourse, -⟩ := h.course
    exact ⟨steps, last, u, hcourse⟩
  · rintro ⟨steps, last, u, hcourse⟩
    obtain ⟨k, v, -, hk, hv⟩ := hcourse.exists_executes
    have hend := hcourse.last_ne
    rcases last with failure | _ | _
    · exact ⟨_, _, runsTo_iff.2 ⟨k, v, hk, .failed hv⟩⟩
    · exact absurd rfl hend
    · exact ⟨_, _, runsTo_iff.2 ⟨k, v, hk, .exited hv⟩⟩

end

/-! ### Visits -/

/-- A step that fetched an instruction: its address, its operation and its argument, the value on top
of the stack before it, if any, and whether the step succeeded. -/
structure Visit where
  pc : UInt64
  op : OpId
  arg : Int64
  top : Option Int64
  succeeded : Bool
  deriving DecidableEq, Repr

/-- The visit of the instruction `i` in `s` by a step of the given result. -/
def Visit.of (i : Instruction) (s : State σ) (result : Except Failure Status) : Visit :=
  ⟨s.pc, i.op, i.arg, s.stack.head?, result.isOk⟩

/-- The visits among the steps of a course. -/
def visits (p : Program) (steps : List (State σ × Except Failure Status)) : List Visit :=
  steps.filterMap fun (s, result) => (p.fetch? s.pc).map (Visit.of · s result)

section

variable {p : Program} {s : State σ} {i : Instruction} {result : Except Failure Status}

lemma visits_of_outside (h : p.fetch? s.pc = none) : visits p [(s, result)] = [] := by
  simp [visits, h]

lemma visits_of_fetch (h : p.fetch? s.pc = some i) :
    visits p [(s, result)] = [Visit.of i s result] := by
  simp [visits, h]

lemma visits_cons (steps : List (State σ × Except Failure Status)) :
    visits p ((s, result) :: steps) = visits p [(s, result)] ++ visits p steps := by
  rw [visits, visits, visits, ← List.filterMap_append]
  rfl

end

namespace Visit

/-- The name of the operation, or a question mark. -/
def name (v : Visit) : String :=
  (InstructionSet.standard.name? v.op).getD "?"

def record (v : Visit) : LogRecord :=
  .exec v.pc v.name v.arg

/-- The debug line of a visit. -/
def line (v : Visit) : String :=
  "-- exec " ++ v.name ++ " arg=" ++ toString v.arg.toInt ++ " at pc=" ++ toString v.pc.toNat

/-- The visit is one of the opcode, which succeeded. -/
def Achieves (v : Visit) (op : Opcode) : Prop :=
  v.op = op.id ∧ v.succeeded = true

instance (v : Visit) (op : Opcode) : Decidable (v.Achieves op) :=
  inferInstanceAs (Decidable (_ ∧ _))

/-- The value that a visit prints. -/
def printed (v : Visit) : List Int64 :=
  if v.Achieves .print then v.top.toList else []

/-- The text that a visit writes: the top value in decimal, or as a character, or nothing. -/
inductive Writes (v : Visit) : String → Prop
  | decimal {top : Int64} : v.Achieves .write → v.top = some top → Writes v (toString top.toInt)
  | character {top : Int64} {c : Char} : v.Achieves .writeChar → v.top = some top →
      Opcode.IsCharacter top.toInt c → Writes v (String.singleton c)
  | nothing : ¬ v.Achieves .write → ¬ v.Achieves .writeChar → Writes v ""

/-- What a visit shows: its line, if lines are shown, and then what it prints. -/
def events (shown : Bool) (v : Visit) : List SinkEvent :=
  (if shown then [.debug v.line] else []) ++ v.printed.map .print

end Visit

/-! ### One visit -/

namespace Opcode

variable {op : Opcode} {i : Instruction} {s : State σ} {result : Except Failure Status}

lemma achieves_iff (hop : op.id = i.op) {op' : Opcode} :
    (Visit.of i s result).Achieves op' ↔ op = op' ∧ result.isOk = true := by
  rw [← id_inj, hop]
  rfl

lemma printed_of (hop : op.id = i.op) (hresult : result.isOk = true) :
    (Visit.of i s result).printed = op.printed s.stack := by
  unfold Visit.printed
  simp only [achieves_iff hop, hresult, and_true]
  by_cases h : op = print
  · subst h
    rw [if_pos rfl]
    show s.stack.head?.toList = _
    cases s.stack <;> rfl
  · rw [if_neg h]
    cases op <;> first | rfl | exact absurd rfl h

lemma writes_of (hop : op.id = i.op) (hresult : result.isOk = true)
    (hfault : op.fault? s.stack = none) {text : String} (h : op.Writes s.stack text) :
    (Visit.of i s result).Writes text := by
  by_cases hwrite : op = write ∨ op = writeChar
  · -- it needs a value on the stack
    have hne : s.stack ≠ [] := by
      intro hnil
      rw [hnil] at hfault
      rcases hwrite with rfl | rfl <;> simp [fault?] at hfault
    obtain ⟨top, rest, hstack⟩ := List.exists_cons_of_ne_nil hne
    have htop : (Visit.of i s result).top = some top := by
      show s.stack.head? = some top
      rw [hstack, List.head?_cons]
    rw [hstack] at h
    rcases hwrite with rfl | rfl
    · obtain rfl : text = toString top.toInt := h
      exact .decimal ((achieves_iff hop).2 ⟨rfl, hresult⟩) htop
    · obtain ⟨c, hc, rfl⟩ := h
      exact .character ((achieves_iff hop).2 ⟨rfl, hresult⟩) htop hc
  · -- all other opcodes write nothing
    obtain ⟨hdecimal, hcharacter⟩ := not_or.1 hwrite
    have hempty : text = "" := by
      cases op <;> first | exact h | exact absurd rfl hdecimal | exact absurd rfl hcharacter
    rw [hempty]
    exact .nothing (fun h => hdecimal ((achieves_iff hop).1 h).1)
      fun h => hcharacter ((achieves_iff hop).1 h).1

end Opcode

namespace Visit

variable {v : Visit}

lemma printed_of_failed (h : v.succeeded = false) : v.printed = [] := by
  simp [printed, Achieves, h]

lemma writes_of_failed (h : v.succeeded = false) : v.Writes "" :=
  .nothing (by simp [Achieves, h]) (by simp [Achieves, h])

end Visit

/-- **What a visit leaves**: the flag that fetching leaves, the output with what the visit writes, and
the sink with what it prints behind what fetching shows. -/
lemma StepsTo.visit [Sink σ] {debug : Bool} {p : Program} {s t : State σ} {i : Instruction}
    {result : Except Failure Status} (h : StepsTo (.standard debug) p s result t)
    (hf : p.fetch? s.pc = some i) :
    t.debug = (trace (.standard debug) i s).debug ∧
      (∃ text, (Visit.of i s result).Writes text ∧ t.output = s.output ++ text) ∧
      t.sink =
        (Visit.of i s result).printed.foldl Sink.print (trace (.standard debug) i s).sink := by
  cases h.standard with
  | outside hout =>
    have hlt : s.pc.toNat < p.size := (Array.getElem?_eq_some_iff.1 hf).1
    omega
  | unknown hf' _ | overflow hf' _ =>
    obtain rfl := Option.some.inj (hf.symm.trans hf')
    refine ⟨rfl, ⟨"", Visit.writes_of_failed rfl, by simp⟩, ?_⟩
    rw [Visit.printed_of_failed rfl, List.foldl_nil]
  | @opcode i' op next _ hf' hop _ houtcome =>
    obtain rfl := Option.some.inj (hf.symm.trans hf')
    generalize hu : ({ trace (.standard debug) i s with pc := next } : State σ) = u
    have hustack : u.stack = s.stack := by simp [← hu]
    have huoutput : u.output = s.output := by simp [← hu]
    have hudebug : u.debug = (trace (.standard debug) i s).debug := by rw [← hu]
    have husink : u.sink = (trace (.standard debug) i s).sink := by rw [← hu]
    cases hfault : op.fault? s.stack with
    | some fault =>
      -- a visit that fails neither writes nor prints
      have hfailed : (Visit.of i s result).succeeded = false := by
        rw [← houtcome, Opcode.outcome_eq_error_iff.2 ⟨fault, hfault, rfl⟩]
        rfl
      rw [← hustack] at hfault
      rw [Opcode.perform_of_fault?_eq_some i.arg hfault]
      refine ⟨hudebug, ⟨"", Visit.writes_of_failed hfailed, by simp [huoutput]⟩, ?_⟩
      rw [Visit.printed_of_failed hfailed, List.foldl_nil]
      exact husink
    | none =>
      have hok : result.isOk = true := by
        rw [← houtcome, Opcode.outcome_eq_ok_iff.2 ⟨hfault, rfl⟩]
        rfl
      rw [← hustack] at hfault
      obtain ⟨text, hwrites, ht⟩ := Opcode.perform_of_fault?_eq_none i.arg hfault
      rw [hustack] at hwrites hfault
      rw [ht]
      refine ⟨hudebug, ⟨text, Opcode.writes_of hop hok hfault hwrites, by rw [huoutput]⟩, ?_⟩
      rw [Opcode.printed_of hop hok, hustack, husink]

/-! ### What visits leave -/

/-- What the visits leave between `s` and `t`: a record of each in the log, the texts that they write
in the output, and what they show in the sink. Lines are shown if debugging is on, and then it stays
on. -/
structure Yields (vs : List Visit) (s t : State Transcript) : Prop where
  log : t.sink.log.toList = s.sink.log.toList ++ vs.map Visit.record
  output : ∃ texts, List.Forall₂ Visit.Writes vs texts ∧ t.output = s.output ++ String.join texts
  events : t.sink.events.toList = s.sink.events.toList ++ vs.flatMap (Visit.events s.debug)
  debug : t.debug = s.debug

namespace Yields

variable {vs ws : List Visit} {s t u : State Transcript}

lemma refl (s : State Transcript) : Yields [] s s :=
  ⟨by simp, ⟨[], .nil, by simp⟩, by simp, rfl⟩

lemma trans (h : Yields vs s t) (h' : Yields ws t u) : Yields (vs ++ ws) s u := by
  obtain ⟨texts, htexts, houtput⟩ := h.output
  obtain ⟨texts', htexts', houtput'⟩ := h'.output
  refine ⟨?_, ⟨texts ++ texts', List.rel_append htexts htexts', ?_⟩, ?_, h'.debug.trans h.debug⟩
  · rw [h'.log, h.log, List.map_append, List.append_assoc]
  · rw [houtput', houtput, String.join_append, String.append_assoc]
  · rw [h'.events, h.events, h.debug, List.flatMap_append, List.append_assoc]

lemma prints (h : Yields vs s t) : t.sink.prints = s.sink.prints ++ vs.flatMap Visit.printed := by
  have hevents : ∀ v : Visit, (v.events s.debug).filterMap SinkEvent.printed? = v.printed := by
    intro v
    have hprinted : (v.printed.map SinkEvent.print).filterMap SinkEvent.printed? = v.printed := by
      rw [List.filterMap_map]
      exact List.filterMap_some
    rw [Visit.events, List.filterMap_append, hprinted]
    cases s.debug <;> rfl
  rw [Transcript.prints, Transcript.prints, h.events, List.filterMap_append,
    List.filterMap_flatMap]
  simp only [hevents]

end Yields

lemma events_foldl_print (values : List Int64) (x : Transcript) :
    (values.foldl Sink.print x).events.toList = x.events.toList ++ values.map .print := by
  induction values generalizing x with
  | nil => simp
  | cons value rest ih =>
    rw [List.foldl_cons, ih]
    simp [Sink.print]

lemma log_foldl_print (values : List Int64) (x : Transcript) :
    (values.foldl Sink.print x).log = x.log := by
  induction values generalizing x with
  | nil => rfl
  | cons value rest ih => rw [List.foldl_cons, ih, Transcript.log_print]

lemma log_debugLines (lines : List String) (s : State Transcript) :
    (s.debugLines lines).sink.log = s.sink.log := by
  induction lines generalizing s with
  | nil => rfl
  | cons line lines ih => exact ih { s with sink := Sink.debug s.sink line }

lemma log_trace (m : Machine) (i : Instruction) (s : State Transcript) :
    (trace m i s).sink.log =
      s.sink.log.push (.exec s.pc ((m.instructions.name? i.op).getD "?") i.arg) := by
  cases hd : s.debug <;> cases hn : m.instructions.name? i.op <;>
    simp [trace, hd, hn, State.record, State.debugLines, Sink.record, Sink.debug]

section

variable {debug : Bool} {p : Program} {s t : State Transcript} {i : Instruction}
  {result : Except Failure Status}

variable (debug result) in
lemma events_trace (hname : s.debug = true → InstructionSet.standard.isNamed i) :
    (trace (.standard debug) i s).debug = s.debug ∧
      (trace (.standard debug) i s).sink.events.toList = s.sink.events.toList ++
        (if s.debug then [.debug (Visit.of i s result).line] else []) := by
  cases hn : InstructionSet.standard.name? i.op with
  | none =>
    -- there is no name, so nothing is shown
    have hoff : s.debug = false := by
      by_contra hon
      have hnamed := hname (by simpa using hon)
      rw [InstructionSet.isNamed, hn] at hnamed
      cases hnamed
    obtain ⟨hdebug, hevents⟩ := trace_of_name?_eq_none (m := .standard debug) (s := s) hn
    rw [hdebug, hevents, hoff]
    simp
  | some name =>
    obtain ⟨hdebug, hevents⟩ := trace_of_name?_eq_some (m := .standard debug) (s := s) hn
    have hline : traceLine name i.arg s.pc = (Visit.of i s result).line := by
      rw [traceLine, Numeral.text_eq_toString, Numeral.text_eq_toString]
      simp only [Visit.line, Visit.name, Visit.of, hn, Option.getD_some]
      rfl
    refine ⟨hdebug, ?_⟩
    rw [hevents, hline]
    cases s.debug <;> rfl

/-- One step leaves what its visit leaves, if there is one, and else nothing. -/
lemma StepsTo.yields (h : StepsTo (.standard debug) p s result t)
    (hnames : s.debug = true → ∀ i ∈ p, InstructionSet.standard.isNamed i) :
    Yields (visits p [(s, result)]) s t := by
  cases hf : p.fetch? s.pc with
  | none =>
    -- outside the program the state stays as it is
    obtain rfl : s = t := by
      have hout : StepsTo (.standard debug) p s _ s := ⟨1, cycle_of_fetch_none hf⟩
      exact (hout.unique h).2
    rw [visits_of_outside hf]
    exact .refl s
  | some i =>
    obtain ⟨hdebug, ⟨text, hwrites, houtput⟩, hsink⟩ := h.visit hf
    have hname : s.debug = true → InstructionSet.standard.isNamed i :=
      fun hon => hnames hon i (Array.mem_of_getElem? hf)
    obtain ⟨htrace, hevents⟩ := events_trace debug result hname
    rw [visits_of_fetch hf]
    refine ⟨?_, ⟨[text], .cons hwrites .nil, by simp [houtput, String.join]⟩, ?_,
      hdebug.trans htrace⟩
    · rw [hsink, log_foldl_print, log_trace, Array.toList_push]
      rfl
    · rw [hsink, events_foldl_print, hevents, List.append_assoc]
      simp [Visit.events]

/-- **A course leaves what its visits leave**, if all instructions have names or nothing is shown. -/
lemma Course.yields {steps : List (State Transcript × Except Failure Status)}
    (h : Course (.standard debug) p s steps result t)
    (hnames : s.debug = true → ∀ i ∈ p, InstructionSet.standard.isNamed i) :
    Yields (visits p steps) s t := by
  induction h with
  | last hs _ => exact hs.yields hnames
  | @next s t u steps result hs _ ih =>
    have hfirst := hs.yields hnames
    rw [visits_cons]
    exact hfirst.trans (ih fun hon => hnames (hfirst.debug ▸ hon))

end

/-! ### What a run shows -/

/-- The name and the argument of an instruction. -/
def nameAndArgument (i : Instruction) : String :=
  (InstructionSet.standard.name? i.op).getD "?" ++ " " ++ toString i.arg.toInt

lemma instructionText_eq {i : Instruction} (h : InstructionSet.standard.isNamed i) :
    InstructionSet.standard.instructionText i = nameAndArgument i := by
  obtain ⟨name, hname⟩ := Option.isSome_iff_exists.1 h
  simp only [InstructionSet.instructionText, nameAndArgument, hname, Option.getD_some,
    Numeral.text_eq_toString]

lemma debugListing_of_unnamed {p : Program} {named rest : List Instruction} {i : Instruction}
    (hp : p.toList = named ++ i :: rest)
    (hnamed : ∀ j ∈ named, InstructionSet.standard.isNamed j)
    (hi : ¬ InstructionSet.standard.isNamed i) :
    InstructionSet.standard.debugListing p =
      ["=== running vm ======================", "disassembly of run code:"]
        ++ named.map nameAndArgument
        ++ ["could not disassemble - op_id unknown...", "turning off debug mode.",
          "=== end of disassembly"] := by
  have htake : p.toList.takeWhile InstructionSet.standard.isNamed = named := by
    rw [hp, List.takeWhile_append_of_pos hnamed, List.takeWhile_cons_of_neg hi, List.append_nil]
  have hall : ¬ p.toList.all InstructionSet.standard.isNamed = true := by
    rw [List.all_eq_true]
    exact fun h => hi (h i (by simp [hp]))
  rw [InstructionSet.debugListing, htake, if_neg hall,
    List.map_congr_left fun j hj => instructionText_eq (hnamed j hj)]
  simp

/-- What the listing of a run leaves: debug lines in the sink, if debugging is on, which then is on if
and only if all instructions have names. -/
lemma announce_shows (debug : Bool) (p : Program) (s : State Transcript) :
    (announce (.standard debug) p s).output = s.output ∧
      (announce (.standard debug) p s).sink.log = s.sink.log ∧
      (announce (.standard debug) p s).sink.prints = s.sink.prints ∧
      (announce (.standard debug) p s).sink.events.toList = s.sink.events.toList ++
        (if s.debug then InstructionSet.standard.debugListing p else []).map .debug ∧
      (announce (.standard debug) p s).debug =
        (s.debug && p.toList.all InstructionSet.standard.isNamed) := by
  cases hs : s.debug with
  | false =>
    rw [announce_of_debug_off hs, hs]
    exact ⟨rfl, rfl, rfl, by simp, rfl⟩
  | true =>
    have hevents := events_debugLines s (InstructionSet.standard.debugListing p)
    rw [announce_of_debug_on hs]
    exact ⟨rfl, log_debugLines _ s, prints_eq_of_events _ hevents, hevents, rfl⟩

/-- **All that a run shows is read off its course.** A run on the standard machine has one course,
whose last step fails if and only if the run does, and with the same failure. Its log has a record of
each visit, and one of the failure behind them; the output goes on with the texts that the visits
write, and the values printed are those that they print. With debugging off the sink is given nothing
else. With debugging on and all instructions named, it is given the lines of the listing, and then for
each visit its line and what it prints. If an instruction has no name, the listing stops at the first
such one, and no visit has a line. -/
theorem run_shows_its_course (debug : Bool) (p : Program) (s t : State Transcript)
    (result : Except Failure RunResult) (h : RunsTo (.standard debug) p s result t) :
    ∃ steps last u, Course (.standard debug) p (announce (.standard debug) p s) steps last u ∧
      (∀ steps' last' u',
        Course (.standard debug) p (announce (.standard debug) p s) steps' last' u' →
          steps' = steps) ∧
      (∀ failure, result = .error failure ↔ last = .error failure) ∧
      t.sink.log.toList = s.sink.log.toList ++ (visits p steps).map Visit.record ++
        (match result with
          | .ok _ => []
          | .error failure => [.fault failure]) ∧
      (∃ texts, List.Forall₂ Visit.Writes (visits p steps) texts ∧
        t.output = s.output ++ String.join texts) ∧
      t.sink.prints = s.sink.prints ++ (visits p steps).flatMap Visit.printed ∧
      (s.debug = false →
        t.sink.events.toList = s.sink.events.toList ++
          (visits p steps).flatMap (Visit.events false)) ∧
      (s.debug = true → (∀ i ∈ p, InstructionSet.standard.isNamed i) →
        t.sink.events.toList = s.sink.events.toList ++
          (["=== running vm ======================", "disassembly of run code:"]
            ++ p.toList.map nameAndArgument ++ ["=== end of disassembly"]).map .debug ++
          (visits p steps).flatMap (Visit.events true)) ∧
      (s.debug = true → ∀ named i rest, p.toList = named ++ i :: rest →
        (∀ j ∈ named, InstructionSet.standard.isNamed j) → ¬ InstructionSet.standard.isNamed i →
        t.sink.events.toList = s.sink.events.toList ++
          (["=== running vm ======================", "disassembly of run code:"]
            ++ named.map nameAndArgument
            ++ ["could not disassemble - op_id unknown...", "turning off debug mode.",
              "=== end of disassembly"]).map .debug ++
          (visits p steps).flatMap (Visit.events false)) := by
  obtain ⟨steps, last, u, hcourse, hend⟩ := h.course
  obtain ⟨houtput, hlog, hprints, hevents, hflag⟩ := announce_shows debug p s
  have hnames : (announce (.standard debug) p s).debug = true →
      ∀ i ∈ p, InstructionSet.standard.isNamed i := by
    intro hon i hi
    rw [hflag, Bool.and_eq_true] at hon
    exact List.all_eq_true.1 hon.2 i (Array.mem_toList_iff.2 hi)
  have hyields := hcourse.yields hnames
  -- behind the course the run only adds the record of a failure
  have htoutput : t.output = u.output := by
    rcases hend with ⟨failure, -, -, rfl⟩ | ⟨-, -, rfl⟩ <;> rfl
  have htevents : t.sink.events = u.sink.events := by
    rcases hend with ⟨failure, -, -, rfl⟩ | ⟨-, -, rfl⟩ <;> rfl
  refine ⟨steps, last, u, hcourse, fun _ _ _ hother => (hother.unique hcourse).1, ?_, ?_, ?_, ?_,
    ?_, ?_, ?_⟩
  · rcases hend with ⟨failure, rfl, rfl, -⟩ | ⟨rfl, ⟨value, rest, -, rfl⟩, -⟩ <;> simp
  · rw [← hlog, ← hyields.log]
    rcases hend with ⟨failure, -, rfl, rfl⟩ | ⟨-, ⟨value, rest, -, rfl⟩, rfl⟩
    · simp [State.record]
    · simp
  · rw [htoutput, ← houtput]
    exact hyields.output
  · rw [Transcript.prints, htevents, ← hprints]
    exact hyields.prints
  · intro hs
    rw [htevents, hyields.events, hevents, hflag, hs]
    simp
  · intro hs hall
    have hallList : p.toList.all InstructionSet.standard.isNamed = true :=
      List.all_eq_true.2 fun i hi => hall i (Array.mem_toList_iff.1 hi)
    have htexts : p.toList.map InstructionSet.standard.instructionText =
        p.toList.map nameAndArgument :=
      List.map_congr_left fun i hi => instructionText_eq (hall i (Array.mem_toList_iff.1 hi))
    rw [htevents, hyields.events, hevents, hflag, hs, hallList, if_pos rfl,
      debugListing_of_named hall, htexts]
    rfl
  · intro hs named i rest hp hnamed hi
    have hallList : p.toList.all InstructionSet.standard.isNamed = false := by
      rw [List.all_eq_false]
      exact ⟨i, by simp [hp], hi⟩
    rw [htevents, hyields.events, hevents, hflag, hs, hallList, if_pos rfl,
      debugListing_of_unnamed hp hnamed hi]
    rfl

/-- A value is printed and written before the stack is emptied: there are four visits and a fault, and
what is printed stands between the lines of its visit and of the next one. -/
theorem run_shows_its_course_emptied :
    let m := Machine.standard true
    let p : Program := #[⟨1, 72⟩, ⟨0, 0⟩, ⟨12, 0⟩, ⟨3, 0⟩]
    let failure := Fault.emptyStack.atPc 3
    ∃ (t : State Transcript) (steps : _) (u : State Transcript),
      RunsTo m p (.initial m {}) (.error failure) t ∧
      Course m p (announce m p (.initial m {})) steps (.error failure) u ∧
      (visits p steps).map Visit.record ++ [.fault failure] =
        [.exec 0 "LOAD_CONST" 72, .exec 1 "PRINT" 0, .exec 2 "WRITE_CHAR" 0, .exec 3 "POP" 0,
          .fault failure] ∧
      (visits p steps).flatMap Visit.printed = [72] ∧
      (visits p steps).flatMap (Visit.events true) =
        [.debug "-- exec LOAD_CONST arg=72 at pc=0", .debug "-- exec PRINT arg=0 at pc=1",
          .print 72, .debug "-- exec WRITE_CHAR arg=0 at pc=2",
          .debug "-- exec POP arg=0 at pc=3"] ∧ t.output = "H" := by
  intro m p failure
  obtain ⟨t, ht, hlog, hprints, hevents, houtput⟩ : ∃ t : State Transcript,
      RunsTo m p (.initial m {}) (.error failure) t ∧
      t.sink.log.toList = [.exec 0 "LOAD_CONST" 72, .exec 1 "PRINT" 0, .exec 2 "WRITE_CHAR" 0,
        .exec 3 "POP" 0, .fault failure] ∧
      t.sink.prints = [72] ∧
      t.sink.events.toList.drop 7 = [.debug "-- exec LOAD_CONST arg=72 at pc=0",
        .debug "-- exec PRINT arg=0 at pc=1", .print 72,
        .debug "-- exec WRITE_CHAR arg=0 at pc=2", .debug "-- exec POP arg=0 at pc=3"] ∧
      t.output = "H" := by
    refine ⟨_, ⟨5, rfl⟩, ?_, ?_, ?_, ?_⟩
    · decide
    · decide
    · decide
    · rfl
  obtain ⟨steps, last, u, hcourse, -, hlast, hlog', -, hprints', -, hevents', -⟩ :=
    run_shows_its_course true p _ t _ ht
  have hnamed : ∀ i ∈ p, InstructionSet.standard.isNamed i := by decide
  obtain rfl := (hlast failure).1 rfl
  refine ⟨t, steps, u, ht, hcourse, hlog'.symm.trans hlog, hprints'.symm.trans hprints, ?_, houtput⟩
  rw [← hevents, hevents' rfl hnamed]
  rfl

end StackMachine
