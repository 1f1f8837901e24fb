import StackMachine.Proofs.Courses
import StackMachine.Proofs.Quotation
import StackMachine.Proofs.Reports

/-!
Running a program and stepping through it. The explorer runs a program at once, or shows its state and
takes a line of input before each step. Both follow the one course of the program: the states are the
same but for what was shown, each step prints the same, and the last one ends both in the same way.
The lines of an input that is text are texts, so they do not stop a session.
-/

namespace StackMachine

/-! ### The lines of an input -/

namespace Explorer

lemma flatMap_intercalate {α β : Type} (f : α → List β) (sep : List α) (pieces : List (List α)) :
    (sep.intercalate pieces).flatMap f =
      (sep.flatMap f).intercalate (pieces.map (List.flatMap f)) := by
  induction pieces with
  | nil => rfl
  | cons piece rest ih =>
    cases rest with
    | nil => simp
    | cons next rest =>
      rw [List.intercalate_cons_cons, List.flatMap_append, List.flatMap_append, ih]
      simp only [List.map_cons, List.intercalate_cons_cons]

lemma newline_not_mem_utf8EncodeChar {c : Char} (h : c ≠ '\n') :
    10 ∉ String.utf8EncodeChar c := by
  have hne : ∀ n : ℕ, n % 256 ≠ 10 → (10 : UInt8) ≠ UInt8.ofNat n := by
    intro n hn heq
    have hnat := congrArg UInt8.toNat heq
    rw [UInt8.toNat_ofNat'] at hnat
    exact hn hnat.symm
  have hc : c.val.toNat ≠ 10 := fun hval => h (Char.ext (UInt32.toNat_inj.1 hval))
  unfold String.utf8EncodeChar
  simp only
  split_ifs <;> simp only [List.mem_cons, List.not_mem_nil, or_false, not_or]
  · exact hne _ (by omega)
  · exact ⟨hne _ (by omega), hne _ (by omega)⟩
  · exact ⟨hne _ (by omega), hne _ (by omega), hne _ (by omega)⟩
  · exact ⟨hne _ (by omega), hne _ (by omega), hne _ (by omega), hne _ (by omega)⟩

lemma isSome_decode?_iff {bytes : List UInt8} :
    (decode? bytes).isSome ↔ ∃ text : List Char, bytes = text.flatMap String.utf8EncodeChar := by
  have hvalid : (decode? bytes).isSome ↔ (⟨bytes.toArray⟩ : ByteArray).IsValidUTF8 := by
    unfold decode? String.fromUTF8?
    split <;> simp_all
  rw [hvalid]
  constructor
  · rintro ⟨text, htext⟩
    have hlist := congrArg (fun b : ByteArray => b.data.toList) htext
    exact ⟨text, by simpa [List.utf8Encode] using hlist⟩
  · rintro ⟨text, rfl⟩
    refine ⟨text, ByteArray.ext (Array.toList_inj.1 ?_)⟩
    simp [List.utf8Encode]

lemma decode?_toByteArray (text : String) :
    decode? text.toByteArray.data.toList = some text := by
  unfold decode? String.fromUTF8?
  rw [Array.toArray_toList, dif_pos (String.isValidUTF8 _)]
  rfl

/-- **The lines of a text are texts.** -/
theorem isSome_decode?_of_mem_inputLines {bytes line : List UInt8} (h : (decode? bytes).isSome)
    (hline : line ∈ inputLines bytes) : (decode? line).isSome := by
  obtain ⟨text, rfl⟩ := isSome_decode?_iff.1 h
  -- the bytes are those of the lines, joined by the byte of a line feed
  have hcut : text.flatMap String.utf8EncodeChar =
      [10].intercalate ((text.splitOn '\n').map (List.flatMap String.utf8EncodeChar)) := by
    have hnewline : ['\n'].flatMap String.utf8EncodeChar = [10] := by decide
    conv_lhs => rw [← @List.intercalate_splitOn _ text _ _ '\n']
    rw [flatMap_intercalate, hnewline]
  have hpieces : ∀ piece ∈ (text.splitOn '\n').map (List.flatMap String.utf8EncodeChar),
      10 ∉ piece := by
    intro piece hpiece hmem
    obtain ⟨chars, hchars, rfl⟩ := List.mem_map.1 hpiece
    obtain ⟨c, hc, hbyte⟩ := List.mem_flatMap.1 hmem
    have hne : c ≠ '\n' := by
      rintro rfl
      exact not_mem_of_mem_splitOn chars hchars hc
    exact newline_not_mem_utf8EncodeChar hne hbyte
  rw [inputLines, hcut, List.splitOn_intercalate 10 hpieces (by simp [List.splitOn_ne_nil])]
    at hline
  obtain ⟨chars, -, rfl⟩ := List.mem_map.1 hline
  exact isSome_decode?_iff.2 ⟨chars, rfl⟩

end Explorer

/-! ### The same course with another sink -/

section

variable {σ τ : Type} [Sink σ] [Sink τ] {m : Machine} {p : Program}

/-- The states are the same but for their sinks. -/
abbrev State.SameBut (s : State σ) (t : State τ) : Prop :=
  s.Agree Eq (fun _ _ => True) t

omit [Sink σ] [Sink τ] in
lemma State.SameBut.display {s : State σ} {u : State τ} (h : s.SameBut u) :
    s.display m p = u.display m p := by
  simp only [State.display, State.displayWith, h.stack, h.pc, h.output]

omit [Sink σ] [Sink τ] in
lemma State.SameBut.visit {s : State σ} {u : State τ} (h : s.SameBut u) (i : Instruction)
    (result : Except Failure Status) : Visit.of i s result = Visit.of i u result := by
  simp only [Visit.of, h.pc, h.stack]

lemma StepsTo.sameBut {s t : State σ} {u : State τ} {result : Except Failure Status}
    (h : StepsTo m p s result t) (hu : s.SameBut u) :
    ∃ v : State τ, StepsTo m p u result v ∧ t.SameBut v := by
  have hstable : Stable Eq fun (_ : σ) (_ : τ) => True := stable_eq
  exact (hstable.simulation m p).stepsTo h hu

end

/-! ### What a course prints -/

namespace Explorer

/-- The lines of printed values. -/
def printedText (values : List Int64) : String :=
  Text.unlines (values.map fun value => toString value.toInt)

/-- The lines of the values that are printed between two states. -/
def printedBetween (s t : State Transcript) : String :=
  printedText (t.sink.prints.drop s.sink.prints.length)

/-- The lines of the values that are printed from each state to the next. -/
def printedAlong : List (State Transcript) → String
  | s :: t :: rest => printedBetween s t ++ printedAlong (t :: rest)
  | _ => ""

/-- The pictures of the states, each with a line feed, and behind each but the last the lines of the
values that are printed up to the next. -/
def shownAlong (m : Machine) (p : Program) : List (State Transcript) → String
  | s :: t :: rest =>
    s.display m p ++ "\n" ++ printedBetween s t ++ shownAlong m p (t :: rest)
  | [s] => s.display m p ++ "\n"
  | [] => ""

lemma foldl_print (values : List Int64) (x : Streams) :
    values.foldl Sink.print x = ⟨x.out ++ printedText values, x.err⟩ := by
  induction values generalizing x with
  | nil => simp [printedText, Text.unlines]
  | cons value rest ih =>
    rw [List.foldl_cons, ih]
    simp [Sink.print, printedText, Text.unlines, Numeral.text_eq_toString, String.append_assoc]

end Explorer

section

variable {m : Machine} {p : Program} {s t : State Transcript} {u : State Streams}
  {result : Except Failure Status}

lemma StepsTo.prints {debug : Bool} (h : StepsTo (.standard debug) p s result t)
    (hs : s.debug = false) :
    t.sink.prints = s.sink.prints ++ (visits p [(s, result)]).flatMap Visit.printed :=
  (h.yields (by simp [hs])).prints

open Explorer in
/-- **A step shows on the streams what it prints**, if debugging is off. -/
lemma StepsTo.streams (h : StepsTo (.standard false) p s result t) (hs : s.debug = false)
    (hu : s.SameBut u) :
    ∃ v : State Streams, StepsTo (.standard false) p u result v ∧ t.SameBut v ∧
      t.debug = false ∧ v.sink = ⟨u.sink.out ++ printedBetween s t, u.sink.err⟩ := by
  obtain ⟨v, hv, htv⟩ := h.sameBut hu
  have ht : t.debug = false := h.debug_off rfl hs
  have hbetween : printedBetween s t =
      printedText ((visits p [(s, result)]).flatMap Visit.printed) := by
    rw [printedBetween, h.prints hs, List.drop_left]
  refine ⟨v, hv, htv, ht, ?_⟩
  rw [hbetween]
  cases hf : p.fetch? s.pc with
  | none =>
    -- there is nothing to fetch, so there is no visit
    have hout : StepsTo (.standard false) p u _ u := ⟨1, cycle_of_fetch_none (hu.pc ▸ hf)⟩
    obtain ⟨-, rfl⟩ := hout.unique hv
    simp [visits_of_outside hf, printedText, Text.unlines]
  | some i =>
    have hvisits : visits p [(s, result)] = [Visit.of i u result] := by
      rw [visits_of_fetch hf, hu.visit]
    obtain ⟨-, -, hsink⟩ := hv.visit (hu.pc ▸ hf)
    have htrace : (trace (.standard false) i u).sink = u.sink := by
      have hoff : u.debug = false := hu.debug ▸ hs
      simp [trace, hoff, State.record, Sink.record]
    rw [hsink, htrace, foldl_print, hvisits]
    simp

lemma StepsTo.prints_of_failed {failure : Failure}
    (h : StepsTo (.standard false) p s (.error failure) t) (hs : s.debug = false) :
    t.sink.prints = s.sink.prints := by
  rw [h.prints hs]
  cases hf : p.fetch? s.pc with
  | none => rw [visits_of_outside hf, List.flatMap_nil, List.append_nil]
  | some i =>
    rw [visits_of_fetch hf, List.flatMap_singleton, Visit.printed_of_failed rfl, List.append_nil]

end

/-! ### Both modes follow the course -/

namespace Explorer

/-- The states of a course that a driver sees: those before its steps, and the one that an exit
leaves. -/
def seen (steps : List (State Transcript × Except Failure Status)) (last : Except Failure Status)
    (t : State Transcript) : List (State Transcript) :=
  steps.map Prod.fst ++ if last.isOk then [t] else []

@[simp] lemma seen_cons (s : State Transcript) (result : Except Failure Status)
    (steps : List (State Transcript × Except Failure Status)) (last : Except Failure Status)
    (t : State Transcript) : seen ((s, result) :: steps) last t = s :: seen steps last t :=
  rfl

/-- How a job ends whose last step, or whose run, has a given result. -/
def stopOf {α : Type} : Except Failure α → Except Stop Unit
  | .ok _ => .ok ()
  | .error failure => .error (.failed failure)

lemma sink_showState (m : Machine) (p : Program) (u : State Streams) :
    (showState m p u).sink = ⟨u.sink.out ++ (u.display m p ++ "\n"), u.sink.err⟩ :=
  rfl

lemma debugLoop_turn {m : Machine} {p : Program} {stepper : Stepper Streams} {n : ℕ}
    {lines : List (List UInt8)} {s t : State Streams} {result : Except Failure Status}
    (hline : (decode? (lines.headD [])).isSome)
    (hstep : stepper (showState m p s) = some (result, t)) :
    debugLoop m p stepper (n + 1) lines s =
      match result with
      | .error failure => some (.error (.failed failure), t)
      | .ok .exited => some (.ok (), showState m p t)
      | .ok .executing => debugLoop m p stepper n lines.tail t := by
  obtain ⟨text, htext⟩ := Option.isSome_iff_exists.1 hline
  simp only [debugLoop, turn, htext, hstep, Option.map_some]
  cases result with
  | error failure => rfl
  | ok status => cases status <;> rfl

end Explorer

open Explorer

namespace Course

variable {p : Program} {s t : State Transcript} {u : State Streams}
  {steps : List (State Transcript × Except Failure Status)} {last : Except Failure Status}

lemma seen_eq_cons (h : Course (.standard false) p s steps last t) :
    ∃ rest, seen steps last t = s :: rest := by
  cases h with
  | last => exact ⟨_, rfl⟩
  | next => exact ⟨_, rfl⟩

/-- What is printed in the last step of a course is printed between the states that are seen. -/
lemma printedAlong_last (h : StepsTo (.standard false) p s last t) (hs : s.debug = false) :
    printedAlong (seen [(s, last)] last t) = printedBetween s t := by
  cases last with
  | error failure =>
    rw [printedBetween, h.prints_of_failed hs, List.drop_length]
    rfl
  | ok status =>
    show printedBetween s t ++ "" = _
    rw [String.append_empty]

/-- **A run at once follows the course**, and shows what is printed along it. -/
theorem executes (h : Course (.standard false) p s steps last t) (hs : s.debug = false)
    (hu : s.SameBut u) :
    ∃ k w v, Executes (.standard false) p k u w ∧ StepsTo (.standard false) p w last v ∧
      t.SameBut v ∧ v.sink = ⟨u.sink.out ++ printedAlong (seen steps last t), u.sink.err⟩ := by
  induction h generalizing u with
  | last hstep hend =>
    obtain ⟨v, hv, htv, -, hsink⟩ := hstep.streams hs hu
    exact ⟨0, u, v, .refl u, hv, htv, by rw [hsink, printedAlong_last hstep hs]⟩
  | next hstep hcourse ih =>
    obtain ⟨v, hv, htv, ht, hsink⟩ := hstep.streams hs hu
    obtain ⟨k, w, x, hk, hx, hxagree, hxsink⟩ := ih ht htv
    obtain ⟨rest, hseen⟩ := hcourse.seen_eq_cons
    refine ⟨k + 1, w, x, .head hv hk, hx, hxagree, ?_⟩
    rw [hxsink, hsink, seen_cons, hseen, printedAlong, String.append_assoc]

/-- **A session follows the course**, and shows the states along it and what is printed between them,
if the lines that it takes are text. -/
theorem session (h : Course (.standard false) p s steps last t) (hs : s.debug = false)
    (hu : s.SameBut u) {lines : List (List UInt8)}
    (hlines : ∀ k < steps.length, (decode? (lines.getD k [])).isSome) :
    ∃ b v, (∀ c n, b ≤ c → b ≤ n →
        debugLoop (.standard false) p (step (.standard false) p c) n lines u =
          some (stopOf last, v)) ∧
      t.SameBut v ∧
      v.sink = ⟨u.sink.out ++ shownAlong (.standard false) p (seen steps last t), u.sink.err⟩ := by
  have hshown : ∀ {s : State Transcript} {u : State Streams}, s.SameBut u →
      s.SameBut (showState (.standard false) p u) :=
    fun hu => ⟨hu.stack, hu.pc, hu.output, hu.debug, trivial⟩
  have hline : ∀ {n : ℕ} {lines : List (List UInt8)},
      (∀ k < n + 1, (decode? (lines.getD k [])).isSome) → (decode? (lines.headD [])).isSome := by
    intro n lines h
    have hfirst := h 0 (by omega)
    cases lines <;> exact hfirst
  induction h generalizing u lines with
  | @last s t last hstep hend =>
    obtain ⟨v, hv, htv, -, hsink⟩ := hstep.streams hs (hshown hu)
    obtain ⟨b, hb⟩ := hv.eventually
    cases last with
    | error failure =>
      refine ⟨b + 1, v, fun c n hc hn => ?_, htv, ?_⟩
      · obtain ⟨n, rfl⟩ : ∃ j, n = j + 1 := ⟨n - 1, by omega⟩
        exact debugLoop_turn (hline hlines) (hb c (by omega))
      · rw [hsink, printedBetween, hstep.prints_of_failed hs, List.drop_length, sink_showState,
          ← hu.display]
        exact congrArg (Streams.mk · _) (String.append_empty)
    | ok status =>
      cases status with
      | executing => exact absurd rfl hend
      | exited =>
        refine ⟨b + 1, showState (.standard false) p v, fun c n hc hn => ?_, hshown htv, ?_⟩
        · obtain ⟨n, rfl⟩ : ∃ j, n = j + 1 := ⟨n - 1, by omega⟩
          exact debugLoop_turn (hline hlines) (hb c (by omega))
        · -- the state behind the exit is seen too
          have hseen : seen [(s, .ok .exited)] (.ok .exited) t = [s, t] := rfl
          rw [sink_showState, hsink, sink_showState, ← hu.display, ← htv.display, hseen, shownAlong,
            shownAlong]
          simp only [String.append_assoc]
  | @next s t x steps last hstep hcourse ih =>
    obtain ⟨v, hv, htv, ht, hsink⟩ := hstep.streams hs (hshown hu)
    obtain ⟨b, hb⟩ := hv.eventually
    have htail : ∀ k < steps.length, (decode? (lines.tail.getD k [])).isSome := by
      intro k hk
      have hnext := hlines (k + 1) (by simpa using hk)
      cases lines <;> exact hnext
    obtain ⟨b', w, hloop, hxw, hwsink⟩ := ih ht htv htail
    obtain ⟨rest, hseen⟩ := hcourse.seen_eq_cons
    refine ⟨b + b' + 1, w, fun c n hc hn => ?_, hxw, ?_⟩
    · obtain ⟨n, rfl⟩ : ∃ j, n = j + 1 := ⟨n - 1, by omega⟩
      rw [debugLoop_turn (hline hlines) (hb c (by omega))]
      exact hloop c n (by omega) (by omega)
    · rw [hwsink, hsink, sink_showState, seen_cons, hseen, shownAlong, ← hu.display]
      simp only [String.append_assoc]

end Course

/-! ### Jobs -/

namespace Explorer

/-- The lines about a run that has exited with a value and an output, which is shown quoted. -/
def exitedText (value : Int64) (quoted : String) : String :=
  "Exited(" ++ toString value.toInt ++ ")\n" ++ ("Output: " ++ quoted ++ "\n")

lemma statusText_of_cons {σ : Type} {s : State σ} {value : Int64} {rest : Stack}
    (h : s.stack = value :: rest) :
    Job.statusText s = exitedText value (Text.quoteWith Text.isUnprintable s.output) := by
  simp [Job.statusText, h, exitedText, Numeral.text_eq_toString, Text.unlines, Text.quote,
    String.append_assoc]

/-- The run of a job, or the session of its debugger, exits and leaves the state. -/
inductive Job.Exits (job : Job) (bound : ℕ) (input : List UInt8) (s : State Streams) : Prop
  | run {value : RunResult} : job.mode = .exec →
      run job.machine job.assembly.program bound job.initial = some (.ok value, s) →
      Job.Exits job bound input s
  | session : job.mode = .debug →
      debugLoop job.machine job.assembly.program (step job.machine job.assembly.program bound)
        bound (inputLines input) job.initial = some (.ok (), s) →
      Job.Exits job bound input s

section

variable {job : Job} {bound : ℕ} {input : List UInt8} {s : State Streams}

lemma Job.Exits.stack_ne_nil (h : job.Exits bound input s) : s.stack ≠ [] := by
  cases h with
  | @run value _ hrun =>
    have hruns : RunsTo job.machine job.assembly.program job.initial (.ok value) s :=
      ⟨bound, hrun⟩
    obtain ⟨_, _, _, -, ⟨_, -, hresult, -⟩ | ⟨-, ⟨_, _, hstack, -⟩, -⟩⟩ := hruns.course
    · cases hresult
    · rw [hstack]
      exact List.cons_ne_nil _ _
  | session _ hloop =>
    rcases debugLoop_ends hloop with hline | ⟨_, _, -, hother⟩ | ⟨u, v, hv, rfl, -⟩
    · cases hline
    · cases hother
    · have hstep : StepsTo job.machine job.assembly.program u (.ok .exited) v := ⟨bound, hv⟩
      exact hstep.stack_ne_nil

end

lemma Job.exec_of_runsTo (job : Job) {result : Except Failure RunResult} {v : State Streams}
    (h : RunsTo job.machine job.assembly.program job.initial result v) :
    ∃ b, ∀ bound, b ≤ bound → job.exec bound = some (job.finish (stopOf result) v) := by
  obtain ⟨b, hb⟩ := h
  refine ⟨b, fun bound hbound => ?_⟩
  rw [Job.exec, run_within hbound _ _ hb]
  cases result <;> rfl

section

variable {a : Assembly} {t : State Transcript}
  {steps : List (State Transcript × Except Failure Status)} {last : Except Failure Status}

/-- What a run at once of a job leaves that has a course. -/
lemma perform_exec
    (h : Course (.standard false) a.program (.initial (.standard false) {}) steps last t)
    (source : String) (input : List UInt8) :
    ∃ b v, (∀ bound, b ≤ bound →
        (⟨.exec, source, .standard false, a⟩ : Job).perform bound input =
          some (Job.finish ⟨.exec, source, .standard false, a⟩ (stopOf last) v)) ∧
      t.SameBut v ∧ v.sink = ⟨printedAlong (seen steps last t), ""⟩ := by
  have hfresh : (State.initial (.standard false) {} : State Transcript).SameBut
      (State.initial (.standard false) {} : State Streams) := ⟨rfl, rfl, rfl, rfl, trivial⟩
  obtain ⟨k, w, v, hk, hv, htv, hsink⟩ := h.executes rfl hfresh
  rw [State.initial, String.empty_append] at hsink
  cases last with
  | error failure =>
    -- the streams have no place for the record of a failure
    have hruns : RunsTo (.standard false) a.program (.initial (.standard false) {})
        (.error failure) v := runsTo_iff.2 ⟨k, w, hk, .failed hv⟩
    obtain ⟨b, hb⟩ := Job.exec_of_runsTo ⟨.exec, source, .standard false, a⟩ hruns
    exact ⟨b, v, hb, htv, hsink⟩
  | ok status =>
    cases status with
    | executing => exact absurd rfl h.last_ne
    | exited =>
      have hruns : RunsTo (.standard false) a.program (.initial (.standard false) {})
          (StackMachine.conclude v) v := runsTo_iff.2 ⟨k, w, hk, .exited hv⟩
      obtain ⟨value, rest, -, hconclude⟩ := conclude_of_exited hv
      rw [hconclude] at hruns
      obtain ⟨b, hb⟩ := Job.exec_of_runsTo ⟨.exec, source, .standard false, a⟩ hruns
      exact ⟨b, v, hb, htv, hsink⟩

/-- What a session of a job leaves that has a course, if the lines that it takes are text. -/
lemma perform_debug
    (h : Course (.standard false) a.program (.initial (.standard false) {}) steps last t)
    (source : String) {input : List UInt8}
    (hlines : ∀ k < steps.length, (decode? ((inputLines input).getD k [])).isSome) :
    ∃ b v, (∀ bound, b ≤ bound →
        (⟨.debug, source, .standard false, a⟩ : Job).perform bound input =
          some (Job.finish ⟨.debug, source, .standard false, a⟩ (stopOf last) v)) ∧
      t.SameBut v ∧
      v.sink = ⟨shownAlong (.standard false) a.program (seen steps last t), ""⟩ := by
  have hfresh : (State.initial (.standard false) {} : State Transcript).SameBut
      (State.initial (.standard false) {} : State Streams) := ⟨rfl, rfl, rfl, rfl, trivial⟩
  obtain ⟨b, v, hloop, htv, hsink⟩ := h.session rfl hfresh hlines
  rw [State.initial, String.empty_append] at hsink
  refine ⟨b, v, fun bound hbound => ?_, htv, hsink⟩
  have hbounds := hloop bound bound hbound hbound
  simp only [Job.perform, Job.debug, Job.initial, hbounds, Option.map_some]

end

/-! ### The outcomes of both modes -/

section

variable {name source : String} {bytes : List UInt8} {mode : Mode} {trace : Bool}

lemma prepare_of_file (hname : name ≠ "-") (hsource : decode? bytes = some source)
    (input : List UInt8) :
    prepare ⟨mode, trace, name⟩ (.ok bytes) input = assembleJob ⟨mode, trace, name⟩ source := by
  have hmode : ¬ (mode = .debug ∧ name = "-") := fun h => hname h.2
  simp only [prepare, if_neg hmode, readSource, if_neg hname, hsource]

lemma assembleJob_of_ok {a : Assembly} (h : InstructionSet.standard.assemble source = .ok a) :
    assembleJob ⟨mode, trace, name⟩ source = .ok ⟨mode, source, .standard trace, a⟩ := by
  have hassemble : (Machine.standard trace).assemble source = .ok a := h
  simp only [assembleJob, hassemble]

lemma assembleJob_of_error {failure : Failure}
    (h : InstructionSet.standard.assemble source = .error failure) :
    assembleJob ⟨mode, trace, name⟩ source =
      .error (.assembly (describe none source failure)) := by
  have hassemble : (Machine.standard trace).assemble source = .error failure := h
  simp only [assembleJob, hassemble]

end

section

variable {name source : String} {bytes input : List UInt8} {a : Assembly} {t : State Transcript}
  {steps : List (State Transcript × Except Failure Status)} {last : Except Failure Status}

/-- The outcomes of both modes upon a program that has a course. -/
lemma explore_of_course (hname : name ≠ "-") (hsource : decode? bytes = some source)
    (hinput : (decode? input).isSome) (ha : InstructionSet.standard.assemble source = .ok a)
    (h : Course (.standard false) a.program (.initial (.standard false) {}) steps last t) :
    ∃ b v w,
      (∀ bound, b ≤ bound →
        explore bound ⟨.exec, false, name⟩ (.ok bytes) input =
            some (Job.finish ⟨.exec, source, .standard false, a⟩ (stopOf last) v) ∧
          explore bound ⟨.debug, false, name⟩ (.ok bytes) input =
            some (Job.finish ⟨.debug, source, .standard false, a⟩ (stopOf last) w)) ∧
      t.SameBut v ∧ v.sink = ⟨printedAlong (seen steps last t), ""⟩ ∧
      t.SameBut w ∧
      w.sink = ⟨shownAlong (.standard false) a.program (seen steps last t), ""⟩ := by
  have hlines : ∀ k, (decode? ((inputLines input).getD k [])).isSome := by
    intro k
    rw [List.getD_eq_getElem?_getD]
    cases hk : (inputLines input)[k]? with
    | some line => exact isSome_decode?_of_mem_inputLines hinput (List.mem_of_getElem? hk)
    | none =>
      -- behind the input every line is empty
      exact isSome_decode?_iff.2 ⟨[], rfl⟩
  obtain ⟨b, v, hexec, htv, hv⟩ := perform_exec h source input
  obtain ⟨b', w, hdebug, htw, hw⟩ := perform_debug h source fun k _ => hlines k
  refine ⟨max b b', v, w, fun bound hbound => ⟨?_, ?_⟩, htv, hv, htw, hw⟩
  · rw [explore, prepare_of_file hname hsource, assembleJob_of_ok ha]
    exact hexec bound (by omega)
  · rw [explore, prepare_of_file hname hsource, assembleJob_of_ok ha]
    exact hdebug bound (by omega)

end

section

variable {job : Job} {t : State Transcript} {v : State Streams} {out : String}

lemma finish_exited {value : Int64} {rest : Stack} (ht : t.stack = value :: rest)
    (htv : t.SameBut v) (hv : v.sink = ⟨out, ""⟩) :
    job.finish (.ok ()) v =
      ⟨0, out ++ exitedText value (Text.quoteWith Text.isUnprintable t.output), ""⟩ := by
  have hstatus : Job.statusText v =
      exitedText value (Text.quoteWith Text.isUnprintable t.output) := by
    rw [htv.output]
    exact statusText_of_cons (htv.stack ▸ ht)
  rw [Job.finish, hstatus, showText, Outcome.done, hv]

lemma report_append (head kind report : String) :
    "" ++ head ++ (kind ++ report) = head ++ kind ++ report := by
  rw [String.empty_append, String.append_assoc]

lemma finish_failed {failure : Failure} (hv : v.sink = ⟨out, ""⟩) :
    job.finish (.error (.failed failure)) v =
      ⟨1, out, "Error: " ++ "execution stopped: " ++
        describe (some job.assembly.lines) job.source failure ++ "\n"⟩ := by
  rw [Job.finish, hv]
  exact congrArg (fun err => Outcome.mk 1 out (err ++ "\n")) (report_append _ _ _)

lemma failed_assembly (report : String) :
    Outcome.failed {} (.assembly report) =
      ⟨1, "", "Error: " ++ "Assembly failed: " ++ report ++ "\n"⟩ :=
  congrArg (fun err => Outcome.mk 1 "" (err ++ "\n")) (report_append _ _ _)

end

/-- **Running at once and stepping agree.** Let a program be a file of text, explored without tracing,
and the input be text. If the program cannot be assembled, both modes fail with the same report and
show nothing else. If its run succeeds, both modes succeed and end with the same lines, of the value
and the output; before them, the one shows what is printed along the course, and the other the states
of the course with what is printed between them. If the run fails, both modes fail with the same
report, and show this for the states up to the failing step. Whatever is traced and whatever the
input, there is a value to show wherever a job exits. -/
theorem exec_and_debug_agree (name : String) (hname : name ≠ "-") (bytes input : List UInt8)
    (source : String) (hsource : decode? bytes = some source) (hinput : (decode? input).isSome) :
    let m := Machine.standard false
    let explored := fun mode bound => explore bound ⟨mode, false, name⟩ (.ok bytes) input
    (∀ failure, m.assemble source = .error failure → ∀ bound,
      let outcome : Outcome :=
        ⟨1, "", "Error: " ++ "Assembly failed: " ++ describe none source failure ++ "\n"⟩
      explored .exec bound = some outcome ∧ explored .debug bound = some outcome) ∧
    (∀ a, m.assemble source = .ok a →
      (∀ value output (t : State Transcript),
        RunsTo m a.program (.initial m {}) (.ok ⟨value, output⟩) t →
        ∃ steps b quoted, Course m a.program (.initial m {}) steps (.ok .exited) t ∧
          Text.Quotes Text.isUnprintable output quoted ∧
          ∀ bound, b ≤ bound →
            let states := steps.map Prod.fst ++ [t]
            explored .exec bound =
              some ⟨0, printedAlong states ++ exitedText value quoted, ""⟩ ∧
            explored .debug bound =
              some ⟨0, shownAlong m a.program states ++ exitedText value quoted, ""⟩) ∧
      (∀ failure (t : State Transcript),
        RunsTo m a.program (.initial m {}) (.error failure) t →
        ∃ steps u b, Course m a.program (.initial m {}) steps (.error failure) u ∧
          ∀ bound, b ≤ bound →
            let states := steps.map Prod.fst
            let report := describe (some a.lines) source failure
            let err := "Error: " ++ "execution stopped: " ++ report ++ "\n"
            explored .exec bound = some ⟨1, printedAlong states, err⟩ ∧
            explored .debug bound = some ⟨1, shownAlong m a.program states, err⟩)) ∧
    (∀ (job : Job) bound input s, job.Exits bound input s →
      ∃ value rest quoted, s.stack = value :: rest ∧
        Text.Quotes Text.isUnprintable s.output quoted ∧
        Job.statusText s = exitedText value quoted) ∧
    Text.FollowsBlocks Text.isUnprintable := by
  intro m explored
  refine ⟨fun failure hfailure bound => ?_, fun a ha => ⟨fun value output t hruns => ?_,
    fun failure t hruns => ?_⟩, fun job bound input s hexits => ?_,
    Text.isUnprintable_followsBlocks⟩
  · have hexplored : ∀ mode, explored mode bound =
        some (.failed {} (.assembly (describe none source failure))) := by
      intro mode
      show explore bound ⟨mode, false, name⟩ (.ok bytes) input = _
      rw [explore, prepare_of_file hname hsource, assembleJob_of_error hfailure]
    rw [hexplored, hexplored, failed_assembly]
    exact ⟨rfl, rfl⟩
  · obtain ⟨steps, last, u, hcourse, ⟨_, -, hresult, -⟩ | ⟨rfl, ⟨_, rest, hstack, hvalue⟩, rfl⟩⟩ :=
      hruns.course
    · cases hresult
    cases hvalue
    obtain ⟨b, v, w, hexplored, htv, hv, htw, hw⟩ :=
      explore_of_course hname hsource hinput ha hcourse
    refine ⟨steps, b, _, hcourse, Text.quotes_iff.2 rfl, fun bound hbound => ?_⟩
    obtain ⟨hexec, hdebug⟩ := hexplored bound hbound
    refine ⟨hexec.trans ?_, hdebug.trans ?_⟩
    · exact congrArg some (finish_exited hstack htv hv)
    · exact congrArg some (finish_exited hstack htw hw)
  · obtain ⟨steps, last, u, hcourse, ⟨_, rfl, hresult, -⟩ | ⟨-, ⟨_, _, -, hresult⟩, -⟩⟩ :=
      hruns.course
    · cases hresult
      obtain ⟨b, v, w, hexplored, -, hv, -, hw⟩ :=
        explore_of_course hname hsource hinput ha hcourse
      -- what a failing step leaves is not seen
      have hseen : seen steps (.error failure) u = steps.map Prod.fst := List.append_nil _
      rw [hseen] at hv hw
      refine ⟨steps, u, b, hcourse, fun bound hbound => ?_⟩
      obtain ⟨hexec, hdebug⟩ := hexplored bound hbound
      exact ⟨hexec.trans (congrArg some (finish_failed hv)),
        hdebug.trans (congrArg some (finish_failed hw))⟩
    · cases hresult
  · obtain ⟨value, rest, hstack⟩ := List.exists_cons_of_ne_nil hexits.stack_ne_nil
    exact ⟨value, rest, _, hstack, Text.quotes_iff.2 rfl, statusText_of_cons hstack⟩

/-- A value is printed and written as the quotation mark that it is: both modes show it, the second
between the pictures of two states. -/
theorem exec_and_debug_agree_printed :
    let m := Machine.standard false
    let p : Program := #[⟨1, 34⟩, ⟨0, 0⟩, ⟨12, 0⟩, ⟨2, 0⟩]
    let bytes := "LOAD_CONST 34\nPRINT\nWRITE_CHAR\nEXIT".toByteArray.data.toList
    let exited := "Exited(34)\nOutput: \"\\\"\"\n"
    decode? bytes = some "LOAD_CONST 34\nPRINT\nWRITE_CHAR\nEXIT" ∧ (decode? [13, 10]).isSome ∧
      ∃ (steps : List (State Transcript × Except Failure Status)) (t : State Transcript) (b : ℕ),
        Course m p (.initial m {}) steps (.ok .exited) t ∧ steps.length = 4 ∧
        ∀ bound, b ≤ bound →
          let states := steps.map Prod.fst ++ [t]
          explore bound ⟨.exec, false, "a"⟩ (.ok bytes) [13, 10] = some ⟨0, "34\n" ++ exited, ""⟩ ∧
            explore bound ⟨.debug, false, "a"⟩ (.ok bytes) [13, 10] =
              some ⟨0, shownAlong m p states ++ exited, ""⟩ := by
  intro m p bytes exited
  have hbytes : decode? bytes = some "LOAD_CONST 34\nPRINT\nWRITE_CHAR\nEXIT" :=
    decode?_toByteArray _
  have hinput : (decode? [13, 10]).isSome := isSome_decode?_iff.2 ⟨['\r', '\n'], by decide⟩
  have ha : m.assemble "LOAD_CONST 34\nPRINT\nWRITE_CHAR\nEXIT" = .ok ⟨p, #[1, 2, 3, 4]⟩ := by rfl
  obtain ⟨-, hmodes, -⟩ := exec_and_debug_agree "a" (by decide) bytes [13, 10] _ hbytes hinput
  obtain ⟨hexits, -⟩ := hmodes _ ha
  obtain ⟨t, ht⟩ : ∃ t : State Transcript, RunsTo m p (.initial m {}) (.ok ⟨34, "\""⟩) t :=
    ⟨_, 5, rfl⟩
  obtain ⟨steps, b, quoted, hcourse, hquoted, hshown⟩ := hexits _ _ t ht
  obtain ⟨states, u, hknown, hlength, hprinted⟩ :
      ∃ (states : _) (u : State Transcript),
        Course m p (.initial m {}) states (.ok .exited) u ∧ states.length = 4 ∧
        printedAlong (states.map Prod.fst ++ [u]) = "34\n" := by
    refine ⟨_, _, .next ⟨1, rfl⟩ (.next ⟨1, rfl⟩ (.next ⟨1, rfl⟩ (.last ⟨1, rfl⟩ (by decide)))), rfl,
      ?_⟩
    show printedText [] ++ (printedText [34] ++ (printedText [] ++ (printedText [] ++ ""))) = "34\n"
    simp only [printedText, List.map_cons, List.map_nil, ← Numeral.text_eq_toString]
    decide
  obtain ⟨rfl, -, rfl⟩ := hcourse.unique hknown
  have hexited : exitedText 34 quoted = exited := by
    rw [Text.quotes_iff.1 hquoted]
    rfl
  refine ⟨hbytes, hinput, steps, t, b, hcourse, hlength, fun bound hbound => ?_⟩
  rw [← hprinted, ← hexited]
  exact hshown bound hbound

end Explorer

end StackMachine
