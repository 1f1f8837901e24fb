import StackMachine.Proofs.ExplorerModes

/-!
What the input of the step debugger can do. A session takes a line for each step and asks only whether
it is text. As long as the lines are text the session follows the course of the program, whatever the
lines say and whatever stands behind the last of them; the first line that is no text ends it before
the step that the line was to release.
-/

namespace StackMachine

/-! ### What the streams show -/

def SinkEvent.line? : SinkEvent → Option String
  | .debug line => some line
  | .print _ => none

namespace Explorer

/-- The debug lines that a sink was given. -/
def tracedText (x : Transcript) : String :=
  Text.unlines (x.events.toList.filterMap SinkEvent.line?)

lemma unlines_concat (rows : List String) (row : String) :
    Text.unlines (rows ++ [row]) = Text.unlines rows ++ row ++ "\n" := by
  simp [Text.unlines, String.join_append, String.append_assoc]

lemma printedText_concat (values : List Int64) (value : Int64) :
    printedText (values ++ [value]) = printedText values ++ Numeral.text value.toInt ++ "\n" := by
  rw [printedText, List.map_append, List.map_singleton, unlines_concat, Numeral.text_eq_toString]
  rfl

lemma tracedText_print (x : Transcript) (value : Int64) :
    tracedText (Sink.print x value) = tracedText x := by
  simp [tracedText, Sink.print, List.filterMap_cons, SinkEvent.line?]

lemma tracedText_debug (x : Transcript) (line : String) :
    tracedText (Sink.debug x line) = tracedText x ++ line ++ "\n" := by
  simp [tracedText, Sink.debug, SinkEvent.line?, unlines_concat]

/-- The streams show all the debug lines of a sink and, behind `front`, the values that it was given
since it was `before`. -/
structure Shows (before : Transcript) (front : String) (x : Transcript) (y : Streams) : Prop where
  out : ∃ values, x.prints = before.prints ++ values ∧ y.out = front ++ printedText values
  err : y.err = tracedText x

lemma stable_shows (before : Transcript) (front : String) : Stable Eq (Shows before front) where
  and c h := congrArg (· && c) h
  print {x y} value h := by
    obtain ⟨values, hprints, hout⟩ := h.out
    refine ⟨⟨values ++ [value], ?_, ?_⟩, ?_⟩
    · rw [Transcript.prints_print, hprints, List.append_assoc]
    · show y.out ++ Numeral.text value.toInt ++ "\n" = _
      rw [hout, printedText_concat]
      simp only [String.append_assoc]
    · rw [tracedText_print]
      exact h.err
  record entry h := ⟨h.out, h.err⟩
  debug {x y} line h := by
    obtain ⟨values, hprints, hout⟩ := h.out
    refine ⟨⟨values, (Transcript.prints_debug x line).trans hprints, hout⟩, ?_⟩
    show y.err ++ line ++ "\n" = _
    rw [h.err, tracedText_debug]
  debug_left _ h := by simp at h
  debug_right _ h := by simp at h

end Explorer

open Explorer

section

variable {m : Machine} {p : Program} {s t : State Transcript} {u : State Streams}

/-- The states are the same but for their sinks, and the streams show the debug lines of the first. -/
abbrev State.TracedBy (s : State Transcript) (u : State Streams) : Prop :=
  s.Agree Eq (fun x y => y.err = tracedText x) u

lemma State.TracedBy.sameBut (h : s.TracedBy u) : s.SameBut u :=
  ⟨h.stack, h.pc, h.output, h.debug, trivial⟩

lemma State.TracedBy.showState (h : s.TracedBy u) : s.TracedBy (showState m p u) :=
  ⟨h.stack, h.pc, h.output, h.debug, h.sink⟩

lemma StepsTo.traced {result : Except Failure Status} (h : StepsTo m p s result t)
    (hu : s.TracedBy u) :
    ∃ v, StepsTo m p u result v ∧ t.TracedBy v ∧
      v.sink.out = u.sink.out ++ printedBetween s t := by
  have hshows : s.Agree Eq (Shows s.sink u.sink.out) u :=
    ⟨hu.stack, hu.pc, hu.output, hu.debug, ⟨[], by simp, by simp [printedText, Text.unlines]⟩,
      hu.sink⟩
  obtain ⟨v, hv, htv⟩ := ((stable_shows _ _).simulation m p).stepsTo h hshows
  obtain ⟨values, hprints, hout⟩ := htv.sink.out
  refine ⟨v, hv, ⟨htv.stack, htv.pc, htv.output, htv.debug, htv.sink.err⟩, ?_⟩
  rw [hout, printedBetween, hprints, List.drop_left]

end

/-! ### Turns of a session -/

namespace Explorer

/-- The first `k` lines are text. Behind the last line all lines are empty. -/
def TextUpTo (k : ℕ) (lines : List (List UInt8)) : Prop :=
  ∀ i < k, (decode? (lines.getD i [])).isSome

instance (k : ℕ) (lines : List (List UInt8)) : Decidable (TextUpTo k lines) :=
  inferInstanceAs (Decidable (∀ i < k, _))

lemma textUpTo_succ_iff {k : ℕ} {lines : List (List UInt8)} :
    TextUpTo (k + 1) lines ↔ (decode? (lines.headD [])).isSome ∧ TextUpTo k lines.tail := by
  rw [TextUpTo, Nat.forall_lt_succ_left]
  cases lines <;> rfl

lemma textUpTo_succ_iff_drop {k : ℕ} {lines : List (List UInt8)} :
    TextUpTo (k + 1) lines ↔ TextUpTo k lines ∧ (decode? ((lines.drop k).headD [])).isSome := by
  rw [TextUpTo, Nat.forall_lt_succ_right, List.headD_eq_head?_getD, List.head?_drop,
    ← List.getD_eq_getElem?_getD]
  rfl

/-- `k` turns of a session, none of which ends it. -/
inductive Turns (m : Machine) (p : Program) : ℕ → State Streams → State Streams → Prop
  | refl (u : State Streams) : Turns m p 0 u u
  | head {k : ℕ} {u v w : State Streams} : StepsTo m p (showState m p u) (.ok .executing) v →
      Turns m p k v w → Turns m p (k + 1) u w

section

variable {m : Machine} {p : Program} {k : ℕ} {u v : State Streams}

/-- **Turns do not depend on what the lines say**, if these are text. -/
lemma Turns.debugLoop (h : Turns m p k u v) :
    ∃ b, ∀ c n lines, b ≤ c → TextUpTo k lines →
      debugLoop m p (step m p c) (n + k) lines u =
        debugLoop m p (step m p c) n (lines.drop k) v := by
  induction h with
  | refl u => exact ⟨0, fun _ _ _ _ _ => rfl⟩
  | @head k u v w hstep _ ih =>
    obtain ⟨b, hb⟩ := hstep.eventually
    obtain ⟨b', hrest⟩ := ih
    refine ⟨max b b', fun c n lines hc hlines => ?_⟩
    obtain ⟨hline, htail⟩ := textUpTo_succ_iff.1 hlines
    rw [← Nat.add_assoc, debugLoop_turn hline (hb c (by omega))]
    exact (hrest c n _ (by omega) htail).trans (by rw [List.drop_tail])

lemma debugLoop_last {last : Except Failure Status} (h : StepsTo m p (showState m p u) last v)
    (hlast : last ≠ .ok .executing) :
    ∃ b w, ∀ c n lines, b ≤ c → (decode? (lines.headD [])).isSome →
      debugLoop m p (step m p c) (n + 1) lines u = some (stopOf last, w) := by
  obtain ⟨b, hb⟩ := h.eventually
  rcases last with failure | _ | _
  · exact ⟨b, v, fun c n lines hc hline => debugLoop_turn hline (hb c hc)⟩
  · exact absurd rfl hlast
  · exact ⟨b, showState m p v, fun c n lines hc hline => debugLoop_turn hline (hb c hc)⟩

/-- Upon a line that is no text nothing is executed. -/
lemma debugLoop_badLine {stepper : Stepper Streams} {n : ℕ} {lines : List (List UInt8)}
    (h : ¬ (decode? (lines.headD [])).isSome) :
    debugLoop m p stepper (n + 1) lines u = some (.error .badLine, showState m p u) := by
  have hnone : decode? (lines.headD []) = none := Option.not_isSome_iff_eq_none.1 h
  simp only [debugLoop, turn, hnone]

end

end Explorer

/-! ### The turns along a course -/

namespace Course

variable {m : Machine} {p : Program} {s t : State Transcript} {u : State Streams}
  {steps : List (State Transcript × Except Failure Status)} {last : Except Failure Status}

lemma states_eq_cons (h : Course m p s steps last t) :
    ∃ rest, steps.map Prod.fst = s :: rest := by
  cases h with
  | last => exact ⟨_, rfl⟩
  | next => exact ⟨_, rfl⟩

/-- **A session takes its turns along the course**: before each step of the course it has executed the
steps before, and shown the states up to this one. -/
theorem turns (h : Course m p s steps last t) (hu : s.TracedBy u) {k : ℕ} {x : State Transcript}
    (hx : (steps.map Prod.fst)[k]? = some x) :
    Executes m p k s x ∧ ∃ v, Turns m p k u v ∧ x.TracedBy v ∧
      (showState m p v).sink.out =
        u.sink.out ++ shownAlong m p ((steps.map Prod.fst).take (k + 1)) := by
  have hfirst : ∀ {s : State Transcript} {u : State Streams}, s.TracedBy u →
      (showState m p u).sink.out = u.sink.out ++ shownAlong m p [s] := by
    intro s u hu
    rw [sink_showState, shownAlong, hu.sameBut.display]
  induction h generalizing u k with
  | last hstep _ =>
    cases k with
    | zero =>
      obtain rfl := Option.some.inj hx
      exact ⟨.refl _, u, .refl u, hu, hfirst hu⟩
    | succ k => simp at hx
  | @next s t _ steps last hstep hcourse ih =>
    cases k with
    | zero =>
      obtain rfl := Option.some.inj hx
      exact ⟨.refl _, u, .refl u, hu, hfirst hu⟩
    | succ k =>
      -- one turn for the first step, and those along the rest of the course behind it
      obtain ⟨v, hv, htv, hout⟩ := hstep.traced (hu.showState (m := m) (p := p))
      obtain ⟨hexec, w, hw, hxw, hshown⟩ := ih htv (by simpa using hx)
      obtain ⟨rest, hstates⟩ := hcourse.states_eq_cons
      refine ⟨.head hstep hexec, w, .head hv hw, hxw, ?_⟩
      rw [hshown, hout, sink_showState, ← hu.sameBut.display, List.map_cons, List.take_succ_cons,
        hstates, List.take_succ_cons, shownAlong]
      simp only [String.append_assoc]

/-- If the lines of a session are text, it ends as the course does, whatever they say. -/
theorem debugLoop_of_text (h : Course m p s steps last t) (hu : s.TracedBy u) :
    ∃ b v, ∀ c n lines, b ≤ c → b ≤ n → TextUpTo steps.length lines →
      debugLoop m p (step m p c) n lines u = some (stopOf last, v) := by
  obtain ⟨k, x, hlength, hexec, hlast⟩ := h.exists_executes
  have hk : k < (steps.map Prod.fst).length := by simp [hlength]
  obtain ⟨hexec', v, hturns, hxv, -⟩ := h.turns hu (List.getElem?_eq_getElem hk)
  rw [hexec'.unique hexec] at hxv
  obtain ⟨w, hw, -, -⟩ := hlast.traced (hxv.showState (m := m) (p := p))
  obtain ⟨b, hloop⟩ := hturns.debugLoop
  -- the last step is the turn behind the `k` others
  obtain ⟨b', v', hend⟩ := debugLoop_last hw h.last_ne
  refine ⟨b + b' + k + 1, v', fun c n lines hc hn hlines => ?_⟩
  rw [hlength, textUpTo_succ_iff_drop] at hlines
  obtain ⟨n, rfl⟩ : ∃ j, n = j + 1 + k := ⟨n - 1 - k, by omega⟩
  rw [hloop c (n + 1) lines (by omega) hlines.1]
  exact hend c n _ (by omega) hlines.2

/-- If the first line that is no text stands behind `k` others, a session stops in the state that the
course reaches in `k` steps. -/
theorem debugLoop_of_badLine (h : Course m p s steps last t) (hu : s.TracedBy u) {k : ℕ}
    {x : State Transcript} (hx : (steps.map Prod.fst)[k]? = some x) :
    ∃ b v, (∀ c n lines, b ≤ c → b ≤ n → TextUpTo k lines → ¬ TextUpTo (k + 1) lines →
        debugLoop m p (step m p c) n lines u = some (.error .badLine, v)) ∧
      x.TracedBy v ∧
      v.sink.out = u.sink.out ++ shownAlong m p ((steps.map Prod.fst).take (k + 1)) := by
  obtain ⟨-, v, hturns, hxv, hout⟩ := h.turns hu hx
  obtain ⟨b, hloop⟩ := hturns.debugLoop
  refine ⟨b + k + 1, showState m p v, fun c n lines hc hn hlines hbad => ?_, hxv.showState, hout⟩
  rw [textUpTo_succ_iff_drop, not_and] at hbad
  obtain ⟨n, rfl⟩ : ∃ j, n = j + 1 + k := ⟨n - 1 - k, by omega⟩
  rw [hloop c (n + 1) lines (by omega) hlines]
  exact debugLoop_badLine (hbad hlines)

end Course

/-! ### The outcome of a session -/

namespace Explorer

variable {name source : String} {bytes input : List UInt8} {trace : Bool} {a : Assembly}

lemma explore_of_debugLoop (hname : name ≠ "-") (hsource : decode? bytes = some source)
    (ha : (Machine.standard trace).assemble source = .ok a) {bound : ℕ}
    {result : Except Stop Unit} {v : State Streams}
    (h : debugLoop (.standard trace) a.program (step (.standard trace) a.program bound) bound
      (inputLines input) (.initial (.standard trace) {}) = some (result, v)) :
    explore bound ⟨.debug, trace, name⟩ (.ok bytes) input =
      some (Job.finish ⟨.debug, source, .standard trace, a⟩ result v) := by
  rw [explore, prepare_of_file hname hsource, assembleJob_of_ok ha]
  simp only [Job.perform, Job.debug, Job.initial, h, Option.map_some]

/-- **What the input of the debugger can do.** Let a program that can be assembled end after its
course, stepped through with tracing or without. For all inputs whose first lines are text, as many as
the course has steps, the outcome is the same, whatever these lines say and whatever follows them. If
the first line that is no text stands behind `k` others, and the course has more than `k` steps, then
`k` steps are executed and no more: the session stops in the state reached, the states up to this one
are shown, with what was printed between them, and behind the lines traced an error tells of the text
and quotes no source line. -/
theorem session_heeds_only_text (trace : Bool) (name : String) (hname : name ≠ "-")
    (bytes : List UInt8) (source : String) (hsource : decode? bytes = some source) (a : Assembly)
    (ha : (Machine.standard trace).assemble source = .ok a)
    (steps : List (State Transcript × Except Failure Status)) (last : Except Failure Status)
    (t : State Transcript)
    (h : Course (.standard trace) a.program (.initial (.standard trace) {}) steps last t) :
    let m := Machine.standard trace
    let explored := fun input bound => explore bound ⟨.debug, trace, name⟩ (.ok bytes) input
    let session := fun input bound =>
      debugLoop m a.program (step m a.program bound) bound (inputLines input) (.initial m {})
    let states := steps.map Prod.fst
    (∃ b outcome, ∀ input, TextUpTo steps.length (inputLines input) → ∀ bound, b ≤ bound →
      explored input bound = some outcome) ∧
    ∀ k s, states[k]? = some s → Executes m a.program k (.initial m {}) s ∧
      ∃ b v, s.SameBut v ∧ ∀ input, TextUpTo k (inputLines input) →
        ¬ TextUpTo (k + 1) (inputLines input) → ∀ bound, b ≤ bound →
          let report := "execution stopped: " ++ "stream did not contain valid UTF-8"
          session input bound = some (.error .badLine, v) ∧
          explored input bound = some ⟨1, shownAlong m a.program (states.take (k + 1)),
            tracedText s.sink ++ "Error: " ++ report ++ "\n"⟩ := by
  intro m explored session states
  have hfresh : (State.initial m {} : State Transcript).TracedBy
      (State.initial m {} : State Streams) := ⟨rfl, rfl, rfl, rfl, rfl⟩
  refine ⟨?_, fun k s hs => ⟨(h.turns hfresh hs).1, ?_⟩⟩
  · obtain ⟨b, v, hloop⟩ := h.debugLoop_of_text hfresh
    exact ⟨b, _, fun input hinput bound hbound =>
      explore_of_debugLoop hname hsource ha (hloop bound bound _ hbound hbound hinput)⟩
  · obtain ⟨b, v, hloop, hsv, hout⟩ := h.debugLoop_of_badLine hfresh hs
    have hsink : v.sink =
        ⟨shownAlong m a.program (states.take (k + 1)), tracedText s.sink⟩ := by
      rw [← hsv.sink, ← hout.trans (String.empty_append ..)]
    refine ⟨b, v, hsv.sameBut, fun input hinput hbad bound hbound => ?_⟩
    have hstopped := hloop bound bound _ hbound hbound hinput hbad
    refine ⟨hstopped, (explore_of_debugLoop hname hsource ha hstopped).trans ?_⟩
    rw [Job.finish, hsink]
    rfl

/-- A session of three steps ends in the same way without input and with a line that is no text behind
the third one; with such a line in the second place it ends before the second step. -/
theorem session_heeds_only_text_broken :
    let m := Machine.standard true
    let p : Program := #[⟨1, 72⟩, ⟨0, 0⟩, ⟨2, 0⟩]
    let bytes := "LOAD_CONST 72\nPRINT\nEXIT".toByteArray.data.toList
    let explored := fun input bound => explore bound ⟨.debug, true, "a"⟩ (.ok bytes) input
    decode? bytes = some "LOAD_CONST 72\nPRINT\nEXIT" ∧
      m.assemble "LOAD_CONST 72\nPRINT\nEXIT" = .ok ⟨p, #[1, 2, 3]⟩ ∧
      ∃ (steps : List (State Transcript × Except Failure Status)) (t : State Transcript) (b : ℕ)
          (outcome : Outcome),
        Course m p (.initial m {}) steps (.ok .exited) t ∧ steps.length = 3 ∧
        ∀ bound, b ≤ bound →
          explored [] bound = some outcome ∧
          explored [120, 10, 10, 10, 255] bound = some outcome ∧
          explored [120, 10, 255] bound = some ⟨1, shownAlong m p ((steps.map Prod.fst).take 2),
            "-- exec LOAD_CONST arg=72 at pc=0\n" ++ "Error: " ++
              ("execution stopped: " ++ "stream did not contain valid UTF-8") ++ "\n"⟩ := by
  intro m p bytes explored
  have hbytes : decode? bytes = some "LOAD_CONST 72\nPRINT\nEXIT" := decode?_toByteArray _
  have ha : m.assemble "LOAD_CONST 72\nPRINT\nEXIT" = .ok ⟨p, #[1, 2, 3]⟩ := by rfl
  obtain ⟨steps, s, t, hcourse, hlength, hs, htraced⟩ :
      ∃ (steps : _) (s t : State Transcript), Course m p (.initial m {}) steps (.ok .exited) t ∧
        steps.length = 3 ∧ (steps.map Prod.fst)[1]? = some s ∧
        tracedText s.sink = "-- exec LOAD_CONST arg=72 at pc=0\n" :=
    ⟨_, _, _, .next ⟨1, rfl⟩ (.next ⟨1, rfl⟩ (.last ⟨1, rfl⟩ (by decide))), rfl, rfl, by decide⟩
  obtain ⟨⟨b, outcome, hsame⟩, hstops⟩ := session_heeds_only_text true "a" (by decide) bytes _
    hbytes _ ha steps _ t hcourse
  obtain ⟨-, b', v, -, hstopped⟩ := hstops 1 s hs
  rw [hlength] at hsame
  refine ⟨hbytes, ha, steps, t, b + b', outcome, hcourse, hlength, fun bound hbound => ⟨?_, ?_, ?_⟩⟩
  · exact hsame [] (by decide) bound (by omega)
  · exact hsame [120, 10, 10, 10, 255] (by decide) bound (by omega)
  · rw [← htraced]
    exact (hstopped [120, 10, 255] (by decide) (by decide) bound (by omega)).2

end Explorer

end StackMachine
