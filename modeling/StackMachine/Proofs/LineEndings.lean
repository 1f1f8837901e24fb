import StackMachine.Proofs.ExplorerModes

/-!
Line endings. A text without carriage returns and the text that has one before each line feed have the
same lines, to the assembler and to a report. The explorer sees of a source nothing but these lines, so
it does the same with both texts.
-/

namespace StackMachine

open Text

/-! ### Texts and their last pieces -/

section

variable {rows : List (List Char)} {last : List Char}

/-- Every text is rows, each with a line feed behind it, and a last piece. -/
lemma exists_terminated_append (text : List Char) : ∃ rows last,
    text = terminated rows ++ last ∧ (∀ row ∈ rows, '\n' ∉ row) ∧ '\n' ∉ last := by
  obtain ⟨rows, last, hpieces⟩ :=
    (List.eq_nil_or_concat' (text.splitOn '\n')).resolve_left (List.splitOn_ne_nil _ _)
  have hmem : ∀ piece ∈ rows ++ [last], '\n' ∉ piece := hpieces ▸ not_mem_of_mem_splitOn
  rw [List.forall_mem_append, List.forall_mem_singleton] at hmem
  obtain ⟨hrows, hlast⟩ := hmem
  have hcut : text.splitOn '\n' = (terminated rows ++ last).splitOn '\n' :=
    hpieces.trans (splitOn_terminated_append hrows hlast).symm
  refine ⟨rows, last, ?_, hrows, hlast⟩
  calc text = ['\n'].intercalate (text.splitOn '\n') := (List.intercalate_splitOn ..).symm
    _ = ['\n'].intercalate ((terminated rows ++ last).splitOn '\n') := by rw [hcut]
    _ = terminated rows ++ last := List.intercalate_splitOn ..

lemma sourceLines_terminated_append (hrows : ∀ row ∈ rows, '\n' ∉ row) (hlast : '\n' ∉ last) :
    sourceLines (terminated rows ++ last) = rows.map dropReturn ++ [dropReturn last] := by
  rw [sourceLines, splitOn_terminated_append hrows hlast, List.map_append, List.map_singleton]

lemma shownLines_terminated_append (hrows : ∀ row ∈ rows, '\n' ∉ row) (hlast : '\n' ∉ last) :
    shownLines (terminated rows ++ last) = rows.map dropReturn ++ [last].filter (· ≠ []) := by
  simp [shownLines, splitOn_terminated_append hrows hlast]

end

/-! ### Carriage returns before line feeds -/

/-- The text with a carriage return before each line feed. -/
def withReturns (text : List Char) : List Char :=
  text.flatMap fun c => if c = '\n' then ['\r', '\n'] else [c]

section

variable {rows : List (List Char)} {last text : List Char}

lemma withReturns_append (first second : List Char) :
    withReturns (first ++ second) = withReturns first ++ withReturns second :=
  List.flatMap_append

lemma withReturns_of_not_mem (h : '\n' ∉ text) : withReturns text = text := by
  induction text with
  | nil => rfl
  | cons c rest ih =>
    obtain ⟨hc, hrest⟩ := not_or.1 (mt List.mem_cons.2 h)
    rw [withReturns, List.flatMap_cons, if_neg (Ne.symm hc)]
    exact congrArg (c :: ·) (ih hrest)

lemma withReturns_terminated_append (hrows : ∀ row ∈ rows, '\n' ∉ row) (hlast : '\n' ∉ last) :
    withReturns (terminated rows ++ last) = terminated (rows.map (· ++ ['\r'])) ++ last := by
  rw [withReturns_append, withReturns_of_not_mem hlast]
  congr 1
  induction rows with
  | nil => rfl
  | cons row rows ih =>
    obtain ⟨hrow, hrest⟩ := List.forall_mem_cons.1 hrows
    have hnewline : withReturns ['\n'] = ['\r', '\n'] := rfl
    rw [terminated, List.flatMap_cons, withReturns_append, withReturns_append,
      withReturns_of_not_mem hrow, hnewline, ← terminated, ih hrest]
    simp [terminated]

/-- **A text and the text with carriage returns have the same lines**, if the first has none. -/
theorem lines_withReturns (h : '\r' ∉ text) :
    sourceLines (withReturns text) = sourceLines text ∧
      shownLines (withReturns text) = shownLines text := by
  obtain ⟨rows, last, rfl, hrows, hlast⟩ := exists_terminated_append text
  have hreturned : ∀ row ∈ rows.map (· ++ ['\r']), '\n' ∉ row := by
    simpa using hrows
  have hdrop : (rows.map (· ++ ['\r'])).map dropReturn = rows.map dropReturn := by
    rw [List.map_map]
    refine List.map_congr_left fun row hrow => ?_
    have hmem : '\r' ∉ row := by
      intro hr
      exact h (List.mem_append_left _ (List.mem_flatMap.2 ⟨row, hrow, List.mem_append_left _ hr⟩))
    rw [Function.comp_apply, dropReturn_append_return, dropReturn_of_not_mem hmem]
  rw [withReturns_terminated_append hrows hlast]
  constructor
  · rw [sourceLines_terminated_append hreturned hlast, sourceLines_terminated_append hrows hlast,
      hdrop]
  · rw [shownLines_terminated_append hreturned hlast, shownLines_terminated_append hrows hlast,
      hdrop]

end

/-! ### What is seen of a source -/

/-- The sources have the same lines, to the assembler and to a report. -/
structure SameLines (source source' : String) : Prop where
  assembled : sourceLines source.toList = sourceLines source'.toList
  shown : shownLines source.toList = shownLines source'.toList

namespace SameLines

open Explorer

variable {source source' : String}

lemma assemble (h : SameLines source source') (set : InstructionSet) :
    set.assemble source = set.assemble source' := by
  simp only [InstructionSet.assemble, InstructionSet.numberedLines, h.assembled]

lemma shownLine? (h : SameLines source source') :
    ∀ n, Explorer.shownLine? source n = Explorer.shownLine? source' n
  | 0 => rfl
  | n + 1 => by simp only [Explorer.shownLine?, h.shown]

lemma describe (h : SameLines source source') (lines : Option LineMap) (failure : Failure) :
    describe lines source failure = describe lines source' failure := by
  simp only [Explorer.describe, h.shownLine?]

lemma finish (h : SameLines source source') (mode : Mode) (m : Machine) (a : Assembly)
    (result : Except Stop Unit) (s : State Streams) :
    Job.finish ⟨mode, source, m, a⟩ result s = Job.finish ⟨mode, source', m, a⟩ result s := by
  rcases result with (failure | _) | _
  · simp only [Job.finish, Stop.describe, h.describe]
  · rfl
  · rfl

lemma perform (h : SameLines source source') (mode : Mode) (m : Machine) (a : Assembly)
    (bound : ℕ) (input : List UInt8) :
    Job.perform bound ⟨mode, source, m, a⟩ input =
      Job.perform bound ⟨mode, source', m, a⟩ input := by
  cases mode with
  | exec => simp only [Job.perform, Job.exec, Job.initial, h.finish]
  | debug => simp only [Job.perform, Job.debug, Job.initial, h.finish]
  | disassemble => rfl

lemma explore (h : SameLines source source') {args : Arguments} (hfile : args.file ≠ "-")
    {bytes bytes' : List UInt8} (hbytes : decode? bytes = some source)
    (hbytes' : decode? bytes' = some source') (bound : ℕ) (input : List UInt8) :
    explore bound args (.ok bytes) input = explore bound args (.ok bytes') input := by
  obtain ⟨mode, trace, name⟩ := args
  simp only [Explorer.explore, prepare_of_file hfile hbytes, prepare_of_file hfile hbytes']
  cases ha : InstructionSet.standard.assemble source with
  | error failure =>
    rw [assembleJob_of_error ha, assembleJob_of_error ((h.assemble _).symm.trans ha), h.describe]
  | ok a =>
    rw [assembleJob_of_ok ha, assembleJob_of_ok ((h.assemble _).symm.trans ha)]
    exact h.perform mode _ a bound input

end SameLines

namespace Explorer

/-- **Line endings do not matter.** Let a file hold a text without carriage returns, and another file
the same text with a carriage return before each line feed. Both are assembled alike, to the same
program with the same line numbers or with the same failure, and a report quotes the same lines of
them; so whatever the mode, with tracing or without, and whatever the input, the explorer has the same
outcome. -/
theorem line_endings_unobservable (args : Arguments) (hfile : args.file ≠ "-")
    (source source' : String) (hsource : '\r' ∉ source.toList)
    (hreturns : source'.toList = withReturns source.toList) (bytes bytes' : List UInt8)
    (hbytes : decode? bytes = some source) (hbytes' : decode? bytes' = some source') :
    (Machine.standard args.trace).assemble source' =
        (Machine.standard args.trace).assemble source ∧
      (∀ n, shownLine? source' n = shownLine? source n) ∧
      ∀ bound input, explore bound args (.ok bytes') input = explore bound args (.ok bytes) input := by
  have hlines := lines_withReturns hsource
  rw [← hreturns] at hlines
  have hsame : SameLines source' source := ⟨hlines.1, hlines.2⟩
  exact ⟨hsame.assemble _, hsame.shownLine?, hsame.explore hfile hbytes' hbytes⟩

/-- A carriage return is shown neither in the message about a line with two arguments nor where this
line is quoted. -/
theorem line_endings_unobservable_arguments :
    let bytes := "ADD 1 2\nEXIT".toByteArray.data.toList
    let bytes' := "ADD 1 2\r\nEXIT".toByteArray.data.toList
    let outcome : Outcome := ⟨1, "", "Error: Assembly failed: " ++
      "invalid instruction: more than one instruction argument: ADD 1 2 at line 1" ++
        "\n  --> line 1: ADD 1 2\n"⟩
    '\r' ∉ "ADD 1 2\nEXIT".toList ∧
      "ADD 1 2\r\nEXIT".toList = withReturns "ADD 1 2\nEXIT".toList ∧
      decode? bytes = some "ADD 1 2\nEXIT" ∧ decode? bytes' = some "ADD 1 2\r\nEXIT" ∧
      ∀ bound input,
        explore bound ⟨.exec, false, "a"⟩ (.ok bytes) input = some outcome ∧
        explore bound ⟨.exec, false, "a"⟩ (.ok bytes') input = some outcome := by
  intro bytes bytes' outcome
  have hbytes : decode? bytes = some "ADD 1 2\nEXIT" := decode?_toByteArray _
  have hbytes' : decode? bytes' = some "ADD 1 2\r\nEXIT" := decode?_toByteArray _
  have hsource : '\r' ∉ "ADD 1 2\nEXIT".toList := by decide
  have hreturns : "ADD 1 2\r\nEXIT".toList = withReturns "ADD 1 2\nEXIT".toList := by decide
  have hfailure : InstructionSet.standard.assemble "ADD 1 2\nEXIT" =
      .error ((Fault.tooManyArguments "ADD 1 2").atLine 1) := by rfl
  have houtcome : Outcome.failed {} (.assembly (describe none "ADD 1 2\nEXIT"
      ((Fault.tooManyArguments "ADD 1 2").atLine 1))) = outcome := by decide
  obtain ⟨-, -, hsame⟩ := line_endings_unobservable ⟨.exec, false, "a"⟩ (by decide) _ _ hsource
    hreturns bytes bytes' hbytes hbytes'
  refine ⟨hsource, hreturns, hbytes, hbytes', fun bound input => ?_⟩
  rw [hsame, and_self, explore, prepare_of_file (by decide) hbytes, assembleJob_of_error hfailure,
    ← houtcome]

end Explorer

end StackMachine
