import StackMachine.Proofs.ListingRoundTrip
import StackMachine.Proofs.Registration

/-!
Programs under other numbers. A renumbering takes the number of each instruction of a set to the
number of the same instruction, with its name and its action, in another set. What is assembled with
the one set is assembled with the other, under the other numbers; a program and the renumbered one
have the same listing, and answer every request alike in every state. Nothing that is shown or
executed depends on a number but through the name and the action. So the order of registration is of
no consequence for a text, and what is registered later changes no program.
-/

namespace StackMachine

/-! ### Renumbering -/

def Instruction.renumber (ρ : OpId → OpId) (i : Instruction) : Instruction :=
  { i with op := ρ i.op }

def Program.renumber (ρ : OpId → OpId) (p : Program) : Program :=
  p.map (Instruction.renumber ρ)

@[simp] lemma Program.renumber_id (p : Program) : p.renumber id = p :=
  Array.map_id p

lemma Program.fetch?_renumber (ρ : OpId → OpId) (p : Program) (pc : UInt64) :
    (p.renumber ρ).fetch? pc = (p.fetch? pc).map (Instruction.renumber ρ) :=
  Array.getElem?_map

namespace InstructionSet

/-- All instructions of the program are registered. -/
def Registers (set : InstructionSet) (p : Program) : Prop :=
  ∀ i ∈ p, i.op < set.size

/-- The renumbering `ρ` takes the number of each instruction of `set` to the number of the same
instruction in `set'`. -/
def Embeds (ρ : OpId → OpId) (set set' : InstructionSet) : Prop :=
  ∀ op entry, set.entries[op]? = some entry → set'.entries[ρ op]? = some entry

/-- The number in `set'` of the instruction with the name of `op` in `set`. -/
def numberIn (set' set : InstructionSet) (op : OpId) : OpId :=
  ((set.name? op).bind set'.id?).getD op

variable {set set' : InstructionSet} {ρ ρ' : OpId → OpId}

lemma embeds_of_subset (h : ∀ entry ∈ set.entries, entry ∈ set'.entries) :
    Embeds (set'.numberIn set) set set' := by
  intro op entry hop
  obtain ⟨op', hop'⟩ := List.mem_iff_getElem?.1 (h entry (List.mem_of_getElem? hop))
  have hid : set'.id? entry.name = some op' := id?_eq_some_iff.2 (name?_of_getElem? hop')
  have hnumber : set'.numberIn set op = op' := by
    rw [numberIn, name?_of_getElem? hop, Option.bind_some, hid]
    rfl
  rw [hnumber]
  exact hop'

lemma embeds_of_prefix (h : set.entries <+: set'.entries) : Embeds id set set' := by
  intro op entry hop
  obtain ⟨later, hlater⟩ := h
  obtain ⟨hlt, -⟩ := List.getElem?_eq_some_iff.1 hop
  rw [← hlater, id, List.getElem?_append_left hlt]
  exact hop

lemma embeds_afterAll (set : InstructionSet) (calls : List (String × Action)) :
    Embeds id set (set.afterAll calls) :=
  embeds_of_prefix (entries_prefix_afterAll set calls)

lemma Embeds.name? (h : Embeds ρ set set') {op : OpId} {name : String}
    (hname : set.name? op = some name) : set'.name? (ρ op) = some name := by
  obtain ⟨entry, hop, rfl⟩ := Option.map_eq_some_iff.1 hname
  exact name?_of_getElem? (h op entry hop)

lemma lt_size_of_name? {op : OpId} {name : String} (h : set.name? op = some name) :
    op < set.size := by
  obtain ⟨entry, hop, -⟩ := Option.map_eq_some_iff.1 h
  exact (List.getElem?_eq_some_iff.1 hop).1

/-- An instruction that is registered has a name and an action, and under its other number it has
the same. -/
lemma Embeds.exists_entry (h : Embeds ρ set set') {op : OpId} (hop : op < set.size) :
    ∃ name action, set.name? op = some name ∧ set'.name? (ρ op) = some name ∧
      set.action? op = some action ∧ set'.action? (ρ op) = some action := by
  have hget : set.entries[op]? = some set.entries[op] := List.getElem?_eq_getElem hop
  have hget' := h op _ hget
  exact ⟨_, _, name?_of_getElem? hget, name?_of_getElem? hget', action?_of_getElem? hget,
    action?_of_getElem? hget'⟩

/-! ### Assembling -/

section

variable {line : List Char} {lines : List (List Char × ℕ)}

lemma Embeds.denotes (h : Embeds ρ set set') {i : Instruction} (hi : Denotes set line i) :
    Denotes set' line (i.renumber ρ) := by
  cases hi with
  | bare hwords hname => exact .bare hwords (h.name? hname)
  | applied hwords hname hvalue => exact .applied hwords (h.name? hname) hvalue

lemma Embeds.offends (h : Embeds ρ set set') (h' : Embeds ρ' set' set) {fault : Fault}
    (hfault : Offends set line fault) : Offends set' line fault := by
  cases hfault with
  | tooManyArguments hcount => exact .tooManyArguments hcount
  | unknownInstruction hwords hname =>
    refine .unknownInstruction hwords fun op hop => ?_
    exact hname (ρ' op) (h'.name? hop)
  | invalidArgument hwords hname hcause => exact .invalidArgument hwords (h.name? hname) hcause

lemma Embeds.firstOffence (h : Embeds ρ set set') (h' : Embeds ρ' set' set) {failure : Failure}
    (hfirst : FirstOffence set lines failure) : FirstOffence set' lines failure := by
  obtain ⟨before, line, number, after, fault, hlines, hbefore, -, hfault, hfailure⟩ := hfirst
  have hfault' := h.offends h' hfault
  refine ⟨before, line, number, after, fault, hlines, fun l hl => ?_,
    not_denotes_of_offends hfault', hfault', hfailure⟩
  obtain ⟨i, hi⟩ := hbefore l hl
  exact ⟨_, h.denotes hi⟩

end

/-- **What is assembled with a set is assembled with the other**, under the other numbers. -/
theorem Embeds.assemble (h : Embeds ρ set set') {text : String} {a : Assembly}
    (ha : set.assemble text = .ok a) :
    set'.assemble text = .ok ⟨a.program.renumber ρ, a.lines⟩ := by
  obtain ⟨hdenotes, hnumbers⟩ := denotes_of_assemble ha
  have hrenumbered : List.Forall₂ (fun line i => Denotes set' line.1 i)
      (numberedLines text.toList) (a.program.toList.map (Instruction.renumber ρ)) := by
    rw [List.forall₂_map_right_iff]
    exact hdenotes.imp fun _ _ => h.denotes
  rw [assemble_of_denotes hrenumbered, ← hnumbers, ← Array.toList_map, Array.toArray_toList,
    Array.toArray_toList]
  rfl

/-- If each of two sets embeds into the other, assembling a text fails with both alike. -/
theorem Embeds.assemble_error (h : Embeds ρ set set') (h' : Embeds ρ' set' set) {text : String}
    {failure : Failure} (hfailure : set.assemble text = .error failure) :
    set'.assemble text = .error failure :=
  assemble_of_firstOffence (h.firstOffence h' (firstOffence_of_assemble hfailure))

lemma registers_of_assemble {text : String} {a : Assembly} (ha : set.assemble text = .ok a) :
    set.Registers a.program := by
  intro i hi
  obtain ⟨name, hname, -⟩ := writable_of_assemble ha i hi
  exact lt_size_of_name? hname

/-! ### Listings -/

section

variable {p : Program}

lemma Embeds.instructionText (h : Embeds ρ set set') {i : Instruction} (hi : i.op < set.size) :
    set'.instructionText (i.renumber ρ) = set.instructionText i := by
  obtain ⟨name, -, hname, hname', -⟩ := h.exists_entry hi
  simp only [InstructionSet.instructionText, Instruction.renumber, hname, hname']

lemma isNamed_of_lt (set : InstructionSet) {i : Instruction} (hi : i.op < set.size) :
    set.isNamed i := by
  have hlt : i.op < set.entries.length := hi
  simpa [isNamed, name?] using hlt

lemma Embeds.registers (h : Embeds ρ set set') (hp : set.Registers p) :
    set'.Registers (p.renumber ρ) := by
  intro i hi
  obtain ⟨j, hj, rfl⟩ := Array.mem_map.1 hi
  obtain ⟨name, -, -, hname', -⟩ := h.exists_entry (hp j hj)
  exact lt_size_of_name? hname'

/-- **A program and the renumbered one have the same listing.** -/
theorem Embeds.listing (h : Embeds ρ set set') (hp : set.Registers p) (pc : Option UInt64) :
    set'.listing pc (p.renumber ρ) = set.listing pc p := by
  have hrows : ∀ row ∈ p.toList.zipIdx,
      set'.listingRow pc (row.1.renumber ρ) row.2 = set.listingRow pc row.1 row.2 := by
    intro row hrow
    have hmem : row.1 ∈ p := Array.mem_toList_iff.1 (List.fst_mem_of_mem_zipIdx hrow)
    simp only [listingRow, h.instructionText (hp row.1 hmem)]
  rw [InstructionSet.listing, InstructionSet.listing, Program.renumber, Array.toList_map,
    List.zipIdx_map, List.map_map]
  exact congrArg Text.unlines (List.map_congr_left hrows)

lemma Embeds.debugListing (h : Embeds ρ set set') (hp : set.Registers p) :
    set'.debugListing (p.renumber ρ) = set.debugListing p := by
  have htexts : (p.renumber ρ).toList.map set'.instructionText =
      p.toList.map set.instructionText := by
    rw [Program.renumber, Array.toList_map, List.map_map]
    refine List.map_congr_left fun i hi => ?_
    exact h.instructionText (hp i (Array.mem_toList_iff.1 hi))
  have hp' := h.registers hp
  rw [debugListing_of_named fun i hi => set'.isNamed_of_lt (hp' i hi),
    debugListing_of_named fun i hi => set.isNamed_of_lt (hp i hi), htexts]

end

end InstructionSet

/-! ### Execution -/

lemma Alike.eq {σ α : Type} {x y : Option (α × State σ)} (h : Alike Eq x y) : x = y := by
  rcases h.cases with ⟨hx, hy⟩ | ⟨a, s, t, hx, hy, hst⟩
  · rw [hx, hy]
  · rw [hx, hy, hst]

namespace InstructionSet.Embeds

variable {σ : Type} {set set' : InstructionSet} {ρ : OpId → OpId} {p : Program}

lemma display (h : Embeds ρ set set') (hp : set.Registers p) (d : Bool) (s : State σ) :
    s.display ⟨set', d⟩ (p.renumber ρ) = s.display ⟨set, d⟩ p := by
  simp only [State.display, State.displayWith, h.listing hp]

variable [Sink σ]

lemma trace (h : Embeds ρ set set') (d : Bool) {i : Instruction} (hi : i.op < set.size)
    (s : State σ) : trace ⟨set', d⟩ (i.renumber ρ) s = trace ⟨set, d⟩ i s := by
  obtain ⟨name, -, hname, hname', -⟩ := h.exists_entry hi
  simp only [StackMachine.trace, Instruction.renumber, hname, hname']

lemma announce (h : Embeds ρ set set') (hp : set.Registers p) (d : Bool) (s : State σ) :
    announce ⟨set', d⟩ (p.renumber ρ) s = announce ⟨set, d⟩ p s := by
  have hall : p.toList.all set.isNamed = true := by
    rw [List.all_eq_true]
    exact fun i hi => set.isNamed_of_lt (hp i (Array.mem_toList_iff.1 hi))
  have hall' : (p.renumber ρ).toList.all set'.isNamed = true := by
    rw [List.all_eq_true]
    exact fun i hi => set'.isNamed_of_lt (h.registers hp i (Array.mem_toList_iff.1 hi))
  simp only [StackMachine.announce, h.debugListing hp, hall, hall']

/-- **A program and the renumbered one do the same in the same state.** -/
theorem simulation (h : Embeds ρ set set') (hp : set.Registers p) (d : Bool) :
    Simulation ⟨set, d⟩ ⟨set', d⟩ p (p.renumber ρ) (fun _ => True)
      (Eq : State σ → State σ → Prop) where
  stack hst := congrArg State.stack hst
  pc hst := congrArg State.pc hst
  output hst := congrArg State.output hst
  goto address hst := by rw [hst]
  record entry hst := by rw [hst]
  announce hst := by rw [hst, h.announce hp]
  fetch {s t} hst := by
    subst hst
    rw [Program.fetch?_renumber]
    cases hf : p.fetch? s.pc with
    | none => exact Or.inl ⟨rfl, rfl⟩
    | some i =>
      have hi : i.op < set.size := hp i (Array.mem_of_getElem? hf)
      obtain ⟨-, action, -, -, haction, haction'⟩ := h.exists_entry hi
      refine Or.inr ⟨i, i.renumber ρ, rfl, rfl, ?_, (h.trace d hi s).symm⟩
      exact .known haction haction' rfl (Script.onlyAsks_of_forall (fun _ => trivial) _)
  serve {_ _ _ _} hstep hrun {r} _ {s t} hst := by
    subst hst
    cases r with
    | step => exact hstep s s rfl
    | run => exact hrun s s rfl
    | display =>
      simp only [serve, h.display hp]
      exact Alike.some _ rfl
    | _ => exact Alike.some _ rfl

theorem answer_eq (h : Embeds ρ set set') (hp : set.Registers p) (d : Bool) (n : ℕ) :
    (answer ⟨set', d⟩ (p.renumber ρ) n : Host σ) = answer ⟨set, d⟩ p n := by
  funext r s
  exact ((h.simulation hp d).answer n trivial rfl).eq.symm

theorem step_eq (h : Embeds ρ set set') (hp : set.Registers p) (d : Bool) (n : ℕ) (s : State σ) :
    step ⟨set', d⟩ (p.renumber ρ) n s = step ⟨set, d⟩ p n s :=
  ((h.simulation hp d).step n rfl).eq.symm

theorem run_eq (h : Embeds ρ set set') (hp : set.Registers p) (d : Bool) (n : ℕ) (s : State σ) :
    run ⟨set', d⟩ (p.renumber ρ) n s = run ⟨set, d⟩ p n s :=
  ((h.simulation hp d).run n rfl).eq.symm

end InstructionSet.Embeds

/-! ### The order of registration -/

namespace InstructionSet

variable {calls calls' : List (String × Action)}

/-- The instructions of calls with distinct names embed into those of the same calls in another
order. -/
lemma embeds_of_perm (hdistinct : (calls.map Prod.fst).Nodup) (hcalls : calls.Perm calls') :
    Embeds ((empty.afterAll calls').numberIn (empty.afterAll calls)) (empty.afterAll calls)
      (empty.afterAll calls') := by
  have hdistinct' : (calls'.map Prod.fst).Nodup := (hcalls.map Prod.fst).nodup_iff.1 hdistinct
  refine embeds_of_subset fun entry hentry => ?_
  rw [entries_afterAll_empty hdistinct] at hentry
  rw [entries_afterAll_empty hdistinct']
  have hperm := hcalls.map fun call : String × Action => Entry.mk call.1 call.2
  exact hperm.subset hentry

end InstructionSet

/-- **Numbers cannot be told from a text.** Let the same instructions, with distinct names, be
registered in two orders on two machines with one flag. A text is assembled with neither of them,
and the failure is the same; or it is assembled with both, with the same numbers of lines, and to
programs that have the same names and arguments at the same addresses. Then the listings are equal,
and whatever is requested of fresh runs of the two programs, steps and whole runs among it, has the
same replies and leaves the same states, with the same stack, counter, output and debug flag, and a
sink that was given the same. -/
theorem registration_order_unobservable {τ : Type} [Sink τ] (debug : Bool) (sink sink' : τ)
    (calls calls' : List (String × Action)) (hdistinct : (calls.map Prod.fst).Nodup)
    (hcalls : calls.Perm calls') (text : String) :
    let m := ((Machine.empty debug).registerAll sink calls).1
    let m' := ((Machine.empty debug).registerAll sink' calls').1
    (∃ failure, m.assemble text = .error failure ∧ m'.assemble text = .error failure) ∨
      ∃ a a', m.assemble text = .ok a ∧ m'.assemble text = .ok a' ∧ a'.lines = a.lines ∧
        List.Forall₂ (fun i i' => i'.arg = i.arg ∧ ∃ name,
            m.instructions.name? i.op = some name ∧ m'.instructions.name? i'.op = some name)
          a.program.toList a'.program.toList ∧
        m'.listing a'.program = m.listing a.program ∧
        ∀ {σ : Type} [Sink σ] (x : σ) (requests : List Request) (n : ℕ),
          answerAll (answer m' a'.program n) requests (.initial m' x) =
            answerAll (answer m a.program n) requests (.initial m x) := by
  intro m m'
  have hm : m = ⟨InstructionSet.empty.afterAll calls, debug⟩ :=
    Machine.registerAll_machine (.empty debug) sink calls
  have hm' : m' = ⟨InstructionSet.empty.afterAll calls', debug⟩ :=
    Machine.registerAll_machine (.empty debug) sink' calls'
  rw [hm, hm']
  have hdistinct' : (calls'.map Prod.fst).Nodup := (hcalls.map Prod.fst).nodup_iff.1 hdistinct
  -- each set embeds into the other, so a text fails with both or with neither
  have hembeds := InstructionSet.embeds_of_perm hdistinct hcalls
  have hembeds' := InstructionSet.embeds_of_perm hdistinct' hcalls.symm
  cases ha : (InstructionSet.empty.afterAll calls).assemble text with
  | error failure => exact .inl ⟨failure, ha, hembeds.assemble_error hembeds' ha⟩
  | ok a =>
    have hp := InstructionSet.registers_of_assemble ha
    refine .inr ⟨a, _, ha, hembeds.assemble ha, rfl, ?_, hembeds.listing hp none,
      fun x requests n => ?_⟩
    · rw [Program.renumber, Array.toList_map, List.forall₂_map_right_iff, List.forall₂_same]
      intro i hi
      obtain ⟨name, -, hname, hname', -⟩ := hembeds.exists_entry (hp i (Array.mem_toList_iff.1 hi))
      exact ⟨rfl, name, hname, hname'⟩
    · rw [hembeds.answer_eq hp]
      rfl

/-- Behind the reversed calls the program has other numbers, and does the same. The second
instruction executes the third one. -/
theorem registration_order_unobservable_reversed :
    let calls : List (String × Action) := [("PUSH", InstructionSet.Standard.loadConst),
      ("SKIP", fun _ => do let _ ← Script.step; return .executing),
      ("EXIT", InstructionSet.Standard.exit)]
    let m := ((Machine.empty true).registerAll () calls).1
    let m' := ((Machine.empty true).registerAll () calls.reverse).1
    (calls.map Prod.fst).Nodup ∧ calls.Perm calls.reverse ∧
      ∃ a a', m.assemble "PUSH 7\nSKIP\nPUSH 8\nEXIT" = .ok a ∧
        m'.assemble "PUSH 7\nSKIP\nPUSH 8\nEXIT" = .ok a' ∧ a'.program ≠ a.program ∧
        answerAll (answer m' a'.program 9) [.step, .run] (.initial m' ({} : Transcript)) =
          answerAll (answer m a.program 9) [.step, .run] (.initial m {}) := by
  intro calls m m'
  have hdistinct : (calls.map Prod.fst).Nodup := by decide
  have hcalls : calls.Perm calls.reverse := (List.reverse_perm calls).symm
  have hm : m.assemble "PUSH 7\nSKIP\nPUSH 8\nEXIT" =
      .ok ⟨#[⟨0, 7⟩, ⟨1, 0⟩, ⟨0, 8⟩, ⟨2, 0⟩], #[1, 2, 3, 4]⟩ := by rfl
  have hm' : m'.assemble "PUSH 7\nSKIP\nPUSH 8\nEXIT" =
      .ok ⟨#[⟨2, 7⟩, ⟨1, 0⟩, ⟨2, 8⟩, ⟨0, 0⟩], #[1, 2, 3, 4]⟩ := by rfl
  have h := registration_order_unobservable true () () calls calls.reverse hdistinct hcalls
    "PUSH 7\nSKIP\nPUSH 8\nEXIT"
  refine ⟨hdistinct, hcalls, _, _, hm, hm', by decide, ?_⟩
  rcases h with ⟨failure, hfailure, -⟩ | ⟨a, a', ha, ha', -, -, -, hanswers⟩
  · cases hm.symm.trans hfailure
  · cases hm.symm.trans ha
    cases hm'.symm.trans ha'
    exact hanswers ({} : Transcript) [.step, .run] 9

/-! ### Later registrations -/

/-- **What is registered later changes no program.** Let calls be made to a machine to register
further instructions, be they refused or not. What was assembled before is assembled to the same
program with the same numbers of lines. A program all of whose instructions were registered before
has the same listing, and in every state a step and a run of it give what they gave, and leave the
same state, with a sink that was given the same. -/
theorem later_registrations_change_no_program {τ : Type} [Sink τ] (m : Machine) (sink : τ)
    (calls : List (String × Action)) :
    let m' := (m.registerAll sink calls).1
    (∀ text a, m.assemble text = .ok a → m'.assemble text = .ok a) ∧
    ∀ p : Program, (∀ i ∈ p, i.op < m.instructions.size) →
      m'.listing p = m.listing p ∧
      ∀ {σ : Type} [Sink σ] (n : ℕ) (s : State σ),
        step m' p n s = step m p n s ∧ run m' p n s = run m p n s := by
  intro m'
  have hm' : m' = ⟨m.instructions.afterAll calls, m.debug⟩ := m.registerAll_machine sink calls
  have hembeds := InstructionSet.embeds_afterAll m.instructions calls
  rw [hm']
  refine ⟨fun text a ha => ?_, fun p hp => ⟨?_, fun n s => ⟨?_, ?_⟩⟩⟩
  · have hassemble := hembeds.assemble ha
    rwa [Program.renumber_id] at hassemble
  · have hlisting := hembeds.listing hp none
    rwa [Program.renumber_id] at hlisting
  · have hstep := hembeds.step_eq hp m.debug n s
    rwa [Program.renumber_id] at hstep
  · have hrun := hembeds.run_eq hp m.debug n s
    rwa [Program.renumber_id] at hrun

end StackMachine
