import StackMachine.Machine
import StackMachine.Proofs.Grammar

/-!
Histories of registration. Instructions are registered one call after the other, and a call whose
name is taken is refused. Whatever the calls, the instructions that were there keep their numbers,
and a name stands for the action of the first call with it. A registry may as well keep three
tables, each written by itself, of the numbers, the names and the actions: over any history they
stay aligned and answer as the instruction set does.
-/

namespace StackMachine

/-! ### One call -/

namespace InstructionSet

variable {set : InstructionSet} {name other : String} {action : Action}

lemma name?_of_getElem? {id : OpId} {entry : Entry} (h : set.entries[id]? = some entry) :
    set.name? id = some entry.name :=
  congrArg (Option.map Entry.name) h

lemma action?_of_getElem? {id : OpId} {entry : Entry} (h : set.entries[id]? = some entry) :
    set.action? id = some entry.action :=
  congrArg (Option.map Entry.action) h

/-- The action of the instruction of a given name. -/
def actionNamed? (set : InstructionSet) (name : String) : Option Action :=
  (set.id? name).bind set.action?

lemma actionNamed?_eq_find? (set : InstructionSet) (name : String) :
    set.actionNamed? name = (set.entries.find? (·.name == name)).map Entry.action := by
  rw [List.find?_eq_bind_findIdx?_getElem?, Option.map_bind]
  rfl

lemma register_of_taken {id : OpId} (h : set.id? name = some id) :
    set.register name action = .error (.alreadyDefined name) := by
  unfold register
  split
  · rfl
  · simp_all

lemma register_of_free (h : set.id? name = none) (action : Action) :
    ∃ larger, set.register name action = .ok (set.size, larger) ∧
      larger.entries = set.entries ++ [⟨name, action⟩] := by
  unfold register
  split
  · simp_all
  · exact ⟨_, rfl, rfl⟩

/-- What a call that is not refused adds to a set: one number, under which are the name and the
action of the call. What was asked of the set before has the same answer. -/
structure Adds (set : InstructionSet) (name : String) (action : Action) (larger : InstructionSet) :
    Prop where
  size : larger.size = set.size + 1
  name? : larger.name? set.size = some name
  action? : larger.action? set.size = some action
  earlier : ∀ id < set.size, larger.name? id = set.name? id ∧ larger.action? id = set.action? id
  others : ∀ other ≠ name, larger.id? other = set.id? other

lemma adds_of_entries {larger : InstructionSet}
    (h : larger.entries = set.entries ++ [⟨name, action⟩]) : set.Adds name action larger where
  size := by simp [size, h]
  name? := by simp [InstructionSet.name?, InstructionSet.size, h]
  action? := by simp [InstructionSet.action?, InstructionSet.size, h]
  earlier id hid := by
    have hget : larger.entries[id]? = set.entries[id]? := by
      rw [h, List.getElem?_append_left hid]
    exact ⟨by rw [InstructionSet.name?, InstructionSet.name?, hget],
      by rw [InstructionSet.action?, InstructionSet.action?, hget]⟩
  others other hother := by
    have hne : name ≠ other := Ne.symm hother
    simp [id?, h, List.findIdx?_append, hne]

/-- The set after a call to register an instruction, be it refused or not. -/
def after (set : InstructionSet) (name : String) (action : Action) : InstructionSet :=
  match set.register name action with
  | .ok (_, larger) => larger
  | .error _ => set

lemma after_of_taken {id : OpId} (h : set.id? name = some id) : set.after name action = set := by
  rw [after, register_of_taken h]

lemma entries_after_of_free (h : set.id? name = none) (action : Action) :
    (set.after name action).entries = set.entries ++ [⟨name, action⟩] := by
  obtain ⟨larger, hregister, hentries⟩ := register_of_free h action
  rw [after, hregister]
  exact hentries

lemma id?_after_of_ne (h : other ≠ name) : (set.after name action).id? other = set.id? other := by
  cases hid : set.id? name with
  | some id => rw [after_of_taken hid]
  | none => exact (adds_of_entries (entries_after_of_free hid action)).others other h

lemma actionNamed?_after :
    (set.after name action).actionNamed? other =
      (set.actionNamed? other).or ([(name, action)].lookup other) := by
  cases hid : set.id? name with
  | some id =>
    rw [after_of_taken hid]
    by_cases hother : other = name
    · -- the name of the call has an action
      subst hother
      obtain ⟨entry, hentry, -⟩ := Option.map_eq_some_iff.1 (id?_eq_some_iff.1 hid)
      simp [actionNamed?, hid, action?_of_getElem? hentry]
    · have hbeq : (other == name) = false := by simpa using hother
      simp [List.lookup_cons, hbeq]
  | none =>
    -- the new instruction is the last one, so it is found if no other is
    rw [actionNamed?_eq_find?, entries_after_of_free hid, List.find?_append,
      actionNamed?_eq_find?, Option.map_or]
    congr 1
    by_cases hother : other = name
    · simp [hother]
    · have hbeq : (other == name) = false := by simpa using hother
      simp [List.lookup_cons, hbeq, Ne.symm hother]

/-! ### A history of calls -/

/-- The set after the calls, one after the other. -/
def afterAll (set : InstructionSet) (calls : List (String × Action)) : InstructionSet :=
  calls.foldl (fun set (name, action) => set.after name action) set

variable {calls : List (String × Action)}

lemma ofList_eq_afterAll (calls : List (String × Action)) : ofList calls = empty.afterAll calls :=
  rfl

@[simp] lemma afterAll_nil : set.afterAll [] = set :=
  rfl

@[simp] lemma afterAll_cons (call : String × Action) :
    set.afterAll (call :: calls) = (set.after call.1 call.2).afterAll calls :=
  rfl

lemma afterAll_append (earlier : List (String × Action)) :
    set.afterAll (earlier ++ calls) = (set.afterAll earlier).afterAll calls :=
  List.foldl_append

/-- **Instructions keep their numbers**: what is registered stands behind them. -/
theorem entries_prefix_afterAll (set : InstructionSet) (calls : List (String × Action)) :
    set.entries <+: (set.afterAll calls).entries := by
  induction calls generalizing set with
  | nil => exact List.prefix_refl _
  | cons call calls ih =>
    have hcall : set.entries <+: (set.after call.1 call.2).entries := by
      cases hid : set.id? call.1 with
      | some id => exact ⟨[], by rw [after_of_taken hid, List.append_nil]⟩
      | none => exact ⟨_, (entries_after_of_free hid call.2).symm⟩
    exact hcall.trans (ih (set.after call.1 call.2))

lemma id?_afterAll_of_not_mem (h : name ∉ calls.map Prod.fst) :
    (set.afterAll calls).id? name = set.id? name := by
  induction calls generalizing set with
  | nil => rfl
  | cons call calls ih =>
    simp only [List.map_cons, List.mem_cons, not_or] at h
    rw [afterAll_cons, ih h.2, id?_after_of_ne h.1]

/-- **A name stands for the action that it had, or else for that of the first call with it.** -/
theorem actionNamed?_afterAll (set : InstructionSet) (calls : List (String × Action))
    (name : String) :
    (set.afterAll calls).actionNamed? name = (set.actionNamed? name).or (calls.lookup name) := by
  induction calls generalizing set with
  | nil => simp
  | cons call calls ih =>
    have happend : (call :: calls).lookup name =
        ([(call.1, call.2)].lookup name).or (calls.lookup name) := by
      rw [← List.lookup_append]
      rfl
    rw [afterAll_cons, ih, actionNamed?_after, Option.or_assoc, happend]

lemma entries_afterAll_of_nodup
    (h : (set.entries.map Entry.name ++ calls.map Prod.fst).Nodup) :
    (set.afterAll calls).entries = set.entries ++ calls.map fun call => ⟨call.1, call.2⟩ := by
  induction calls generalizing set with
  | nil => simp
  | cons call calls ih =>
    have hfree : set.id? call.1 = none := by
      rw [id?, List.findIdx?_eq_none_iff]
      intro entry hentry
      have hne : entry.name ≠ call.1 :=
        (List.nodup_append.1 h).2.2 _ (List.mem_map_of_mem hentry) _ (by simp)
      simpa using hne
    have hentries := entries_after_of_free hfree call.2
    rw [afterAll_cons, ih (by simpa [hentries] using h), hentries]
    simp

lemma entries_afterAll_empty (h : (calls.map Prod.fst).Nodup) :
    (empty.afterAll calls).entries = calls.map fun call => ⟨call.1, call.2⟩ := by
  have hempty : (empty.entries.map Entry.name ++ calls.map Prod.fst).Nodup := by
    simpa [empty] using h
  exact entries_afterAll_of_nodup hempty

end InstructionSet

/-! ### Calls to a machine -/

namespace Machine

variable {σ : Type} [Sink σ]

/-- The machine and the sink after calls to register instructions. -/
def registerAll (m : Machine) (sink : σ) (calls : List (String × Action)) : Machine × σ :=
  calls.foldl (fun (m, sink) (name, action) => (m.register name action sink).2) (m, sink)

lemma register_machine (m : Machine) (name : String) (action : Action) (sink : σ) :
    (m.register name action sink).2.1 =
      { m with instructions := m.instructions.after name action } := by
  unfold register InstructionSet.after
  split <;> simp_all

/-- The calls do to a machine what they do to its instructions, whatever the sink. -/
lemma registerAll_machine (m : Machine) (sink : σ) (calls : List (String × Action)) :
    (m.registerAll sink calls).1 = { m with instructions := m.instructions.afterAll calls } := by
  induction calls generalizing m sink with
  | nil => rfl
  | cons call calls ih =>
    have hstep : m.registerAll sink (call :: calls) =
        registerAll (m.register call.1 call.2 sink).2.1 (m.register call.1 call.2 sink).2.2 calls :=
      rfl
    rw [hstep, ih, register_machine]
    rfl

end Machine

/-! ### Three tables -/

/-- A registry in three tables: the number of each name, in the order of the names, and by number
the names and the actions. -/
structure Tables where
  ids : Std.TreeMap String OpId := ∅
  names : Array String := #[]
  actions : Array Action := #[]

namespace Tables

def id? (t : Tables) (name : String) : Option OpId :=
  t.ids[name]?

def name? (t : Tables) (id : OpId) : Option String :=
  t.names[id]?

def action? (t : Tables) (id : OpId) : Option Action :=
  t.actions[id]?

/-- The numbers and names of all instructions, in order. -/
def toList (t : Tables) : List (OpId × String) :=
  t.names.toList.zipIdx.map fun (name, id) => (id, name)

/-- Writes to each table, unless the name is in the first. -/
def register (t : Tables) (name : String) (action : Action) : Except Fault OpId × Tables :=
  if t.ids.contains name then (.error (.alreadyDefined name), t)
  else
    (.ok t.names.size,
      { ids := t.ids.insert name t.names.size
        names := t.names.push name
        actions := t.actions.push action })

/-- The tables after the calls, one after the other. -/
def registerAll (t : Tables) (calls : List (String × Action)) : Tables :=
  calls.foldl (fun t (name, action) => (t.register name action).2) t

/-- The tables hold the instructions of the set, each at its number, and the numbers of their names
and no others. -/
structure Represents (t : Tables) (set : InstructionSet) : Prop where
  id? : ∀ name, t.id? name = set.id? name
  names : t.names.toList = set.entries.map Entry.name
  actions : t.actions.toList = set.entries.map Entry.action
  size_ids : t.ids.size = set.size

section

variable {t : Tables} {set : InstructionSet}

lemma represents_empty : Represents {} .empty where
  id? name := by simp [Tables.id?, InstructionSet.id?, InstructionSet.empty]
  names := rfl
  actions := rfl
  size_ids := Std.TreeMap.size_emptyc

lemma Represents.size_names (h : t.Represents set) : t.names.size = set.size := by
  rw [← Array.length_toList, h.names, List.length_map]
  rfl

lemma Represents.size_actions (h : t.Represents set) : t.actions.size = set.size := by
  rw [← Array.length_toList, h.actions, List.length_map]
  rfl

lemma Represents.name? (h : t.Represents set) (id : OpId) : t.name? id = set.name? id := by
  rw [Tables.name?, ← Array.getElem?_toList, h.names, List.getElem?_map]
  rfl

lemma Represents.action? (h : t.Represents set) (id : OpId) : t.action? id = set.action? id := by
  rw [Tables.action?, ← Array.getElem?_toList, h.actions, List.getElem?_map]
  rfl

lemma Represents.toList (h : t.Represents set) : t.toList = set.toList := by
  rw [Tables.toList, h.names, List.zipIdx_map, List.map_map]
  rfl

lemma Represents.contains (h : t.Represents set) (name : String) :
    t.ids.contains name = (set.id? name).isSome := by
  rw [Std.TreeMap.contains_eq_isSome_getElem?, ← h.id? name]
  rfl

lemma Represents.register_of_taken (h : t.Represents set) {name : String} {id : OpId}
    (hid : set.id? name = some id) (action : Action) :
    t.register name action = (.error (.alreadyDefined name), t) := by
  have hcontains : t.ids.contains name = true := by rw [h.contains, hid]; rfl
  rw [register, if_pos hcontains]

lemma Represents.register_of_free (h : t.Represents set) {name : String}
    (hid : set.id? name = none) (action : Action) :
    t.register name action =
      (.ok set.size,
        { ids := t.ids.insert name set.size
          names := t.names.push name
          actions := t.actions.push action }) := by
  have hcontains : t.ids.contains name = false := by rw [h.contains, hid]; rfl
  rw [register, if_neg (by simp [hcontains]), h.size_names]

/-- **One call keeps the tables aligned.** -/
theorem Represents.register (h : t.Represents set) (name : String) (action : Action) :
    (t.register name action).2.Represents (set.after name action) := by
  cases hid : set.id? name with
  | some id =>
    rw [h.register_of_taken hid, InstructionSet.after_of_taken hid]
    exact h
  | none =>
    -- the name is free, and each table grows by one entry
    have hentries := InstructionSet.entries_after_of_free hid action
    have hadds := InstructionSet.adds_of_entries hentries
    rw [h.register_of_free hid]
    refine ⟨fun other => ?_, ?_, ?_, ?_⟩
    · rw [Tables.id?, Std.TreeMap.getElem?_insert]
      by_cases hother : other = name
      · subst hother
        have hnumber := InstructionSet.id?_eq_some_iff.2 hadds.name?
        simpa using hnumber.symm
      · rw [hadds.others other hother, ← h.id? other]
        simp [Ne.symm hother, Tables.id?]
    · simp [h.names, hentries]
    · simp [h.actions, hentries]
    · have hcontains : name ∉ t.ids := by
        rw [← Std.TreeMap.contains_iff_mem, h.contains, hid]
        simp
      rw [Std.TreeMap.size_insert, if_neg (by simpa using hcontains), h.size_ids, hadds.size]

/-- **Tables stay aligned over any history.** -/
theorem Represents.registerAll (h : t.Represents set) (calls : List (String × Action)) :
    (t.registerAll calls).Represents (set.afterAll calls) := by
  induction calls generalizing t set with
  | nil => exact h
  | cons call calls ih => exact ih (h.register call.1 call.2)

end

end Tables

/-! ### Alignment -/

/-- The answers of a set fit together, and go back to the calls that made it. -/
structure InstructionSet.Aligned (set : InstructionSet) (calls : List (String × Action)) :
    Prop where
  distinct : ∀ i j name, set.name? i = some name → set.name? j = some name → i = j
  name?_isSome : ∀ id, (set.name? id).isSome ↔ id < set.size
  action?_isSome : ∀ id, (set.action? id).isSome ↔ id < set.size
  id?_iff : ∀ name id, set.id? name = some id ↔ set.name? id = some name
  toList : set.toList.length = set.size ∧
    ∀ id, set.toList[id]? = (set.name? id).map fun name => (id, name)
  first : ∀ name, set.actionNamed? name = calls.lookup name

lemma InstructionSet.aligned_ofList (calls : List (String × Action)) :
    (ofList calls).Aligned calls where
  distinct i j name hi hj := by
    have h := (id?_eq_some_iff.2 hi).symm.trans (id?_eq_some_iff.2 hj)
    exact Option.some.inj h
  name?_isSome id := by simp [InstructionSet.name?, size]
  action?_isSome id := by simp [InstructionSet.action?, size]
  id?_iff name id := id?_eq_some_iff
  toList := by
    refine ⟨by simp [InstructionSet.toList, size], fun id => ?_⟩
    simp [InstructionSet.toList, InstructionSet.name?, List.getElem?_zipIdx, Function.comp_def]
  first name := by
    rw [ofList_eq_afterAll, actionNamed?_afterAll]
    rfl

/-- **Names, numbers and actions stay aligned over any history.** Let calls be made, with any names,
to the machine without instructions or to the standard one. Three tables that are written by the
same calls, and by those that made the machine, have one length each and answer all that is asked of
them as the machine does. Names are distinct; there are a name and an action for the numbers below
the length, and for no other; a name has a number if and only if the number has the name; the list
has the numbers in order with their names; and a name stands for the action of the first call with
it. A further call is refused if its name is taken, and leaves machine and tables as they are; else
it is given the length as number, and what was asked before of numbers and names has the same
answer. -/
theorem registry_aligned_over_history {σ : Type} [Sink σ] (debug : Bool) (m : Machine)
    (made : List (String × Action))
    (hm : m = .empty debug ∧ made = [] ∨
      m = .standard debug ∧ made = InstructionSet.Standard.table)
    (sink : σ) (calls : List (String × Action)) :
    let later := (m.registerAll sink calls).1
    let set := later.instructions
    let tables := Tables.registerAll {} (made ++ calls)
    (tables.ids.size = set.size ∧ tables.names.size = set.size ∧
      tables.actions.size = set.size) ∧
    (∀ name, tables.id? name = set.id? name) ∧
    (∀ id, tables.name? id = set.name? id ∧ tables.action? id = set.action? id) ∧
    tables.toList = set.toList ∧
    set.Aligned (made ++ calls) ∧
    (∀ name action id, set.id? name = some id → ∀ next : σ,
      later.register name action next = (.error ⟨.alreadyDefined name, none⟩, later, next) ∧
      tables.register name action = (.error (.alreadyDefined name), tables)) ∧
    ∀ name action, set.id? name = none → ∃ larger, set.Adds name action larger ∧
      (tables.register name action).1 = .ok set.size ∧ ∀ next : σ,
        later.register name action next =
          (.ok set.size, { later with instructions := larger },
            Sink.record next (.registered name set.size)) := by
  intro later set tables
  have hset : set = .ofList (made ++ calls) := by
    have hmade : m.instructions = .ofList made := by
      rcases hm with ⟨rfl, rfl⟩ | ⟨rfl, rfl⟩ <;> rfl
    show (m.registerAll sink calls).1.instructions = _
    rw [Machine.registerAll_machine, InstructionSet.ofList_eq_afterAll,
      InstructionSet.afterAll_append, ← InstructionSet.ofList_eq_afterAll, hmade]
  have hrepresents : tables.Represents set := by
    rw [hset]
    exact Tables.represents_empty.registerAll (made ++ calls)
  refine ⟨⟨hrepresents.size_ids, hrepresents.size_names, hrepresents.size_actions⟩,
    hrepresents.id?, fun id => ⟨hrepresents.name? id, hrepresents.action? id⟩,
    hrepresents.toList, ?_, ?_, ?_⟩
  · rw [hset]
    exact InstructionSet.aligned_ofList (made ++ calls)
  · intro name action id hid next
    refine ⟨?_, hrepresents.register_of_taken hid action⟩
    have hregister : set.register name action = _ := InstructionSet.register_of_taken hid
    simp only [Machine.register, set] at hregister ⊢
    rw [hregister]
  · intro name action hid
    obtain ⟨larger, hregister, hentries⟩ := InstructionSet.register_of_free hid action
    refine ⟨larger, InstructionSet.adds_of_entries hentries, ?_, fun next => ?_⟩
    · rw [hrepresents.register_of_free hid]
    · simp only [Machine.register, set] at hregister ⊢
      rw [hregister]

/-- Of two calls with one name the first counts, and a standard name is refused. -/
theorem registry_aligned_over_history_refused :
    let calls : List (String × Action) := [("TWICE", InstructionSet.Standard.dup),
      ("ADD", InstructionSet.Standard.pop), ("TWICE", InstructionSet.Standard.exit)]
    let later := ((Machine.standard true).registerAll ({} : Transcript) calls).1
    later.instructions.size = 14 ∧ later.instructions.id? "TWICE" = some 13 ∧
      later.instructions.actionNamed? "TWICE" = some InstructionSet.Standard.dup ∧
      (later.register "ADD" InstructionSet.Standard.pop ({} : Transcript)).1 =
        .error ⟨.alreadyDefined "ADD", none⟩ := by
  intro calls later
  have haligned := registry_aligned_over_history true _ _ (.inr ⟨rfl, rfl⟩) ({} : Transcript) calls
  obtain ⟨-, -, -, -, hset, htaken, -⟩ := haligned
  have hadd : later.instructions.id? "ADD" = some 4 := by rfl
  refine ⟨by rfl, (hset.id?_iff _ _).2 rfl, hset.first "TWICE", ?_⟩
  exact congrArg Prod.fst (htaken "ADD" InstructionSet.Standard.pop 4 hadd {}).1

end StackMachine
