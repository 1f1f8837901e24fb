import StackMachine.Proofs.SharedRuns

/-!
The tasks of a session are isolated, if what the routines of its machine ask does not depend on what
they keep. Then any list of operations splits into the operations on each task: it completes if each
of these parts does on its task alone, and then gives their reports and leaves their tasks. The order
in which the parts are interleaved cannot be seen.
-/

namespace StackMachine

namespace Session

variable {γ α β : Type} {I : γ → Prop}

/-! ### Parts of a list -/

/-- The items with a given number, in order. -/
def part (i : ℕ) (items : List (ℕ × β)) : List β :=
  items.filterMap fun (j, item) => if j = i then some item else none

/-- The reports of the operations on task number `i`. -/
def reportsOn (i : ℕ) (ops : List (ℕ × Script α)) (reports : List (Report α)) : List (Report α) :=
  part i ((ops.map Prod.fst).zip reports)

section

variable {i j : ℕ} {item : β} {items : List (ℕ × β)}

@[simp] lemma part_cons_self : part i ((i, item) :: items) = item :: part i items :=
  List.filterMap_cons_some (if_pos rfl)

lemma part_cons_of_ne (h : j ≠ i) : part i ((j, item) :: items) = part i items :=
  List.filterMap_cons_none (if_neg h)

lemma mem_part : item ∈ part i items ↔ (i, item) ∈ items := by
  induction items with
  | nil => simp [part]
  | cons head items ih =>
    obtain ⟨j, other⟩ := head
    by_cases h : j = i
    · subst h
      simp [ih]
    · have hne : ¬ i = j := fun heq => h heq.symm
      rw [part_cons_of_ne h, ih]
      simp [hne]

end

section

variable {i j : ℕ} {script : Script α} {ops : List (ℕ × Script α)} {report : Report α}
  {reports : List (Report α)}

@[simp] lemma reportsOn_cons_self :
    reportsOn i ((i, script) :: ops) (report :: reports) = report :: reportsOn i ops reports :=
  part_cons_self

lemma reportsOn_cons_of_ne (h : j ≠ i) :
    reportsOn i ((j, script) :: ops) (report :: reports) = reportsOn i ops reports :=
  part_cons_of_ne h

lemma reportsOn_eq_nil (h : ∀ op ∈ ops, op.1 ≠ i) : reportsOn i ops reports = [] := by
  refine List.eq_nil_iff_forall_not_mem.2 fun report hreport => ?_
  obtain ⟨op, hop, heq⟩ := List.mem_map.1 (List.of_mem_zip (mem_part.1 hreport)).1
  exact h op hop heq

end

/-! ### Lists of operations -/

/-- The routines play the actions of the machine, and the memory is as they need it. -/
structure Steady (I : γ → Prop) (s : Session γ) : Prop where
  plays : s.machine.Plays I
  memory : I s.memory

theorem start_steady (m : Machine) (programs : List Program) :
    (start m programs).Steady fun _ => True where
  plays id action haction arg := by
    simp only [start, Machine.shared] at haction ⊢
    rw [haction]
    exact (action arg).routine_plays
  memory := trivial

section

variable {bound i : ℕ} {script : Script α} {s t : Session γ} {report : Report α}

lemma Steady.of_perform (hs : s.Steady I) (h : s.perform bound i script = some (report, t)) :
    t.Steady I ∧ t.machine = s.machine ∧ ∃ task task', s.tasks[i]? = some task ∧
      task.perform s.machine.toMachine bound script = some (report, task') ∧
      t.tasks = s.tasks.set i task' := by
  cases htask : s.tasks[i]? with
  | none => cases (perform_eq_none htask).symm.trans h
  | some task =>
    rcases perform_shared hs.plays hs.memory htask with
      ⟨hnone, -⟩ | ⟨report', task', t', hx, hy, hmachine, hmemory, htasks⟩
    · cases hnone.symm.trans h
    · cases hx.symm.trans h
      exact ⟨⟨hmachine ▸ hs.plays, hmemory⟩, hmachine, task, task', rfl, hy, htasks⟩

lemma performAll_cons_eq_some_iff {rest : List (ℕ × Script α)} {reports : List (Report α)} :
    performAll bound ((i, script) :: rest) s = some (reports, t) ↔
      ∃ report middle reports', s.perform bound i script = some (report, middle) ∧
        performAll bound rest middle = some (reports', t) ∧ reports = report :: reports' := by
  rw [performAll]
  cases hperform : s.perform bound i script with
  | none => simp
  | some answer =>
    obtain ⟨report, middle⟩ := answer
    cases hrest : performAll bound rest middle with
    | none => simp [hrest]
    | some answer =>
      obtain ⟨reports', u⟩ := answer
      simp only [hrest, Option.map_some, Option.some.injEq, Prod.mk.injEq]
      constructor
      · rintro ⟨rfl, rfl⟩
        exact ⟨report, middle, reports', ⟨rfl, rfl⟩, hrest, rfl⟩
      · rintro ⟨_, _, _, ⟨rfl, rfl⟩, hother, rfl⟩
        rw [hrest] at hother
        cases hother
        exact ⟨rfl, rfl⟩

end

end Session

/-- Carries out scripts one after the other on a task that is alone with a machine. -/
def Task.performAll {α : Type} (m : Machine) (bound : ℕ) :
    List (Script α) → Task → Option (List (Report α) × Task)
  | [], task => some ([], task)
  | script :: rest, task =>
    match task.perform m bound script with
    | none => none
    | some (report, task) =>
      (performAll m bound rest task).map fun (reports, task) => (report :: reports, task)

namespace Session

/-- Carries out scripts one after the other in the store in which there is one task only. -/
def performAlone (bound : ℕ) (scripts : List (Script α)) (task : Task) (s : Session γ) :
    Option (List (Report α) × Session γ) :=
  performAll bound (scripts.map fun script => (0, script)) { s with tasks := [task] }

section

variable {bound : ℕ} {s t : Session γ} {ops : List (ℕ × Script α)} {reports : List (Report α)}

lemma performAll_alone (hs : s.Steady I) {task : Task} (htask : s.tasks = [task])
    (scripts : List (Script α)) :
    Alike (fun t task' => t.tasks = [task'])
      (performAll bound (scripts.map fun script => (0, script)) s)
      (task.performAll s.machine.toMachine bound scripts) := by
  induction scripts generalizing s task with
  | nil => exact Alike.some _ htask
  | cons script rest ih =>
    have hfirst : s.tasks[0]? = some task := by rw [htask]; rfl
    rw [List.map_cons, performAll, Task.performAll]
    rcases perform_shared hs.plays hs.memory hfirst with
      ⟨hx, hy⟩ | ⟨report, task', middle, hx, hy, hmachine, hmemory, htasks⟩
    · rw [hx, hy]
      exact Alike.none
    · rw [hx, hy]
      -- there is one task, so what is left of it is all of the store
      have hmiddle : middle.tasks = [task'] := by rw [htasks, htask]; rfl
      have hrest := ih ⟨hmachine ▸ hs.plays, hmemory⟩ hmiddle
      rw [hmachine] at hrest
      rcases hrest.cases with ⟨hu, hv⟩ | ⟨reports, u, last, hu, hv, hlast⟩
      · simp only [hu, hv, Option.map_none]
        exact Alike.none
      · simp only [hu, hv, Option.map_some]
        exact Alike.some _ hlast

variable (bound) in
lemma performAlone_alike (hs : s.Steady I) (task : Task) (scripts : List (Script α)) :
    Alike (fun t task' => t.tasks = [task']) (performAlone bound scripts task s)
      (task.performAll s.machine.toMachine bound scripts) :=
  performAll_alone (s := { s with tasks := [task] }) ⟨hs.plays, hs.memory⟩ rfl scripts

lemma isSome_performAlone_iff (hs : s.Steady I) (task : Task) (scripts : List (Script α)) :
    (performAlone bound scripts task s).isSome ↔
      (task.performAll s.machine.toMachine bound scripts).isSome := by
  rcases (performAlone_alike bound hs task scripts).cases with
    ⟨hx, hy⟩ | ⟨reports, t, task', hx, hy, -⟩ <;> simp [hx, hy]

/-- **Operations that complete split** into those on each task, which do what they do alone, give the
same reports and leave the same task. -/
theorem performAll_splits (hs : s.Steady I) (h : performAll bound ops s = some (reports, t)) :
    t.machine = s.machine ∧ t.tasks.length = s.tasks.length ∧ reports.length = ops.length ∧
      (∀ op ∈ ops, op.1 < s.tasks.length) ∧
      ∀ i task, s.tasks[i]? = some task → ∃ task', t.tasks[i]? = some task' ∧
        task.performAll s.machine.toMachine bound (part i ops) =
          some (reportsOn i ops reports, task') := by
  induction ops generalizing s reports with
  | nil =>
    cases h
    exact ⟨rfl, rfl, rfl, by simp, fun i task htask => ⟨task, htask, rfl⟩⟩
  | cons op rest ih =>
    obtain ⟨j, script⟩ := op
    obtain ⟨report, middle, reports', hfirst, hrest, rfl⟩ := performAll_cons_eq_some_iff.1 h
    obtain ⟨hmiddle, hsame, own, own', hown, hperform, htasks⟩ := hs.of_perform hfirst
    obtain ⟨hmachine, hlength, hcount, hnumbers, halone⟩ := ih hmiddle hrest
    rw [hsame] at hmachine halone
    rw [htasks, List.length_set] at hlength hnumbers
    have hj : j < s.tasks.length := (List.getElem?_eq_some_iff.1 hown).1
    refine ⟨hmachine, hlength, by simp [hcount], List.forall_mem_cons.2 ⟨hj, hnumbers⟩,
      fun i task htask => ?_⟩
    by_cases hi : j = i
    · -- the operation is the first one on this task
      subst hi
      obtain rfl : own = task := Option.some.inj (hown.symm.trans htask)
      have hown' : middle.tasks[j]? = some own' := by rw [htasks, List.getElem?_set_self hj]
      obtain ⟨task', htask', hlater⟩ := halone j own' hown'
      refine ⟨task', htask', ?_⟩
      rw [part_cons_self, reportsOn_cons_self, Task.performAll, hperform]
      simp only [hlater, Option.map_some]
    · -- the operation is on another task and has not changed this one
      have hother : middle.tasks[i]? = some task := by rw [htasks, List.getElem?_set_ne hi, htask]
      obtain ⟨task', htask', hlater⟩ := halone i task hother
      refine ⟨task', htask', ?_⟩
      rw [part_cons_of_ne hi, reportsOn_cons_of_ne hi]
      exact hlater

/-- **Operations that complete on each task alone complete in any order** that keeps those on one
task in theirs. -/
theorem isSome_performAll (hs : s.Steady I) (hnumbers : ∀ op ∈ ops, op.1 < s.tasks.length)
    (halone : ∀ i (task : Task), s.tasks[i]? = some task →
      (task.performAll s.machine.toMachine bound (part i ops)).isSome) :
    (performAll bound ops s).isSome := by
  induction ops generalizing s with
  | nil => rfl
  | cons op rest ih =>
    obtain ⟨j, script⟩ := op
    obtain ⟨hj, hnumbers⟩ := List.forall_mem_cons.1 hnumbers
    have hown : s.tasks[j]? = some s.tasks[j] := List.getElem?_eq_getElem hj
    have hfirst := halone j _ hown
    rw [part_cons_self, Task.performAll] at hfirst
    rcases perform_shared hs.plays hs.memory hown with
      ⟨-, hy⟩ | ⟨report, own', middle, hx, hy, hmachine, hmemory, htasks⟩
    · rw [hy] at hfirst
      cases hfirst
    · simp only [hy, Option.isSome_map] at hfirst
      -- in the store that is left, what is to be done on each task still completes alone
      have hrest : (performAll bound rest middle).isSome := by
        refine ih ⟨hmachine ▸ hs.plays, hmemory⟩ ?_ fun i task htask => ?_
        · rwa [htasks, List.length_set]
        · rw [hmachine]
          by_cases hi : j = i
          · subst hi
            rw [htasks, List.getElem?_set_self hj] at htask
            cases htask
            exact hfirst
          · rw [htasks, List.getElem?_set_ne hi] at htask
            have hlater := halone i task htask
            rwa [part_cons_of_ne hi] at hlater
      simp only [performAll, hx, Option.isSome_map]
      exact hrest

lemma isSome_performAll_iff (hs : s.Steady I) : (performAll bound ops s).isSome ↔
    (∀ op ∈ ops, op.1 < s.tasks.length) ∧ ∀ i (task : Task), s.tasks[i]? = some task →
      (task.performAll s.machine.toMachine bound (part i ops)).isSome := by
  constructor
  · intro h
    obtain ⟨⟨reports, t⟩, hops⟩ := Option.isSome_iff_exists.1 h
    obtain ⟨-, -, -, hnumbers, halone⟩ := performAll_splits hs hops
    refine ⟨hnumbers, fun i task htask => ?_⟩
    obtain ⟨task', -, hi⟩ := halone i task htask
    rw [hi]
    rfl
  · rintro ⟨hnumbers, halone⟩
    exact isSome_performAll hs hnumbers halone

end

/-! ### Interleavings -/

section

variable {bound : ℕ} {s t t' : Session γ} {ops ops' : List (ℕ × Script α)}
  {reports reports' : List (Report α)}

lemma mem_of_part_eq (h : ∀ i, part i ops' = part i ops) (op : ℕ × Script α) :
    op ∈ ops' ↔ op ∈ ops := by
  obtain ⟨i, script⟩ := op
  rw [← mem_part, h i, mem_part]

lemma eq_of_interleaved (hs : s.Steady I) (h : ∀ i, part i ops' = part i ops)
    (hops : performAll bound ops s = some (reports, t))
    (hops' : performAll bound ops' s = some (reports', t')) :
    t.tasks = t'.tasks ∧ ∀ i, reportsOn i ops reports = reportsOn i ops' reports' := by
  obtain ⟨-, hlength, -, hnumbers, halone⟩ := performAll_splits hs hops
  obtain ⟨-, hlength', -, hnumbers', halone'⟩ := performAll_splits hs hops'
  have htask : ∀ i < s.tasks.length, t.tasks[i]? = t'.tasks[i]? ∧
      reportsOn i ops reports = reportsOn i ops' reports' := by
    intro i hi
    have hown : s.tasks[i]? = some s.tasks[i] := List.getElem?_eq_getElem hi
    obtain ⟨u, hu, hperform⟩ := halone i _ hown
    obtain ⟨u', hu', hperform'⟩ := halone' i _ hown
    rw [h i, hperform, Option.some.injEq, Prod.mk.injEq] at hperform'
    obtain ⟨hreports, rfl⟩ := hperform'
    exact ⟨hu.trans hu'.symm, hreports⟩
  constructor
  · refine List.ext_getElem? fun i => ?_
    by_cases hi : i < s.tasks.length
    · exact (htask i hi).1
    · rw [List.getElem?_eq_none (by omega), List.getElem?_eq_none (by omega)]
  · intro i
    by_cases hi : i < s.tasks.length
    · exact (htask i hi).2
    · -- there are no operations on a task that does not exist
      have hno : ∀ op ∈ ops, op.1 ≠ i := fun op hop heq => hi (heq ▸ hnumbers op hop)
      have hno' : ∀ op ∈ ops', op.1 ≠ i := fun op hop heq => hi (heq ▸ hnumbers' op hop)
      rw [reportsOn_eq_nil hno, reportsOn_eq_nil hno']

/-- **Interleavings cannot be told apart** by what is reported on each task, nor by what is left. -/
theorem performAll_interleaved (hs : s.Steady I) (h : ∀ i, part i ops' = part i ops) :
    Option.Rel (fun x y => x.2.tasks = y.2.tasks ∧
        ∀ i, reportsOn i ops x.1 = reportsOn i ops' y.1)
      (performAll bound ops s) (performAll bound ops' s) := by
  have hsome : (performAll bound ops' s).isSome ↔ (performAll bound ops s).isSome := by
    simp only [isSome_performAll_iff hs, mem_of_part_eq h, h]
  cases hops : performAll bound ops s with
  | none =>
    cases hops' : performAll bound ops' s with
    | none => exact Option.Rel.none
    | some answer => simp [hops, hops'] at hsome
  | some answer =>
    cases hops' : performAll bound ops' s with
    | none => simp [hops, hops'] at hsome
    | some answer' => exact Option.Rel.some (eq_of_interleaved hs h hops hops')

end

/-- The machine, with a count of all instructions that were executed on it in the memory. -/
def counting (m : Machine) : SharedMachine ℕ where
  toMachine := m
  routine id arg :=
    match m.instructions.action? id with
    | some action => .access (· + 1) fun _ => (action arg).routine
    | none => .fail (.unknownOpcode id)

lemma counting_plays (m : Machine) : (counting m).Plays fun _ => True := by
  intro id action haction arg
  simp only [counting] at haction ⊢
  rw [haction]
  exact .access (fun _ _ => trivial) fun _ _ => (action arg).routine_plays

/-- **Tasks are isolated**, if the routines of their machine play its actions, whatever they keep in
the memory. If operations complete on the tasks of a session, then those on each task do what they do
when this task is alone with the machine, and when they are carried out in the store with this task
only: the reports on it and the task that is left are the same, and the machine stays as it is. They
complete if there are such tasks and the operations on each complete alone. Two interleavings of the
same operations on each task leave the same tasks, or none, and give the same reports on each. The
condition is met by every machine whose instructions keep nothing, whatever its actions. -/
theorem tasks_isolated (bound : ℕ) (s : Session γ) (hmachine : s.machine.Plays I)
    (hmemory : I s.memory) (ops : List (ℕ × Script α)) :
    (∀ reports t, performAll bound ops s = some (reports, t) →
      t.machine = s.machine ∧ t.tasks.length = s.tasks.length ∧ reports.length = ops.length ∧
        ∀ i task, s.tasks[i]? = some task → ∃ task', t.tasks[i]? = some task' ∧
          task.performAll s.machine.toMachine bound (part i ops) =
            some (reportsOn i ops reports, task') ∧
          ∃ alone, performAlone bound (part i ops) task s =
            some (reportsOn i ops reports, alone) ∧ alone.tasks = [task']) ∧
    ((performAll bound ops s).isSome ↔ (∀ op ∈ ops, op.1 < s.tasks.length) ∧
      ∀ i task, s.tasks[i]? = some task →
        (performAlone bound (part i ops) task s).isSome) ∧
    (∀ ops' : List (ℕ × Script α), (∀ i, part i ops' = part i ops) →
      Option.Rel (fun x y => x.2.tasks = y.2.tasks ∧
          ∀ i, reportsOn i ops x.1 = reportsOn i ops' y.1)
        (performAll bound ops s) (performAll bound ops' s)) ∧
    ∀ m programs, (start m programs).machine.Plays fun _ => True := by
  have hs : s.Steady I := ⟨hmachine, hmemory⟩
  refine ⟨fun reports t h => ?_, ?_, fun ops' h => performAll_interleaved hs h,
    fun m programs => (start_steady m programs).plays⟩
  · obtain ⟨hsame, hlength, hcount, -, halone⟩ := performAll_splits hs h
    refine ⟨hsame, hlength, hcount, fun i task htask => ?_⟩
    obtain ⟨task', htask', hperform⟩ := halone i task htask
    refine ⟨task', htask', hperform, ?_⟩
    rcases (performAlone_alike bound hs task (part i ops)).cases with
      ⟨-, hnone⟩ | ⟨reports', alone, last, halone, hlast, htasks⟩
    · cases hnone.symm.trans hperform
    · cases hlast.symm.trans hperform
      exact ⟨alone, halone, htasks⟩
  · simp only [isSome_performAll_iff hs, isSome_performAlone_iff hs]

/-- Two tasks on a machine that counts: their steps are interleaved, and all three are counted. -/
theorem tasks_isolated_counting :
    let fresh (p : Program) : Task := ⟨p, .initial (.standard false) {}⟩
    let s : Session ℕ := ⟨counting (.standard false), 0, [fresh #[⟨1, 5⟩, ⟨8, 0⟩], fresh #[⟨1, 7⟩]]⟩
    let ops := [(0, Script.step), (1, Script.step), (0, Script.step)]
    s.machine.Plays (fun _ => True) ∧ ∃ reports t task' alone,
      performAll 2 ops s = some (reports, t) ∧ t.memory = 3 ∧ t.tasks[0]? = some task' ∧
        task'.state.stack = [5, 5] ∧
        performAlone 2 [Script.step, Script.step] (fresh #[⟨1, 5⟩, ⟨8, 0⟩]) s =
          some (reportsOn 0 ops reports, alone) ∧ alone.tasks = [task'] := by
  intro fresh s ops
  have hm : s.machine.Plays fun _ => True := counting_plays (.standard false)
  obtain ⟨hcomplete, -, -⟩ := tasks_isolated 2 s hm trivial ops
  obtain ⟨reports, t, h, hmemory, hstack⟩ : ∃ reports t, performAll 2 ops s = some (reports, t) ∧
      t.memory = 3 ∧ (t.tasks[0]?.map fun task => task.state.stack) = some [5, 5] :=
    ⟨_, _, rfl, rfl, rfl⟩
  obtain ⟨-, -, -, halone⟩ := hcomplete reports t h
  obtain ⟨task', htask', -, alone, hperform, htasks⟩ := halone 0 _ rfl
  rw [htask'] at hstack
  exact ⟨hm, reports, t, task', alone, h, hmemory, htask', Option.some.inj hstack, hperform, htasks⟩

-- without the condition on the routines the second task can see that the first one was there
example :
    let pushing : SharedMachine Int64 := ⟨.standard false, fun _ _ =>
      .access (· + 1) fun count => (do Script.push count; return .executing : Script Status).routine⟩
    let task : Task := ⟨#[⟨1, 0⟩], .initial (.standard false) {}⟩
    let s : Session Int64 := ⟨pushing, 0, [task, task]⟩
    let stackOf (i : ℕ) (answer : Option (List (Report (Except Failure Status)) × Session Int64)) :=
      answer.bind fun (_, t) => t.tasks[i]?.map fun task => task.state.stack
    stackOf 1 (performAll 2 [(0, Script.step), (1, Script.step)] s) = some [1] ∧
      stackOf 0 (performAlone 2 [Script.step] task s) = some [0] := by
  exact ⟨rfl, rfl⟩

end Session

end StackMachine
