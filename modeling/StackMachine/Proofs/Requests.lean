import Mathlib.Tactic.Common
import StackMachine.InstructionSet.Standard

/-!
What scripts ask. A kind of requests is kept to by a whole instruction set if every instruction of
the set keeps to it, and registering another instruction that does so keeps it. The standard
instructions read and change the stack, print, write and jump; they ask nothing else.
-/

namespace StackMachine

variable {α β : Type} {allowed : Request → Prop}

/-! ### Scripts -/

namespace Script

lemma onlyAsks_of_forall (h : ∀ r, allowed r) (script : Script α) : script.OnlyAsks allowed := by
  induction script with
  | pure value => trivial
  | fail fault => trivial
  | ask r next ih => exact ⟨h r, ih⟩

lemma OnlyAsks.mono {more : Request → Prop} (h : ∀ r, allowed r → more r) {script : Script α}
    (hs : script.OnlyAsks allowed) : script.OnlyAsks more := by
  induction script with
  | pure value => trivial
  | fail fault => trivial
  | ask r next ih => exact ⟨h r hs.1, fun reply => ih reply (hs.2 reply)⟩

lemma OnlyAsks.bind {script : Script α} {next : α → Script β} (hs : script.OnlyAsks allowed)
    (hn : ∀ value, (next value).OnlyAsks allowed) : (script >>= next).OnlyAsks allowed := by
  induction script with
  | pure value => exact hn value
  | fail fault => trivial
  | ask r rest ih => exact ⟨hs.1, fun reply => ih reply (hs.2 reply)⟩

lemma onlyAsks_request {r : Request} (h : allowed r) : (request r).OnlyAsks allowed :=
  ⟨h, fun _ => trivial⟩

lemma onlyAsks_ofExcept (value : Except Fault α) : (ofExcept value).OnlyAsks allowed := by
  cases value <;> trivial

end Script

/-! ### Instruction sets -/

namespace InstructionSet

/-- The scripts of all instructions of the set ask only what is allowed. -/
def OnlyAsks (set : InstructionSet) (allowed : Request → Prop) : Prop :=
  ∀ entry ∈ set.entries, ∀ arg, (entry.action arg).OnlyAsks allowed

lemma OnlyAsks.of_action? {set : InstructionSet} (h : set.OnlyAsks allowed) {id : OpId}
    {action : Action} (ha : set.action? id = some action) (arg : Int64) :
    (action arg).OnlyAsks allowed := by
  obtain ⟨entry, he, rfl⟩ := Option.map_eq_some_iff.1 ha
  exact h entry (List.mem_of_getElem? he) arg

lemma OnlyAsks.mono {set : InstructionSet} {more : Request → Prop} (h : ∀ r, allowed r → more r)
    (hs : set.OnlyAsks allowed) : set.OnlyAsks more :=
  fun entry he arg => (hs entry he arg).mono h

lemma OnlyAsks.register {set larger : InstructionSet} (h : set.OnlyAsks allowed) {name : String}
    {action : Action} (ha : ∀ arg, (action arg).OnlyAsks allowed) {id : OpId}
    (hr : set.register name action = .ok (id, larger)) : larger.OnlyAsks allowed := by
  unfold InstructionSet.register at hr
  split at hr
  · cases hr
  · cases hr
    intro entry he arg
    rcases List.mem_append.1 he with he | he
    · exact h entry he arg
    · rw [List.mem_singleton.1 he]
      exact ha arg

/-! ### The standard instructions -/

/-- The requests that the standard instructions make. -/
def Plain : Request → Prop
  | .stack | .setStack _ | .print _ | .jump _ | .write _ => True
  | _ => False

namespace Standard

open Script

lemma onlyAsks_push (value : Int64) : (push value).OnlyAsks Plain :=
  (onlyAsks_request trivial).bind fun _ => onlyAsks_request trivial

lemma onlyAsks_peek : peek.OnlyAsks Plain :=
  (onlyAsks_request trivial).bind fun _ => onlyAsks_ofExcept _

lemma onlyAsks_pop : Script.pop.OnlyAsks Plain :=
  (onlyAsks_request trivial).bind fun _ =>
    (onlyAsks_ofExcept _).bind fun _ => (onlyAsks_request trivial).bind fun _ => trivial

lemma onlyAsks_popPair : popPair.OnlyAsks Plain :=
  (onlyAsks_request trivial).bind fun _ =>
    (onlyAsks_ofExcept _).bind fun _ => (onlyAsks_request trivial).bind fun _ => trivial

lemma onlyAsks_require (n : ℕ) : (require n).OnlyAsks Plain :=
  (onlyAsks_request trivial).bind fun _ => onlyAsks_ofExcept _

end Standard

/-- **The standard instructions ask only for the stack, and to print, write and jump.** -/
theorem standard_onlyAsks : standard.OnlyAsks Plain := by
  intro entry he arg
  rw [entries_standard] at he
  simp only [Standard.table, List.map_cons, List.map_nil, List.mem_cons, List.not_mem_nil,
    or_false] at he
  -- the instructions in the order of their numbers
  rcases he with rfl | rfl | rfl | rfl | rfl | rfl | rfl | rfl | rfl | rfl | rfl | rfl | rfl
  · exact Standard.onlyAsks_peek.bind fun _ => (Script.onlyAsks_request trivial).bind fun _ => trivial
  · exact (Standard.onlyAsks_push _).bind fun _ => trivial
  · exact (Standard.onlyAsks_require 1).bind fun _ => trivial
  · exact Standard.onlyAsks_pop.bind fun _ => trivial
  · exact Standard.onlyAsks_popPair.bind fun _ => (Standard.onlyAsks_push _).bind fun _ => trivial
  · refine (Standard.onlyAsks_require 2).bind fun _ => Standard.onlyAsks_peek.bind fun top => ?_
    split
    · trivial
    · exact Standard.onlyAsks_popPair.bind fun _ =>
        (Standard.onlyAsks_push _).bind fun _ => trivial
  · exact Standard.onlyAsks_popPair.bind fun _ => (Standard.onlyAsks_push _).bind fun _ => trivial
  · exact Standard.onlyAsks_popPair.bind fun _ => (Standard.onlyAsks_push _).bind fun _ => trivial
  · exact Standard.onlyAsks_peek.bind fun _ => (Standard.onlyAsks_push _).bind fun _ => trivial
  · exact (Script.onlyAsks_request trivial).bind fun _ => trivial
  · refine Standard.onlyAsks_pop.bind fun top => ?_
    dsimp only
    split
    · exact (Script.onlyAsks_request trivial).bind fun _ => trivial
    · trivial
  · exact Standard.onlyAsks_peek.bind fun _ => (Script.onlyAsks_request trivial).bind fun _ => trivial
  · exact Standard.onlyAsks_peek.bind fun _ => (Script.onlyAsks_request trivial).bind fun _ => trivial

end InstructionSet

end StackMachine
