import Mathlib.Data.List.Nodup
import Rtapi.Os

/-!
# The worker protocol

Both files run a task's code in a worker thread that `pthread_create` makes at the task's start,
and both join it on `rtapi_task_delete` through the handle stored in the slot, unless the slot's
`deleted` flag says the worker has ended or been told to. This module states what the two share
over an abstract view of the state (`Workers`): per slot whether it holds a task, whether the latest
start since its reservation created a worker (ghost), whether `deleted` is set and the stored
handle; and the threads nobody has joined.

A slot *owes* a worker when it is valid, its latest start created one and `deleted` is clear
(`SlotView.Owes`). The invariant (`Workers.Inv`) says the unjoined threads have distinct
identifiers and every slot that owes a worker has one: unjoined, bound to the slot, not ended, under
the stored handle. It is kept by the four kinds of change the two files make:

* a write that owes a worker only where one was owed, under the same handle
  (`Workers.Inv.of_owesLess`);
* a join of a thread that has ended or whose slot owes none (`Workers.Inv.join`);
* a new thread with a fresh identifier, stored as its slot's handle (`Workers.Inv.spawn`);
* a thread's move to another program point that ends no owed worker (`Workers.Inv.move`).

`Rtapi.Linux.Threads` and `Rtapi.Preempt.Threads` read each file's state as a `Workers` and show
that each of its steps is one of these.
-/

namespace Rtapi

/-- What the worker protocol reads of a task slot. -/
structure SlotView where
  /-- The slot holds a task. -/
  valid : Bool
  /-- Ghost: the latest start since the slot's reservation created a worker. -/
  latest : Bool
  /-- The slot's `deleted` flag is set. -/
  deleted : Bool
  /-- The stored `pthread_t`. -/
  handle : Nat
  deriving DecidableEq, Repr

/-- The slot owes a running worker: it is valid, its latest start created one, `deleted` is
clear. -/
def SlotView.Owes (v : SlotView) : Prop := v.valid = true ∧ v.latest = true ∧ v.deleted = false

instance (v : SlotView) : Decidable v.Owes := inferInstanceAs (Decidable (_ ∧ _))

/-- The protocol's view of a state: the slots and the unjoined threads. -/
structure Workers where
  slot : Nat → SlotView
  threads : List Thread

namespace Workers

variable {w w' : Workers} {i tid : Nat} {pc : Pc}

/-- `th` is the worker the handle of slot `i` names: unjoined, bound to the slot, not ended. -/
def RunningWorker (w : Workers) (i : Nat) (th : Thread) : Prop :=
  th ∈ w.threads ∧ th.tid = (w.slot i).handle ∧ th.slot = i ∧ th.pc ≠ .exited

/-- **The invariant of the worker protocol.** -/
structure Inv (w : Workers) : Prop where
  nodup : (w.threads.map (·.tid)).Nodup
  current : ∀ i, (w.slot i).Owes → ∃ th, w.RunningWorker i th

/-- Every slot `w'` owes a worker was owed one in `w`, under the same handle. -/
def OwesLess (w' w : Workers) : Prop :=
  ∀ i, (w'.slot i).Owes → (w.slot i).Owes ∧ (w'.slot i).handle = (w.slot i).handle

theorem OwesLess.refl (w : Workers) : w.OwesLess w := fun _ h => ⟨h, rfl⟩

theorem OwesLess.trans {w'' : Workers} (h : w''.OwesLess w') (h' : w'.OwesLess w) :
    w''.OwesLess w :=
  fun i hi => ⟨(h' i (h i hi).1).1, (h i hi).2.trans (h' i (h i hi).1).2⟩

/-- A state whose slots agree with `w` but for slot `i` owes less when slot `i` does. -/
theorem OwesLess.of_slot (hj : ∀ j, j ≠ i → w'.slot j = w.slot j)
    (hi : (w'.slot i).Owes → (w.slot i).Owes ∧ (w'.slot i).handle = (w.slot i).handle) :
    w'.OwesLess w := fun j hw => by
  by_cases e : j = i
  · subst e; exact hi hw
  · rw [hj j e] at hw ⊢; exact ⟨hw, rfl⟩

theorem Inv.eq_of_tid (h : w.Inv) {a b : Thread} (ha : a ∈ w.threads) (hb : b ∈ w.threads)
    (hab : a.tid = b.tid) : a = b :=
  List.inj_on_of_nodup_map h.nodup ha hb hab

/-! ## The four changes -/

/-- **A write that owes less keeps the invariant.** -/
theorem Inv.of_owesLess (h : w.Inv) (hth : w'.threads = w.threads) (ho : w'.OwesLess w) :
    w'.Inv := by
  refine ⟨hth ▸ h.nodup, fun i hi => ?_⟩
  obtain ⟨th, h₁, h₂, h₃, h₄⟩ := h.current i (ho i hi).1
  exact ⟨th, hth ▸ h₁, (ho i hi).2 ▸ h₂, h₃, h₄⟩

/-- **A join keeps the invariant** when every unjoined thread with the joined identifier has ended
or runs for a slot that owes no worker afterwards. -/
theorem Inv.join (h : w.Inv) (hth : w'.threads = joinThread w.threads tid) (ho : w'.OwesLess w)
    (hok : ∀ th ∈ w.threads, th.tid = tid → th.pc = .exited ∨ ¬(w'.slot th.slot).Owes) :
    w'.Inv := by
  refine ⟨hth ▸ h.nodup.sublist ((List.filter_sublist _).map _), fun i hi => ?_⟩
  obtain ⟨th, h₁, h₂, h₃, h₄⟩ := h.current i (ho i hi).1
  have hne : th.tid ≠ tid := fun he => (hok th h₁ he).elim h₄ (h₃ ▸ absurd hi)
  exact ⟨th, hth ▸ List.mem_filter.2 ⟨h₁, by simpa using hne⟩,
    (ho i hi).2 ▸ h₂, h₃, h₄⟩

/-- **A new worker keeps the invariant**: a fresh identifier, bound to slot `i` and stored as its
handle, not ended if the slot owes a worker; the other slots unchanged. -/
theorem Inv.spawn (h : w.Inv) (hfresh : ∀ th ∈ w.threads, th.tid ≠ tid)
    (hth : w'.threads = ⟨tid, i, pc⟩ :: w.threads) (hi : (w'.slot i).handle = tid)
    (hpc : (w'.slot i).Owes → pc ≠ .exited) (hj : ∀ j, j ≠ i → w'.slot j = w.slot j) :
    w'.Inv := by
  refine ⟨?_, fun j hw => ?_⟩
  · rw [hth, List.map_cons, List.nodup_cons]
    exact ⟨fun hm => let ⟨th, hth', he⟩ := List.mem_map.1 hm; hfresh th hth' he, h.nodup⟩
  by_cases e : j = i
  · subst e; exact ⟨_, hth ▸ List.mem_cons_self _ _, hi.symm, rfl, hpc hw⟩
  · obtain ⟨th, h₁, h₂, h₃, h₄⟩ := h.current j (hj j e ▸ hw)
    exact ⟨th, hth ▸ List.mem_cons_of_mem _ h₁, (hj j e).symm ▸ h₂, h₃, h₄⟩

/-- **A move keeps the invariant** unless it ends a worker its slot still owes. -/
theorem Inv.move (h : w.Inv) {th : Thread} (hth : th ∈ w.threads)
    (hw : w'.threads = moveThread w.threads th.tid pc) (ho : w'.OwesLess w)
    (hk : pc = .exited → ¬(w'.slot th.slot).Owes) : w'.Inv := by
  refine ⟨by rw [hw, map_tid_moveThread]; exact h.nodup, fun i hi => ?_⟩
  obtain ⟨th', h₁, h₂, h₃, h₄⟩ := h.current i (ho i hi).1
  by_cases e : th'.tid = th.tid
  · refine ⟨{ th' with pc }, hw ▸ mem_moveThread_self h₁ e, (ho i hi).2 ▸ h₂, h₃,
      fun hx => ?_⟩
    rw [h.eq_of_tid h₁ hth e] at h₃
    exact hk hx (h₃ ▸ hi)
  · exact ⟨th', hw ▸ mem_moveThread_of_ne h₁ e, (ho i hi).2 ▸ h₂, h₃, h₄⟩

end Workers

end Rtapi
