import Rtapi.Linux.Wait

/-!
# The step relation of `linux_rtapi.c`

A step is one call of the API by some host thread, or one step of a worker thread: the start of
its task code, the return of its task code, or a call of `rtapi_wait`. Steps of different
threads interleave in any order. The environment's answers (`malloc`, `pthread_create`, the clock,
the resource counters, the CPU set) are the operation's arguments, constrained only by
`Op.allowed`: `pthread_create` returns an identifier no unjoined thread holds, and the
`pthread_join` of `rtapi_task_delete` returns only once its thread has ended (`joinOk`).

`Reachable` is every state some run reaches from load time, and `Reachable.induction` packages
the induction once: an invariant that holds at load time and is kept by every step holds of all
of them.

A call that returns an error leaves the state as it was, with two exceptions: `rtapi_task_new`
refusing the priority keeps the slot it reserved, and `rtapi_task_start` failing to create or
initialise its worker has written the slot it starts (`Op.error_keeps_state`).
-/

namespace Rtapi.Linux

/-- The operations of the system, with the environment's answers. -/
inductive Op
  | init
  | exit (id : Int)
  | clockSetPeriod (nsecs : UInt64)
  | taskNew (taskcode arg : Nat) (prio owner : Int) (stacksize : UInt64) (usesFp cpuId : Int)
      (stack : Option Nat)
  | taskDelete (id : Int)
  | taskStart (id : Int) (periodNsec : UInt64) (e : StartEnv)
  | taskStop (id : Int)
  | taskPause (id : Int)
  | taskResume (id : Int)
  | taskSetPeriod (id : Int) (periodNsec : UInt64)
  /-- The worker `tid` passes the barrier and enters its task code. -/
  | begin (tid : Nat) (now : Timespec)
  /-- The task code of the worker `tid` returns. -/
  | finish (tid : Nat)
  /-- The worker `tid` calls `rtapi_wait`. -/
  | wait (tid : Nat) (e : WaitEnv)

/-- The unjoined thread with identifier `tid` at program point `pc`. -/
def Sys.threadAt (s : Sys) (tid : Nat) (pc : Pc) : Option Thread :=
  s.threads.find? fun th => th.tid = tid ∧ th.pc = pc

theorem Sys.threadAt_spec {s : Sys} {tid : Nat} {pc : Pc} {th : Thread}
    (h : s.threadAt tid pc = some th) : th ∈ s.threads ∧ th.tid = tid ∧ th.pc = pc := by
  have := List.find?_some h
  simp only [decide_eq_true_eq] at this
  exact ⟨List.mem_of_find?_eq_some h, this⟩

/-- What an operation does, `none` when it cannot happen: a worker step of a thread that is not
at that point, or a call that kills the process. -/
def Op.run (os : Os) (s : Sys) : Op → Option Result
  | .init => some (rtapiInit s)
  | .exit id => some (rtapiExit s id)
  | .clockSetPeriod nsecs => some (rtapiClockSetPeriod os s nsecs)
  | .taskNew taskcode arg prio owner stacksize usesFp cpuId stack =>
    some (rtapiTaskNew os s taskcode arg prio owner stacksize usesFp cpuId stack)
  | .taskDelete id => some (rtapiTaskDelete s id)
  | .taskStart id periodNsec e => rtapiTaskStart s id periodNsec e
  | .taskStop id => some (rtapiTaskStop s id)
  | .taskPause id => some (rtapiTaskPause s id)
  | .taskResume id => some (rtapiTaskResume s id)
  | .taskSetPeriod id periodNsec => some (rtapiTaskSetPeriod s id periodNsec)
  | .begin tid now =>
    (s.threadAt tid .ready).map fun th => ⟨0, realtimeThreadBegin s th now, []⟩
  | .finish tid => (s.threadAt tid .body).map fun th => realtimeThreadEnd s th
  | .wait tid e => (s.threadAt tid .body).map fun th => rtapiWait s th e

/-- The `pthread_join` of `rtapi_task_delete(id)` returns: the thread it waits for, if it exists,
has ended, or is a worker of this slot and ends at its next `rtapi_wait` now that `deleted` is
set. -/
def joinOk (s : Sys) (id : Int) : Bool :=
  match checkTask s id with
  | none => true
  | some i => (s.task i).deleted != 0 || s.threads.all fun th =>
      th.tid != (s.task i).thread || th.pc == .exited || th.slot == i

/-- What the environment's answers must satisfy: `pthread_create` returns an identifier that no
unjoined thread holds, and the join of `rtapi_task_delete` returns.
The first is the guarantee of POSIX, which reuses only the identifiers of joined threads.
glibc with stacks given by `pthread_attr_setstack` does not keep it: the thread's descriptor, and
so its identifier, is at the top of its stack. A second start on the stack of a live worker, or a
start on a stack freed while its never-joined worker's descriptor is still there, can get the
identifier of that unjoined worker. Runs where it does are outside the model. -/
def Op.allowed (s : Sys) : Op → Bool
  | .taskStart _ _ e => match e.created with
    | none => true
    | some tid => s.threads.all (·.tid != tid)
  | .taskDelete id => joinOk s id
  | _ => true

/-- One step, with what it does outside the tables. -/
inductive Step (os : Os) : Sys → List Event → Sys → Prop
  | mk {s : Sys} (o : Op) {r : Result} : o.allowed s = true → o.run os s = some r →
      Step os s r.events r.sys

/-- Runs: a sequence of steps, with the concatenation of what they did. -/
inductive Run (os : Os) : Sys → List Event → Sys → Prop
  | refl (s : Sys) : Run os s [] s
  | step {s s' s'' : Sys} {l l' : List Event} : Run os s l s' → Step os s' l' s'' →
      Run os s (l ++ l') s''

/-- The states a run from load time reaches. -/
def Reachable (os : Os) (s : Sys) : Prop := ∃ l, Run os Sys.init l s

theorem Reachable.init (os : Os) : Reachable os Sys.init := ⟨[], .refl _⟩

theorem Reachable.step {os : Os} {s s' : Sys} {l : List Event} (h : Reachable os s)
    (hs : Step os s l s') : Reachable os s' :=
  let ⟨_, hr⟩ := h; ⟨_, hr.step hs⟩

/-- **Invariant induction.** What holds at load time and is kept by every allowed operation
holds in every reachable state. -/
theorem Reachable.induction {os : Os} (P : Sys → Prop) (h₀ : P Sys.init)
    (hstep : ∀ s (o : Op) r, P s → o.allowed s = true → o.run os s = some r → P r.sys)
    {s : Sys} (h : Reachable os s) : P s := by
  obtain ⟨l, hr⟩ := h
  induction hr with
  | refl => exact h₀
  | step _ hs ih => obtain ⟨o, ha, hrun⟩ := hs; exact hstep _ o _ ih ha hrun

/-! ## Runs that compute -/

/-- Run the operations in order, checking the environment's answers: the events and the final
state, or `none` when one cannot run. -/
def runOps (os : Os) : Sys → List Op → Option (List Event × Sys)
  | s, [] => some ([], s)
  | s, o :: ops =>
    if o.allowed s then
      (o.run os s).bind fun r => (runOps os r.sys ops).map fun p => (r.events ++ p.1, p.2)
    else none

/-- One operation of `runOps`, then the rest. -/
theorem runOps_cons_eq_some {os : Os} {s : Sys} {o : Op} {ops : List Op} {p : List Event × Sys} :
    runOps os s (o :: ops) = some p ↔ o.allowed s = true ∧ ∃ r, o.run os s = some r ∧
      ∃ p', runOps os r.sys ops = some p' ∧ p = (r.events ++ p'.1, p'.2) := by
  simp only [runOps]
  split
  · simp only [Option.bind_eq_some, Option.map_eq_some', true_and, *]
    constructor
    · rintro ⟨r, hr, p', hp, rfl⟩; exact ⟨r, hr, p', hp, rfl⟩
    · rintro ⟨r, hr, p', hp, rfl⟩; exact ⟨r, hr, p', hp, rfl⟩
  · simp_all

theorem Run.append {os : Os} {s s' s'' : Sys} {l l' : List Event} (h : Run os s l s')
    (h' : Run os s' l' s'') : Run os s (l ++ l') s'' := by
  induction h' with
  | refl => simpa using h
  | step _ hs ih => rw [← List.append_assoc]; exact ih.step hs

theorem Run.single {os : Os} {s s' : Sys} {l : List Event} (h : Step os s l s') : Run os s l s' :=
  by simpa using (Run.refl s).step h

/-- **What `runOps` computes is a run.** -/
theorem runOps_run {os : Os} {s : Sys} {ops : List Op} {l : List Event} {s' : Sys}
    (h : runOps os s ops = some (l, s')) : Run os s l s' := by
  induction ops generalizing s l with
  | nil => cases h; exact .refl _
  | cons o ops ih =>
    simp only [runOps] at h
    split at h
    · obtain ⟨r, hr, h⟩ := Option.bind_eq_some.1 h
      obtain ⟨⟨l', s''⟩, hp, he⟩ := Option.map_eq_some'.1 h
      obtain ⟨rfl, rfl⟩ := Prod.mk.inj he
      exact (Run.single (Step.mk o ‹_› hr)).append (ih hp)
    · cases h

/-- The state a list of operations reaches from load time (`Sys.init` if one cannot run). -/
def stateAfter (os : Os) (ops : List Op) : Sys :=
  ((runOps os Sys.init ops).map Prod.snd).getD Sys.init

theorem reachable_stateAfter (os : Os) (ops : List Op) : Reachable os (stateAfter os ops) := by
  unfold stateAfter
  cases h : runOps os Sys.init ops with
  | none => exact Reachable.init os
  | some p => exact ⟨p.1, runOps_run h⟩

/-- A task created with a 4096-byte stack and started on a 1 ms clock; its worker is thread `1`. -/
def startedOps : List Op :=
  [.clockSetPeriod 1000000, .taskNew 0 0 50 0 0 0 (-1) (some 4096),
    .taskStart 0 1000000 (.ok 1)]

/-! ## What a call that returns an error leaves behind -/

/-- **A call that returns an error leaves the state as it was, with two exceptions**: an
`rtapi_task_new` that refuses the priority keeps the first free slot reserved, and an
`rtapi_task_start` that fails to create or initialise its worker answers `-ENOMEM` after writing
the slot it starts, that slot's ghost record and the thread table. No worker step returns an
error. -/
theorem Op.error_keeps_state {os : Os} {s : Sys} {o : Op} {r : Result} (hr : o.run os s = some r)
    (hneg : r.ret < 0) :
    r.sys = s ∨
      (∃ taskcode arg prio owner stacksize usesFp cpuId stack,
        o = .taskNew taskcode arg prio owner stacksize usesFp cpuId stack ∧ r.ret = -einval ∧
        r.sys = reserve s (newSlot s)) ∨
      (∃ id periodNsec e i, o = .taskStart id periodNsec e ∧ checkTask s id = some i ∧
        r.ret = -enomem ∧ r.sys.period = s.period ∧ r.sys.modules = s.modules ∧
        ∀ j ≠ i, r.sys.task j = s.task j) := by
  have hne : ¬(0 : Int) < 0 := lt_irrefl 0
  cases o with
  | taskNew taskcode arg prio owner stacksize usesFp cpuId stack =>
    cases hr
    rcases rtapiTaskNew_cases os s taskcode arg prio owner stacksize usesFp cpuId stack with
      ⟨-, h⟩ | ⟨h, -, h'⟩ | ⟨h, -⟩
    · exact .inl h
    · exact .inr (.inl ⟨_, _, _, _, _, _, _, _, rfl, h, h'⟩)
    · rw [h] at hneg; omega
  | taskStart id periodNsec e =>
    rcases rtapiTaskStart_of_neg hr hneg with h | ⟨i, h⟩
    · exact .inl h
    · exact .inr (.inr ⟨id, periodNsec, e, i, rfl, h⟩)
  | init => cases hr; exact .inl (rtapiInit_sys_of_neg hneg)
  | exit id => cases hr; exact .inl (rtapiExit_sys_of_neg hneg)
  | clockSetPeriod nsecs => cases hr; exact .inl (rtapiClockSetPeriod_sys_of_neg hneg)
  | taskDelete id => cases hr; exact .inl (rtapiTaskDelete_sys_of_neg hneg)
  | taskStop id => cases hr; exact .inl (withTask_sys_of_neg hneg fun h => absurd h hne)
  | taskPause id => cases hr; exact .inl (withTask_sys_of_neg hneg fun _ _ => rfl)
  | taskResume id => cases hr; exact .inl (withTask_sys_of_neg hneg fun _ _ => rfl)
  | taskSetPeriod id periodNsec =>
    cases hr; exact .inl (withTask_sys_of_neg hneg fun h => absurd h hne)
  | begin tid now =>
    obtain ⟨th, -, rfl⟩ := Option.map_eq_some'.1 hr; exact absurd hneg hne
  | finish tid =>
    obtain ⟨th, -, rfl⟩ := Option.map_eq_some'.1 hr; exact absurd hneg hne
  | wait tid e =>
    obtain ⟨th, -, rfl⟩ := Option.map_eq_some'.1 hr
    rw [rtapiWait_ret] at hneg; exact absurd hneg hne

end Rtapi.Linux
