import Rtapi.Interleaving
import Rtapi.Linux.Step

/-!
# Workers of different tasks do not interfere

A worker of `linux_rtapi.c` takes three kinds of steps: `realtime_thread` passes the barrier and
enters the task code, the task code returns, and the task code calls `rtapi_wait`. Each reads and
writes only its own thread's program point and the `rtapi_task` record of its slot, and none is
ever refused. So the steps of workers bound to different slots can be taken in any order.

* `Op.Local`: what a step writes and does is a function of its thread and its slot's record;
  every worker step is local (`Op.local_of_worker`), and keeps the pairs of thread and slot of
  the thread table (`Op.Local.bindings`).
* `Op.Local.commute`: two local steps of different threads bound to different slots commute.
* `runOps_eq_runSteps`: `runOps` runs the steps `Op.step`, so the interleaving theorem of
  `Rtapi.Interleaving` applies to it; two workers bound to different slots are independent
  (`workers_independent`).
* `runOps_interleave`: any interleaving of the steps of two workers bound to different slots ends
  as running all the first worker's steps and then the second's: both runs are refused, or both
  reach the same state with the same events in another order.
-/

namespace Rtapi.Linux

/-! ## Local worker steps -/

/-- Move the thread `tid` to a program point, or leave it where it is. -/
def Sys.movePc (s : Sys) (tid : Nat) : Option Pc → Sys
  | none => s
  | some pc => s.setPc tid pc

/-- A worker step of `th` that gives its slot the record `w.1`, moves it by `w.2.1` and does
`w.2.2`. -/
def Sys.workerResult (s : Sys) (th : Thread) (w : TaskData × Option Pc × List Event) : Result :=
  ⟨0, (s.setTask th.slot w.1).movePc th.tid w.2.1, w.2.2⟩

/-- The worker steps, with the thread they are taken by and the program point it must be at. -/
def Op.worker : Op → Option (Nat × Pc)
  | .begin tid _ => some (tid, .ready)
  | .finish tid => some (tid, .body)
  | .wait tid _ => some (tid, .body)
  | _ => none

/-- The pairs of thread identifier and slot of the thread table. -/
def Sys.bindings (s : Sys) : List (Nat × Nat) := s.threads.map fun th => (th.tid, th.slot)

/-- The threads `tid₁` and `tid₂` are bound to different slots. -/
def Sys.Apart (s : Sys) (tid₁ tid₂ : Nat) : Prop :=
  ∀ b₁ ∈ s.bindings, ∀ b₂ ∈ s.bindings, b₁.1 = tid₁ → b₂.1 = tid₂ → b₁.2 ≠ b₂.2

instance (s : Sys) (tid₁ tid₂ : Nat) : Decidable (s.Apart tid₁ tid₂) :=
  inferInstanceAs (Decidable (∀ b₁ ∈ s.bindings, ∀ b₂ ∈ s.bindings, _))

/-- A step of the worker `tid` at `pc` is local: what it writes and does is a function of its
thread and of the record of its thread's slot. -/
def Op.Local (os : Os) (o : Op) (tid : Nat) (pc : Pc) : Prop :=
  ∃ E : Thread → TaskData → TaskData × Option Pc × List Event,
    ∀ s, o.run os s = (s.threadAt tid pc).map fun th => s.workerResult th (E th (s.task th.slot))

namespace Sys

variable {s : Sys} {i j tid tid' : Nat} {t t' : TaskData} {p : Option Pc} {pc : Pc}

@[simp] theorem movePc_task : (s.movePc tid p).task = s.task := by cases p <;> rfl
@[simp] theorem threadAt_setTask : (s.setTask i t).threadAt tid pc = s.threadAt tid pc := rfl

theorem movePc_setTask : (s.setTask i t).movePc tid p = (s.movePc tid p).setTask i t := by
  cases p <;> rfl

theorem setTask_comm (h : i ≠ j) : (s.setTask i t).setTask j t' = (s.setTask j t').setTask i t := by
  simp only [setTask]
  congr 1
  exact Function.update_comm h _ _ _

theorem movePc_comm {p' : Option Pc} (h : tid ≠ tid') :
    (s.movePc tid p).movePc tid' p' = (s.movePc tid' p').movePc tid p := by
  cases p <;> cases p' <;> simp only [movePc]
  simp only [setPc]
  rw [moveThread_comm h]

theorem threadAt_movePc (h : tid ≠ tid') :
    (s.movePc tid p).threadAt tid' pc = s.threadAt tid' pc := by
  cases p with
  | none => rfl
  | some q => exact find?_moveThread_of_ne h

theorem bindings_movePc : (s.movePc tid p).bindings = s.bindings := by
  cases p with
  | none => rfl
  | some q => exact map_tid_slot_moveThread

variable {th th₁ th₂ : Thread} {w w₁ w₂ : TaskData × Option Pc × List Event}

@[simp] theorem workerResult_events : (s.workerResult th w).events = w.2.2 := rfl

theorem threadAt_workerResult (h : th.tid ≠ tid) :
    (s.workerResult th w).sys.threadAt tid pc = s.threadAt tid pc := by
  simp only [workerResult, threadAt_movePc h, threadAt_setTask]

theorem task_workerResult_ne (h : j ≠ th.slot) : (s.workerResult th w).sys.task j = s.task j := by
  simp [workerResult, setTask_task_ne h]

/-- The steps of two workers of different threads and slots reach the same state in either
order. -/
theorem workerResult_comm (htid : th₁.tid ≠ th₂.tid) (hs : th₁.slot ≠ th₂.slot) :
    ((s.workerResult th₁ w₁).sys.workerResult th₂ w₂).sys =
      ((s.workerResult th₂ w₂).sys.workerResult th₁ w₁).sys := by
  simp only [workerResult, movePc_setTask]
  rw [movePc_comm htid, setTask_comm hs]

end Sys

/-! ## Every worker step is local -/

section Local

variable {os : Os} {tid : Nat}

theorem Op.local_begin {now : Timespec} : (Op.begin tid now).Local os tid .ready :=
  ⟨fun _ t => ({ t with nextTime := rtapiAdvanceTime now (cULong t.period) 0 }, some .body, []),
    fun _ => rfl⟩

theorem Op.local_finish : (Op.finish tid).Local os tid .body :=
  ⟨fun th t => ({ t with deleted := 1 }, some .exited, [.msg .err (.endOfThread th.slot)]),
    fun _ => rfl⟩

/-- What `rtapi_wait` does depends on the record of the worker's slot alone. -/
theorem rtapiWait_events_congr {s s' : Sys} {th : Thread} {e : WaitEnv}
    (h : s.task th.slot = s'.task th.slot) :
    (rtapiWait s th e).events = (rtapiWait s' th e).events := by
  unfold rtapiWait; rw [h]; dsimp only; split_ifs <;> rfl

/-- A wait is local: with `deleted` set the worker leaves, otherwise the slot gets the advanced
record and the wait does what that record alone decides. -/
theorem Op.local_wait {e : WaitEnv} : (Op.wait tid e).Local os tid .body := by
  refine ⟨fun th t => if t.deleted ≠ 0 then (t, some .exited, [])
    else (waitTask t e.now, none, (rtapiWait (Sys.init.setTask th.slot t) th e).events),
    fun s => ?_⟩
  refine Option.map_congr fun th _ => ?_
  by_cases hd : (s.task th.slot).deleted = 0
  · have hs := rtapiWait_sys_of_deleted_eq_zero (e := e) hd
    simp only [hd, ne_eq, not_true_eq_false, if_false, Sys.workerResult, Sys.movePc]
    rw [@rtapiWait_events_congr _ s _ _ Sys.setTask_task_self, ← hs, ← @rtapiWait_ret s th e]
  · rw [rtapiWait_of_deleted hd]
    simp only [hd, ne_eq, not_false_eq_true, if_true, Sys.workerResult, Sys.movePc,
      Sys.setTask_task_eq_self]

end Local

/-- Every worker step is local. -/
theorem Op.local_of_worker {os : Os} {o : Op} {tid : Nat} {pc : Pc}
    (h : o.worker = some (tid, pc)) : o.Local os tid pc := by
  cases o <;> simp only [Op.worker, Option.some.injEq, Prod.mk.injEq, reduceCtorEq] at h <;>
    obtain ⟨rfl, rfl⟩ := h
  · exact Op.local_begin
  · exact Op.local_finish
  · exact Op.local_wait

/-- `o₁` then `o₂`: what each does, and the state they reach. -/
def Op.runPair (os : Os) (s : Sys) (o₁ o₂ : Op) : Option (List Event × List Event × Sys) :=
  (o₁.run os s).bind fun r₁ => (o₂.run os r₁.sys).map fun r₂ => (r₁.events, r₂.events, r₂.sys)

/-- The operation is a step of the worker `tid`. -/
def Op.isStepOf (tid : Nat) (o : Op) : Bool := o.worker.map Prod.fst == some tid

/-! ## Steps of different workers commute -/

section Commute

variable {os : Os} {s : Sys} {o o₁ o₂ : Op} {tid tid₁ tid₂ : Nat} {pc₁ pc₂ : Pc}

theorem Sys.Apart.symm (h : s.Apart tid₁ tid₂) : s.Apart tid₂ tid₁ :=
  fun b₁ h₁ b₂ h₂ e₁ e₂ => (h b₂ h₂ b₁ h₁ e₂ e₁).symm

/-- The threads found at `tid₁` and `tid₂` of a table where they are apart have different slots. -/
theorem Sys.Apart.slot_ne (h : s.Apart tid₁ tid₂) {th₁ th₂ : Thread}
    (ht₁ : s.threadAt tid₁ pc₁ = some th₁) (ht₂ : s.threadAt tid₂ pc₂ = some th₂) :
    th₁.slot ≠ th₂.slot := by
  obtain ⟨hm₁, rfl, -⟩ := Sys.threadAt_spec ht₁
  obtain ⟨hm₂, rfl, -⟩ := Sys.threadAt_spec ht₂
  exact h _ (List.mem_map_of_mem _ hm₁) _ (List.mem_map_of_mem _ hm₂) rfl rfl

/-- A local step keeps the threads' slots. -/
theorem Op.Local.bindings {pc : Pc} {r : Result} (h : o.Local os tid pc)
    (hr : o.run os s = some r) :
    r.sys.bindings = s.bindings := by
  obtain ⟨E, hE⟩ := h
  obtain ⟨th, -, rfl⟩ := Option.map_eq_some'.1 ((hE s).symm.trans hr)
  exact Sys.bindings_movePc

/-- **Two local steps of different threads bound to different slots commute**: in either order
each does the same, and they reach the same state. -/
theorem Op.Local.commute (h₁ : o₁.Local os tid₁ pc₁) (h₂ : o₂.Local os tid₂ pc₂)
    (htid : tid₁ ≠ tid₂) (hap : s.Apart tid₁ tid₂) :
    o₁.runPair os s o₂ = (o₂.runPair os s o₁).map fun p => (p.2.1, p.1, p.2.2) := by
  obtain ⟨E₁, hE₁⟩ := h₁
  obtain ⟨E₂, hE₂⟩ := h₂
  simp only [Op.runPair, hE₁, hE₂, Option.map_map]
  cases ht₁ : s.threadAt tid₁ pc₁ with
  | none =>
    cases ht₂ : s.threadAt tid₂ pc₂ with
    | none => rfl
    | some th₂ =>
      obtain ⟨-, rfl, -⟩ := Sys.threadAt_spec ht₂
      simp [Sys.workerResult, Sys.threadAt_movePc (Ne.symm htid), ht₁]
  | some th₁ =>
    cases ht₂ : s.threadAt tid₂ pc₂ with
    | none =>
      obtain ⟨-, rfl, -⟩ := Sys.threadAt_spec ht₁
      simp [Sys.workerResult, Sys.threadAt_movePc htid, ht₂]
    | some th₂ =>
      have hs := hap.slot_ne ht₁ ht₂
      obtain ⟨-, rfl, -⟩ := Sys.threadAt_spec ht₁
      obtain ⟨-, rfl, -⟩ := Sys.threadAt_spec ht₂
      simp only [Option.map_some', Option.some_bind, Function.comp, ht₁, ht₂,
        Sys.threadAt_workerResult htid, Sys.threadAt_workerResult (Ne.symm htid),
        Sys.task_workerResult_ne hs, Sys.task_workerResult_ne (Ne.symm hs),
        Sys.workerResult_events, Sys.workerResult_comm htid hs]

end Commute

/-! ## Interleavings of two workers -/

section Interleave

variable {os : Os} {s : Sys} {o o₁ o₂ : Op} {tid tid₁ tid₂ : Nat} {pc pc₁ pc₂ : Pc}

theorem Op.allowed_of_worker {w : Nat × Pc} (h : o.worker = some w) : o.allowed s = true := by
  cases o <;> first | rfl | cases h

theorem Op.worker_of_isStepOf (h : o.isStepOf tid = true) : ∃ pc, o.worker = some (tid, pc) := by
  simp only [Op.isStepOf, beq_iff_eq, Option.map_eq_some', Prod.exists] at h
  obtain ⟨_, pc, h, rfl⟩ := h
  exact ⟨pc, h⟩

theorem Op.isStepOf_ne (h : o.isStepOf tid₁ = true) (htid : tid₁ ≠ tid₂) :
    o.isStepOf tid₂ = false := by
  simp only [Op.isStepOf, beq_iff_eq] at h ⊢
  simp [h, htid]

/-- A step of a worker keeps apart any two threads that were. -/
theorem Sys.Apart.of_worker (h : s.Apart tid₁ tid₂) (ho : o.isStepOf tid = true) {r : Result}
    (hr : o.run os s = some r) : r.sys.Apart tid₁ tid₂ := by
  obtain ⟨pc, hw⟩ := Op.worker_of_isStepOf ho
  unfold Sys.Apart
  rw [(Op.local_of_worker hw).bindings hr]
  exact h

/-- An operation as a step: refused when the environment does not allow it. -/
def Op.step (os : Os) (s : Sys) (o : Op) : Option (List Event × Sys) :=
  if o.allowed s then (o.run os s).map fun r => (r.events, r.sys) else none

theorem runOps_eq_runSteps (ops : List Op) : runOps os s ops = runSteps (Op.step os) s ops := by
  induction ops generalizing s with
  | nil => rfl
  | cons o ops ih =>
    simp only [runOps, runSteps, Op.step, ih]
    split
    · cases o.run os s <;> rfl
    · rfl

theorem pairSteps_step {w₁ w₂ : Nat × Pc} (h₁ : o₁.worker = some w₁) (h₂ : o₂.worker = some w₂) :
    pairSteps (Op.step os) s o₁ o₂ = o₁.runPair os s o₂ := by
  simp only [pairSteps, Op.step, Op.allowed_of_worker h₁, Op.allowed_of_worker h₂, if_true,
    Op.runPair]
  cases o₁.run os s <;> simp [Option.bind_map, Option.map_map, Function.comp_def]

/-- Two workers bound to different slots are independent. -/
theorem workers_independent (htid : tid₁ ≠ tid₂) :
    Independent (Op.step os) (Op.isStepOf tid₁) (Op.isStepOf tid₂) fun s => s.Apart tid₁ tid₂ where
  keep hs ho hp := by
    obtain ⟨tid, ho⟩ : ∃ tid, Op.isStepOf tid _ = true := ho.elim (⟨tid₁, ·⟩) (⟨tid₂, ·⟩)
    obtain ⟨pc, hw⟩ := Op.worker_of_isStepOf ho
    simp only [Op.step, Op.allowed_of_worker hw, if_true, Option.map_eq_some'] at hp
    obtain ⟨r, hr, rfl⟩ := hp
    exact hs.of_worker ho hr
  disjoint h := Op.isStepOf_ne h htid
  commute hs ha hb := by
    obtain ⟨pc₁, hw₁⟩ := Op.worker_of_isStepOf ha
    obtain ⟨pc₂, hw₂⟩ := Op.worker_of_isStepOf hb
    rw [pairSteps_step hw₂ hw₁, pairSteps_step hw₁ hw₂]
    exact (Op.local_of_worker hw₂).commute (Op.local_of_worker hw₁) (Ne.symm htid) hs.symm

/-- **Any interleaving of the steps of two workers bound to different slots ends as running all
the steps of the first worker, then all those of the second**: both runs are refused, or both reach
the same state with the same events, perhaps in another order. -/
theorem runOps_interleave {ops : List Op} (htid : tid₁ ≠ tid₂)
    (hops : ∀ o ∈ ops, o.isStepOf tid₁ = true ∨ o.isStepOf tid₂ = true) (hap : s.Apart tid₁ tid₂) :
    SameOutcome (runOps os s ops)
      (runOps os s (ops.filter (Op.isStepOf tid₁) ++ ops.filter (Op.isStepOf tid₂))) := by
  rw [runOps_eq_runSteps, runOps_eq_runSteps]
  exact (workers_independent htid).interleave hap hops

end Interleave

/-- Two tasks created and started on a 1 ms clock: their workers are threads `1` (slot `0`) and
`2` (slot `1`). -/
def twoWorkersOps : List Op :=
  startedOps ++ [.taskNew 0 0 50 0 0 0 (-1) (some 4096), .taskStart 1 1000000 (.ok 2)]

example : (stateAfter linuxOs twoWorkersOps).bindings = [(2, 1), (1, 0)] := by decide

theorem runOps_interleave_two :
    (stateAfter linuxOs twoWorkersOps).Apart 1 2 ∧
      (runOps linuxOs (stateAfter linuxOs twoWorkersOps) [.begin 2 ⟨0, 0⟩, .begin 1 ⟨0, 0⟩,
        .wait 2 ⟨⟨0, 2000000⟩, 0, 0⟩, .wait 1 ⟨⟨0, 2000000⟩, 0, 0⟩, .finish 2]).isSome ∧
      SameOutcome (runOps linuxOs (stateAfter linuxOs twoWorkersOps) [.begin 2 ⟨0, 0⟩,
          .begin 1 ⟨0, 0⟩, .wait 2 ⟨⟨0, 2000000⟩, 0, 0⟩, .wait 1 ⟨⟨0, 2000000⟩, 0, 0⟩, .finish 2])
        (runOps linuxOs (stateAfter linuxOs twoWorkersOps) [.begin 1 ⟨0, 0⟩,
          .wait 1 ⟨⟨0, 2000000⟩, 0, 0⟩, .begin 2 ⟨0, 0⟩, .wait 2 ⟨⟨0, 2000000⟩, 0, 0⟩,
          .finish 2]) :=
  ⟨by decide, by decide, @runOps_interleave linuxOs _ 1 2 _ (by decide) (by decide) (by decide)⟩

end Rtapi.Linux
