import Rtapi.Interleaving
import Rtapi.Preempt.Task

/-!
# Workers of different tasks do not interfere in `rt-preempt.c`

A worker step of `rt-preempt.c` writes its own entry of `extra_task_data` and its program point,
and counts in `thread_status`: one update in the entry of the task `_rtapi_task_self_hook` names,
which need not be its own task (`rtapiTaskSelfHook_stale_handle`), and on a missed release one
wait error in its own entry. The counts are increments, which commute even when two workers count
in the same entry, and what the self hook names depends only on the stored thread handles, which
no worker step writes. So, as in `linux_rtapi.c`, the steps of workers bound to different slots
can be taken in any order.

* `rtapiTaskUpdateStatsHook_eq`: the statistics hook adds the counts `statsWrite` says to the
  table.
* `Op.Local`: what a step writes and does is a function of its thread, its slot's records and
  the task the self hook names, and it keeps the stored handle; every worker step is local
  (`Op.local_of_worker`).
* `Op.Local.commute`: two local steps of different threads bound to different slots commute.
* `runOps_interleave_workers`: any interleaving of the steps of two workers bound to different
  slots ends as running all the first worker's steps and then the second's.
-/

namespace Rtapi.Preempt

/-! ## Worker writes -/

/-- Move the thread `tid` to a program point, or leave it where it is. -/
def Sys.movePc (s : Sys) (tid : Nat) : Option Pc → Sys
  | none => s
  | some pc => s.setPc tid pc

/-- Add the counts `d` to the thread statistics. -/
def Sys.addStatus (s : Sys) (d : Nat → ThreadStatus) : Sys :=
  { s with status := fun n =>
      ⟨(s.status n).numUpdates + (d n).numUpdates, (s.status n).waitErrors + (d n).waitErrors⟩ }

/-- No counts. -/
def noCounts : Nat → ThreadStatus := fun _ => ⟨0, 0⟩

/-- The counts `d` in entry `k` alone. -/
def countAt (k : Nat) (d : ThreadStatus) : Nat → ThreadStatus :=
  fun n => if n = k then d else ⟨0, 0⟩

/-- The counts of `d` and of `d'`. -/
def addCounts (d d' : Nat → ThreadStatus) : Nat → ThreadStatus :=
  fun n => ⟨(d n).numUpdates + (d' n).numUpdates, (d n).waitErrors + (d' n).waitErrors⟩

/-- What `_rtapi_task_update_stats_hook` counts, returns and prints when the self hook answers
`v` and `getrusage` answers `rusage`. -/
def statsWrite (c : Config) (v : Int) (rusage : Option Int) :
    (Nat → ThreadStatus) × Int × List Event :=
  if v < 0 ∨ v > c.maxTasks then (noCounts, -enoent, [.msg .err (.taskIdOutOfRange v)])
  else match rusage with
    | some errno => (noCounts, errno, getrusageMsg (some errno))
    | none => (countAt v.toNat ⟨1, 0⟩, v, [])

/-- What a worker step writes and does: its slot's `extra_task_data` entry, its move, the counts
it adds to the statistics, its value and its events. -/
structure WorkerWrite where
  extra : ExtraTaskData
  pc : Option Pc
  counts : Nat → ThreadStatus
  ret : Int
  events : List Event

/-- The step of the worker `th` that does `w`. -/
def Sys.workerResult (s : Sys) (th : Thread) (w : WorkerWrite) : Result :=
  ⟨w.ret, ((s.setExtra th.slot w.extra).movePc th.tid w.pc).addStatus w.counts, w.events⟩

/-- The worker steps, with the thread they are taken by and the program point it must be at. -/
def Op.worker : Op → Option (Nat × Pc)
  | .begin tid _ _ _ => some (tid, .ready)
  | .finish tid => some (tid, .body)
  | .wait tid _ _ => some (tid, .body)
  | _ => none

/-- The operation is a step of the worker `tid`. -/
def Op.isStepOf (tid : Nat) (o : Op) : Bool := o.worker.map Prod.fst == some tid

/-- The pairs of thread identifier and slot of the thread table. -/
def Sys.bindings (s : Sys) : List (Nat × Nat) := s.threads.map fun th => (th.tid, th.slot)

/-- The threads `tid₁` and `tid₂` are bound to different slots. -/
def Sys.Apart (s : Sys) (tid₁ tid₂ : Nat) : Prop :=
  ∀ b₁ ∈ s.bindings, ∀ b₂ ∈ s.bindings, b₁.1 = tid₁ → b₂.1 = tid₂ → b₁.2 ≠ b₂.2

instance (s : Sys) (tid₁ tid₂ : Nat) : Decidable (s.Apart tid₁ tid₂) :=
  inferInstanceAs (Decidable (∀ b₁ ∈ s.bindings, ∀ b₂ ∈ s.bindings, _))

/-- A step of the worker `tid` at `pc` is local: what it writes and does is a function of its
thread, of its slot's records and of what the self hook answers in it, and it keeps the slot's
stored thread handle. -/
def Op.Local (c : Config) (o : Op) (tid : Nat) (pc : Pc) : Prop :=
  ∃ E : Thread → TaskData → ExtraTaskData → Int → WorkerWrite,
    (∀ th t x v, (E th t x v).extra.thread = x.thread) ∧
    ∀ s, o.run c s = (s.threadAt tid pc).map fun th =>
      s.workerResult th (E th (s.task th.slot) (s.extra th.slot) (rtapiTaskSelfHook c s th.tid))

namespace Sys

variable {s : Sys} {i j tid tid' : Nat} {x x' : ExtraTaskData} {p : Option Pc} {pc : Pc}
  {d d' : Nat → ThreadStatus}

@[simp] theorem movePc_task : (s.movePc tid p).task = s.task := by cases p <;> rfl
@[simp] theorem movePc_extra : (s.movePc tid p).extra = s.extra := by cases p <;> rfl
@[simp] theorem addStatus_task : (s.addStatus d).task = s.task := rfl
@[simp] theorem addStatus_extra : (s.addStatus d).extra = s.extra := rfl
@[simp] theorem addStatus_threads : (s.addStatus d).threads = s.threads := rfl
@[simp] theorem threadAt_setExtra : (s.setExtra i x).threadAt tid pc = s.threadAt tid pc := rfl
@[simp] theorem threadAt_addStatus : (s.addStatus d).threadAt tid pc = s.threadAt tid pc := rfl

theorem addStatus_noCounts : s.addStatus noCounts = s := by
  cases s; simp only [addStatus, noCounts, Nat.add_zero]

theorem addStatus_addStatus : (s.addStatus d).addStatus d' = s.addStatus (addCounts d d') := by
  simp only [addStatus, addCounts, Nat.add_assoc]

theorem addStatus_comm : (s.addStatus d).addStatus d' = (s.addStatus d').addStatus d := by
  simp only [addStatus, Nat.add_right_comm]

/-- One more update in entry `k` is a count. -/
theorem setStatus_numUpdates (k : Nat) :
    s.setStatus k { s.status k with numUpdates := (s.status k).numUpdates + 1 } =
      s.addStatus (countAt k ⟨1, 0⟩) := by
  simp only [setStatus, addStatus, countAt]
  congr 1; funext n
  by_cases h : n = k
  · subst h; simp
  · simp [Function.update_noteq h, h]

/-- One more wait error in entry `k` is a count. -/
theorem setStatus_waitErrors (k : Nat) :
    s.setStatus k { s.status k with waitErrors := (s.status k).waitErrors + 1 } =
      s.addStatus (countAt k ⟨0, 1⟩) := by
  simp only [setStatus, addStatus, countAt]
  congr 1; funext n
  by_cases h : n = k
  · subst h; simp
  · simp [Function.update_noteq h, h]

theorem setExtra_addStatus : (s.addStatus d).setExtra i x = (s.setExtra i x).addStatus d := rfl

theorem movePc_addStatus : (s.addStatus d).movePc tid p = (s.movePc tid p).addStatus d := by
  cases p <;> rfl

theorem movePc_setExtra : (s.setExtra i x).movePc tid p = (s.movePc tid p).setExtra i x := by
  cases p <;> rfl

theorem setExtra_comm (h : i ≠ j) :
    (s.setExtra i x).setExtra j x' = (s.setExtra j x').setExtra i x := by
  simp only [setExtra]
  congr 1
  exact Function.update_comm h _ _ _

theorem movePc_comm {p' : Option Pc} (h : tid ≠ tid') :
    (s.movePc tid p).movePc tid' p' = (s.movePc tid' p').movePc tid p := by
  cases p <;> cases p' <;> simp only [movePc]
  simp only [setPc]
  rw [moveThread_comm h]

theorem threadAt_movePc (h : tid ≠ tid') :
    (s.movePc tid p).threadAt tid' pc = s.threadAt tid' pc := by
  cases p with
  | none => rfl
  | some q => exact find?_moveThread_of_ne h

theorem bindings_movePc : (s.movePc tid p).bindings = s.bindings := by
  cases p with
  | none => rfl
  | some q => exact map_tid_slot_moveThread

variable {th th₁ th₂ : Thread} {w w₁ w₂ : WorkerWrite}

@[simp] theorem workerResult_events : (s.workerResult th w).events = w.events := rfl

@[simp] theorem task_workerResult : (s.workerResult th w).sys.task = s.task := by
  simp [workerResult]

theorem threadAt_workerResult (h : th.tid ≠ tid) :
    (s.workerResult th w).sys.threadAt tid pc = s.threadAt tid pc := by
  simp only [workerResult, threadAt_addStatus, threadAt_movePc h, threadAt_setExtra]

theorem extra_workerResult_ne (h : j ≠ th.slot) :
    (s.workerResult th w).sys.extra j = s.extra j := by
  simp [workerResult, setExtra_extra_ne h]

/-- The steps of two workers of different threads and slots reach the same state in either
order. -/
theorem workerResult_comm (htid : th₁.tid ≠ th₂.tid) (hs : th₁.slot ≠ th₂.slot) :
    ((s.workerResult th₁ w₁).sys.workerResult th₂ w₂).sys =
      ((s.workerResult th₂ w₂).sys.workerResult th₁ w₁).sys := by
  simp only [workerResult, setExtra_addStatus, movePc_addStatus, movePc_setExtra]
  rw [movePc_comm htid, setExtra_comm hs, addStatus_comm]

end Sys

/-! ## The self hook and the statistics hook -/

section Stats

variable {c : Config} {s s' : Sys} {self : Nat} {rusage : Option Int}

/-- What the self hook answers depends on the stored thread handles alone. -/
theorem rtapiTaskSelfHook_congr (h : ∀ n, (s'.extra n).thread = (s.extra n).thread) :
    rtapiTaskSelfHook c s' self = rtapiTaskSelfHook c s self := by
  simp only [rtapiTaskSelfHook, selfSlot, h]

/-- `_rtapi_task_update_stats_hook` adds counts to the statistics, and writes nothing else. -/
theorem rtapiTaskUpdateStatsHook_eq :
    rtapiTaskUpdateStatsHook c s self rusage =
      ⟨(statsWrite c (rtapiTaskSelfHook c s self) rusage).2.1,
        s.addStatus (statsWrite c (rtapiTaskSelfHook c s self) rusage).1,
        (statsWrite c (rtapiTaskSelfHook c s self) rusage).2.2⟩ := by
  unfold rtapiTaskUpdateStatsHook statsWrite
  split_ifs
  · rw [Sys.addStatus_noCounts]
  · cases rusage
    · rw [Sys.setStatus_numUpdates]
    · rw [Sys.addStatus_noCounts]

/-- A write of a slot's entry that keeps its handle keeps what the self hook answers. -/
theorem rtapiTaskSelfHook_setExtra {i : Nat} {x : ExtraTaskData}
    (hx : x.thread = (s.extra i).thread) :
    rtapiTaskSelfHook c (s.setExtra i x) self = rtapiTaskSelfHook c s self := by
  refine rtapiTaskSelfHook_congr fun n => ?_
  by_cases h : n = i
  · subst h; simpa using hx
  · rw [Sys.setExtra_extra_ne h]

end Stats

/-! ## Every worker step is local -/

section Local

variable {c : Config} {tid : Nat}

theorem Op.local_begin {now : Timespec} {rusage startup : Option Int} :
    (Op.begin tid now rusage startup).Local c tid .ready := by
  refine ⟨fun _ t x v => ⟨{ x with nextTime := rtapiAdvanceTime now (cULong t.period) 0 },
    some .body, (statsWrite c v rusage).1, (statsWrite c v rusage).2.1,
    (statsWrite c v rusage).2.2 ++ getrusageMsg startup⟩,
    fun _ _ _ _ => rfl, fun s => Option.map_congr fun th _ => ?_⟩
  simp only [Op.run, realtimeThreadBegin, rtapiTaskUpdateStatsHook_eq, Sys.workerResult]
  have hv : rtapiTaskSelfHook c ((s.setExtra th.slot { s.extra th.slot with
      nextTime := rtapiAdvanceTime now (cULong (s.task th.slot).period) 0 }).setPc th.tid .body)
      th.tid = rtapiTaskSelfHook c s th.tid :=
    rtapiTaskSelfHook_setExtra rfl
  rw [hv]; rfl

theorem Op.local_finish : (Op.finish tid).Local c tid .body :=
  ⟨fun th _ x _ => ⟨{ x with deleted := 1 }, some .exited, noCounts, 0,
      [.msg .err (.endOfThread th.slot)]⟩,
    fun _ _ _ _ => rfl, fun _ => Option.map_congr fun _ _ => by
      simp only [realtimeThreadEnd, Sys.workerResult, Sys.addStatus_noCounts]; rfl⟩

/-- A wait is local: with `deleted` set the worker leaves; otherwise the entry gets the next
release time, and a miss counts an update where the self hook says and a wait error in the
worker's own entry. -/
theorem Op.local_wait {now : Timespec} {rusage : Option Int} :
    (Op.wait tid now rusage).Local c tid .body := by
  refine ⟨fun th t x v => if x.deleted ≠ 0 then ⟨x, some .exited, noCounts, 0, []⟩ else
    if now.after (rtapiAdvanceTime x.nextTime (cULong t.period) 0) then
      ⟨{ x with nextTime := rtapiAdvanceTime x.nextTime (cULong t.period) 0 }, none,
        addCounts (statsWrite c v rusage).1 (countAt th.slot ⟨0, 1⟩), 0,
        .sleep x.nextTime false :: (statsWrite c v rusage).2.2 ++
          if !c.posix && c.handler then [.deadlineMissed th.slot] else []⟩
    else ⟨{ x with nextTime := rtapiAdvanceTime x.nextTime (cULong t.period) 0 }, none,
      noCounts, 0, [.sleep x.nextTime false]⟩, fun _ _ x _ => ?_, fun s => ?_⟩
  · dsimp only; split_ifs <;> rfl
  refine Option.map_congr fun th _ => ?_
  unfold rtapiWaitHook
  by_cases hd : (s.extra th.slot).deleted = 0
  · simp only [hd, ne_eq, not_true_eq_false, if_false]
    split_ifs <;>
      simp only [rtapiTaskUpdateStatsHook_eq, rtapiTaskSelfHook_setExtra, Sys.workerResult,
        Sys.movePc, Sys.setStatus_waitErrors, Sys.addStatus_addStatus, Sys.addStatus_noCounts]
  · simp only [hd, ne_eq, not_false_eq_true, if_true, Sys.workerResult, Sys.movePc,
      Sys.setExtra_extra_eq_self, Sys.addStatus_noCounts]

end Local

/-- Every worker step is local. -/
theorem Op.local_of_worker {c : Config} {o : Op} {tid : Nat} {pc : Pc}
    (h : o.worker = some (tid, pc)) : o.Local c tid pc := by
  cases o <;> simp only [Op.worker, Option.some.injEq, Prod.mk.injEq, reduceCtorEq] at h <;>
    obtain ⟨rfl, rfl⟩ := h
  · exact Op.local_begin
  · exact Op.local_finish
  · exact Op.local_wait

/-! ## Steps of different workers commute -/

/-- `o₁` then `o₂`: what each does, and the state they reach. -/
def Op.runPair (c : Config) (s : Sys) (o₁ o₂ : Op) : Option (List Event × List Event × Sys) :=
  (o₁.run c s).bind fun r₁ => (o₂.run c r₁.sys).map fun r₂ => (r₁.events, r₂.events, r₂.sys)

section Commute

variable {c : Config} {s : Sys} {o o₁ o₂ : Op} {tid tid₁ tid₂ : Nat} {pc₁ pc₂ : Pc}

theorem Sys.Apart.symm (h : s.Apart tid₁ tid₂) : s.Apart tid₂ tid₁ :=
  fun b₁ h₁ b₂ h₂ e₁ e₂ => (h b₂ h₂ b₁ h₁ e₂ e₁).symm

/-- The threads found at `tid₁` and `tid₂` of a table where they are apart have different slots. -/
theorem Sys.Apart.slot_ne (h : s.Apart tid₁ tid₂) {th₁ th₂ : Thread}
    (ht₁ : s.threadAt tid₁ pc₁ = some th₁) (ht₂ : s.threadAt tid₂ pc₂ = some th₂) :
    th₁.slot ≠ th₂.slot := by
  obtain ⟨hm₁, rfl, -⟩ := Sys.threadAt_spec ht₁
  obtain ⟨hm₂, rfl, -⟩ := Sys.threadAt_spec ht₂
  exact h _ (List.mem_map_of_mem _ hm₁) _ (List.mem_map_of_mem _ hm₂) rfl rfl

/-- A step that keeps its slot's handle keeps what the self hook answers. -/
theorem rtapiTaskSelfHook_workerResult {th : Thread} {w : WorkerWrite} {self : Nat}
    (hw : w.extra.thread = (s.extra th.slot).thread) :
    rtapiTaskSelfHook c (s.workerResult th w).sys self = rtapiTaskSelfHook c s self := by
  rw [← @rtapiTaskSelfHook_setExtra c s self _ _ hw]
  exact rtapiTaskSelfHook_congr fun _ => by simp [Sys.workerResult]

/-- A local step keeps the threads' slots. -/
theorem Op.Local.bindings {pc : Pc} {r : Result} (h : o.Local c tid pc)
    (hr : o.run c s = some r) : r.sys.bindings = s.bindings := by
  obtain ⟨E, -, hE⟩ := h
  obtain ⟨th, -, rfl⟩ := Option.map_eq_some'.1 ((hE s).symm.trans hr)
  exact Sys.bindings_movePc

/-- **Two local steps of different threads bound to different slots commute**: in either order
each does the same, and they reach the same state. -/
theorem Op.Local.commute (h₁ : o₁.Local c tid₁ pc₁) (h₂ : o₂.Local c tid₂ pc₂)
    (htid : tid₁ ≠ tid₂) (hap : s.Apart tid₁ tid₂) :
    o₁.runPair c s o₂ = (o₂.runPair c s o₁).map fun p => (p.2.1, p.1, p.2.2) := by
  obtain ⟨E₁, hx₁, hE₁⟩ := h₁
  obtain ⟨E₂, hx₂, hE₂⟩ := h₂
  simp only [Op.runPair, hE₁, hE₂, Option.map_map]
  cases ht₁ : s.threadAt tid₁ pc₁ with
  | none =>
    cases ht₂ : s.threadAt tid₂ pc₂ with
    | none => rfl
    | some th₂ =>
      obtain ⟨-, rfl, -⟩ := Sys.threadAt_spec ht₂
      simp [Sys.workerResult, Sys.threadAt_movePc (Ne.symm htid), ht₁]
  | some th₁ =>
    cases ht₂ : s.threadAt tid₂ pc₂ with
    | none =>
      obtain ⟨-, rfl, -⟩ := Sys.threadAt_spec ht₁
      simp [Sys.workerResult, Sys.threadAt_movePc htid, ht₂]
    | some th₂ =>
      have hs := hap.slot_ne ht₁ ht₂
      obtain ⟨-, rfl, -⟩ := Sys.threadAt_spec ht₁
      obtain ⟨-, rfl, -⟩ := Sys.threadAt_spec ht₂
      simp only [Option.map_some', Option.some_bind, Function.comp, ht₁, ht₂,
        Sys.threadAt_workerResult htid, Sys.threadAt_workerResult (Ne.symm htid),
        Sys.task_workerResult, Sys.extra_workerResult_ne hs, Sys.extra_workerResult_ne (Ne.symm hs),
        rtapiTaskSelfHook_workerResult, hx₁, hx₂, Sys.workerResult_events,
        Sys.workerResult_comm htid hs]

end Commute

/-! ## Interleavings of two workers -/

section Interleave

variable {c : Config} {s : Sys} {o o₁ o₂ : Op} {tid tid₁ tid₂ : Nat}

theorem Op.allowed_of_worker {w : Nat × Pc} (h : o.worker = some w) : o.allowed c s = true := by
  cases o <;> first | rfl | cases h

theorem Op.worker_of_isStepOf (h : o.isStepOf tid = true) : ∃ pc, o.worker = some (tid, pc) := by
  simp only [Op.isStepOf, beq_iff_eq, Option.map_eq_some', Prod.exists] at h
  obtain ⟨_, pc, h, rfl⟩ := h
  exact ⟨pc, h⟩

theorem Op.isStepOf_ne (h : o.isStepOf tid₁ = true) (htid : tid₁ ≠ tid₂) :
    o.isStepOf tid₂ = false := by
  simp only [Op.isStepOf, beq_iff_eq] at h ⊢
  simp [h, htid]

/-- An operation as a step: refused when the environment does not allow it. -/
def Op.step (c : Config) (s : Sys) (o : Op) : Option (List Event × Sys) :=
  if o.allowed c s then (o.run c s).map fun r => (r.events, r.sys) else none

theorem runOps_eq_runSteps (ops : List Op) : runOps c s ops = runSteps (Op.step c) s ops := by
  induction ops generalizing s with
  | nil => rfl
  | cons o ops ih =>
    simp only [runOps, runSteps, Op.step, ih]
    split
    · cases o.run c s <;> rfl
    · rfl

theorem pairSteps_step {w₁ w₂ : Nat × Pc} (h₁ : o₁.worker = some w₁) (h₂ : o₂.worker = some w₂) :
    pairSteps (Op.step c) s o₁ o₂ = o₁.runPair c s o₂ := by
  simp only [pairSteps, Op.step, Op.allowed_of_worker h₁, Op.allowed_of_worker h₂, if_true,
    Op.runPair]
  cases o₁.run c s <;> simp [Option.bind_map, Option.map_map, Function.comp_def]

/-- Two workers bound to different slots are independent. -/
theorem workers_independent (htid : tid₁ ≠ tid₂) :
    Independent (Op.step c) (Op.isStepOf tid₁) (Op.isStepOf tid₂) fun s => s.Apart tid₁ tid₂ where
  keep hs ho hp := by
    obtain ⟨tid, ho⟩ : ∃ tid, Op.isStepOf tid _ = true := ho.elim (⟨tid₁, ·⟩) (⟨tid₂, ·⟩)
    obtain ⟨pc, hw⟩ := Op.worker_of_isStepOf ho
    simp only [Op.step, Op.allowed_of_worker hw, if_true, Option.map_eq_some'] at hp
    obtain ⟨r, hr, rfl⟩ := hp
    unfold Sys.Apart
    rw [(Op.local_of_worker hw).bindings hr]
    exact hs
  disjoint h := Op.isStepOf_ne h htid
  commute hs ha hb := by
    obtain ⟨pc₁, hw₁⟩ := Op.worker_of_isStepOf ha
    obtain ⟨pc₂, hw₂⟩ := Op.worker_of_isStepOf hb
    rw [pairSteps_step hw₂ hw₁, pairSteps_step hw₁ hw₂]
    exact (Op.local_of_worker hw₂).commute (Op.local_of_worker hw₁) (Ne.symm htid) hs.symm

/-- **Any interleaving of the steps of two workers bound to different slots ends as running all
the steps of the first worker, then all those of the second**: both runs are refused, or both reach
the same state, with the same statistics, and the same events, perhaps in another order. -/
theorem runOps_interleave_workers {ops : List Op} (htid : tid₁ ≠ tid₂)
    (hops : ∀ o ∈ ops, o.isStepOf tid₁ = true ∨ o.isStepOf tid₂ = true) (hap : s.Apart tid₁ tid₂) :
    SameOutcome (runOps c s ops)
      (runOps c s (ops.filter (Op.isStepOf tid₁) ++ ops.filter (Op.isStepOf tid₂))) := by
  rw [runOps_eq_runSteps, runOps_eq_runSteps]
  exact (workers_independent htid).interleave hap hops

end Interleave

/-- As `reusedHandleSys` in `Rtapi.Preempt.Self`, with a third task started with worker `8`:
worker `7` of task `2` counts its updates in the entry of the deleted task `1`, worker `8` in its
own. -/
def staleAndFreshSys : Sys :=
  stateAfter config64 [.clockSetPeriod 1000000, .taskNew 50 (-1) 0 (some 4096),
    .taskNew 50 (-1) 0 (some 8192), .taskNew 50 (-1) 0 (some 12288), .taskStart 1 1000000 (.ok 7),
    .taskDelete 1, .taskStart 2 1000000 (.ok 7), .taskStart 3 1000000 (.ok 8)]

example : rtapiTaskSelfHook config64 staleAndFreshSys 7 = 1 ∧
    rtapiTaskSelfHook config64 staleAndFreshSys 8 = 3 := by decide

/-- Workers `8` and `7` pass their barriers, then `7` and `8` wait and wake at 2.5 ms;
`getrusage` succeeds throughout. -/
def staleAndFreshSteps : List Op :=
  [.begin 8 ⟨0, 0⟩ none none, .begin 7 ⟨0, 0⟩ none none, .wait 7 ⟨0, 2500000⟩ none,
    .wait 8 ⟨0, 2500000⟩ none]

theorem runOps_interleave_workers_stale :
    staleAndFreshSys.Apart 7 8 ∧ (runOps config64 staleAndFreshSys staleAndFreshSteps).isSome ∧
      SameOutcome (runOps config64 staleAndFreshSys staleAndFreshSteps)
        (runOps config64 staleAndFreshSys [.begin 7 ⟨0, 0⟩ none none, .wait 7 ⟨0, 2500000⟩ none,
          .begin 8 ⟨0, 0⟩ none none, .wait 8 ⟨0, 2500000⟩ none]) :=
  ⟨by decide, by decide,
    @runOps_interleave_workers config64 _ 7 8 _ (by decide) (by decide) (by decide)⟩

end Rtapi.Preempt
