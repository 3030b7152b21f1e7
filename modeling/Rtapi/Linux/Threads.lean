import Rtapi.Workers
import Rtapi.Linux.Step

/-!
# Worker threads and `rtapi_task_delete`

`rtapi_task_delete` joins the slot's thread exactly when the slot's `deleted` flag is clear. The
flag is cleared by `rtapi_task_start` and set by delete itself and by the worker when its
initialisation fails or its task code returns. Read through `Sys.workers`, every step of
`linux_rtapi.c` is one of the changes of the worker protocol (`Rtapi.Workers`), so its invariant
holds in every reachable state (`threadsInv_of_reachable`):

* when the latest start since the slot's reservation created a worker and `deleted` is clear,
  that worker is unjoined, still running, and its handle is the stored one, and delete joins
  exactly it before it frees the stack (`rtapiTaskDelete_joins_worker`);
* a worker that set `deleted` itself is never joined: delete returns `0` and leaves it in the
  thread table (`rtapiTaskDelete_skips_failed_worker`).
-/

namespace Rtapi.Linux

/-- What the worker protocol reads of the state: the magic, the ghost record, `deleted` and
`thread` of each slot, and the unjoined threads. -/
def Sys.workers (s : Sys) : Workers :=
  ⟨fun i =>
    ⟨decide (s.Valid i), (s.spawn i).latest, (s.task i).deleted != 0, (s.task i).thread⟩,
    s.threads⟩

/-- `th` is the worker the handle stored in slot `i` names: unjoined, bound to the slot, running. -/
def Sys.RunningWorker (s : Sys) (i : Nat) (th : Thread) : Prop :=
  th ∈ s.threads ∧ th.tid = (s.task i).thread ∧ th.slot = i ∧ th.pc ≠ .exited

/-- The invariant of the unjoined threads: the protocol's, read through `Sys.workers`. -/
def ThreadsInv (s : Sys) : Prop := s.workers.Inv

variable {os : Os} {s : Sys} {now : Timespec} {e : WaitEnv} {i : Nat} {t : TaskData}

/-! ## The view of the state writes -/

theorem Sys.owes_iff {j : Nat} :
    (s.workers.slot j).Owes ↔
      s.Valid j ∧ (s.spawn j).latest = true ∧ (s.task j).deleted = 0 := by
  simp [Sys.workers, SlotView.Owes]

theorem Sys.workers_setTask_ne {j : Nat} (h : j ≠ i) :
    (s.setTask i t).workers.slot j = s.workers.slot j := by
  simp only [Sys.workers, Sys.Valid, Sys.setTask_task_ne h, Sys.setTask_spawn]

/-- Writing a slot without touching its magic and handle, with `deleted` kept or set, owes less. -/
theorem Sys.owesLess_setTask (hm : t.magic = (s.task i).magic) (ht : t.thread = (s.task i).thread)
    (hd : t.deleted = (s.task i).deleted ∨ t.deleted ≠ 0) :
    (s.setTask i t).workers.OwesLess s.workers :=
  Workers.OwesLess.of_slot (fun _ => Sys.workers_setTask_ne) fun hi => by
    simp only [Sys.owes_iff, Sys.Valid, Sys.setTask_task_self, Sys.setTask_spawn, hm] at hi ⊢
    refine ⟨⟨hi.1, hi.2.1, hd.elim (fun h => h.symm.trans hi.2.2) fun h => absurd hi.2.2 h⟩,
      ?_⟩
    simp only [Sys.workers, Sys.setTask_task_self, ht]

/-- Invalidating a slot owes less. -/
theorem Sys.owesLess_setTask_invalid (hm : t.magic ≠ taskMagic) :
    (s.setTask i t).workers.OwesLess s.workers :=
  Workers.OwesLess.of_slot (fun _ => Sys.workers_setTask_ne) fun hi =>
    absurd (Sys.owes_iff.1 hi).1 (by simpa [Sys.Valid] using hm)

/-- A slot whose latest start created no worker, written with any record, owes none. -/
theorem Sys.owesLess_setSpawn {g : Spawn} (hg : g.latest = false) :
    ((s.setTask i t).setSpawn i g).workers.OwesLess s.workers :=
  Workers.OwesLess.of_slot (i := i) (fun _ hj => by
      simp only [Sys.workers, Sys.Valid, Sys.setSpawn_task, Sys.setTask_task_ne hj,
        Sys.setSpawn_spawn_ne hj, Sys.setTask_spawn])
    fun hi => absurd (Sys.owes_iff.1 hi).2.1 (by simp [hg])

/-! ## Every step keeps the invariant -/

theorem threadsInv_init : ThreadsInv Sys.init :=
  ⟨List.nodup_nil, fun _ h =>
    absurd (Sys.owes_iff.1 h).1 (by simp [Sys.Valid, Sys.init, TaskData.zero, taskMagic])⟩

/-- A slot that owes a worker has its running worker. -/
theorem ThreadsInv.worker (h : ThreadsInv s) (hv : s.Valid i) (hl : (s.spawn i).latest = true)
    (hd : (s.task i).deleted = 0) : ∃ th, s.RunningWorker i th :=
  Workers.Inv.current h i (Sys.owes_iff.2 ⟨hv, hl, hd⟩)

theorem ThreadsInv.of_eq {s' : Sys} (h : ThreadsInv s) (ht : s'.task = s.task)
    (hth : s'.threads = s.threads) (hs : s'.spawn = s.spawn) : ThreadsInv s' := by
  have he : s'.workers = s.workers := by simp only [Sys.workers, Sys.Valid, ht, hth, hs]
  unfold ThreadsInv; rw [he]; exact h

theorem ThreadsInv.rtapiTaskNew (h : ThreadsInv s) {taskcode arg : Nat} {prio owner : Int}
    {stacksize : UInt64} {usesFp cpuId : Int} {stack : Option Nat} :
    ThreadsInv (rtapiTaskNew os s taskcode arg prio owner stacksize usesFp cpuId stack).sys := by
  rcases rtapiTaskNew_cases os s taskcode arg prio owner stacksize usesFp cpuId stack with
    ⟨-, hs⟩ | ⟨-, -, hs⟩ | ⟨-, -, -, -, t, -, hs⟩ <;> rw [hs]
  · exact h
  · exact Workers.Inv.of_owesLess h rfl (Sys.owesLess_setSpawn rfl)
  · rw [reserve, Sys.setSpawn_setTask, Sys.setTask_setTask]
    exact Workers.Inv.of_owesLess h rfl (Sys.owesLess_setSpawn rfl)

theorem ThreadsInv.rtapiTaskDelete (h : ThreadsInv s) {id : Int} (ha : joinOk s id = true) :
    ThreadsInv (rtapiTaskDelete s id).sys := by
  cases hc : checkTask s id with
  | none => rw [rtapiTaskDelete_of_none hc]; exact h
  | some i =>
    have ho := Sys.owesLess_setTask_invalid (s := s) (i := i)
      (t := { s.task i with deleted := 1, stackaddr := 0, magic := 0 }) (by simp [taskMagic])
    by_cases hd : (s.task i).deleted = 0
    · rw [rtapiTaskDelete_of_deleted_eq_zero hc hd]
      simp only [joinOk, hc, hd, bne_self_eq_false, Bool.false_or, List.all_eq_true, bne_iff_ne,
        Bool.or_eq_true, beq_iff_eq, ne_eq] at ha
      refine Workers.Inv.join h rfl ho fun th hth he => ?_
      rcases ha th hth with (h' | h') | h'
      · exact absurd he h'
      · exact .inl h'
      · refine .inr fun hi => ?_
        rw [h'] at hi
        simp [Sys.owes_iff, Sys.Valid, taskMagic] at hi
    · rw [rtapiTaskDelete_of_deleted_ne_zero hc hd]
      exact Workers.Inv.of_owesLess h rfl (Sys.owesLess_setTask_invalid (by simp [taskMagic]))

/-- A start that creates the worker `tid` for slot `i`, stored as the slot's handle, running unless
the slot's `deleted` is set. -/
theorem ThreadsInv.spawn (h : ThreadsInv s) {tid : Nat} {g : Spawn} {pc : Pc}
    (hfresh : ∀ th ∈ s.threads, th.tid ≠ tid) (ht : t.thread = tid)
    (hpc : t.deleted = 0 → pc ≠ .exited) :
    ThreadsInv { (s.setTask i t).setSpawn i g with threads := ⟨tid, i, pc⟩ :: s.threads } := by
  refine Workers.Inv.spawn h hfresh rfl ?_ (fun hi => hpc ?_) fun j hj => ?_
  · simp only [Sys.workers, Sys.setSpawn_task, Sys.setTask_task_self, ht]
  · simpa only [Sys.setSpawn_task, Sys.setTask_task_self] using (Sys.owes_iff.1 hi).2.2
  · simp only [Sys.workers, Sys.Valid, Sys.setSpawn_task, Sys.setTask_task_ne hj,
      Sys.setSpawn_spawn_ne hj, Sys.setTask_spawn]

theorem ThreadsInv.rtapiTaskStart (h : ThreadsInv s) {id : Int} {periodNsec : UInt64}
    {e : StartEnv} {r : Result}
    (ha : ∀ tid, e.created = some tid → ∀ th ∈ s.threads, th.tid ≠ tid)
    (hr : rtapiTaskStart s id periodNsec e = some r) : ThreadsInv r.sys := by
  cases hc : checkTask s id with
  | none => rw [rtapiTaskStart_of_none hc] at hr; cases hr; exact h
  | some i =>
    by_cases hp : cULong s.period = 0
    · rw [rtapiTaskStart_eq_none hc hp] at hr; cases hr
    cases hcr : e.created with
    | none =>
      rw [rtapiTaskStart_create_failed hc hp hcr] at hr; cases hr
      exact Workers.Inv.of_owesLess h rfl (Sys.owesLess_setSpawn rfl)
    | some tid =>
      obtain ⟨d, ds, evs, he, -⟩ := rtapiTaskStart_created periodNsec hc hp hcr
      rw [he] at hr; cases hr
      exact h.spawn (ha tid hcr) (by simp only [initTask_thread]) fun hd => by
        rw [show d = 0 from hd]; decide

theorem ThreadsInv.withTask (h : ThreadsInv s) {id ret : Int} {upd : TaskData → TaskData}
    (hb : ∀ t, (upd t).magic = t.magic ∧ (upd t).thread = t.thread ∧
      (upd t).deleted = t.deleted) :
    ThreadsInv (withTask s id ret upd).sys := by
  rw [withTask_sys]
  split
  · exact h
  · obtain ⟨h₁, h₂, h₃⟩ := hb (s.task _)
    exact Workers.Inv.of_owesLess h rfl (Sys.owesLess_setTask h₁ h₂ (.inl h₃))

theorem ThreadsInv.realtimeThreadBegin (h : ThreadsInv s) {th : Thread} (hth : th ∈ s.threads) :
    ThreadsInv (realtimeThreadBegin s th now) :=
  Workers.Inv.move h hth rfl (Sys.owesLess_setTask rfl rfl (.inl rfl)) fun hx =>
    absurd hx (by decide)

theorem ThreadsInv.realtimeThreadEnd (h : ThreadsInv s) {th : Thread} (hth : th ∈ s.threads) :
    ThreadsInv (realtimeThreadEnd s th).sys :=
  Workers.Inv.move h hth rfl (Sys.owesLess_setTask rfl rfl (.inr one_ne_zero)) fun _ hi =>
    absurd (Sys.owes_iff.1 hi).2.2 (by
      simp only [Linux.realtimeThreadEnd, Sys.setPc_task, Sys.setTask_task_self]; exact one_ne_zero)

theorem ThreadsInv.rtapiWait (h : ThreadsInv s) {th : Thread} (hth : th ∈ s.threads) :
    ThreadsInv (rtapiWait s th e).sys := by
  by_cases hd : (s.task th.slot).deleted = 0
  · rw [rtapiWait_sys_of_deleted_eq_zero hd]
    exact Workers.Inv.of_owesLess h rfl (Sys.owesLess_setTask rfl rfl (.inl rfl))
  · rw [rtapiWait_of_deleted hd]
    exact Workers.Inv.move h hth rfl (Workers.OwesLess.refl _) fun _ hi =>
      hd (Sys.owes_iff.1 hi).2.2

theorem ThreadsInv.frame (h : ThreadsInv s) {o : Op} {r : Result}
    (ho : o = .init ∨ (∃ id, o = .exit id) ∨ ∃ n, o = .clockSetPeriod n)
    (hr : o.run os s = some r) : ThreadsInv r.sys := by
  rcases ho with rfl | ⟨id, rfl⟩ | ⟨n, rfl⟩ <;> cases hr
  · obtain ⟨m, hm⟩ := rtapiInit_frame s; rw [hm]; exact h.of_eq rfl rfl rfl
  · obtain ⟨m, hm⟩ := rtapiExit_frame s id; rw [hm]; exact h.of_eq rfl rfl rfl
  · obtain ⟨p, hp⟩ := rtapiClockSetPeriod_frame os s n; rw [hp]; exact h.of_eq rfl rfl rfl

/-- **Every allowed step keeps the invariant.** -/
theorem ThreadsInv.step (h : ThreadsInv s) {o : Op} {r : Result} (ha : o.allowed s = true)
    (hr : o.run os s = some r) : ThreadsInv r.sys := by
  cases o with
  | init => exact h.frame (.inl rfl) hr
  | exit id => exact h.frame (.inr (.inl ⟨id, rfl⟩)) hr
  | clockSetPeriod n => exact h.frame (.inr (.inr ⟨n, rfl⟩)) hr
  | taskNew => cases hr; exact h.rtapiTaskNew
  | taskDelete id => cases hr; exact h.rtapiTaskDelete ha
  | taskStart id periodNsec e =>
    refine h.rtapiTaskStart (fun tid hc th hth he => ?_) hr
    simp only [Op.allowed, hc, List.all_eq_true, bne_iff_ne, ne_eq] at ha
    exact ha th hth he
  | taskStop id | taskPause id | taskResume id | taskSetPeriod id _ =>
    cases hr; exact h.withTask fun _ => ⟨rfl, rfl, rfl⟩
  | begin tid now =>
    obtain ⟨th, hth, rfl⟩ := Option.map_eq_some'.1 hr
    exact h.realtimeThreadBegin (Sys.threadAt_spec hth).1
  | finish tid =>
    obtain ⟨th, hth, rfl⟩ := Option.map_eq_some'.1 hr
    exact h.realtimeThreadEnd (Sys.threadAt_spec hth).1
  | wait tid e =>
    obtain ⟨th, hth, rfl⟩ := Option.map_eq_some'.1 hr
    exact h.rtapiWait (Sys.threadAt_spec hth).1

theorem threadsInv_of_reachable (h : Reachable os s) : ThreadsInv s :=
  Reachable.induction ThreadsInv threadsInv_init (fun _ _ _ hi ha hr => hi.step ha hr) h

/-! ## What `rtapi_task_delete` joins -/

/-- **`rtapi_task_delete` and the worker.** In a reachable state, on a valid slot whose latest
start created a worker and whose `deleted` is clear, delete joins exactly the slot's running
worker, then frees the stack, and no unjoined thread keeps the worker's identifier. On a slot whose
`deleted` is set, it returns `0` without joining and leaves the thread table as it was. -/
theorem rtapiTaskDelete_joins_worker {id : Int} {i : Nat} (h : Reachable os s)
    (hc : checkTask s id = some i) :
    ((s.spawn i).latest = true → (s.task i).deleted = 0 → ∃ th, s.RunningWorker i th ∧
      (rtapiTaskDelete s id).ret = 0 ∧
      (rtapiTaskDelete s id).events = [.join th.tid, .free (s.task i).stackaddr] ∧
      ∀ w ∈ (rtapiTaskDelete s id).sys.threads, w.tid ≠ th.tid) ∧
    ((s.task i).deleted ≠ 0 → (rtapiTaskDelete s id).ret = 0 ∧
      (rtapiTaskDelete s id).events = [.free (s.task i).stackaddr] ∧
      (rtapiTaskDelete s id).sys.threads = s.threads) := by
  refine ⟨fun hl hd => ?_, fun hd => ?_⟩
  · obtain ⟨th, h₁, h₂, h₃, h₄⟩ :=
      (threadsInv_of_reachable h).worker (checkTask_eq_some.1 hc).2.2 hl hd
    have hany : s.threads.any (·.tid == (s.task i).thread) = true :=
      List.any_eq_true.2 ⟨th, h₁, beq_iff_eq.2 h₂⟩
    rw [rtapiTaskDelete_of_deleted_eq_zero hc hd]
    refine ⟨th, ⟨h₁, h₂, h₃, h₄⟩, rfl, by simp only [hany, h₂, if_true]; rfl,
      fun w hw => ?_⟩
    simpa only [joinThread, List.mem_filter, decide_eq_true_eq, h₂] using (List.mem_filter.1 hw).2
  · rw [rtapiTaskDelete_of_deleted_ne_zero hc hd]; exact ⟨rfl, rfl, rfl⟩

/-- A worker whose initialisation fails (here `pthread_setaffinity_np`) sets `deleted` and ends.
`rtapi_task_delete` then returns `0` and frees the slot and the stack without joining it: the
ended thread stays unjoined, bound to a slot that is no longer valid. -/
theorem rtapiTaskDelete_skips_failed_worker :
    ∃ s, Reachable linuxOs s ∧ s.Valid 0 ∧ (s.spawn 0).latest = true ∧
      (rtapiTaskDelete s 0).ret = 0 ∧ (rtapiTaskDelete s 0).events = [.free 4096] ∧
      ¬(rtapiTaskDelete s 0).sys.Valid 0 ∧
      ∃ th ∈ (rtapiTaskDelete s 0).sys.threads, th.slot = 0 ∧ th.pc = .exited :=
  ⟨_, reachable_stateAfter linuxOs [.clockSetPeriod 1000000,
    .taskNew 0 0 50 0 0 0 (-1) (some 4096),
    .taskStart 0 1000000 { StartEnv.ok 1 with setAffinityOk := false }], by decide⟩

end Rtapi.Linux
