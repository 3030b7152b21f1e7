import Rtapi.Affinity
import Rtapi.Linux.Threads

/-!
# The lifecycle of a task slot

A slot is free when its magic is not `TASK_MAGIC`. A valid slot is configured until a start
creates a worker for it, then running, and draining once `destroyed` or `deleted` is set
(`Sys.lifecycle`). The results:

* only `rtapi_task_delete` of a slot frees it (`Op.valid_of_run`), so a task handle stays accepted
  by every task call through any run until it is deleted (`runOps_accepts_handle`);
* `rtapi_task_start` creates a worker on a slot in any state but free, and stores the new
  handle over the old one (`rtapiTaskStart_creates_worker`); when it returns `0` it has pinned
  the worker to one allowed CPU (`rtapiTaskStart_pins_worker`);
* a worker whose slot has `deleted` set ends at its next `rtapi_wait`;
* the invalid-priority exit of `rtapi_task_new` returns `-EINVAL` with the slot it reserved still
  valid (`rtapiTaskNew_invalid_prio_leaks_slot`);
* a task deleted before it starts gives its slot and stack back, and the next `rtapi_task_new`
  gets the same slot; the delete joins the slot's stale thread handle when `deleted` is clear
  (`rtapiTaskDelete_rtapiTaskNew`);
* every step moves each slot along one state machine, `SlotMove` (`Op.slotMove`): the table of
  the specification, with `rtapi_task_start` also taking a draining slot back to running
  (`Op.slotMove_restart`) and a running one to draining. No step takes a free slot to running or
  draining, or any slot back to configured (`SlotMove.of_free`, `SlotMove.to_configured`).
-/

namespace Rtapi.Linux

/-- The lifecycle state of slot `i`, from its fields and the ghost count of workers created since
its reservation. -/
def Sys.lifecycle (s : Sys) (i : Nat) : Lifecycle :=
  if s.Valid i then
    if (s.spawn i).count = 0 then .configured
    else if (s.task i).destroyed = 0 ∧ (s.task i).deleted = 0 then .running else .draining
  else .free

variable {os : Os} {s : Sys}

theorem Sys.lifecycle_eq_free {i : Nat} : s.lifecycle i = .free ↔ ¬s.Valid i := by
  unfold Sys.lifecycle; split_ifs <;> simp_all

/-- A valid slot that had a worker is running or draining. -/
theorem Sys.lifecycle_of_spawned {i : Nat} (hv : s.Valid i) (hc : (s.spawn i).count ≠ 0) :
    s.lifecycle i = .running ∨ s.lifecycle i = .draining := by
  unfold Sys.lifecycle; rw [if_pos hv, if_neg hc]; split_ifs <;> simp

/-! ## Which calls free a slot -/

/-- **Only `rtapi_task_delete` frees a slot.** After a step, a slot valid before is valid still,
unless the step is `rtapi_task_delete` of that slot. -/
theorem Op.valid_of_run {o : Op} {r : Result} (hr : o.run os s = some r) {j : Nat}
    (hv : s.Valid j) : r.sys.Valid j ∨
      ∃ id, o = .taskDelete id ∧ checkTask s id = some j := by
  have keep : (r.sys.task j).magic = (s.task j).magic → r.sys.Valid j := fun h => h.trans hv
  cases o with
  | init => cases hr; obtain ⟨m, hm⟩ := rtapiInit_frame s; rw [hm]; exact .inl hv
  | exit id => cases hr; obtain ⟨m, hm⟩ := rtapiExit_frame s id; rw [hm]; exact .inl hv
  | clockSetPeriod n =>
    cases hr; obtain ⟨p, hp⟩ := rtapiClockSetPeriod_frame os s n; rw [hp]; exact .inl hv
  | taskNew => cases hr; exact .inl (rtapiTaskNew_valid_iff.2 (.inl hv))
  | taskDelete id =>
    cases hr
    cases hc : checkTask s id with
    | none => rw [rtapiTaskDelete_of_none hc]; exact .inl hv
    | some i =>
      by_cases hji : j = i
      · exact .inr ⟨id, rfl, hji ▸ hc⟩
      · exact .inl (keep (by rw [rtapiTaskDelete_task_ne hc hji]))
  | taskStart id p e => exact .inl (keep (rtapiTaskStart_magic hr j))
  | taskStop id | taskPause id | taskResume id | taskSetPeriod id _ =>
    cases hr; exact .inl (keep (withTask_proj TaskData.magic (fun _ => by dsimp only) j))
  | begin tid _ | finish tid =>
    obtain ⟨th, -, rfl⟩ := Option.map_eq_some'.1 hr
    exact .inl (keep (Sys.setTask_proj TaskData.magic (by dsimp only) j))
  | wait tid e =>
    obtain ⟨th, -, rfl⟩ := Option.map_eq_some'.1 hr
    exact .inl (keep (rtapiWait_proj TaskData.magic (fun _ _ => rfl) j))

/-- A step other than `rtapi_task_delete(id)` keeps a valid handle `id` valid. -/
theorem Op.checkTask_of_run {o : Op} {r : Result} (hr : o.run os s = some r) {id : Int} {i : Nat}
    (hc : checkTask s id = some i) (hne : o ≠ .taskDelete id) : checkTask r.sys id = some i := by
  obtain ⟨rfl, hi, hv⟩ := checkTask_eq_some.1 hc
  refine checkTask_eq_some.2 ⟨rfl, hi, (Op.valid_of_run hr hv).resolve_right ?_⟩
  rintro ⟨id', rfl, hc'⟩
  exact hne (by rw [(checkTask_eq_some.1 hc').1])

/-- **A task handle stays accepted until it is deleted.** After any sequence of operations that
runs and holds no `rtapi_task_delete` of it, a handle valid before is valid still: the handle check
of every task call accepts it, `rtapi_task_stop`, `rtapi_task_set_period` and
`rtapi_task_delete` return `0`, and `rtapi_task_pause` and `rtapi_task_resume` return `-ENOSYS`. -/
theorem runOps_accepts_handle {ops : List Op} {p : List Event × Sys}
    (h : runOps os s ops = some p) {id : Int} {i : Nat} (hc : checkTask s id = some i)
    (hno : Op.taskDelete id ∉ ops) :
    checkTask p.2 id = some i ∧ (rtapiTaskStop p.2 id).ret = 0 ∧
      (∀ periodNsec, (rtapiTaskSetPeriod p.2 id periodNsec).ret = 0) ∧
      (rtapiTaskPause p.2 id).ret = -enosys ∧ (rtapiTaskResume p.2 id).ret = -enosys ∧
      (rtapiTaskDelete p.2 id).ret = 0 := by
  have hc' : checkTask p.2 id = some i := by
    induction ops generalizing s p with
    | nil => cases h; exact hc
    | cons o ops ih =>
      obtain ⟨-, r, hr, p', hp, rfl⟩ := runOps_cons_eq_some.1 h
      exact ih (p := p') hp (Op.checkTask_of_run hr hc fun ho => hno (ho ▸ List.mem_cons_self _ _))
        fun hm => hno (List.mem_cons_of_mem _ hm)
  have hw : ∀ ret upd, (withTask p.2 id ret upd).ret = ret := fun _ _ => by
    rw [withTask_of_some hc']
  refine ⟨hc', hw _ _, fun _ => hw _ _, hw _ _, hw _ _, ?_⟩
  by_cases hd : (p.2.task i).deleted = 0
  · rw [rtapiTaskDelete_of_deleted_eq_zero hc' hd]
  · rw [rtapiTaskDelete_of_deleted_ne_zero hc' hd]

/-- The started task `0` of `startedOps` is stopped, its worker enters its task code and waits
once: the handle is still accepted. -/
theorem runOps_accepts_handle_started :
    ∃ p, runOps linuxOs (stateAfter linuxOs startedOps)
        [.taskStop 0, .begin 1 ⟨0, 0⟩, .wait 1 ⟨⟨0, 2000000⟩, 0, 0⟩] = some p ∧
      checkTask p.2 0 = some 0 ∧ (rtapiTaskStop p.2 0).ret = 0 ∧
      (∀ periodNsec, (rtapiTaskSetPeriod p.2 0 periodNsec).ret = 0) ∧
      (rtapiTaskPause p.2 0).ret = -enosys ∧ (rtapiTaskResume p.2 0).ret = -enosys ∧
      (rtapiTaskDelete p.2 0).ret = 0 :=
  let ⟨p, hp⟩ := Option.isSome_iff_exists.1 (by decide : (runOps linuxOs
    (stateAfter linuxOs startedOps)
      [.taskStop 0, .begin 1 ⟨0, 0⟩, .wait 1 ⟨⟨0, 2000000⟩, 0, 0⟩]).isSome)
  ⟨p, hp, runOps_accepts_handle hp (by decide) (by simp)⟩

/-! ## Starting a slot in any state -/

/-- **A start that returns `0` pins its worker to one allowed CPU**: the CPU `rtapi_task_new` stored
for the task when it is `0` or more, the highest CPU the worker may run on when it is negative.
The pin is the only effect the start has outside the tables. -/
theorem rtapiTaskStart_pins_worker {id : Int} {i : Nat} {periodNsec : UInt64} {e : StartEnv}
    {r : Result} (hc : checkTask s id = some i) (hr : rtapiTaskStart s id periodNsec e = some r)
    (h0 : r.ret = 0) :
    ∃ c ∈ cpuSet e.allowed, r.events = [.setAffinity c] ∧
      (0 ≤ (s.task i).cpu → c = (s.task i).cpu.toNat) ∧
      ∀ hS : (cpuSet e.allowed).Nonempty, (s.task i).cpu < 0 → c = (cpuSet e.allowed).max' hS := by
  rw [rtapiTaskStart, hc] at hr
  dsimp only at hr
  split_ifs at hr
  split at hr
  · cases hr; simp [enomem] at h0
  · obtain ⟨⟨t', evs⟩, hi, rfl⟩ := Option.map_eq_some'.1 hr
    have hd : t'.deleted = 0 := by by_contra hd; simp [hd, enomem] at h0
    obtain ⟨ha, rfl⟩ := realtimeThreadInit_passed hi hd
    simp only [hd, if_true, List.append_nil]
    exact realtimeSetAffinity_eq_zero ha

theorem rtapiTaskStart_pins_worker_default :
    ∃ r c, rtapiTaskStart (stateAfter linuxOs (startedOps.take 2)) 0 1000000 (.ok 1) = some r ∧
      c ∈ cpuSet (StartEnv.ok 1).allowed ∧ r.events = [.setAffinity c] :=
  let ⟨r, hr⟩ := Option.isSome_iff_exists.1
    (by decide : (rtapiTaskStart (stateAfter linuxOs (startedOps.take 2)) 0 1000000 (.ok 1)).isSome)
  have h0 : r.ret = 0 := by
    have := (by decide : (rtapiTaskStart (stateAfter linuxOs (startedOps.take 2)) 0 1000000
      (.ok 1)).map (·.ret) = some 0)
    rw [hr] at this; exact Option.some.inj this
  let ⟨c, hc, he, _⟩ := rtapiTaskStart_pins_worker (i := 0) (by decide) hr h0
  ⟨r, c, hr, hc, he⟩

/-! ## Every call on a valid slot -/

/-- With the Linux priorities `1` to `99`, `rtapi_task_new` with priority `0` on a fresh table fails
with `-EINVAL`, yet slot `0` stays valid: `rtapi_task_stop(0)` succeeds on it, and the next
successful `rtapi_task_new` gets slot `1`. -/
theorem rtapiTaskNew_invalid_prio_leaks_slot :
    (rtapiTaskNew linuxOs Sys.init 0 0 0 0 0 0 (-1) (some 4096)).ret = -einval ∧
    (rtapiTaskNew linuxOs Sys.init 0 0 0 0 0 0 (-1) (some 4096)).sys.Valid 0 ∧
    (rtapiTaskStop (rtapiTaskNew linuxOs Sys.init 0 0 0 0 0 0 (-1) (some 4096)).sys 0).ret = 0 ∧
    (rtapiTaskNew linuxOs (rtapiTaskNew linuxOs Sys.init 0 0 0 0 0 0 (-1) (some 4096)).sys
      0 0 50 0 0 0 (-1) (some 8192)).ret = 1 := by
  decide

/-! ## A task deleted before it starts -/

section NewDelete

variable {taskcode arg : Nat} {prio owner : Int} {stacksize : UInt64} {usesFp cpuId : Int}

/-- **A task deleted before it starts gives its slot back.** On a table with a free slot, a
request with a valid priority whose `malloc` returns `a` gets the first free slot `n`. Then
`rtapi_task_delete(n)` returns `0` and frees `a`; the slots valid afterwards are those valid
before, so the next `rtapi_task_new` with the same arguments gets `n` again. The delete calls
`pthread_join` on the handle the slot last stored (`0` in a slot never used) exactly when the
slot's `deleted` was clear, which `rtapi_task_new` leaves as it finds it. -/
theorem rtapiTaskDelete_rtapiTaskNew {a : Nat} (hn : newSlot s < maxTasks)
    (hp₀ : os.prioLowest ≤ prio) (hp₁ : prio ≤ os.prioHighest) :
    let r := rtapiTaskNew os s taskcode arg prio owner stacksize usesFp cpuId (some a)
    let d := rtapiTaskDelete r.sys (newSlot s)
    r.ret = newSlot s ∧ d.ret = 0 ∧ (∀ j, d.sys.Valid j ↔ s.Valid j) ∧
    (∀ a', (rtapiTaskNew os d.sys taskcode arg prio owner stacksize usesFp cpuId (some a')).ret =
      newSlot s) ∧
    Event.free a ∈ d.events ∧
    (Event.join (s.task (newSlot s)).thread ∈ d.events ↔ (s.task (newSlot s)).deleted = 0) := by
  intro r d
  have hr : r = _ := @rtapiTaskNew_of_prio os s taskcode arg prio owner stacksize usesFp cpuId a
    hn hp₀ hp₁
  have ht : (r.sys.task (newSlot s)).magic = taskMagic ∧
      (r.sys.task (newSlot s)).deleted = (s.task (newSlot s)).deleted ∧
      (r.sys.task (newSlot s)).thread = (s.task (newSlot s)).thread ∧
      (r.sys.task (newSlot s)).stackaddr = a := by
    rw [hr]; simp
  have hc : checkTask r.sys (newSlot s) = some (newSlot s) := checkTask_eq_some.2 ⟨rfl, hn, ht.1⟩
  -- the delete frees the one slot the new task took, which was free before
  have hvalid : ∀ j, d.sys.Valid j ↔ s.Valid j := fun j => by
    rw [rtapiTaskDelete_valid_iff hc, rtapiTaskNew_valid_iff]
    have := not_valid_newSlot hn
    constructor
    · rintro ⟨h | ⟨rfl, -⟩, hj⟩
      · exact h
      · exact absurd rfl hj
    · intro h; exact ⟨.inl h, fun hj => this (hj ▸ h)⟩
  have hdel : d.ret = 0 ∧ Event.free a ∈ d.events ∧
      (Event.join (s.task (newSlot s)).thread ∈ d.events ↔ (s.task (newSlot s)).deleted = 0) := by
    by_cases hd : (s.task (newSlot s)).deleted = 0
    · simp [d, rtapiTaskDelete_of_deleted_eq_zero hc (ht.2.1.trans hd), ht, hd]
    · simp [d, rtapiTaskDelete_of_deleted_ne_zero hc (ht.2.1.trans_ne hd), ht, hd]
  refine ⟨by rw [hr], hdel.1, hvalid, fun a' => ?_, hdel.2⟩
  rw [← newSlot_congr hvalid] at hn ⊢
  rw [rtapiTaskNew_of_prio hn hp₀ hp₁]

/-- At load time: slot `0`, whose delete joins the handle `0` it never stored a thread in. -/
theorem rtapiTaskDelete_rtapiTaskNew_init :
    let r := rtapiTaskNew linuxOs Sys.init 0 0 50 0 0 0 (-1) (some 4096)
    let d := rtapiTaskDelete r.sys (newSlot Sys.init)
    r.ret = newSlot Sys.init ∧ d.ret = 0 ∧ (∀ j, d.sys.Valid j ↔ Sys.init.Valid j) ∧
    (∀ a', (rtapiTaskNew linuxOs d.sys 0 0 50 0 0 0 (-1) (some a')).ret = newSlot Sys.init) ∧
    Event.free 4096 ∈ d.events ∧
    (Event.join (Sys.init.task (newSlot Sys.init)).thread ∈ d.events ↔
      (Sys.init.task (newSlot Sys.init)).deleted = 0) :=
  rtapiTaskDelete_rtapiTaskNew (by decide) (by decide) (by decide)

example : newSlot Sys.init = 0 ∧ (Sys.init.task 0).thread = 0 ∧ (Sys.init.task 0).deleted = 0 := by
  decide

end NewDelete

/-! ## Every move of a slot's lifecycle -/

/-- The moves of the lifecycle of slot `j` that the step `o` from `s` may make: the state machine
of the specification, with the moves of `rtapi_task_start` the code adds. -/
inductive SlotMove (s : Sys) (j : Nat) : Op → Lifecycle → Lifecycle → Prop
  /-- The slot keeps its state. -/
  | stay (o : Op) (l : Lifecycle) : SlotMove s j o l l
  /-- `rtapi_task_new` reserves the first free slot. -/
  | create {taskcode arg : Nat} {prio owner : Int} {stacksize : UInt64} {usesFp cpuId : Int}
      {a : Nat} : j = newSlot s →
      SlotMove s j (.taskNew taskcode arg prio owner stacksize usesFp cpuId (some a)) .free
        .configured
  /-- `rtapi_task_delete` of the slot frees it. -/
  | delete {id : Int} {l : Lifecycle} :
      checkTask s id = some j → SlotMove s j (.taskDelete id) l .free
  /-- `rtapi_task_start` of the slot leaves it running or draining. -/
  | start {id : Int} {periodNsec : UInt64} {e : StartEnv} {l l' : Lifecycle} :
      checkTask s id = some j → l ≠ .free → (l' = .running ∨ l' = .draining) →
      SlotMove s j (.taskStart id periodNsec e) l l'
  /-- `rtapi_task_stop` of a running slot. -/
  | stop {id : Int} : checkTask s id = some j → SlotMove s j (.taskStop id) .running .draining
  /-- The task code of the slot's worker returns. -/
  | finish {tid : Nat} {th : Thread} : s.threadAt tid .body = some th → th.slot = j →
      SlotMove s j (.finish tid) .running .draining

/-- The fields of a slot its lifecycle reads. -/
def lifeFields (t : TaskData) : Int × Int × Int := (t.magic, t.destroyed, t.deleted)

theorem Sys.lifecycle_congr {s' : Sys} {j : Nat}
    (h : lifeFields (s'.task j) = lifeFields (s.task j))
    (hc : (s'.spawn j).count = (s.spawn j).count) : s'.lifecycle j = s.lifecycle j := by
  simp only [lifeFields, Prod.mk.injEq] at h
  simp only [Sys.lifecycle, Sys.Valid, h, hc]

section Moves

variable {j : Nat}

/-- A valid slot that no worker has been created for since its reservation is configured. -/
theorem Sys.lifecycle_of_count_eq_zero (hv : s.Valid j) (h : (s.spawn j).count = 0) :
    s.lifecycle j = .configured := by
  simp [Sys.lifecycle, hv, h]

/-- A step that keeps the fields and the worker count of slot `j` keeps its lifecycle. -/
theorem SlotMove.of_congr {o : Op} {s' : Sys} (h : lifeFields (s'.task j) = lifeFields (s.task j))
    (hc : (s'.spawn j).count = (s.spawn j).count) :
    SlotMove s j o (s.lifecycle j) (s'.lifecycle j) :=
  Sys.lifecycle_congr h hc ▸ .stay _ _

/-- A step that raises `destroyed` or `deleted` of slot `j` and keeps its magic and worker count
takes it from running to draining, and keeps any other state. -/
theorem SlotMove.of_raise {o : Op} {s' : Sys} (hm : (s'.task j).magic = (s.task j).magic)
    (hc : (s'.spawn j).count = (s.spawn j).count)
    (hf : (s'.task j).destroyed ≠ 0 ∨ (s'.task j).deleted ≠ 0)
    (hrun : s.lifecycle j = .running → SlotMove s j o .running .draining) :
    SlotMove s j o (s.lifecycle j) (s'.lifecycle j) := by
  have key : s'.lifecycle j = if s.lifecycle j = .running then .draining else s.lifecycle j := by
    simp only [Sys.lifecycle, Sys.Valid, hm, hc]
    split_ifs <;> simp_all
  rw [key]
  split_ifs with h
  · rw [h]; exact hrun h
  · exact .stay _ _

theorem slotMove_rtapiTaskNew {taskcode arg : Nat} {prio owner : Int} {stacksize : UInt64}
    {usesFp cpuId : Int} {stack : Option Nat} :
    SlotMove s j (.taskNew taskcode arg prio owner stacksize usesFp cpuId stack) (s.lifecycle j)
      ((rtapiTaskNew os s taskcode arg prio owner stacksize usesFp cpuId stack).sys.lifecycle
        j) := by
  cases stack with
  | none => exact .stay _ _
  | some a =>
    rcases rtapiTaskNew_cases os s taskcode arg prio owner stacksize usesFp cpuId (some a) with
      ⟨-, hs⟩ | ⟨-, hlt, hs⟩ | ⟨-, hlt, -, -, t, ht, hs⟩ <;> rw [hs]
    · exact .stay _ _
    · by_cases hj : j = newSlot s
      · subst hj
        rw [Sys.lifecycle_eq_free.2 (not_valid_newSlot hlt)]
        have : (reserve s (newSlot s)).lifecycle (newSlot s) = .configured := by
          simp [Sys.lifecycle, Sys.Valid]
        exact this ▸ .create rfl
      · exact .of_congr (by simp [lifeFields, reserve_task_ne hj]) (by rw [reserve_spawn_ne hj])
    · by_cases hj : j = newSlot s
      · subst hj
        rw [Sys.lifecycle_eq_free.2 (not_valid_newSlot hlt)]
        have : ((reserve s (newSlot s)).setTask (newSlot s) t).lifecycle (newSlot s) =
            .configured := by
          simp [Sys.lifecycle, Sys.Valid, ht]
        exact this ▸ .create rfl
      · exact .of_congr (by simp [lifeFields, Sys.setTask_task_ne hj, reserve_task_ne hj])
          (by rw [Sys.setTask_spawn, reserve_spawn_ne hj])

theorem slotMove_rtapiTaskDelete {id : Int} :
    SlotMove s j (.taskDelete id) (s.lifecycle j) ((rtapiTaskDelete s id).sys.lifecycle j) := by
  cases hc : checkTask s id with
  | none => rw [rtapiTaskDelete_of_none hc]; exact .stay _ _
  | some i =>
    by_cases hj : j = i
    · subst hj
      rw [Sys.lifecycle_eq_free.2 fun h => ((rtapiTaskDelete_valid_iff hc).1 h).2 rfl]
      exact .delete hc
    · have hs : (rtapiTaskDelete s id).sys.spawn = s.spawn := by
        by_cases hd : (s.task i).deleted = 0
        · rw [rtapiTaskDelete_of_deleted_eq_zero hc hd]; rfl
        · rw [rtapiTaskDelete_of_deleted_ne_zero hc hd]; rfl
      exact .of_congr (by rw [rtapiTaskDelete_task_ne hc hj]) (by rw [hs])

theorem slotMove_rtapiTaskStart {id : Int} {periodNsec : UInt64} {e : StartEnv} {r : Result}
    (hr : rtapiTaskStart s id periodNsec e = some r) :
    SlotMove s j (.taskStart id periodNsec e) (s.lifecycle j) (r.sys.lifecycle j) := by
  cases hc : checkTask s id with
  | none => rw [rtapiTaskStart_of_none hc] at hr; cases hr; exact .stay _ _
  | some i =>
    have hv := (checkTask_eq_some.1 hc).2.2
    have hfree : s.lifecycle i ≠ .free := fun h => Sys.lifecycle_eq_free.1 h hv
    by_cases hp : cULong s.period = 0
    · rw [rtapiTaskStart_eq_none hc hp] at hr; cases hr
    -- a slot other than the started one keeps its fields and its count
    have other : ∀ {t g ths}, j ≠ i → SlotMove s j (.taskStart id periodNsec e) (s.lifecycle j)
        (({ (s.setTask i t).setSpawn i g with threads := ths } : Sys).lifecycle j) := fun hj =>
      .of_congr (by simp only [lifeFields, Sys.setSpawn_task, Sys.setTask_task_ne hj])
        (by rw [Sys.setSpawn_spawn_ne hj, Sys.setTask_spawn])
    cases hcr : e.created with
    | none =>
      rw [rtapiTaskStart_create_failed hc hp hcr] at hr; cases hr
      by_cases hj : j = i
      · subst hj
        have hv' : ((s.setTask j (startTask s j periodNsec)).setSpawn j
            { s.spawn j with latest := false }).Valid j := by
          simpa only [Sys.Valid, Sys.setSpawn_task, Sys.setTask_task_self, startTask_magic]
        by_cases h0 : (s.spawn j).count = 0
        · rw [Sys.lifecycle_of_count_eq_zero hv h0, Sys.lifecycle_of_count_eq_zero hv' (by simpa)]
          exact .stay _ _
        · exact .start hc hfree (Sys.lifecycle_of_spawned hv' (by simpa using h0))
      · exact other hj
    | some tid =>
      obtain ⟨d, ds, evs, he, -⟩ := rtapiTaskStart_created periodNsec hc hp hcr
      rw [he] at hr; cases hr
      by_cases hj : j = i
      · subst hj
        refine .start hc hfree (Sys.lifecycle_of_spawned ?_
          (by simp only [Sys.setSpawn_spawn_self]; omega))
        simpa only [Sys.Valid, Sys.setSpawn_task, Sys.setTask_task_self, initTask_magic,
          startTask_magic]
      · exact other hj

theorem slotMove_rtapiTaskStop {id : Int} :
    SlotMove s j (.taskStop id) (s.lifecycle j) ((rtapiTaskStop s id).sys.lifecycle j) := by
  cases hc : checkTask s id with
  | none => rw [rtapiTaskStop, withTask_of_none hc]; exact .stay _ _
  | some i =>
    rw [rtapiTaskStop, withTask_of_some hc]
    by_cases hj : j = i
    · subst hj
      exact .of_raise (by simp) rfl (.inl (by simp)) fun _ => .stop hc
    · exact .of_congr (by simp only [lifeFields, Sys.setTask_task_ne hj]) rfl

theorem slotMove_realtimeThreadEnd {tid : Nat} {th : Thread}
    (hth : s.threadAt tid .body = some th) :
    SlotMove s j (.finish tid) (s.lifecycle j) ((realtimeThreadEnd s th).sys.lifecycle j) := by
  by_cases hj : j = th.slot
  · subst hj
    exact .of_raise (by simp [realtimeThreadEnd]) rfl (.inr (by simp [realtimeThreadEnd]))
      fun _ => .finish hth rfl
  · exact .of_congr (by simp only [lifeFields, realtimeThreadEnd, Sys.setPc_task,
      Sys.setTask_task_ne hj]) rfl

/-- No move takes a free slot to running or draining. -/
theorem SlotMove.of_free {o : Op} {l : Lifecycle} (h : SlotMove s j o .free l) :
    l = .free ∨ l = .configured := by
  cases h with
  | stay => exact .inl rfl
  | create => exact .inr rfl
  | delete => exact .inl rfl
  | start _ hl _ => exact absurd rfl hl

/-- No move takes a slot back to configured: a configured slot was configured or free. -/
theorem SlotMove.to_configured {o : Op} {l : Lifecycle} (h : SlotMove s j o l .configured) :
    l = .configured ∨ l = .free := by
  cases h with
  | stay => exact .inl rfl
  | create => exact .inr rfl
  | start _ _ hl => simp at hl

end Moves

/-- **Every step moves each slot along the lifecycle's state machine.** Whatever the step and
the state, the lifecycle of each slot stays, or `rtapi_task_new` takes the first free slot to
configured, or `rtapi_task_delete` of the slot frees it, or `rtapi_task_start` of a slot that is
not free leaves it running or draining, or `rtapi_task_stop` of a running slot or the end of its
worker's task code makes it draining. -/
theorem Op.slotMove {o : Op} {r : Result} (hr : o.run os s = some r) (j : Nat) :
    SlotMove s j o (s.lifecycle j) (r.sys.lifecycle j) := by
  cases o with
  | init => cases hr; obtain ⟨m, hm⟩ := rtapiInit_frame s; exact .of_congr (by rw [hm]) (by rw [hm])
  | exit id =>
    cases hr; obtain ⟨m, hm⟩ := rtapiExit_frame s id; exact .of_congr (by rw [hm]) (by rw [hm])
  | clockSetPeriod n =>
    cases hr; obtain ⟨p, hp⟩ := rtapiClockSetPeriod_frame os s n
    exact .of_congr (by rw [hp]) (by rw [hp])
  | taskNew => cases hr; exact slotMove_rtapiTaskNew
  | taskDelete id => cases hr; exact slotMove_rtapiTaskDelete
  | taskStart id p e => exact slotMove_rtapiTaskStart hr
  | taskStop id => cases hr; exact slotMove_rtapiTaskStop
  | taskPause id | taskResume id | taskSetPeriod id _ =>
    cases hr
    refine .of_congr (withTask_proj lifeFields (fun _ => by dsimp only [lifeFields]) j) ?_
    simp only [rtapiTaskPause, rtapiTaskResume, rtapiTaskSetPeriod, withTask_sys]
    split <;> rfl
  | begin tid now =>
    obtain ⟨th, -, rfl⟩ := Option.map_eq_some'.1 hr
    refine .of_congr ?_ rfl
    simp only [realtimeThreadBegin, Sys.setPc_task]
    exact Sys.setTask_proj lifeFields (by rfl) j
  | finish tid =>
    obtain ⟨th, hth, rfl⟩ := Option.map_eq_some'.1 hr
    exact slotMove_realtimeThreadEnd hth
  | wait tid e =>
    obtain ⟨th, -, rfl⟩ := Option.map_eq_some'.1 hr
    refine .of_congr (rtapiWait_proj lifeFields (fun _ _ => rfl) j) ?_
    by_cases hd : (s.task th.slot).deleted = 0
    · rw [rtapiWait_sys_of_deleted_eq_zero hd]; rfl
    · rw [rtapiWait_of_deleted hd]; rfl


/-- The state after the worker of `startedOps` has entered its task code and returned from it. -/
def finishedSys : Sys := stateAfter linuxOs (startedOps ++ [.begin 1 ⟨0, 0⟩, .finish 1])

/-- A start after the worker's task code returned takes the draining slot back to running, a move
the specification's table does not have. -/
theorem Op.slotMove_restart :
    ∃ r, (Op.taskStart 0 1000000 (.ok 2)).run linuxOs finishedSys = some r ∧
      finishedSys.lifecycle 0 = .draining ∧ r.sys.lifecycle 0 = .running ∧
      SlotMove finishedSys 0 (.taskStart 0 1000000 (.ok 2)) (finishedSys.lifecycle 0)
        (r.sys.lifecycle 0) :=
  ⟨_, rfl, by decide, by decide, @Op.slotMove linuxOs _ _ _ (by rfl) 0⟩

end Rtapi.Linux
