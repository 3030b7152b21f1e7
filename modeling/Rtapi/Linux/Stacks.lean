import Rtapi.Linux.Step

/-!
# The task stacks in `linux_rtapi.c`

`rtapi_task_new` takes a stack from `malloc` and either stores it in the slot it returns or frees
it again (no free slot, or an invalid priority); `rtapi_task_delete` frees the stack its slot
records and stores `NULL` there. What the task table says about stacks is a table of pairs
(valid, stack) (`Sys.stackView`), and the invariant it keeps is `StacksOk`: a free slot records
`NULL`, tasks sit below `MAX_TASKS`, and no two tasks record the same block. A call leaves that
table alone, gives the first free slot a block or `NULL`, or releases one slot, and each of these
changes keeps the invariant (`StacksOk.take`, `StacksOk.release`) when `malloc` returns a block
that is not `NULL` and that no task records (`Op.mallocFresh`). So the invariant holds in every
state reached that way (`stacksOk_of_freshReachable`), and every `free` the API makes of a block
other than `NULL` frees the block `malloc` returned to the same call or the stack of the one
slot it releases, after which no task records it; and a block `malloc` returned is freed by the
same call or recorded by a task (`Op.frees_stacks`). A block is therefore never freed twice
without `malloc` returning it again in between, and no stack is lost.
-/

namespace Rtapi.Linux

/-- What the task table says about stacks: whether slot `j` holds a task, and the stack it
records. -/
def Sys.stackView (s : Sys) (j : Nat) : Bool × Nat := (decide (s.Valid j), (s.task j).stackaddr)

/-- The block `malloc` returns to an operation: the stack `rtapi_task_new` allocates. -/
def Op.malloc : Op → Option Nat
  | .taskNew _ _ _ _ _ _ _ stack => stack
  | _ => none

/-- `malloc` returns a block that is not `NULL` and that no task records as its stack. -/
def Op.mallocFresh (s : Sys) (o : Op) : Bool :=
  match o.malloc with
  | none => true
  | some a => a != 0 && (List.range maxTasks).all fun j =>
      !decide (s.Valid j) || (s.task j).stackaddr != a

/-! ## The invariant of the table -/

/-- **Stack ownership**: a free slot records `NULL`, tasks sit below `MAX_TASKS`, and no two tasks
record the same block. -/
structure StacksOk (v : Nat → Bool × Nat) : Prop where
  free_null : ∀ j, (v j).1 = false → (v j).2 = 0
  lt : ∀ j, (v j).1 = true → j < maxTasks
  inj : ∀ i j, (v i).1 = true → (v j).1 = true → (v i).2 = (v j).2 → (v i).2 ≠ 0 → i = j

namespace StacksOk

variable {v : Nat → Bool × Nat} {i a : Nat}

/-- A slot below `MAX_TASKS` takes `NULL` or a block no task records. -/
theorem take (h : StacksOk v) (hi : i < maxTasks)
    (ha : a = 0 ∨ ∀ j, (v j).1 = true → (v j).2 ≠ a) :
    StacksOk (Function.update v i (true, a)) := by
  refine ⟨fun j hj => ?_, fun j hj => ?_, fun j k hj hk he hne => ?_⟩
  · by_cases hji : j = i
    · subst hji; simp at hj
    · rw [Function.update_noteq hji] at hj ⊢; exact h.free_null j hj
  · by_cases hji : j = i
    · exact hji ▸ hi
    · rw [Function.update_noteq hji] at hj; exact h.lt j hj
  · simp only [Function.update_apply] at hj hk he hne
    split_ifs at hj hk he hne with hji hki hki
    · rw [hji, hki]
    · rcases ha with rfl | ha
      · exact absurd rfl hne
      · exact absurd he.symm (ha k hk)
    · rcases ha with rfl | ha
      · exact absurd he hne
      · exact absurd he (ha j hj)
    · exact h.inj j k hj hk he hne

/-- A slot is released. -/
theorem release (h : StacksOk v) : StacksOk (Function.update v i (false, 0)) := by
  refine ⟨fun j hj => ?_, fun j hj => ?_, fun j k hj hk he hne => ?_⟩
  · by_cases hji : j = i
    · subst hji; simp
    · rw [Function.update_noteq hji] at hj ⊢; exact h.free_null j hj
  · by_cases hji : j = i
    · subst hji; simp at hj
    · rw [Function.update_noteq hji] at hj; exact h.lt j hj
  · simp only [Function.update_apply] at hj hk he hne
    split_ifs at hj hk he hne
    exact h.inj j k hj hk he hne

end StacksOk

/-! ## What each call does to the stacks -/

namespace Sys

variable {s s' : Sys} {i j : Nat}

@[simp] theorem stackView_fst : (s.stackView j).1 = true ↔ s.Valid j := by simp [stackView]
@[simp] theorem stackView_snd : (s.stackView j).2 = (s.task j).stackaddr := rfl

theorem stackView_of_frame (h : ∀ j, ((s'.task j).magic, (s'.task j).stackaddr) =
      ((s.task j).magic, (s.task j).stackaddr)) : s'.stackView = s.stackView := by
  funext j
  obtain ⟨hm, ha⟩ := Prod.mk.inj (h j)
  simp only [stackView, Valid, hm, ha]

theorem stackView_setTask {t : TaskData} :
    (s.setTask i t).stackView =
      Function.update s.stackView i (decide (t.magic = taskMagic), t.stackaddr) := by
  funext j
  by_cases h : j = i
  · subst h; simp [stackView, Valid]
  · simp [stackView, Valid, Function.update_noteq h, setTask_task_ne h]

@[simp] theorem stackView_setSpawn {g : Spawn} : (s.setSpawn i g).stackView = s.stackView := rfl
@[simp] theorem stackView_setPc {tid : Nat} {pc : Pc} :
    (s.setPc tid pc).stackView = s.stackView := rfl

end Sys

section Calls

variable {os : Os} {s : Sys}

/-- **What `rtapi_task_new` does to the stacks.** It fails and frees exactly the block `malloc`
returned, leaving the table alone or, on its invalid-priority exit, giving the first free slot
`NULL`; or it gives that slot the block and frees nothing. -/
theorem rtapiTaskNew_stacks {taskcode arg : Nat} {prio owner : Int} {stacksize : UInt64}
    {usesFp cpuId : Int} {stack : Option Nat} (hinv : StacksOk s.stackView) :
    let r := rtapiTaskNew os s taskcode arg prio owner stacksize usesFp cpuId stack
    ((r.sys.stackView = s.stackView ∨ newSlot s < maxTasks ∧
        r.sys.stackView = Function.update s.stackView (newSlot s) (true, 0)) ∧
      ∀ a, Event.free a ∈ r.events ↔ stack = some a) ∨
    (newSlot s < maxTasks ∧ ∃ a, stack = some a ∧ r.events = [] ∧
      r.sys.stackView = Function.update s.stackView (newSlot s) (true, a)) := by
  have hle := newSlot_le s
  unfold rtapiTaskNew
  split
  · exact .inl ⟨.inl rfl, by simp⟩
  · rename_i addr
    split_ifs with h₁ h₂
    · exact .inl ⟨.inl rfl, by simp [eq_comm]⟩
    · have hlt : newSlot s < maxTasks := by omega
      have h0 : (s.task (newSlot s)).stackaddr = 0 :=
        hinv.free_null _ (by simp [Sys.stackView, not_valid_newSlot hlt])
      refine .inl ⟨.inr ⟨hlt, ?_⟩, by simp [eq_comm]⟩
      simp [reserve, Sys.stackView_setTask, h0]
    · refine .inr ⟨by omega, addr, rfl, rfl, ?_⟩
      simp [reserve, Sys.stackView_setTask]

/-- **What `rtapi_task_delete` does to the stacks.** On a bad handle nothing; otherwise it releases
the slot and frees exactly the stack the slot recorded. -/
theorem rtapiTaskDelete_stacks {id : Int} :
    (checkTask s id = none ∧ (rtapiTaskDelete s id).sys.stackView = s.stackView ∧
      (rtapiTaskDelete s id).events = []) ∨
    ∃ i, checkTask s id = some i ∧
      (rtapiTaskDelete s id).sys.stackView = Function.update s.stackView i (false, 0) ∧
      ∀ a, Event.free a ∈ (rtapiTaskDelete s id).events ↔ a = (s.task i).stackaddr := by
  cases hc : checkTask s id with
  | none => exact .inl ⟨rfl, by rw [rtapiTaskDelete_of_none hc], by rw [rtapiTaskDelete_of_none hc]⟩
  | some i =>
    refine .inr ⟨i, rfl, ?_⟩
    by_cases hd : (s.task i).deleted = 0
    · rw [rtapiTaskDelete_of_deleted_eq_zero hc hd]
      refine ⟨?_, fun a => ?_⟩
      · funext j
        simp only [Sys.stackView, Sys.Valid, Sys.setTask_task_apply, Function.update_apply]
        split_ifs <;> simp [taskMagic]
      · split_ifs <;> simp [eq_comm]
    · rw [rtapiTaskDelete_of_deleted_ne_zero hc hd]
      exact ⟨by simp [Sys.stackView_setTask, taskMagic], fun a => by simp [eq_comm]⟩

/-! The other calls free nothing. -/

theorem realtimeSetAffinity_free_not_mem {id : Nat} {cpu : Int} {set : Nat → Bool} {ok : Bool}
    {a : Nat} : Event.free a ∉ (realtimeSetAffinity id cpu set ok).2 := by
  unfold realtimeSetAffinity; split <;> (try split) <;> (try split_ifs) <;> simp

theorem realtimeThreadInit_free_not_mem {period : Int} {i : Nat} {t t' : TaskData} {e : StartEnv}
    {evs : List Event} {a : Nat} (h : realtimeThreadInit period i t e = some (t', evs)) :
    Event.free a ∉ evs := by
  unfold realtimeThreadInit at h
  simp only [realtimeSetPriority_eq, setFifo] at h
  split_ifs at h <;> cases h <;> simp [realtimeSetAffinity_free_not_mem]

theorem rtapiTaskStart_free_not_mem {id : Int} {p : UInt64} {e : StartEnv} {r : Result} {a : Nat}
    (hr : rtapiTaskStart s id p e = some r) : Event.free a ∉ r.events := by
  unfold rtapiTaskStart at hr
  split at hr
  · cases hr; simp
  · split_ifs at hr
    split at hr
    · cases hr; simp
    · obtain ⟨⟨t', evs⟩, hi, rfl⟩ := Option.map_eq_some'.1 hr
      simp only [List.mem_append, not_or]
      exact ⟨realtimeThreadInit_free_not_mem hi, by split <;> simp⟩

theorem rtapiWait_free_not_mem {th : Thread} {e : WaitEnv} {a : Nat} :
    Event.free a ∉ (rtapiWait s th e).events := by
  simp only [rtapiWait, rtapiGetPagefaultCount]; split_ifs <;> simp

end Calls

/-! ## Every step -/

section Steps

variable {os : Os} {s : Sys} {o : Op} {r : Result}

/-- The field pair the stacks view reads. -/
private def magicStack (t : TaskData) : Int × Nat := (t.magic, t.stackaddr)

/-- The ways a step changes the stacks view, with the blocks it frees: it keeps the table, or
gives the first free slot `NULL`, and frees exactly the block `malloc` returned to it, if any; it
gives that slot the block and frees nothing; or it releases a valid slot and frees exactly the
stack that slot recorded. -/
def StackStep (s : Sys) (o : Op) (r : Result) : Prop :=
  ((r.sys.stackView = s.stackView ∨
      newSlot s < maxTasks ∧ r.sys.stackView = Function.update s.stackView (newSlot s) (true, 0)) ∧
    ∀ a, Event.free a ∈ r.events ↔ o.malloc = some a) ∨
  (newSlot s < maxTasks ∧ ∃ a, o.malloc = some a ∧ r.events = [] ∧
    r.sys.stackView = Function.update s.stackView (newSlot s) (true, a)) ∨
  ∃ i, o.malloc = none ∧ s.Valid i ∧ r.sys.stackView = Function.update s.stackView i (false, 0) ∧
    ∀ a, Event.free a ∈ r.events ↔ a = (s.task i).stackaddr

/-- A step that writes no magic and no stack, frees nothing and allocates nothing. -/
theorem StackStep.of_frame (hs : r.sys.stackView = s.stackView)
    (hf : ∀ a, Event.free a ∉ r.events) (hm : o.malloc = none) : StackStep s o r :=
  .inl ⟨.inl hs, fun a => by simp [hf a, hm]⟩

/-- **Every step is one of the changes of `StackStep`.** -/
theorem Op.stackStep (hinv : StacksOk s.stackView) (hr : o.run os s = some r) :
    StackStep s o r := by
  cases o with
  | init =>
    cases hr
    exact .of_frame (by obtain ⟨m, hm⟩ := rtapiInit_frame s; rw [hm]; rfl)
      (by simp only [rtapiInit]; split_ifs <;> simp) rfl
  | exit id =>
    cases hr
    exact .of_frame (by obtain ⟨m, hm⟩ := rtapiExit_frame s id; rw [hm]; rfl)
      (by simp only [rtapiExit]; split_ifs <;> simp) rfl
  | clockSetPeriod n =>
    cases hr
    exact .of_frame (by obtain ⟨p, hp⟩ := rtapiClockSetPeriod_frame os s n; rw [hp]; rfl)
      (by simp only [rtapiClockSetPeriod]; split_ifs <;> simp) rfl
  | taskNew =>
    cases hr
    rcases rtapiTaskNew_stacks hinv with ⟨hs, hf⟩ | h
    · exact .inl ⟨hs, hf⟩
    · exact .inr (.inl h)
  | taskDelete id =>
    cases hr
    rcases @rtapiTaskDelete_stacks s id with ⟨-, hs, he⟩ | ⟨i, hc, hs, hf⟩
    · exact .of_frame hs (by simp [he]) rfl
    · exact .inr (.inr ⟨i, rfl, (checkTask_eq_some.1 hc).2.2, hs, hf⟩)
  | taskStart id p e =>
    exact .of_frame (Sys.stackView_of_frame (rtapiTaskStart_proj magicStack hr (fun _ => rfl)
      (fun _ _ _ _ => by simp [magicStack, startTask])))
      (fun _ => rtapiTaskStart_free_not_mem hr) rfl
  | taskStop id | taskPause id | taskResume id | taskSetPeriod id _ =>
    cases hr
    exact .of_frame
      (Sys.stackView_of_frame (withTask_proj magicStack (fun _ => by simp [magicStack])))
      (by simp only [rtapiTaskStop, rtapiTaskPause, rtapiTaskResume, rtapiTaskSetPeriod, withTask]
          split <;> simp) rfl
  | begin tid now =>
    obtain ⟨th, -, rfl⟩ := Option.map_eq_some'.1 hr
    exact .of_frame (by
      rw [realtimeThreadBegin, Sys.stackView_setPc]
      exact Sys.stackView_of_frame (Sys.setTask_proj magicStack rfl)) (by simp) rfl
  | finish tid =>
    obtain ⟨th, -, rfl⟩ := Option.map_eq_some'.1 hr
    exact .of_frame (by
      rw [realtimeThreadEnd, Sys.stackView_setPc]
      exact Sys.stackView_of_frame (Sys.setTask_proj magicStack rfl))
      (by simp [realtimeThreadEnd]) rfl
  | wait tid e =>
    obtain ⟨th, -, rfl⟩ := Option.map_eq_some'.1 hr
    exact .of_frame (Sys.stackView_of_frame (rtapiWait_proj magicStack (fun _ _ => rfl)))
      (fun _ => rtapiWait_free_not_mem) rfl

theorem Op.mallocFresh_spec {a : Nat} (hf : o.mallocFresh s = true) (hm : o.malloc = some a) :
    a ≠ 0 ∧ ∀ j < maxTasks, s.Valid j → (s.task j).stackaddr ≠ a := by
  simp only [Op.mallocFresh, hm, Bool.and_eq_true, bne_iff_ne, List.all_eq_true, List.mem_range,
    Bool.or_eq_true, Bool.not_eq_true', decide_eq_false_iff_not] at hf
  exact ⟨hf.1, fun j hj hv => (hf.2 j hj).resolve_left (not_not.2 hv)⟩

/-- A block `malloc` returned fresh is recorded by no task. -/
theorem StacksOk.fresh (hinv : StacksOk s.stackView) {a : Nat} (hf : o.mallocFresh s = true)
    (hm : o.malloc = some a) : ∀ j, (s.stackView j).1 = true → (s.stackView j).2 ≠ a :=
  fun j hj => (o.mallocFresh_spec hf hm).2 j (hinv.lt j hj) (Sys.stackView_fst.1 hj)

/-- **Every step with a fresh `malloc` keeps stack ownership.** -/
theorem StacksOk.step (hinv : StacksOk s.stackView) (hf : o.mallocFresh s = true)
    (hr : o.run os s = some r) : StacksOk r.sys.stackView := by
  rcases o.stackStep hinv hr with ⟨hs, -⟩ | ⟨hn, a, hm, -, hs⟩ | ⟨i, -, -, hs, -⟩
  · rcases hs with hs | ⟨hn, hs⟩
    · exact hs ▸ hinv
    · exact hs ▸ hinv.take hn (.inl rfl)
  · exact hs ▸ hinv.take hn (.inr (hinv.fresh hf hm))
  · exact hs ▸ hinv.release

end Steps

/-! ## Runs with fresh allocations -/

/-- The states runs from load time reach when every `malloc` returns a block that is not `NULL` and
that no task records. -/
inductive FreshReachable (os : Os) : Sys → Prop
  | init : FreshReachable os Sys.init
  | step {s : Sys} (o : Op) {r : Result} : FreshReachable os s → o.allowed s = true →
      o.mallocFresh s = true → o.run os s = some r → FreshReachable os r.sys

section Fresh

variable {os : Os} {s : Sys} {o : Op} {r : Result}

theorem FreshReachable.reachable (h : FreshReachable os s) : Reachable os s := by
  induction h with
  | init => exact Reachable.init os
  | step o _ ha _ hr ih => exact ih.step (Step.mk o ha hr)

theorem stacksOk_init : StacksOk Sys.init.stackView :=
  ⟨fun _ _ => rfl, fun _ h => by simp [Sys.stackView, Sys.Valid, Sys.init, TaskData.zero,
    taskMagic] at h, fun _ _ h => by simp [Sys.stackView, Sys.Valid, Sys.init, TaskData.zero,
    taskMagic] at h⟩

/-- **Stack ownership holds in every state reached with fresh allocations.** -/
theorem stacksOk_of_freshReachable (h : FreshReachable os s) : StacksOk s.stackView := by
  induction h with
  | init => exact stacksOk_init
  | step o _ _ hf hr ih => exact ih.step hf hr

/-- **The API frees each stack once, and loses none.** In a state reached with fresh allocations,
take a step whose `malloc` is fresh and a block `a` other than `NULL`. If the step frees `a`, then
`a` is the block `malloc` returned to this very call, or the stack of a valid slot that the step
releases; and afterwards no task records `a`. If `malloc` returned `a` to the step, the step frees
it or a task records it afterwards. -/
theorem Op.frees_stacks (h : FreshReachable os s) (hf : o.mallocFresh s = true)
    (hr : o.run os s = some r) {a : Nat} (ha : a ≠ 0) :
    (Event.free a ∈ r.events →
      (o.malloc = some a ∨ ∃ i, s.Valid i ∧ (s.task i).stackaddr = a ∧ ¬r.sys.Valid i) ∧
      ∀ j, r.sys.Valid j → (r.sys.task j).stackaddr ≠ a) ∧
    (o.malloc = some a → Event.free a ∈ r.events ∨
      ∃ j, r.sys.Valid j ∧ (r.sys.task j).stackaddr = a) := by
  have hinv := stacksOk_of_freshReachable h
  -- read a slot of the view after the step
  have view : ∀ {v : Nat → Bool × Nat}, r.sys.stackView = v → ∀ j,
      (r.sys.Valid j ↔ (v j).1 = true) ∧ (r.sys.task j).stackaddr = (v j).2 := fun hv j => by
    rw [← Sys.stackView_fst, ← Sys.stackView_snd, hv]; exact ⟨Iff.rfl, rfl⟩
  rcases o.stackStep hinv hr with ⟨hs, hfree⟩ | ⟨hn, b, hm, he, hs⟩ | ⟨i, hm, hv, hs, hfree⟩
  · -- the table is kept, or the first free slot takes `NULL`: only the fresh block is freed
    refine ⟨fun hmem => ⟨.inl ((hfree a).1 hmem), fun j hj => ?_⟩, fun hm => .inl ((hfree a).2 hm)⟩
    have fresh := hinv.fresh hf ((hfree a).1 hmem)
    rcases hs with hs | ⟨-, hs⟩
    · obtain ⟨hjv, hja⟩ := view hs j
      exact hja ▸ fresh j (hjv.1 hj)
    · obtain ⟨hjv, hja⟩ := view hs j
      rw [hja, Function.update_apply]
      split_ifs with hji
      · exact fun h0 => ha h0.symm
      · rw [hjv, Function.update_noteq hji] at hj; exact fresh j hj
  · -- the first free slot takes the fresh block: nothing is freed
    refine ⟨fun hmem => by simp [he] at hmem, fun hm' => .inr ⟨newSlot s, ?_⟩⟩
    obtain rfl : b = a := Option.some.inj (hm.symm.trans hm')
    obtain ⟨hjv, hja⟩ := view hs (newSlot s)
    simp only [Function.update_same] at hjv hja
    exact ⟨hjv.2 trivial, hja⟩
  · -- a valid slot is released: only its stack is freed, and no other task records it
    refine ⟨fun hmem => ?_, fun hm' => by simp [hm] at hm'⟩
    have hia := ((hfree a).1 hmem).symm
    obtain ⟨hiv, -⟩ := view hs i
    refine ⟨.inr ⟨i, hv, hia, fun hi => by simpa using hiv.1 hi⟩, fun j hj => ?_⟩
    obtain ⟨hjv, hja⟩ := view hs j
    by_cases hji : j = i
    · rw [hji] at hj; simpa using hiv.1 hj
    · rw [hja, Function.update_noteq hji]
      rw [hjv, Function.update_noteq hji] at hj
      exact fun he => hji (hinv.inj j i hj (Sys.stackView_fst.2 hv)
        (by rw [he, Sys.stackView_snd, hia]) (he ▸ ha))

/-- At load time `rtapi_task_new` keeps the 4096-byte block `malloc` returns as its stack. -/
theorem Op.frees_stacks_taskNew :
    ∃ r, (Op.taskNew 0 0 50 0 0 0 (-1) (some 4096)).run linuxOs Sys.init = some r ∧
    ((Event.free 4096 ∈ r.events →
      ((Op.taskNew 0 0 50 0 0 0 (-1) (some 4096)).malloc = some 4096 ∨
        ∃ i, Sys.init.Valid i ∧ (Sys.init.task i).stackaddr = 4096 ∧ ¬r.sys.Valid i) ∧
      ∀ j, r.sys.Valid j → (r.sys.task j).stackaddr ≠ 4096) ∧
    ((Op.taskNew 0 0 50 0 0 0 (-1) (some 4096)).malloc = some 4096 →
      Event.free 4096 ∈ r.events ∨ ∃ j, r.sys.Valid j ∧ (r.sys.task j).stackaddr = 4096)) :=
  ⟨_, rfl, @Op.frees_stacks linuxOs _ _ _ .init (by decide) (by rfl) _ (by decide)⟩

end Fresh

end Rtapi.Linux
