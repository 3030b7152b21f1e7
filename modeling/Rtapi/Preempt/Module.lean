import Rtapi.Preempt.State

/-!
# Module slots in `rt-preempt.c`

In the RTAPI build, `_rtapi_init` takes the first slot from `1` to `RTAPI_MAX_MODULES` whose state
is `NO_MODULE`, marks it `REALTIME` and returns `n + MODULE_OFFSET`, or `-EMFILE` when all are
taken (`rtapiInit_spec`). `_rtapi_exit` accepts the slots `0` to `RTAPI_MAX_MODULES - 1`, so it
undoes an init of any slot but the last (`rtapiExit_rtapiInit`), and refuses the handle of the
last one (`rtapiExit_rtapiInit_last`), which init hands out once every other slot is taken
(`rtapiExit_rejects_last_module`).
-/

namespace Rtapi.Preempt

variable (c : Config) (s : Sys)

/-- The slot `_rtapi_init` stops at:
`n = 1; while ((n <= RTAPI_MAX_MODULES) && (module_array[n].state != NO_MODULE)) n++;`. -/
def initSlot : Nat := firstFree (fun n => s.modules n != .noModule) 1 c.maxModules

/-- `_rtapi_init(modname)` in the RTAPI build; the name is stored only for messages. -/
def rtapiInit : Result :=
  if initSlot c s > c.maxModules then ⟨-emfile, s, [.msg .err (.moduleLimit (initSlot c s))]⟩
  else ⟨initSlot c s + moduleOffset,
    { s with modules := Function.update s.modules (initSlot c s) .realtime,
             ulModuleCount := s.ulModuleCount + 1 }, []⟩

/-- `_rtapi_exit(module_id)` in the RTAPI build. -/
def rtapiExit (id : Int) : Result :=
  if id - moduleOffset < 0 ∨ id - moduleOffset ≥ c.maxModules then ⟨-1, s, []⟩
  else
    ⟨0, { s with modules := Function.update s.modules (id - moduleOffset).toNat .noModule }, []⟩

/-- The RTAPI build with 64 module and 64 task slots and an exception handler, on a 1 ns clock
with the FIFO priorities `1` to `99`. -/
def config64 : Config :=
  { maxTasks := 64, maxModules := 64, posix := false, handler := true, res := 1,
    res_pos := Nat.one_pos, prioLowest := 1, prioHighest := 99 }

variable {c s}

theorem one_le_initSlot : 1 ≤ initSlot c s := le_firstFree _ 1 _

/-- **What `_rtapi_init` does.** It fails with `-EMFILE` and changes nothing when every slot from
`1` to `RTAPI_MAX_MODULES` is taken. Otherwise it returns `MODULE_OFFSET` plus the least free
slot among them, which was free and is now `REALTIME`, and changes no other slot. -/
theorem rtapiInit_spec :
    (c.maxModules < initSlot c s ∧ (rtapiInit c s).ret = -emfile ∧ (rtapiInit c s).sys = s ∧
        ∀ n, 1 ≤ n → n ≤ c.maxModules → s.modules n ≠ .noModule) ∨
      (1 ≤ initSlot c s ∧ initSlot c s ≤ c.maxModules ∧
        (rtapiInit c s).ret = initSlot c s + moduleOffset ∧
        s.modules (initSlot c s) = .noModule ∧
        (∀ n, 1 ≤ n → n < initSlot c s → s.modules n ≠ .noModule) ∧
        (rtapiInit c s).sys.modules = Function.update s.modules (initSlot c s) .realtime) := by
  have taken := fun n h₀ h₁ => firstFree_taken_of_lt (fun n => s.modules n != .noModule) 1
    c.maxModules n h₀ h₁
  unfold rtapiInit
  split_ifs with h
  · refine .inl ⟨h, rfl, rfl, fun n h₀ h₁ => ?_⟩
    simpa using taken n h₀ (by unfold initSlot at h; omega)
  · have hfree := firstFree_not_taken (fun n => s.modules n != .noModule) 1 c.maxModules
      (by unfold initSlot at h; omega)
    refine .inr ⟨one_le_initSlot, by omega, rfl, by simpa using hfree, fun n h₀ h₁ => ?_,
      rfl⟩
    simpa using taken n h₀ h₁

/-- **Exit undoes init, but for the last slot.** When init takes a slot below
`RTAPI_MAX_MODULES`, exit of the handle it returned succeeds and restores every slot's state. -/
theorem rtapiExit_rtapiInit (h : initSlot c s < c.maxModules) :
    (rtapiExit c (rtapiInit c s).sys (rtapiInit c s).ret).ret = 0 ∧
      (rtapiExit c (rtapiInit c s).sys (rtapiInit c s).ret).sys.modules = s.modules := by
  rcases rtapiInit_spec (c := c) (s := s) with ⟨hgt, -⟩ | ⟨h₁, -, hr, hfree, -, hm⟩
  · omega
  have hk : (rtapiInit c s).ret - moduleOffset = initSlot c s := by rw [hr]; ring
  unfold rtapiExit
  rw [if_neg (by omega), hk]
  refine ⟨rfl, ?_⟩
  dsimp only
  rw [hm, Int.toNat_natCast, Function.update_idem]
  funext n
  by_cases hn : n = initSlot c s
  · rw [hn, Function.update_same, hfree]
  · rw [Function.update_noteq hn]

/-- **Exit refuses the last slot.** When init takes slot `RTAPI_MAX_MODULES`, exit of the handle it
returned fails with `-1` and the slot stays `REALTIME`. -/
theorem rtapiExit_rtapiInit_last (h : initSlot c s = c.maxModules) :
    (rtapiExit c (rtapiInit c s).sys (rtapiInit c s).ret).ret = -1 ∧
      (rtapiExit c (rtapiInit c s).sys (rtapiInit c s).ret).sys.modules c.maxModules =
        .realtime := by
  rcases rtapiInit_spec (c := c) (s := s) with ⟨hgt, -⟩ | ⟨h₁, -, hr, -, -, hm⟩
  · omega
  unfold rtapiExit
  rw [if_pos (by rw [hr, h]; right; simp)]
  refine ⟨rfl, ?_⟩
  rw [hm, ← h, Function.update_same]

/-- With slots `1` to `63` taken, `_rtapi_init` returns `64 + MODULE_OFFSET`, and `_rtapi_exit` of
that handle returns `-1` and leaves slot `64` `REALTIME`. -/
theorem rtapiExit_rejects_last_module :
    let s : Sys :=
      { Sys.init with modules := fun n => if 1 ≤ n ∧ n < 64 then .realtime else .noModule }
    (rtapiInit config64 s).ret = 64 + moduleOffset ∧
      (rtapiExit config64 (rtapiInit config64 s).sys (rtapiInit config64 s).ret).ret = -1 ∧
      (rtapiExit config64 (rtapiInit config64 s).sys (rtapiInit config64 s).ret).sys.modules 64 =
        .realtime :=
  ⟨by decide, rtapiExit_rtapiInit_last (by decide)⟩

end Rtapi.Preempt
