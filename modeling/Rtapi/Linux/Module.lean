import Rtapi.Linux.State

/-!
# Modules in `linux_rtapi.c`

`rtapi_init` hands out the first slot of `module_array` whose magic is not `MODULE_MAGIC`, as its
index plus `MODULE_OFFSET` (`rtapiInit_ok`), and returns `-ENOMEM` with the table unchanged
exactly when all `MAX_MODULES` slots are taken (`rtapiInit_full`). `rtapi_exit` of a handle
`rtapi_init` returned succeeds and writes `0` into the slot (`rtapiExit_rtapiInit`): the slot is
free again, and the table is restored outright whenever free slots hold `0`
(`ModulesClean`), as they do in every state the two calls reach from load time.
-/

namespace Rtapi.Linux

/-- The module slot `n` is taken: its magic is `MODULE_MAGIC`. -/
def moduleTaken (s : Sys) (n : Nat) : Bool := s.modules n == moduleMagic

/-- The loop `for (n = 0; n < MAX_MODULES; n++)` of `rtapi_init`: it stops at the first slot
whose magic is not `MODULE_MAGIC`. -/
def initSlot (s : Sys) : Nat := firstFree (moduleTaken s) 0 maxModules

/-- `rtapi_init(modname)`: marks the slot the loop stops at and returns `n + MODULE_OFFSET`. -/
def rtapiInit (s : Sys) : Result :=
  if initSlot s < maxModules then
    ⟨initSlot s + moduleOffset,
      { s with modules := Function.update s.modules (initSlot s) moduleMagic }, []⟩
  else ⟨-enomem, s, []⟩

/-- `rtapi_exit(id)`, with `n = id - MODULE_OFFSET`. -/
def rtapiExit (s : Sys) (id : Int) : Result :=
  if id - moduleOffset < 0 ∨ id - moduleOffset ≥ maxModules then ⟨-1, s, []⟩
  else ⟨0, { s with modules := Function.update s.modules (id - moduleOffset).toNat 0 }, []⟩

variable {s : Sys}

/-- `rtapi_init` writes only the module table. -/
theorem rtapiInit_frame (s : Sys) : ∃ m, (rtapiInit s).sys = { s with modules := m } := by
  unfold rtapiInit; split <;> exact ⟨_, rfl⟩

/-- `rtapi_exit` writes only the module table. -/
theorem rtapiExit_frame (s : Sys) (id : Int) :
    ∃ m, (rtapiExit s id).sys = { s with modules := m } := by
  unfold rtapiExit; split <;> exact ⟨_, rfl⟩

/-- A refused `rtapi_init` leaves the state as it was. -/
theorem rtapiInit_sys_of_neg (h : (rtapiInit s).ret < 0) : (rtapiInit s).sys = s := by
  unfold rtapiInit at h ⊢
  split_ifs at h ⊢
  · dsimp only [moduleOffset] at h; omega
  · rfl

/-- So does a refused `rtapi_exit`. -/
theorem rtapiExit_sys_of_neg {id : Int} (h : (rtapiExit s id).ret < 0) :
    (rtapiExit s id).sys = s := by
  unfold rtapiExit at h ⊢
  split_ifs at h ⊢
  · rfl
  · exact absurd h (lt_irrefl 0)

theorem rtapiInit_ok (h : ∃ n < maxModules, moduleTaken s n = false) :
    (rtapiInit s).ret = initSlot s + moduleOffset ∧ initSlot s < maxModules ∧
      moduleTaken s (initSlot s) = false ∧ (∀ m < initSlot s, moduleTaken s m = true) ∧
      (rtapiInit s).sys.modules = Function.update s.modules (initSlot s) moduleMagic := by
  obtain ⟨n, hn, hfree⟩ := h
  have hlt : initSlot s < maxModules :=
    (firstFree_lt_iff _ 0 _).2 ⟨n, Nat.zero_le _, by simpa using hn, hfree⟩
  refine ⟨by simp [rtapiInit, hlt], hlt,
    firstFree_not_taken _ 0 _ (by simpa [initSlot] using hlt),
    fun m hm => firstFree_taken_of_lt _ 0 _ m (Nat.zero_le _) hm, by simp [rtapiInit, hlt]⟩

theorem rtapiInit_full (h : ∀ n < maxModules, moduleTaken s n = true) :
    (rtapiInit s).ret = -enomem ∧ (rtapiInit s).sys = s := by
  have : ¬initSlot s < maxModules := fun hlt => by
    have := firstFree_not_taken (moduleTaken s) 0 maxModules (by simpa [initSlot] using hlt)
    have h1 := h _ hlt
    rw [initSlot, this] at h1
    exact Bool.noConfusion h1
  simp [rtapiInit, this]

/-- `rtapi_init` fails exactly when the table is full. -/
theorem rtapiInit_ret_eq_enomem_iff :
    (rtapiInit s).ret = -enomem ↔ ∀ n < maxModules, moduleTaken s n = true := by
  refine ⟨fun h n hn => ?_, fun h => (rtapiInit_full h).1⟩
  by_contra hc
  have := (rtapiInit_ok ⟨n, hn, by simpa using hc⟩).1
  simp only [h, moduleOffset, enomem] at this
  omega

/-- **`rtapi_exit` undoes `rtapi_init`.** The handle is accepted, and the slot is written back
with `0`: every slot is taken afterwards exactly when it was before. -/
theorem rtapiExit_rtapiInit (h : ∃ n < maxModules, moduleTaken s n = false) :
    (rtapiExit (rtapiInit s).sys (rtapiInit s).ret).ret = 0 ∧
      (rtapiExit (rtapiInit s).sys (rtapiInit s).ret).sys.modules =
        Function.update s.modules (initSlot s) 0 ∧
      ∀ n, moduleTaken (rtapiExit (rtapiInit s).sys (rtapiInit s).ret).sys n =
        moduleTaken s n := by
  obtain ⟨hret, hlt, hfree, -, hmod⟩ := rtapiInit_ok h
  have hn : ¬((initSlot s + moduleOffset - moduleOffset : Int) < 0 ∨
      (initSlot s + moduleOffset - moduleOffset : Int) ≥ maxModules) := by
    simp only [add_sub_cancel_right]; omega
  have hmods : (rtapiExit (rtapiInit s).sys (rtapiInit s).ret).sys.modules =
      Function.update s.modules (initSlot s) 0 := by
    rw [rtapiExit, hret, if_neg hn]
    simp only [hmod, add_sub_cancel_right, Int.toNat_natCast, Function.update_idem]
  refine ⟨by rw [rtapiExit, hret, if_neg hn], hmods, fun n => ?_⟩
  simp only [moduleTaken, hmods]
  by_cases hn : n = initSlot s
  · subst hn; simpa [moduleTaken, moduleMagic] using hfree
  · rw [Function.update_noteq hn]

/-! ## Tables whose free slots hold zero -/

/-- Every module slot holds `0` or `MODULE_MAGIC`. -/
def ModulesClean (s : Sys) : Prop := ∀ n, s.modules n = 0 ∨ s.modules n = moduleMagic

theorem modulesClean_init : ModulesClean Sys.init := fun _ => .inl rfl

theorem ModulesClean.rtapiInit (h : ModulesClean s) : ModulesClean (rtapiInit s).sys := by
  intro n
  unfold Linux.rtapiInit
  split
  · by_cases hn : n = initSlot s
    · subst hn; simp
    · simpa [Function.update_noteq hn] using h n
  · exact h n

theorem ModulesClean.rtapiExit (h : ModulesClean s) (id : Int) :
    ModulesClean (rtapiExit s id).sys := by
  intro n
  unfold Linux.rtapiExit
  split
  · exact h n
  · by_cases hn : n = (id - moduleOffset).toNat
    · subst hn; simp
    · simpa [Function.update_noteq hn] using h n

/-- On such a table the round trip restores every slot. -/
theorem rtapiExit_rtapiInit_modules (hc : ModulesClean s)
    (h : ∃ n < maxModules, moduleTaken s n = false) :
    (rtapiExit (rtapiInit s).sys (rtapiInit s).ret).sys.modules = s.modules := by
  obtain ⟨-, -, hfree, -, -⟩ := rtapiInit_ok h
  rw [(rtapiExit_rtapiInit h).2.1]
  funext n
  by_cases hn : n = initSlot s
  · subst hn
    rcases hc (initSlot s) with h0 | h0
    · simp [h0]
    · simp [moduleTaken, h0] at hfree
  · rw [Function.update_noteq hn]

theorem rtapiExit_rtapiInit_modules_init :
    (rtapiExit (rtapiInit Sys.init).sys (rtapiInit Sys.init).ret).sys.modules = Sys.init.modules :=
  rtapiExit_rtapiInit_modules modulesClean_init ⟨0, by decide, by decide⟩

end Rtapi.Linux
