import VolumeController.Proofs.Interleaving.Courses
import VolumeController.Proofs.NameLocks.Threads
import VolumeController.Proofs.SeparateCreates.Batch
/-! The locks of names while creates come and go. The creates of one name may interleave at any step that they take with
the lock, and any of them may be aborted. Main result: whoever has a handle has it on the very lock that the table has
for the name, so that no two creates of one name work at once. A lock that is held is held by a create that is under
way, and a name that no create is under way for is not in the table. -/

namespace VolumeController

variable {σ : Type}

/-- The name that a call locks. -/
def VolumeStore.lockName (store : VolumeStore) (call : CreateCall) : LockName :=
  ⟨store.table, call.name⟩

/-- What a call does while it has the lock. -/
def CreateCall.unlocked (call : CreateCall) : Operation CreateOutcome :=
  VolumeStore.createUnlocked call.dc call.pool call.name call.sizeMb

namespace VolumeStore

section

variable [Platform σ]

/-- A call, and the thread that carries it out. -/
structure Carries (calls : List (Context × CreateCall)) (c : Chronicle σ (Except Error CreateOutcome)) (number : Nat)
    (call : CreateCall) (t : Thread σ (Except Error CreateOutcome)) : Prop where
  call : ∃ ctx, calls[number]? = some (ctx, call)
  thread : c.system.threads[number]? = some t

/-- What the table of a store has to do with its calls. -/
structure Guards (store : VolumeStore) (calls : List (Context × CreateCall))
    (c : Chronicle σ (Except Error CreateOutcome)) : Prop where
  /-- A call that is under way has a handle to give back, or nothing left to do but to sweep the table. -/
  handled : ∀ {number call t}, Carries calls c number call t → c.UnderWay number →
    (∃ lock, t.progress.rest.Owes (.dropHandle lock)) ∨
      ∃ result, t.progress.rest = .act (.sweep (store.lockName call)) fun _ => .done result
  /-- A handle is on the lock that the table has for the name. -/
  shared : ∀ {number call t lock}, Carries calls c number call t → t.progress.rest.Owes (.dropHandle lock) →
    c.system.world.locks.find? (store.lockName call) = some lock
  /-- The lock that a call waits for is that one too. -/
  awaited : ∀ {number call t lock next}, Carries calls c number call t → t.progress.rest = .await (.lock lock) next →
    c.system.world.locks.find? (store.lockName call) = some lock
  /-- The platform is called from inside only. -/
  called : ∀ {number call t q next}, Carries calls c number call t → t.progress.rest = .await (.call q) next →
    ∃ lock, Inside (store.lockName call) lock call.unlocked t.progress.rest
  /-- A call that is inside holds the lock that the table has for the name. -/
  inside : ∀ {number call t lock}, Carries calls c number call t →
    Inside (store.lockName call) lock call.unlocked t.progress.rest →
    c.system.world.locks.find? (store.lockName call) = some lock ∧ c.system.world.locks.isHeldBy lock number
  /-- Of the calls for a name no two are inside. -/
  single : ∀ {number number' call call' t t' lock lock'}, Carries calls c number call t →
    Carries calls c number' call' t' → call.name = call'.name →
    Inside (store.lockName call) lock call.unlocked t.progress.rest →
    Inside (store.lockName call') lock' call'.unlocked t'.progress.rest → number = number'
  /-- A lock in the table that is held is held by a call for its name, which is inside or about to learn that it may
  go there. -/
  held : ∀ {name lock number}, c.system.world.locks.find? ⟨store.table, name⟩ = some lock →
    c.system.world.locks.isHeldBy lock number → ∃ call t, Carries calls c number call t ∧ call.name = name ∧
      c.UnderWay number ∧ (Inside (store.lockName call) lock call.unlocked t.progress.rest ∨
        t.progress.rest = .await (.lock lock) (admitted (store.lockName call) lock call.unlocked))
  /-- A name that no call is under way for is not in the table. -/
  vanished : ∀ {name}, (∀ number call t, Carries calls c number call t → call.name = name → ¬ c.UnderWay number) →
    c.system.world.locks.find? ⟨store.table, name⟩ = none

/-- The locks agree with grips such that each call stands where its grip says. -/
structure Tended (store : VolumeStore) (calls : List (Context × CreateCall))
    (c : Chronicle σ (Except Error CreateOutcome)) (grips : List Grip) : Prop where
  agrees : c.system.world.locks.Agrees grips
  length : grips.length = c.system.threads.length
  stands : ∀ {number t}, c.system.threads[number]? = some t → ∃ ctx call g, calls[number]? = some (ctx, call) ∧
    grips[number]? = some g ∧
      Stands (c.HasBegun number) (store.lockName call) call.unlocked t.progress g

namespace Tended

variable {store : VolumeStore} {calls : List (Context × CreateCall)} {c c' : Chronicle σ (Except Error CreateOutcome)}
  {grips : List Grip} {number : Nat} {call : CreateCall} {t : Thread σ (Except Error CreateOutcome)} {g : Grip}

theorem run_createOrGet (hStore : store.serializes = true) (call : CreateCall) :
    (store.createOrGet call.dc call.pool call.name call.sizeMb).run =
      (locked (store.lockName call) call.unlocked).run := by
  rw [createOrGet, if_pos hStore]
  rfl

theorem offLocks (call : CreateCall) : call.unlocked.run.OffLocks :=
  .createUnlocked call.dc call.pool call.name call.sizeMb

/-- Calls that have not begun have nothing to do with an empty table. -/
theorem start (hStore : store.serializes = true) {w : World σ} (hLocks : w.locks.table = [])
    (calls : List (Context × CreateCall)) :
    store.Tended calls (.start w (store.creates calls)) (List.replicate calls.length .away) where
  agrees := .of_table_nil hLocks fun _ _ hGrip => List.eq_of_mem_replicate (List.mem_of_getElem? hGrip)
  length := by simp [Chronicle.start, System.start, creates]
  stands := by
    intro number t hThread
    obtain ⟨job, hJob, rfl⟩ := Option.map_eq_some_iff.1 (List.getElem?_map ▸ hThread)
    obtain ⟨⟨ctx, call⟩, hCall, rfl⟩ := Option.map_eq_some_iff.1 (List.getElem?_map ▸ hJob)
    have hNumber := (List.getElem?_eq_some_iff.1 hCall).1
    refine ⟨ctx, call, .away, hCall, List.getElem?_replicate_of_lt hNumber, ?_⟩
    change Stands _ _ _ (.running (store.createOrGet call.dc call.pool call.name call.sizeMb).run) _
    rw [run_createOrGet hStore]
    refine .begin ?_
    rintro ⟨turn, hTurn, -⟩
    exact List.not_mem_nil hTurn

/-- Where a call stands. -/
theorem exists_grip (h : store.Tended calls c grips) (hCarries : Carries calls c number call t) :
    ∃ g, grips[number]? = some g ∧
      Stands (c.HasBegun number) (store.lockName call) call.unlocked t.progress g := by
  obtain ⟨ctx, hCall⟩ := hCarries.call
  obtain ⟨ctx', call', g, hCall', hGrip, hStands⟩ := h.stands hCarries.thread
  obtain ⟨-, rfl⟩ := Prod.mk.inj (Option.some.inj (hCall'.symm.trans hCall))
  exact ⟨g, hGrip, hStands⟩

/-- Whose grip it is. -/
theorem exists_carries (h : store.Tended calls c grips) (hGrip : grips[number]? = some g) :
    ∃ call t, Carries calls c number call t ∧
      Stands (c.HasBegun number) (store.lockName call) call.unlocked t.progress g := by
  have hNumber : number < c.system.threads.length := h.length ▸ (List.getElem?_eq_some_iff.1 hGrip).1
  have hThread := List.getElem?_eq_getElem hNumber
  obtain ⟨ctx, call, g', hCall, hGrip', hStands⟩ := h.stands hThread
  obtain rfl := Option.some.inj (hGrip'.symm.trans hGrip)
  exact ⟨call, _, ⟨⟨ctx, hCall⟩, hThread⟩, hStands⟩

/-- A call is under way as long as the locks have a part in it. -/
theorem underWay_iff (hCarries : Carries calls c number call t)
    (hStands : Stands (c.HasBegun number) (store.lockName call) call.unlocked t.progress g) :
    c.UnderWay number ↔ g ≠ .away := by
  rw [← hStands.underWay_iff (offLocks call), ← System.result?_of_thread hCarries.thread]
  exact ⟨fun h => ⟨h.begun, h.unfinished⟩, fun h => ⟨h.1, h.2⟩⟩

theorem guards (h : store.Tended calls c grips) : store.Guards calls c where
  handled := by
    intro number call t hCarries hUnderWay
    obtain ⟨g, -, hStands⟩ := h.exists_grip hCarries
    have hAway := (underWay_iff hCarries hStands).1 hUnderWay
    cases hHandle : g.handle? with
    | some entry =>
        obtain ⟨name, lock⟩ := entry
        obtain rfl := (hStands.proceeds hAway).name_eq (.inl hHandle)
        exact .inl ⟨lock, (hStands.owes_dropHandle_iff (offLocks call) lock).2 hHandle⟩
    | none => exact .inr ((hStands.proceeds hAway).of_handle?_eq_none hHandle hAway)
  shared := by
    intro number call t lock hCarries hOwes
    obtain ⟨g, hGrip, hStands⟩ := h.exists_grip hCarries
    exact h.agrees.handle hGrip ((hStands.owes_dropHandle_iff (offLocks call) lock).1 hOwes)
  awaited := by
    intro number call t lock next hCarries hWait
    obtain ⟨g, hGrip, hStands⟩ := h.exists_grip hCarries
    exact h.agrees.handle hGrip (hStands.handle?_of_await (offLocks call) hWait)
  called := by
    intro number call t q next hCarries hCall
    obtain ⟨g, -, hStands⟩ := h.exists_grip hCarries
    exact hStands.exists_inside_of_call hCall
  inside := by
    intro number call t lock hCarries hInside
    obtain ⟨g, hGrip, hStands⟩ := h.exists_grip hCarries
    obtain rfl := hStands.eq_inside (offLocks call) hInside
    have hEntry := h.agrees.handle hGrip rfl
    exact ⟨hEntry, by simpa [NameLocks.isHeldBy] using (h.agrees.serves hEntry).holder number hGrip⟩
  single := by
    intro number number' call call' t t' lock lock' hCarries hCarries' hName hInside hInside'
    obtain ⟨g, hGrip, hStands⟩ := h.exists_grip hCarries
    obtain ⟨g', hGrip', hStands'⟩ := h.exists_grip hCarries'
    obtain rfl := hStands.eq_inside (offLocks call) hInside
    obtain rfl := hStands'.eq_inside (offLocks call') hInside'
    have hSame : store.lockName call = store.lockName call' := congrArg (LockName.mk store.table) hName
    exact h.agrees.inside_unique (hSame ▸ hGrip) hGrip'
  held := by
    intro name lock number hEntry hHeld
    have hHolder : (c.system.world.locks.mutex lock).holder = some number := by
      simpa [NameLocks.isHeldBy] using hHeld
    have hLine : number ∈ (c.system.world.locks.mutex lock).line := by simp [Mutex.line, hHolder]
    obtain ⟨g, hGrip, hInLine⟩ := ((h.agrees.serves hEntry).line number).1 hLine
    obtain ⟨call, t, hCarries, hStands⟩ := h.exists_carries hGrip
    have hAway : g ≠ .away := by
      rintro rfl
      simp at hInLine
    have hProceeds := hStands.proceeds hAway
    have hName : ⟨store.table, name⟩ = store.lockName call := hProceeds.name_eq (.inl hInLine.handle?)
    rw [hName] at hInLine
    exact ⟨call, t, hCarries, (LockName.mk.inj hName).2.symm, (underWay_iff hCarries hStands).2 hAway,
      hProceeds.of_inLine hInLine⟩
  vanished := by
    intro name hIdle
    refine Option.eq_none_iff_forall_ne_some.2 fun lock hEntry => ?_
    obtain ⟨number, g, hGrip, hUse⟩ := h.agrees.used hEntry
    obtain ⟨call, t, hCarries, hStands⟩ := h.exists_carries hGrip
    have hAway : g ≠ .away := by
      rintro rfl
      simp [Grip.handle?] at hUse
    have hName := (hStands.proceeds hAway).name_eq hUse
    exact hIdle number call t hCarries (LockName.mk.inj hName).2.symm ((underWay_iff hCarries hStands).2 hAway)

end Tended

end

namespace Tended

variable [Bench σ] {env : Surroundings σ} {store : VolumeStore} {calls : List (Context × CreateCall)}
  {c c' : Chronicle σ (Except Error CreateOutcome)} {grips : List Grip}
  {kind : Chronicle σ (Except Error CreateOutcome) → Chronicle σ (Except Error CreateOutcome) → Prop}

/-- One step, of whichever thread or from outside, leaves each call where its grip says. -/
theorem step (h : store.Tended calls c grips) (hStep : Chronicle.Step env c c') :
    ∃ grips', store.Tended calls c' grips' := by
  cases hStep with
  | @turn number t t' w' hThread hStep =>
      obtain ⟨hNumber, -⟩ := List.getElem?_eq_some_iff.1 hThread
      obtain ⟨ctx, call, g, hCall, hGrip, hStands⟩ := h.stands hThread
      obtain ⟨g', hProceeds, hAgrees⟩ := hStands.step (offLocks call) h.agrees hGrip hStep
      refine ⟨grips.set number g', hAgrees, by simpa using h.length, fun {other t₁} hThread₁ => ?_⟩
      by_cases hOther : number = other
      · subst hOther
        obtain rfl := Option.some.inj ((List.getElem?_set_self hNumber).symm.trans hThread₁)
        exact ⟨ctx, call, g', hCall, List.getElem?_set_self (h.length ▸ hNumber),
          .begun ⟨_, List.mem_cons_self, rfl⟩ hProceeds⟩
      · rw [List.getElem?_set_ne hOther] at hThread₁
        obtain ⟨ctx₁, call₁, g₁, hCall₁, hGrip₁, hStands₁⟩ := h.stands hThread₁
        refine ⟨ctx₁, call₁, g₁, hCall₁, (List.getElem?_set_ne hOther).trans hGrip₁, hStands₁.congr ?_⟩
        -- The turn that is written down now is not the other's.
        simp [Chronicle.HasBegun, hOther]
  | clock => exact ⟨grips, h.agrees, h.length, h.stands⟩
  | cancel => exact ⟨grips, h.agrees, h.length, h.stands⟩
  | command => exact ⟨grips, h.agrees, h.length, h.stands⟩

theorem runs (h : store.Tended calls c grips) (hRuns : Chronicle.Runs env kind c c') :
    ∃ grips', store.Tended calls c' grips' := by
  induction hRuns with
  | refl => exact ⟨grips, h⟩
  | tail _ hLast ih =>
      obtain ⟨grips', h'⟩ := ih
      exact h'.step hLast.1

end Tended

end VolumeStore

/-- The table of a store that serializes guards its calls at every moment of every run, whatever the platform does and
whenever the calls are aborted. -/
theorem name_locks_vanish_when_unused [Bench σ] {env : Surroundings σ} {store : VolumeStore}
    (hStore : store.serializes = true) {w : World σ} (hLocks : w.locks.table = []) (calls : List (Context × CreateCall))
    {c : Chronicle σ (Except Error CreateOutcome)}
    (hRuns : Chronicle.Runs env (fun _ _ => True) (.start w (store.creates calls)) c) : store.Guards calls c := by
  obtain ⟨grips, hTended⟩ := (VolumeStore.Tended.start hStore hLocks calls).runs hRuns
  exact hTended.guards

/-- Three creates of one name, of which the second has eight milliseconds. -/
def hurriedCreates : List (Context × CreateCall) :=
  [(.background, ⟨⟨"dc", 0⟩, ⟨.datastore, "ds"⟩, "volume", 1024⟩),
    (⟨[], some 8⟩, ⟨⟨"dc", 0⟩, ⟨.datastore, "ds"⟩, "volume", 1024⟩),
    (.background, ⟨⟨"dc", 0⟩, ⟨.datastore, "ds"⟩, "volume", 1024⟩)]

set_option maxRecDepth 10000 in
/-- The first create is inside and the others wait; then the second is aborted, the third finds the disk of the first,
and the table is empty. -/
theorem name_locks_vanish_when_unused_hurried :
    ∃ c c' : Chronicle Inventory (Except Error CreateOutcome), ∃ disk,
      Chronicle.Runs Inventory.rough (fun _ _ => True)
        (.start { platform := .small } (VolumeStore.creates ⟨true, 0⟩ hurriedCreates)) c ∧
      Chronicle.Runs Inventory.rough (fun _ _ => True)
        (.start { platform := .small } (VolumeStore.creates ⟨true, 0⟩ hurriedCreates)) c' ∧
      c.system.world.locks = ⟨[⟨3, some 0, [1, 2]⟩], [(⟨0, "volume"⟩, 0)]⟩ ∧ c.UnderWay 0 ∧
      c'.result? 0 = some (.ok (.created disk)) ∧
      c'.result? 1 = some (.error (.deadlineExceeded "AcquireNameLock")) ∧
      c'.result? 2 = some (.ok (.existing disk)) ∧ c'.system.world.locks.find? ⟨0, "volume"⟩ = none := by
  let store : VolumeStore := ⟨true, 0⟩
  let jobs := store.creates hurriedCreates
  let w : World Inventory := { platform := .small }
  have hStore : store.serializes = true := rfl
  have hLocks : w.locks.table = [] := rfl
  have hAdmits : ∀ ctx, Inventory.rough.Admits ctx := fun _ _ _ _ _ => trivial
  -- Each thread goes as far as it can: the first one to the platform, the others to the lock.
  let waiting := [0, 1, 2].foldl System.advance (System.start w jobs)
  have hWaiting : waiting.world.locks = ⟨[⟨3, some 0, [1, 2]⟩], [(⟨0, "volume"⟩, 0)]⟩ := by decide +kernel
  obtain ⟨turns, hBegun⟩ := Chronicle.exists_advances hAdmits [0, 1, 2] (.start w jobs) []
  have hUnderWay : Chronicle.UnderWay ⟨waiting, turns⟩ 0 := by
    have hEntry : waiting.world.locks.find? ⟨0, "volume"⟩ = some 0 := by rw [hWaiting]; rfl
    have hHolder : waiting.world.locks.isHeldBy 0 0 := by rw [hWaiting]; rfl
    obtain ⟨call, t, -, -, hUnderWay, -⟩ :=
      (name_locks_vanish_when_unused hStore hLocks hurriedCreates hBegun).held hEntry hHolder
    exact hUnderWay
  obtain ⟨s, hSystem, -, hResults⟩ := Lab.exists_runs 100 w jobs fun job _ => hAdmits job.1
  obtain ⟨turns', hEnded⟩ := Chronicle.exists_runs_of_system hSystem []
  let disk : Disk := ⟨Inventory.idText 1, "volume", 1024, .datastore "ds",
    .file (Inventory.backingPath "ds" (Inventory.idText 1))⟩
  have hFirst : s.result? 0 = some (.ok (.created disk)) := hResults 0 _ (by decide +kernel)
  have hSecond : s.result? 1 = some (.error (.deadlineExceeded "AcquireNameLock")) := hResults 1 _ (by decide +kernel)
  have hThird : s.result? 2 = some (.ok (.existing disk)) := hResults 2 _ (by decide +kernel)
  refine ⟨_, _, disk, hBegun, hEnded, hWaiting, hUnderWay, hFirst, hSecond, hThird,
    (name_locks_vanish_when_unused hStore hLocks hurriedCreates hEnded).vanished ?_⟩
  intro number call t hCarries _ hBusy
  obtain ⟨ctx, hCall⟩ := hCarries.call
  have hNumber : number < 3 := (List.getElem?_eq_some_iff.1 hCall).1
  obtain rfl | rfl | rfl : number = 0 ∨ number = 1 ∨ number = 2 := by omega
  · cases hFirst.symm.trans hBusy.unfinished
  · cases hSecond.symm.trans hBusy.unfinished
  · cases hThird.symm.trans hBusy.unfinished

end VolumeController
