import VolumeController.Proofs.Interleaving.Operations
import VolumeController.Proofs.Locks
/-! The rule for work done under a name lock. A stage is a thread's grip on the locks together with what
the thread knows; knowledge is gained inside a lock and given up before the lock is. -/

namespace VolumeController

/-- Where a thread stands with the locks, and what it may rely on. -/
structure Stage (κ : Type) where
  grip : Grip
  known : κ

/-- What a thread knows does not show in its grip. -/
theorem Stage.map_grip_set {κ : Type} {stages : List (Stage κ)} {number : Nat} {grip : Grip}
    {known : κ} (h : stages[number]? = some ⟨grip, known⟩) (known' : κ) :
    (stages.set number ⟨grip, known'⟩).map Stage.grip = stages.map Stage.grip := by
  rw [List.map_set]
  exact set_of_getElem? (by rw [List.getElem?_map, h]; rfl)

/-- The grip of a thread does not show in what it knows. -/
theorem Stage.map_known_set {κ : Type} {stages : List (Stage κ)} {number : Nat} {grip : Grip} {known : κ}
    (h : stages[number]? = some ⟨grip, known⟩) (grip' : Grip) :
    (stages.set number ⟨grip', known⟩).map Stage.known = stages.map Stage.known := by
  rw [List.map_set]
  exact set_of_getElem? (by rw [List.getElem?_map, h]; rfl)

/-- Threads that have not begun agree with an empty table. -/
theorem NameLocks.Agrees.replicate {κ : Type} {locks : NameLocks} (h : locks.table = []) (n : Nat)
    (known : κ) : locks.Agrees ((List.replicate n (⟨.away, known⟩ : Stage κ)).map Stage.grip) := by
  rw [List.map_replicate]
  exact .of_table_nil h fun _ _ hGrip => List.eq_of_mem_replicate (List.mem_of_getElem? hGrip)

namespace Rules

variable {σ κ α : Type}

/-- The rules of an invariant that is kept besides the agreement of the locks. -/
def underLocks (aborts : Prop) (J : World σ → List (Stage κ) → Prop) : Rules σ (Stage κ) where
  invariant w stages := w.locks.Agrees (stages.map Stage.grip) ∧ J w stages
  aborts := aborts

/-- An invariant that is not about locks. Knowledge is free if it owes nothing to the grip of the thread
that has it. -/
structure IgnoresLocks (J : World σ → List (Stage κ) → Prop) (free : κ → Prop) : Prop where
  locks : ∀ w locks stages, J w stages → J { w with locks } stages
  grip : ∀ (w : World σ) (stages : List (Stage κ)) (number : Nat) (grip grip' : Grip) (known : κ),
    free known → stages[number]? = some ⟨grip, known⟩ → J w stages →
      J w (stages.set number ⟨grip', known⟩)

variable {aborts : Prop} {J : World σ → List (Stage κ) → Prop} {free : κ → Prop} {known : κ}
  {number : Nat}

/-- A change of the locks alone moves the grip of a thread whose knowledge is free. -/
theorem Leads.regrip (hJ : IgnoresLocks J free) (hFree : free known) {w : World σ} {locks : NameLocks}
    {grip : Grip} (grip' : Grip) {after : Stage κ → Prop} (hAfter : after ⟨grip', known⟩)
    (h : ∀ grips, w.locks.Agrees grips → grips[number]? = some grip →
      locks.Agrees (grips.set number grip')) :
    (underLocks aborts J).Leads number ⟨grip, known⟩ w { w with locks } after := by
  rintro stages ⟨hLocks, hRest⟩ hStage
  refine ⟨⟨grip', known⟩, ⟨?_, ?_⟩, hAfter⟩
  · rw [List.map_set]
    exact h _ hLocks (by simp [hStage])
  · exact hJ.locks _ _ _ (hJ.grip w stages number grip grip' known hFree hStage hRest)

variable [Platform σ]

namespace Follows

theorem giveBack (hJ : IgnoresLocks J free) (hFree : free known) {name : LockName} {lock : LockId}
    {result : α} {goal : α → Stage κ → Prop} (h : goal result ⟨.away, known⟩) :
    (underLocks aborts J).Follows number goal
      (do
        Procedure.perform (.dropHandle lock)
        Procedure.perform (.sweep name)
        return result : Procedure α) ⟨.loose name lock, known⟩ := by
  intro w
  refine Leads.regrip hJ hFree (.leaving name) ?_ fun grips hLocks hGrip => hLocks.dropHandle hGrip
  intro w
  exact Leads.regrip hJ hFree .away h fun grips hLocks hGrip => hLocks.sweep hGrip

/-- Waiting for a lock, working under it and letting go of it leave the thread with its handle. -/
theorem whileHeld (hJ : IgnoresLocks J free) (hFree : free known) {name : LockName} {lock : LockId}
    {op : Operation α} {goal : Except Error α → κ → Prop}
    (hAbort : aborts → ∀ abort, goal (.error (Operation.abortError "AcquireNameLock" abort)) known)
    (hOp : (underLocks aborts J).Follows number
      (fun result g => g.grip = .inside name lock ∧ free g.known ∧ goal result g.known) op.run
      ⟨.inside name lock, known⟩) :
    (underLocks aborts J).Follows number
      (fun result g => g.grip = .loose name lock ∧ free g.known ∧ goal result g.known)
      (do
        match ← (Operation.wait "AcquireNameLock" (.lock lock)).run with
        | .ok () =>
          let result ← op.run
          Procedure.perform (.unlock lock)
          return result
        | .error e => return .error e : Procedure (Except Error α)) ⟨.loose name lock, known⟩ := by
  have hWork : (underLocks aborts J).Follows number
      (fun result g => g.grip = .loose name lock ∧ free g.known ∧ goal result g.known)
      (do
        let result ← op.run
        Procedure.perform (.unlock lock)
        return result : Procedure (Except Error α)) ⟨.inside name lock, known⟩ := by
    refine bind (hOp.mono ?_)
    rintro result ⟨grip, known'⟩ ⟨rfl, hFree', hGoal⟩ w
    exact Leads.regrip hJ hFree' _ ⟨rfl, hFree', hGoal⟩ fun grips hLocks hGrip => hLocks.release hGrip
  refine awaitLock ⟨.queued name lock, known⟩ ?_ ?_ ?_ ?_
  · intro hAborts abort w
    exact Leads.stay ⟨rfl, hFree, hAbort hAborts abort⟩ fun _ hInvariant _ => hInvariant
  · intro w
    exact Leads.regrip hJ hFree _ rfl fun grips hLocks hGrip => hLocks.request hGrip
  · intro hAborts abort w
    exact Leads.regrip hJ hFree _ ⟨rfl, hFree, hAbort hAborts abort⟩
      fun grips hLocks hGrip => hLocks.withdraw hGrip
  · intro w hHeld
    exact Leads.regrip hJ hFree _ hWork fun grips hLocks hGrip => hLocks.grant hGrip hHeld

/-- Work under a lock: it may rely on being the only thread inside the lock of its name, and must end
with knowledge that is free. -/
theorem locked (goal : Except Error α → κ → Prop) (hJ : IgnoresLocks J free) (hFree : free known)
    {name : LockName} {op : Operation α}
    (hAbort : aborts → ∀ abort, goal (.error (Operation.abortError "AcquireNameLock" abort)) known)
    (hOp : ∀ lock, (underLocks aborts J).Follows number
      (fun result g => g.grip = .inside name lock ∧ free g.known ∧ goal result g.known) op.run
      ⟨.inside name lock, known⟩) :
    (underLocks aborts J).Follows number (fun result g => g.grip = .away ∧ goal result g.known)
      (VolumeStore.locked name op).run ⟨.away, known⟩ := by
  intro w
  refine Leads.regrip hJ hFree (.loose name (w.locks.takeHandle name).1) ?_
    fun grips hLocks hGrip => hLocks.takeHandle hGrip name
  have hHeld := whileHeld hJ hFree hAbort (hOp (w.locks.takeHandle name).1)
  have hBack : ∀ (result : Except Error α) (g : Stage κ),
      g.grip = .loose name (w.locks.takeHandle name).1 ∧ free g.known ∧ goal result g.known →
      (underLocks aborts J).Follows number (fun result g => g.grip = .away ∧ goal result g.known)
        (do
          Procedure.perform (.dropHandle (w.locks.takeHandle name).1)
          Procedure.perform (.sweep name)
          return result : Procedure (Except Error α)) g := by
    rintro result ⟨grip, known'⟩ ⟨rfl, hFree', hGoal⟩
    exact giveBack hJ hFree' ⟨rfl, hGoal⟩
  have hBoth := bind (hHeld.mono hBack)
  exact hBoth

end Follows

end Rules

end VolumeController
