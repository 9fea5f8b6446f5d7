import VolumeController.Proofs.Contracts
import VolumeController.Proofs.Interleaving.Locking
/-! A thread that carries out an operation under a lock: it takes a handle, waits for the lock, works, lets go of the
lock, gives the handle back and sweeps the table. `Stands` says where it is on this way and what its grip is there. Main
result: with each of its steps the thread comes to stand where the locks say. -/

namespace VolumeController

variable {σ α β : Type}

/-! What a procedure has still to do. -/

namespace Procedure

/-- Whether a procedure performs an action sooner or later, whatever it is told. -/
def Owes (action : Action) : Procedure α → Prop
  | .done _ => False
  | .act action' next => action' = action ∨ ∀ answer, Owes action (next answer)
  | .await _ next => ∀ answer, Owes action (next answer)

/-- Whether a procedure has nothing to do with locks: it writes to the log and puts calls to the platform. -/
inductive OffLocks : Procedure α → Prop where
  | done (a : α) : OffLocks (.done a)
  | note (event : Event) {next : Unit → Procedure α} (h : ∀ answer, OffLocks (next answer)) :
      OffLocks (.act (.note event) next)
  | call (c : Call) {next : Except Abort c.Reply → Procedure α} (h : ∀ answer, OffLocks (next answer)) :
      OffLocks (.await (.call c) next)

namespace OffLocks

variable {action : Action} {P : Prop}

/-- What is owed after work without locks is what is owed whatever the work ends with. -/
theorem owes_bind_iff {p : Procedure α} {f : α → Procedure β} (h : p.OffLocks)
    (hAction : ∀ event, .note event ≠ action) (hf : ∀ a, (f a).Owes action ↔ P) : (p >>= f).Owes action ↔ P := by
  induction h with
  | done a => exact hf a
  | note event _ ih => exact (or_iff_right (hAction event)).trans ⟨fun h => (ih ()).1 (h ()), fun h _ => (ih ()).2 h⟩
  | call c _ ih => exact ⟨fun h => (ih (.error .cancelled)).1 (h _), fun h answer => (ih answer).2 h⟩

theorem bind {p : Procedure α} {f : α → Procedure β} (h : p.OffLocks) (hf : ∀ a, (f a).OffLocks) :
    (p >>= f).OffLocks := by
  induction h with
  | done a => exact hf a
  | note event _ ih => exact .note event ih
  | call c _ ih => exact .call c ih

theorem bindOperation {op : Operation α} {f : α → Operation β} (h : OffLocks op.run)
    (hf : ∀ a, OffLocks (f a).run) : OffLocks (op >>= f).run := by
  apply h.bind
  rintro (e | a)
  · exact .done _
  · exact hf a

/-- What is left of such work is such work. -/
theorem path {p q : Procedure α} {told : List Exchange} (h : p.OffLocks) (hPath : p.Path told q) : q.OffLocks := by
  induction hPath with
  | refl p => exact h
  | act answer _ ih =>
      cases h with
      | note _ h => exact ih (h answer)
  | await answer _ ih =>
      cases h with
      | call _ h => exact ih (h answer)

theorem operationNote (event : Event) : OffLocks (Operation.note event).run :=
  .note event fun _ => .done _

theorem operationCall (operation : String) (c : Call) : OffLocks (Operation.call operation c).run := by
  refine .call c ?_
  rintro (abort | reply)
  · exact .done _
  · exact .done _

theorem reject (cause : Cause) : OffLocks (Operation.reject cause : Operation α).run :=
  (operationNote _).bindOperation fun _ => .done _

theorem create (dc : Datacenter) (pool : Pool) (name : String) (sizeMb : UInt64) :
    OffLocks (VolumeStore.create dc pool name sizeMb).run := by
  refine (operationCall _ _).bindOperation ?_
  rintro (failure | ⟨⟩)
  · exact reject _
  · refine (operationCall _ _).bindOperation ?_
    rintro (failure | _ | disk)
    · exact reject _
    · exact reject _
    · exact (operationNote _).bindOperation fun _ => .done _

theorem createUnlocked (dc : Datacenter) (pool : Pool) (name : String) (sizeMb : UInt64) :
    OffLocks (VolumeStore.createUnlocked dc pool name sizeMb).run := by
  refine (operationCall _ _).bindOperation ?_
  rintro (failure | _ | disk)
  · exact reject _
  · exact create dc pool name sizeMb
  · refine (operationNote _).bindOperation fun _ => ?_
    split
    · exact reject _
    · exact .done _

end OffLocks

end Procedure

/-! The parts of an operation under a lock. -/

namespace VolumeStore

variable {name : LockName} {lock : LockId} {op : Operation α} {action : Action}

/-- Gives the handle back, sweeps the table and ends. -/
def closing (name : LockName) (lock : LockId) (result : Except Error α) : Procedure (Except Error α) :=
  .act (.dropHandle lock) fun _ => .act (.sweep name) fun _ => .done result

/-- Works, lets go of the lock and closes. -/
def working (name : LockName) (lock : LockId) (p : Procedure (Except Error α)) : Procedure (Except Error α) :=
  p >>= fun result => .act (.unlock lock) fun _ => closing name lock result

/-- Works with the lock, or closes without it. -/
def admitted (name : LockName) (lock : LockId) (op : Operation α) : Except Abort Unit → Procedure (Except Error α)
  | .ok () => working name lock op.run
  | .error abort => closing name lock (.error (Operation.abortError "AcquireNameLock" abort))

/-- Whether what is left of an operation under a lock begins inside: with what is left of the operation itself. -/
def Inside (name : LockName) (lock : LockId) (op : Operation α) (p : Procedure (Except Error α)) : Prop :=
  ∃ told q, op.run.Path told q ∧ p = working name lock q

theorem locked_run (name : LockName) (op : Operation α) : (locked name op).run =
    .act (.takeHandle name) fun lock => .await (.lock lock) (admitted name lock op) := by
  refine congrArg (Procedure.act (.takeHandle name)) (funext fun lock => ?_)
  refine congrArg (Procedure.await (.lock lock)) (funext fun answer => ?_)
  cases answer with
  | error abort => rfl
  | ok held => exact Procedure.bind_assoc op.run _ _

theorem owes_closing_iff (result : Except Error α) :
    (closing name lock result).Owes action ↔ action = .dropHandle lock ∨ action = .sweep name := by
  simp [closing, Procedure.Owes, eq_comm]

theorem owes_working_iff {p : Procedure (Except Error α)} (h : p.OffLocks) (action : Action)
    (hAction : ∀ event, .note event ≠ action) : (working name lock p).Owes action ↔
      action = .unlock lock ∨ action = .dropHandle lock ∨ action = .sweep name :=
  h.owes_bind_iff hAction fun result => by simp [Procedure.Owes, owes_closing_iff, eq_comm]

/-- Whether the lock is granted or not, the handle is given back; but a lock that is not granted is not let go of. -/
theorem owes_await_iff (h : op.run.OffLocks) : (Procedure.await (.lock lock) (admitted name lock op)).Owes action ↔
    action = .dropHandle lock ∨ action = .sweep name := by
  refine ⟨fun hOwes => (owes_closing_iff _).1 (hOwes (.error .cancelled)), fun hAction answer => ?_⟩
  cases answer with
  | error abort => exact (owes_closing_iff _).2 hAction
  | ok held => exact (owes_working_iff h _ (by rintro event rfl; simp at hAction)).2 (.inr hAction)

theorem eq_of_owes_unlock {p : Procedure (Except Error α)} (h : p.OffLocks) {other : LockId}
    (hOwes : (working name other p).Owes (.unlock lock)) : lock = other := by
  simpa using (owes_working_iff h (.unlock lock) (by simp)).1 hOwes

/-- On which lock the handle will be is open at the beginning: no more is certain than that a handle is taken and that
the table is swept. -/
theorem eq_of_owes_locked (h : op.run.OffLocks) (hOwes : (locked name op).run.Owes action) :
    action = .takeHandle name ∨ action = .sweep name := by
  rw [locked_run] at hOwes
  rcases hOwes with hTake | hRest
  · exact .inl hTake.symm
  · have hEach (lock : LockId) : action = .dropHandle lock ∨ action = .sweep name :=
      (owes_await_iff h).1 (hRest lock)
    rcases hEach 0 with rfl | hSweep
    · simpa using hEach 1
    · exact .inr hSweep

theorem Inside.owes {p : Procedure (Except Error α)} (h : Inside name lock op p) (hOp : op.run.OffLocks) :
    p.Owes (.unlock lock) := by
  obtain ⟨told, q, hPath, rfl⟩ := h
  exact (owes_working_iff (hOp.path hPath) (.unlock lock) (by simp)).2 (.inl rfl)

/-- How far a thread that has begun to carry out an operation under a lock has come, and its grip there. -/
inductive Proceeds [Platform σ] (name : LockName) (op : Operation α) : Progress σ (Except Error α) → Grip → Prop where
  | handled (lock : LockId) :
      Proceeds name op (.running (.await (.lock lock) (admitted name lock op))) (.loose name lock)
  | queued (lock : LockId) : Proceeds name op (.waiting ⟨.lock lock, .lock, admitted name lock op⟩) (.queued name lock)
  | inside (lock : LockId) {told : List Exchange} {p : Procedure (Except Error α)} (h : op.run.Path told p) :
      Proceeds name op (.running (working name lock p)) (.inside name lock)
  | calling (lock : LockId) {told : List Exchange} {c : Call} (started : World.Started σ)
      {next : Except Abort c.Reply → Procedure (Except Error α)} (h : op.run.Path told (.await (.call c) next)) :
      Proceeds name op (.waiting ⟨.call c, .call started, fun answer => working name lock (next answer)⟩)
        (.inside name lock)
  | closing (lock : LockId) (result : Except Error α) :
      Proceeds name op (.running (closing name lock result)) (.loose name lock)
  | leaving (result : Except Error α) :
      Proceeds name op (.running (.act (.sweep name) fun _ => .done result)) (.leaving name)
  | ended (result : Except Error α) : Proceeds name op (.running (.done result)) .away

namespace Proceeds

variable [Platform σ] {progress : Progress σ (Except Error α)} {g : Grip}

/-- The handle that a thread has still to give back is the one that it has. -/
theorem owes_dropHandle_iff (h : Proceeds name op progress g) (hOp : op.run.OffLocks) (lock : LockId) :
    progress.rest.Owes (.dropHandle lock) ↔ g.handle? = some (name, lock) := by
  cases h with
  | handled other => simp [Progress.rest, owes_await_iff hOp, Grip.handle?, eq_comm]
  | queued other => simp [Progress.rest, owes_await_iff hOp, Grip.handle?, eq_comm]
  | inside other h => simp [Progress.rest, owes_working_iff (hOp.path h), Grip.handle?, eq_comm]
  | calling other started h =>
      refine (owes_working_iff (hOp.path h) (.dropHandle lock) (by simp)).trans ?_
      simp [Grip.handle?, eq_comm]
  | closing other result => simp [Progress.rest, owes_closing_iff, Grip.handle?, eq_comm]
  | leaving result => simp [Progress.rest, Procedure.Owes, Grip.handle?]
  | ended result => simp [Progress.rest, Procedure.Owes, Grip.handle?]

/-- The lock that a thread has still to let go of is the one that it works under. -/
theorem eq_inside_of_owes_unlock (h : Proceeds name op progress g) (hOp : op.run.OffLocks)
    (hOwes : progress.rest.Owes (.unlock lock)) : g = .inside name lock := by
  cases h with
  | handled other => simp [Progress.rest, owes_await_iff hOp] at hOwes
  | queued other => simp [Progress.rest, owes_await_iff hOp] at hOwes
  | inside other h => rw [eq_of_owes_unlock (hOp.path h) hOwes]
  | calling other started h => rw [eq_of_owes_unlock (hOp.path h) hOwes]
  | closing other result => simp [Progress.rest, owes_closing_iff] at hOwes
  | leaving result => simp [Progress.rest, Procedure.Owes] at hOwes
  | ended result => simp [Progress.rest, Procedure.Owes] at hOwes

/-- Calls are made only inside. -/
theorem exists_inside_of_call (h : Proceeds name op progress g) {c : Call}
    {next : Except Abort c.Reply → Procedure (Except Error α)} (hCall : progress.rest = .await (.call c) next) :
    ∃ lock, Inside name lock op progress.rest := by
  cases h with
  | inside lock h => exact ⟨lock, _, _, h, rfl⟩
  | calling lock started h => exact ⟨lock, _, _, h, rfl⟩
  | _ => cases hCall

/-- The lock that a thread waits for is the one that it has a handle on. -/
theorem handle?_of_await (h : Proceeds name op progress g) (hOp : op.run.OffLocks)
    {next : Except Abort Unit → Procedure (Except Error α)} (hWait : progress.rest = .await (.lock lock) next) :
    g.handle? = some (name, lock) := by
  cases h with
  | handled other =>
      cases hWait
      rfl
  | queued other =>
      cases hWait
      rfl
  | inside other h => cases hOp.path h <;> cases hWait
  | _ => cases hWait

/-- A thread that has given its handle back has nothing left to do but to sweep the table. -/
theorem of_handle?_eq_none (h : Proceeds name op progress g) (hNone : g.handle? = none) (hAway : g ≠ .away) :
    ∃ result, progress.rest = .act (.sweep name) fun _ => .done result := by
  cases h with
  | leaving result => exact ⟨result, rfl⟩
  | ended result => exact absurd rfl hAway
  | _ => cases hNone

/-- A thread has ended when the locks have no part in it. -/
theorem result?_eq_none_iff (h : Proceeds name op progress g) (hOp : op.run.OffLocks) (ctx : Context) :
    (⟨ctx, progress⟩ : Thread σ (Except Error α)).result? = none ↔ g ≠ .away := by
  cases h with
  | inside lock h => cases hOp.path h <;> exact iff_of_true rfl nofun
  | ended result => exact iff_of_false nofun fun hAway => hAway rfl
  | _ => exact iff_of_true rfl nofun

variable {aborts : Prop} {number : Nat} {ctx : Context} {t t' : Thread σ (Except Error α)} {w w' : World σ}
  {grips : List Grip}

/-- The first step of a thread gives it a handle. -/
theorem begin (hAgrees : w.locks.Agrees grips) (hGrip : grips[number]? = some .away)
    (hStep : Thread.Step aborts number ⟨ctx, .running (locked name op).run⟩ w t' w') :
    ∃ g', Proceeds name op t'.progress g' ∧ w'.locks.Agrees (grips.set number g') := by
  rw [locked_run] at hStep
  cases hStep with
  | act => exact ⟨_, .handled _, hAgrees.takeHandle hGrip name⟩

/-- With each step a thread comes to stand where the locks say. -/
theorem step (h : Proceeds name op t.progress g) (hOp : op.run.OffLocks) (hAgrees : w.locks.Agrees grips)
    (hGrip : grips[number]? = some g) (hStep : t.Step aborts number w t' w') :
    ∃ g', Proceeds name op t'.progress g' ∧ w'.locks.Agrees (grips.set number g') := by
  have hStays : w.locks.Agrees (grips.set number g) := by rwa [set_of_getElem? hGrip]
  obtain ⟨ctx, progress⟩ := t
  change Proceeds name op progress g at h
  cases h with
  | handled lock =>
      cases hStep with
      | refuse => exact ⟨_, .closing lock _, hStays⟩
      | enter => exact ⟨_, .queued lock, hAgrees.request hGrip⟩
  | queued lock =>
      cases hStep with
      | abandon => exact ⟨_, .closing lock _, hAgrees.withdraw hGrip⟩
      | answer hAbort hPoll =>
          obtain ⟨hHeld, rfl⟩ := World.answer_of_poll_lock hPoll
          exact ⟨_, .inside lock (.refl _), hAgrees.grant hGrip hHeld⟩
      | linger hAbort hPoll =>
          obtain ⟨rfl, rfl⟩ := World.pending_of_poll_lock hPoll
          exact ⟨_, .queued lock, hStays⟩
  | inside lock hPath =>
      cases hOp.path hPath with
      | done result =>
          cases hStep with
          | act => exact ⟨_, .closing lock result, hAgrees.release hGrip⟩
      | note event =>
          cases hStep with
          | act => exact ⟨_, .inside lock (hPath.trans (.act () (.refl _))), hStays⟩
      | call c =>
          cases hStep with
          | refuse => exact ⟨_, .inside lock (hPath.trans (.await _ (.refl _))), hStays⟩
          | enter => exact ⟨_, .calling lock _ hPath, hStays⟩
  | calling lock started hPath =>
      cases hStep with
      | abandon => exact ⟨_, .inside lock (hPath.trans (.await _ (.refl _))), hStays⟩
      | answer hAbort hPoll =>
          obtain ⟨-, rfl⟩ := World.answer_of_poll_call hPoll
          exact ⟨_, .inside lock (hPath.trans (.await _ (.refl _))), hStays⟩
      | linger hAbort hPoll =>
          obtain ⟨rfl, rfl⟩ := World.pending_of_poll_call hPoll
          exact ⟨_, .calling lock started hPath, hStays⟩
  | closing lock result =>
      cases hStep with
      | act => exact ⟨_, .leaving result, hAgrees.dropHandle hGrip⟩
  | leaving result =>
      cases hStep with
      | act => exact ⟨_, .ended result, hAgrees.sweep hGrip⟩
  | ended result => cases hStep

/-- What a grip is about is the name of the lock. -/
theorem name_eq (h : Proceeds name op progress g) {name' : LockName} {lock : LockId}
    (hUse : g.handle? = some (name', lock) ∨ g = .leaving name') : name' = name := by
  cases h <;> simp_all [Grip.handle?]

/-- A thread in the line of the lock is inside, or waits to be let in. -/
theorem of_inLine (h : Proceeds name op progress g) (hInLine : g.InLine name lock) :
    Inside name lock op progress.rest ∨ progress.rest = .await (.lock lock) (admitted name lock op) := by
  cases h with
  | queued other =>
      obtain rfl := ((Grip.inLine_queued _ _ _ _).1 hInLine).2
      exact .inr rfl
  | inside other h =>
      obtain rfl := ((Grip.inLine_inside _ _ _ _).1 hInLine).2
      exact .inl ⟨_, _, h, rfl⟩
  | calling other started h =>
      obtain rfl := ((Grip.inLine_inside _ _ _ _).1 hInLine).2
      exact .inl ⟨_, _, h, rfl⟩
  | _ => exact absurd hInLine (by simp)

end Proceeds

/-- Where a thread stands with the lock that it carries an operation out under: at its beginning it has no grip. -/
inductive Stands [Platform σ] (begun : Prop) (name : LockName) (op : Operation α) :
    Progress σ (Except Error α) → Grip → Prop where
  | begin (h : ¬ begun) : Stands begun name op (.running (locked name op).run) .away
  | begun (h : begun) {progress : Progress σ (Except Error α)} {g : Grip} (hProceeds : Proceeds name op progress g) :
      Stands begun name op progress g

namespace Stands

variable [Platform σ] {begun aborts : Prop} {number : Nat} {t t' : Thread σ (Except Error α)} {w w' : World σ}
  {g : Grip} {grips : List Grip} {progress : Progress σ (Except Error α)}

theorem congr {begun' : Prop} (h : Stands begun name op progress g) (hSame : begun ↔ begun') :
    Stands begun' name op progress g :=
  propext hSame ▸ h

theorem owes_dropHandle_iff (h : Stands begun name op progress g) (hOp : op.run.OffLocks) (lock : LockId) :
    progress.rest.Owes (.dropHandle lock) ↔ g.handle? = some (name, lock) := by
  cases h with
  | begin => exact iff_of_false (fun hOwes => by simpa using eq_of_owes_locked hOp hOwes) nofun
  | begun _ hProceeds => exact hProceeds.owes_dropHandle_iff hOp lock

theorem eq_inside (h : Stands begun name op progress g) (hOp : op.run.OffLocks)
    (hInside : Inside name lock op progress.rest) : g = .inside name lock := by
  cases h with
  | begin => simpa using eq_of_owes_locked hOp (hInside.owes hOp)
  | begun _ hProceeds => exact hProceeds.eq_inside_of_owes_unlock hOp (hInside.owes hOp)

theorem exists_inside_of_call (h : Stands begun name op progress g) {c : Call}
    {next : Except Abort c.Reply → Procedure (Except Error α)} (hCall : progress.rest = .await (.call c) next) :
    ∃ lock, Inside name lock op progress.rest := by
  cases h with
  | begin =>
      rw [Progress.rest, locked_run] at hCall
      cases hCall
  | begun _ hProceeds => exact hProceeds.exists_inside_of_call hCall

theorem handle?_of_await (h : Stands begun name op progress g) (hOp : op.run.OffLocks)
    {next : Except Abort Unit → Procedure (Except Error α)} (hWait : progress.rest = .await (.lock lock) next) :
    g.handle? = some (name, lock) := by
  cases h with
  | begin =>
      rw [Progress.rest, locked_run] at hWait
      cases hWait
  | begun _ hProceeds => exact hProceeds.handle?_of_await hOp hWait

/-- A thread is on its way as long as the locks have a part in it. -/
theorem underWay_iff (h : Stands begun name op t.progress g) (hOp : op.run.OffLocks) :
    begun ∧ t.result? = none ↔ g ≠ .away := by
  obtain ⟨ctx, progress⟩ := t
  change Stands begun name op progress g at h
  cases h with
  | begin hNot => exact iff_of_false (fun hBoth => hNot hBoth.1) fun hAway => hAway rfl
  | begun hBegun hProceeds => exact (and_iff_right hBegun).trans (hProceeds.result?_eq_none_iff hOp ctx)

/-- A thread with a grip has begun. -/
theorem proceeds (h : Stands begun name op progress g) (hGrip : g ≠ .away) : Proceeds name op progress g := by
  cases h with
  | begin => exact absurd rfl hGrip
  | begun _ hProceeds => exact hProceeds

/-- With each step a thread comes to stand where the locks say. -/
theorem step (h : Stands begun name op t.progress g) (hOp : op.run.OffLocks) (hAgrees : w.locks.Agrees grips)
    (hGrip : grips[number]? = some g) (hStep : t.Step aborts number w t' w') :
    ∃ g', Proceeds name op t'.progress g' ∧ w'.locks.Agrees (grips.set number g') := by
  obtain ⟨ctx, progress⟩ := t
  change Stands begun name op progress g at h
  cases h with
  | begin => exact Proceeds.begin hAgrees hGrip hStep
  | begun _ hProceeds => exact hProceeds.step hOp hAgrees hGrip hStep

end Stands

end VolumeStore

end VolumeController
