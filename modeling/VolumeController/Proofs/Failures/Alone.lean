import VolumeController.Proofs.Interleaving.Agreement
import VolumeController.Proofs.Interleaving.Locking
import VolumeController.Proofs.Inventory.Cleared
/-! A thread alone with an inventory in which any call may fail and any wait may be aborted. Its stage says what
the inventory holds; only the answer of a call that did not fail changes that. Searches for zones fail throughout
or not at all. -/

namespace VolumeController

open Rules

variable {α β : Type}

namespace Faults

theorem failure?_clear_of_ne (f : Faults) {kind other : CallKind} (h : other ≠ kind) :
    (f.clear kind).failure? other = f.failure? other := by
  simp only [failure?, clear]
  induction f.failures with
  | nil => rfl
  | cons entry rest ih =>
      obtain ⟨key, failure⟩ := entry
      by_cases hKey : key = kind
      · subst hKey
        simpa [List.lookup_cons, beq_eq_false_iff_ne.mpr h] using ih
      · by_cases hOther : other = key <;> simp [List.lookup_cons, hKey, hOther, ih]

theorem failure?_fail_of_ne (f : Faults) {kind other : CallKind} (failure : BackendError) (h : other ≠ kind) :
    (f.fail kind failure).failure? other = f.failure? other := by
  rw [← f.failure?_clear_of_ne h]
  simp [failure?, fail, clear, List.lookup_cons, beq_eq_false_iff_ne.mpr h]

end Faults

/-- Commands that change whether searches for zones fail. -/
def InventoryCommand.ConcernsZones : InventoryCommand → Prop
  | .fail none kind _ => kind = .resolveZone
  | .clear none kind => kind = .resolveZone
  | _ => False

namespace Inventory

/-- How searches for zones fail. -/
def zoneFailure? (inv : Inventory) : Option BackendError :=
  inv.faults.failure? .resolveZone

/-- Contexts may end waits and calls may fail, except that searches for zones go on as they went before. -/
def unreliable : Surroundings Inventory :=
  ⟨True, fun c => ¬ c.Inserts ∧ ¬ c.ConcernsZones⟩

variable {inv inv' : Inventory}

theorem Effect.faults {c : Call} (h : inv.Effect c inv') : inv'.faults = inv.faults := by
  cases h <;> rfl

theorem zoneFailure?_start (inv : Inventory) (c : Call) :
    (Platform.start c inv).2.2.zoneFailure? = inv.zoneFailure? := by
  cases c <;> rfl

theorem zoneFailure?_obey (inv : Inventory) {c : InventoryCommand} (h : ¬ c.ConcernsZones) :
    (Bench.obey c inv).2.zoneFailure? = inv.zoneFailure? := by
  cases c with
  | fail dc kind failure =>
      cases dc with
      | none => exact inv.faults.failure?_fail_of_ne failure (Ne.symm h)
      | some dc => rfl
  | clear dc kind =>
      cases dc with
      | none => exact inv.faults.failure?_clear_of_ne (Ne.symm h)
      | some dc => rfl
  | delay dc latency => cases dc <;> rfl
  | countCalls dc kind => cases dc <;> rfl
  | insertDisk dc d =>
      simp only [Bench.obey, obey]
      split <;> rfl
  | countDisks dc => rfl
  | showDisk dc id => rfl
  | showNode dc node path => rfl

/-- The end of a call is a failure and nothing else, or it is the answer of the inventory without its faults. -/
theorem finish_cases (inv : Inventory) (c : Call) (ticket : Platform.Ticket Inventory) :
    (∃ failure, (Platform.finish c ticket inv).1 = .error failure ∧ (Platform.finish c ticket inv).2.2 = inv ∧
      (c.kind = .resolveZone → inv.zoneFailure? = some failure)) ∨
    (Platform.finish c ticket inv).1 = (inv.cleared.answer c).1 ∧
      (Platform.finish c ticket inv).2.2.cleared = (inv.cleared.answer c).2.2 ∧
      (c.kind = .resolveZone → inv.zoneFailure? = none) := by
  have hZone : c.kind = .resolveZone → inv.zoneFailure? = (inv.faultsOf c).failure? c.kind := by
    intro hKind
    cases c <;> first | rfl | cases hKind
  rw [answer_cleared]
  simp only [Platform.finish]
  cases hFault : (inv.faultsOf c).failure? c.kind with
  | some failure => exact .inl ⟨failure, rfl, rfl, fun hKind => (hZone hKind).trans hFault⟩
  | none => exact .inr ⟨rfl, rfl, fun hKind => (hZone hKind).trans hFault⟩

/-- A call that fails of itself changes nothing. -/
theorem answer_eq_of_error {c : Call} {failure : BackendError} (h : (inv.answer c).1 = .error failure) :
    (inv.answer c).2.2 = inv := by
  cases c with
  | createDisk dc pool name sizeMb =>
      cases hState : inv.state? dc with
      | none => simp only [answer, hState]
      | some s =>
          simp only [answer, hState, createDisk] at h ⊢
          cases hParent : s.placement pool with
          | error failure' => rfl
          | ok parent => simp only [hParent, reduceCtorEq] at h
  | deleteDisk dc pool id =>
      cases hState : inv.state? dc with
      | none => simp only [answer, hState]
      | some s =>
          simp only [answer, hState, deleteDisk] at h ⊢
          cases hRemove : s.removeDisk? pool id with
          | none => rfl
          | some s' => simp only [hRemove, reduceCtorEq] at h
  | attachDisk node path controller =>
      cases hState : inv.state? node.datacenter with
      | none => simp only [answer, hState]
      | some s =>
          simp only [answer, hState, attachDisk] at h
          cases hHandle : s.handle? node.name path <;> simp only [hHandle, reduceCtorEq] at h
  | detachDisk node path =>
      cases hState : inv.state? node.datacenter with
      | none => simp only [answer, hState]
      | some s =>
          simp only [answer, hState, detachDisk] at h ⊢
          cases hHandle : s.handle? node.name path with
          | none => rfl
          | some handle => simp only [hHandle, reduceCtorEq] at h
  | _ => rfl

/-- What a contract promises of calls that only read: nothing. -/
def reading : Contract where
  asks
    | .call c => c.reads
    | .listings _ => True
    | _ => False
  told _ _ := True

/-- Such calls leave everything as it is. -/
theorem upheld_reading (held : Inventory) (zone : Option BackendError) :
    reading.Upheld unreliable fun inv => inv.cleared = held ∧ inv.zoneFailure? = zone where
  start c inv _ h := ⟨(cleared_start inv c).trans h.1, (zoneFailure?_start inv c).trans h.2⟩
  finish c ticket inv hAsks h := by
    refine ⟨trivial, ?_⟩
    rwa [(effect_finish inv c ticket).eq_of_reads hAsks]
  command c inv hCommand h :=
    ⟨(cleared_obey inv hCommand.1).trans h.1, (zoneFailure?_obey inv hCommand.2).trans h.2⟩
  abort _ _ _ := trivial
  asksListings _ _ _ _ := rfl
  listings _ _ _ := trivial
  lock _ := trivial
  work _ := trivial

end Inventory

namespace Alone

/-- The one thread knows what the inventory holds, and how searches for zones fail. -/
def Holds (zone : Option BackendError) (w : World Inventory) (stages : List (Stage Inventory)) : Prop :=
  ∃ stage, stages = [stage] ∧ w.platform.cleared = stage.known ∧ w.platform.zoneFailure? = zone

/-- The rules of a thread alone. -/
abbrev rules (zone : Option BackendError) : Rules Inventory (Stage Inventory) :=
  underLocks True (Holds zone)

variable {zone : Option BackendError} {number : Nat} {grip : Grip} {inv : Inventory}

theorem ignoresLocks : IgnoresLocks (Holds zone) fun _ => True where
  locks := fun _ _ _ h => h
  grip := by
    rintro w _ number grip grip' known - hThread ⟨stage, rfl, hInventory, hZone⟩
    obtain ⟨rfl, rfl⟩ : number = 0 ∧ stage = ⟨grip, known⟩ := by
      cases number with
      | zero => exact ⟨rfl, Option.some.inj hThread⟩
      | succ number => cases hThread
    exact ⟨_, rfl, hInventory, hZone⟩

theorem records : (rules zone).IgnoresRecords where
  log := fun _ _ _ h => h
  metrics := fun _ _ _ h => h

theorem covers : (rules zone).Covers Inventory.unreliable where
  aborts := id
  clock := fun _ _ _ _ h => h
  cancel := fun _ _ _ h => h
  command := by
    rintro w stages c hCommand ⟨hLocks, stage, rfl, hInventory, hZone⟩
    exact ⟨hLocks, stage, rfl, (Inventory.cleared_obey _ hCommand.1).trans hInventory,
      (Inventory.zoneFailure?_obey _ hCommand.2).trans hZone⟩

/-- A change of the platform alone. -/
theorem leads {w w' : World Inventory} {after : Stage Inventory → Prop} (hLocks : w'.locks = w.locks)
    (h : w.platform.cleared = inv → w.platform.zoneFailure? = zone →
      w'.platform.zoneFailure? = zone ∧ after ⟨grip, w'.platform.cleared⟩) :
    (rules zone).Leads number ⟨grip, inv⟩ w w' after := by
  rintro _ ⟨hAgrees, stage, rfl, hInventory, hZone⟩ hStage
  obtain ⟨rfl, rfl⟩ : number = 0 ∧ stage = ⟨grip, inv⟩ := by
    cases number with
    | zero => exact ⟨rfl, Option.some.inj hStage⟩
    | succ number => cases hStage
  obtain ⟨hZone', hAfter⟩ := h hInventory hZone
  exact ⟨_, ⟨hLocks ▸ hAgrees, _, rfl, rfl, hZone'⟩, hAfter⟩

/-- A call is aborted, fails, or is answered; only an answer may change the inventory. -/
theorem call {operation : String} {c : Call} {goal : Except Error c.Reply → Stage Inventory → Prop}
    (hAbort : ∀ abort, goal (.error (Operation.abortError operation abort)) ⟨grip, inv⟩)
    (hFault : ∀ failure, (c.kind = .resolveZone → zone = some failure) → goal (.ok (.error failure)) ⟨grip, inv⟩)
    (hAnswer : (c.kind = .resolveZone → zone = none) → goal (.ok (inv.answer c).1) ⟨grip, (inv.answer c).2.2⟩) :
    (rules zone).Follows number goal (Operation.call operation c).run ⟨grip, inv⟩ := by
  refine Follows.call ⟨grip, inv⟩ ?_ ?_ ?_ ?_
  · exact fun _ abort w => leads rfl fun hInventory hZone => ⟨hZone, hInventory ▸ hAbort abort⟩
  · exact fun w => leads rfl fun hInventory hZone =>
      ⟨(Inventory.zoneFailure?_start _ c).trans hZone,
        congrArg (Stage.mk grip) ((Inventory.cleared_start _ c).trans hInventory)⟩
  · exact fun _ abort w => leads rfl fun hInventory hZone => ⟨hZone, hInventory ▸ hAbort abort⟩
  · intro w started
    refine leads rfl fun hInventory hZone => ?_
    refine ⟨?_, ?_⟩
    · exact (congrArg (·.failure? .resolveZone) (Inventory.effect_finish _ c started.ticket).faults).trans hZone
    · simp only [World.finish]
      rcases Inventory.finish_cases w.platform c started.ticket with
        ⟨failure, hReply, hSame, hFails⟩ | ⟨hReply, hAfter, hWorks⟩
      · rw [hReply, hSame, hInventory]
        exact hFault failure fun hKind => hZone.symm.trans (hFails hKind)
      · rw [hReply, hAfter, hInventory]
        exact hAnswer fun hKind => hZone.symm.trans (hWorks hKind)

/-- The same for what follows the call. -/
theorem callThen {operation : String} {c : Call} {f : c.Reply → Operation β}
    {goal : Except Error β → Stage Inventory → Prop}
    (hAbort : ∀ abort, goal (.error (Operation.abortError operation abort)) ⟨grip, inv⟩)
    (hFault : ∀ failure, (c.kind = .resolveZone → zone = some failure) →
      (rules zone).Follows number goal (f (.error failure)).run ⟨grip, inv⟩)
    (hAnswer : (c.kind = .resolveZone → zone = none) →
      (rules zone).Follows number goal (f (inv.answer c).1).run ⟨grip, (inv.answer c).2.2⟩) :
    (rules zone).Follows number goal (Operation.call operation c >>= f).run ⟨grip, inv⟩ :=
  .bindOperation (call hAbort hFault hAnswer)

/-- Whether a procedure leaves its thread at the stage that it is at, whatever it ends with. -/
def Keeps (zone : Option BackendError) (number : Nat) (p : Procedure α) : Prop :=
  ∀ stage, (rules zone).Follows number (fun _ after => after = stage) p stage

/-- What follows a procedure that keeps its stage goes on from there. -/
theorem Keeps.followedBy {p : Procedure α} {f : α → Procedure β} {stage : Stage Inventory}
    {goal : β → Stage Inventory → Prop} (h : Keeps zone number p)
    (hf : ∀ a, (rules zone).Follows number goal (f a) stage) : (rules zone).Follows number goal (p >>= f) stage := by
  apply Follows.bind
  apply (h stage).mono
  rintro a _ rfl
  exact hf a

theorem Keeps.followedByOperation {op : Operation α} {f : α → Operation β} {stage : Stage Inventory}
    {goal : Except Error β → Stage Inventory → Prop} (h : Keeps zone number op.run)
    (hError : ∀ e, goal (.error e) stage) (hf : ∀ a, (rules zone).Follows number goal (f a).run stage) :
    (rules zone).Follows number goal (op >>= f).run stage := by
  apply h.followedBy
  rintro (e | a)
  · exact hError e
  · exact hf a

namespace Keeps

theorem done (a : α) : Keeps zone number (.done a) :=
  fun _ => rfl

theorem bind {p : Procedure α} {f : α → Procedure β} (h : Keeps zone number p)
    (hf : ∀ a, Keeps zone number (f a)) : Keeps zone number (p >>= f) :=
  fun stage => h.followedBy fun a => hf a stage

theorem bindOperation {op : Operation α} {f : α → Operation β} (h : Keeps zone number op.run)
    (hf : ∀ a, Keeps zone number (f a).run) : Keeps zone number (op >>= f).run :=
  fun stage => h.followedByOperation (fun _ => rfl) fun a => hf a stage

theorem note (event : Event) : Keeps zone number (Operation.note event).run :=
  fun _ => Follows.note records rfl

theorem afterNote {event : Event} {op : Operation α} (h : Keeps zone number op.run) :
    Keeps zone number (do Operation.note event; op : Operation α).run :=
  bindOperation (note event) fun _ => h

theorem reject (cause : Cause) : Keeps zone number (Operation.reject cause : Operation α).run :=
  fun _ => Follows.reject records rfl

theorem ofCause (result : Except Cause α) : Keeps zone number (Operation.ofCause result).run :=
  fun _ => Follows.ofCause records (fun _ _ => rfl) fun _ _ => rfl

theorem attempt {op : Operation α} (h : Keeps zone number op.run) :
    Keeps zone number (Operation.attempt op).run :=
  h.bind fun _ => done _

theorem instrumented {name : String} {op : Operation α} (h : Keeps zone number op.run) :
    Keeps zone number (Controller.instrumented name op).run :=
  fun stage => Follows.instrumented records (h stage)

/-- A call that only reads. -/
theorem call (operation : String) {c : Call} (hReads : c.reads = true) :
    Keeps zone number (Operation.call operation c).run := by
  rintro ⟨grip, inv⟩
  apply Alone.call (fun _ => rfl) (fun _ _ => rfl)
  intro _
  exact congrArg (Stage.mk grip) ((Inventory.effect_answer inv c).eq_of_reads hReads)

/-- Listings of several datacenters. -/
theorem listings (operation : String) (dcs : List Datacenter) :
    Keeps zone number (Operation.wait operation (.listings dcs)).run := by
  rintro ⟨grip, inv⟩
  have hUpheld := Inventory.upheld_reading inv zone
  have hAsks : Inventory.reading.asks (.listings dcs) := trivial
  refine ⟨fun _ _ _ => .stay rfl fun _ h _ => h,
    fun stage pending => stage = ⟨grip, inv⟩ ∧ pending.Keeps Inventory.reading, ?_, ?_⟩
  · intro w
    have hLocks : (w.startSlots dcs).2.locks = w.locks := by
      obtain ⟨platform, log, calls, hSlots⟩ := w.exists_startSlots_eq dcs
      rw [hSlots]
    refine leads hLocks fun hInventory hZone => ?_
    obtain ⟨hKeeps, hInventory', hZone'⟩ :=
      World.keeps_openWait hUpheld number hAsks ⟨hInventory, hZone⟩
    exact ⟨hZone', congrArg (Stage.mk grip) hInventory', hKeeps⟩
  · rintro _ pending ⟨rfl, hKeeps⟩
    have hPolled (w : World Inventory) (hInventory : w.platform.cleared = inv)
        (hZone : w.platform.zoneFailure? = zone) :=
      World.keeps_poll hUpheld number hAsks hKeeps ⟨hInventory, hZone⟩
    have hLocks (w w' : World Inventory) (result : _ ⊕ _) (hPoll : w.poll number pending = (result, w')) :
        w'.locks = w.locks := by
      obtain ⟨platform, log, hPolled⟩ := w.exists_poll_eq number pending
      rw [← show (w.poll number pending).2 = w' by rw [hPoll], hPolled]
    refine ⟨fun _ _ _ => .stay rfl fun _ h _ => h, fun w answer w' hPoll => ?_, fun w pending' w' hPoll => ?_⟩
    · refine leads (hLocks w w' _ hPoll) fun hInventory hZone => ?_
      obtain ⟨⟨hInventory', hZone'⟩, -, -⟩ := hPolled w hInventory hZone
      rw [hPoll] at hInventory' hZone'
      exact ⟨hZone', congrArg (Stage.mk grip) hInventory'⟩
    · refine leads (hLocks w w' _ hPoll) fun hInventory hZone => ?_
      obtain ⟨⟨hInventory', hZone'⟩, -, hKept⟩ := hPolled w hInventory hZone
      rw [hPoll] at hInventory' hZone' hKept
      exact ⟨hZone', congrArg (Stage.mk grip) hInventory', hKept pending' rfl⟩

end Keeps

end Alone

end VolumeController
