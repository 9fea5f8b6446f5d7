import VolumeController.Proofs.Interleaving.Locking
import VolumeController.Proofs.Interleaving.Schedule
import VolumeController.Proofs.Inventory
/-! A volume store that serializes creates, over an inventory. However its creates and deletes
interleave, whatever goes wrong and whoever gives up, the disks of one name in one pool do not multiply
and every create gets the size that it asked for. -/

namespace VolumeController

open Rules

/-- What is asked of a volume store. -/
inductive StoreRequest where
  | create (datacenter : Datacenter) (pool : Pool) (name : String) (sizeMb : UInt64)
  | delete (datacenter : Datacenter) (pool : Pool) (id : String)

/-- Does what is asked; a create returns its disk. -/
def VolumeStore.serve (store : VolumeStore) : StoreRequest → Operation (Option Disk)
  | .create dc pool name sizeMb => do return some (← store.createOrGet dc pool name sizeMb).disk
  | .delete dc pool id => do
    VolumeStore.delete dc pool id
    return none

/-- What a create knows, inside the lock of its name, of the disks of its name in its pool. -/
inductive Sight where
  | blank
  | vacant
  | creating
  | sized (sizeMb : UInt64)

namespace Sight

/-- Whether the disks are as they are known to be. -/
def Fits : Sight → List Disk → Prop
  | .blank, _ => True
  | .vacant, disks => disks = []
  | .creating, disks => disks = []
  | .sized sizeMb, disks => ∀ disk ∈ disks, disk.capacityMb = sizeMb

theorem Fits.sublist {sight : Sight} {disks disks' : List Disk} (h : sight.Fits disks)
    (hSublist : disks'.Sublist disks) : sight.Fits disks' := by
  cases sight with
  | blank => trivial
  | vacant => exact List.sublist_nil.1 (h ▸ hSublist)
  | creating => exact List.sublist_nil.1 (h ▸ hSublist)
  | sized sizeMb => exact fun disk hDisk => h disk (hSublist.subset hDisk)

end Sight

/-- A place, a pool and a name whose disks are watched; the name is that of a lock. In a calm run, over a
known layout, nothing fails, no context ends a wait and nothing is deleted. -/
structure Watch where
  lock : LockName
  place : Nat
  pool : Pool
  bound : Nat
  created : Nat
  calm : Prop
  layout : Inventory

namespace Watch

variable (t : Watch)

/-- The watched disks. -/
def disks (w : World Inventory) : List Disk :=
  w.platform.named t.place t.pool t.lock.name

/-- How many creations of a watched disk were started. -/
def creations (w : World Inventory) : Nat :=
  w.calls.countP (·.creates t.place t.pool t.lock.name)

/-- Whether watched disks can be created. -/
def Offered : Prop :=
  t.layout.Offers t.place t.pool

/-- What holds of the watched disks at every moment. Only a thread inside the lock of the name knows
anything, so at most one does. -/
structure Holds (w : World Inventory) (stages : List (Stage Sight)) : Prop where
  few : (t.disks w).length ≤ t.bound
  inside : ∀ (i : Nat) stage, stages[i]? = some stage → stage.known ≠ .blank →
    ∃ lock, stage.grip = .inside t.lock lock
  fits : ∀ (i : Nat) stage, stages[i]? = some stage → stage.known.Fits (t.disks w)
  calm : t.calm → w.platform.Faultless ∧ w.platform.layout = t.layout
  once : t.calm → t.Offered → t.creations w ≤ t.created + 1 ∧ (t.creations w = t.created + 1 →
    t.disks w ≠ [] ∨ ∃ (i : Nat) (grip : Grip), stages[i]? = some ⟨grip, .creating⟩)

variable {t : Watch} {w w' : World Inventory} {stages : List (Stage Sight)}

/-- What happens elsewhere can only take from the watched disks, and in calm not even that. -/
theorem Holds.shrink (h : t.Holds w stages) (hDisks : (t.disks w').Sublist (t.disks w))
    (hKeep : t.calm → t.disks w' = t.disks w)
    (hCalm : t.calm → w'.platform.Faultless ∧ w'.platform.layout = w.platform.layout)
    (hCreations : t.creations w' = t.creations w) : t.Holds w' stages := by
  refine ⟨Nat.le_trans hDisks.length_le h.few, h.inside, ?_, ?_, ?_⟩
  · exact fun i stage hStage => (h.fits i stage hStage).sublist hDisks
  · intro hIs
    rw [(hCalm hIs).2]
    exact ⟨(hCalm hIs).1, (h.calm hIs).2⟩
  · intro hIs hOffered
    rw [hCreations, hKeep hIs]
    exact h.once hIs hOffered

/-- While one thread is inside the lock the others know nothing. -/
theorem Holds.blank_of_ne (h : t.Holds w stages) {l : NameLocks}
    (hLocks : l.Agrees (stages.map Stage.grip)) {number : Nat} {lock : LockId} {known : Sight}
    (hThread : stages[number]? = some ⟨.inside t.lock lock, known⟩) {i : Nat} {stage : Stage Sight}
    (hOther : i ≠ number) (hStage : stages[i]? = some stage) : stage.known = .blank := by
  by_cases hKnown : stage.known = .blank
  · exact hKnown
  · obtain ⟨lock', hGrip⟩ := h.inside i stage hStage hKnown
    have hOtherGrip : (stages.map Stage.grip)[i]? = some (.inside t.lock lock') := by
      simp [hStage, hGrip]
    have hThreadGrip : (stages.map Stage.grip)[number]? = some (.inside t.lock lock) := by
      simp [hThread]
    exact absurd (hLocks.inside_unique hOtherGrip hThreadGrip) hOther

/-- What the thread inside the lock does, and what it knows afterwards. -/
theorem Holds.act (h : t.Holds w stages) (hLocks : w.locks.Agrees (stages.map Stage.grip))
    {number : Nat} {lock : LockId} {known known' : Sight}
    (hThread : stages[number]? = some ⟨.inside t.lock lock, known⟩)
    (hFew : (t.disks w').length ≤ t.bound) (hFits : known'.Fits (t.disks w'))
    (hCalm : t.calm → w'.platform.Faultless ∧ w'.platform.layout = w.platform.layout)
    (hOnce : t.calm → t.Offered → t.creations w' ≤ t.created + 1 ∧
      (t.creations w' = t.created + 1 → t.disks w' ≠ [] ∨ known' = .creating)) :
    t.Holds w' (stages.set number ⟨.inside t.lock lock, known'⟩) := by
  have hNumber := (List.getElem?_eq_some_iff.1 hThread).1
  refine ⟨hFew, ?_, ?_, ?_, ?_⟩
  · intro i stage hStage hKnown
    rcases getElem?_set_cases hStage with ⟨-, rfl⟩ | ⟨-, hStage⟩
    · exact ⟨lock, rfl⟩
    · exact h.inside i stage hStage hKnown
  · intro i stage hStage
    rcases getElem?_set_cases hStage with ⟨-, rfl⟩ | ⟨hOther, hStage⟩
    · exact hFits
    · rw [h.blank_of_ne hLocks hThread (Ne.symm hOther) hStage]
      trivial
  · intro hIs
    rw [(hCalm hIs).2]
    exact ⟨(hCalm hIs).1, (h.calm hIs).2⟩
  · intro hIs hOffered
    refine ⟨(hOnce hIs hOffered).1, fun hCount => ?_⟩
    rcases (hOnce hIs hOffered).2 hCount with hSome | rfl
    · exact .inl hSome
    · exact .inr ⟨number, _, List.getElem?_set_self hNumber⟩

/-- In calm, a thread inside the lock that is not creating can tell from the count that there is a
disk. -/
theorem Holds.disks_ne_nil (h : t.Holds w stages) (hLocks : w.locks.Agrees (stages.map Stage.grip))
    {number : Nat} {lock : LockId} {known : Sight}
    (hThread : stages[number]? = some ⟨.inside t.lock lock, known⟩) (hIdle : known ≠ .creating)
    (hIs : t.calm) (hOffered : t.Offered) (hCount : t.creations w = t.created + 1) :
    t.disks w ≠ [] := by
  rcases (h.once hIs hOffered).2 hCount with hSome | ⟨i, grip, hCreating⟩
  · exact hSome
  · by_cases hi : i = number
    · subst hi
      rw [hThread] at hCreating
      cases hCreating
      exact absurd rfl hIdle
    · have hBlank := h.blank_of_ne hLocks hThread hi hCreating
      cases hBlank

/-- The watch does not look at the log, the counters, the locks or the clock. -/
theorem ignoresRecords (t : Watch) (aborts : Prop) : (underLocks aborts t.Holds).IgnoresRecords where
  log := fun _ _ _ h => ⟨h.1, h.2.few, h.2.inside, h.2.fits, h.2.calm, h.2.once⟩
  metrics := fun _ _ _ h => ⟨h.1, h.2.few, h.2.inside, h.2.fits, h.2.calm, h.2.once⟩

theorem ignoresLocks (t : Watch) : IgnoresLocks t.Holds (· = .blank) where
  locks := fun _ _ _ h => ⟨h.few, h.inside, h.fits, h.calm, h.once⟩
  grip := by
    rintro w stages number grip grip' known rfl hThread h
    refine ⟨h.few, ?_, ?_, h.calm, fun hIs hOffered =>
      ⟨(h.once hIs hOffered).1, fun hCount => ?_⟩⟩
    · intro i stage hStage hKnown
      rcases getElem?_set_cases hStage with ⟨-, rfl⟩ | ⟨-, hStage⟩
      · exact absurd rfl hKnown
      · exact h.inside i stage hStage hKnown
    · intro i stage hStage
      rcases getElem?_set_cases hStage with ⟨-, rfl⟩ | ⟨-, hStage⟩
      · trivial
      · exact h.fits i stage hStage
    · rcases (h.once hIs hOffered).2 hCount with hSome | ⟨i, grip'', hCreating⟩
      · exact .inl hSome
      · have hi : number ≠ i := by
          rintro rfl
          rw [hThread] at hCreating
          cases hCreating
        exact .inr ⟨i, grip'', by rwa [List.getElem?_set_ne hi]⟩

/-! Calls that create nothing under the watched name, and in calm delete nothing. -/

variable {c : Call}

theorem creates_of (t : Watch) (w : World Inventory) (c : Call)
    (hCreates : c.creates t.place t.pool t.lock.name = false) :
    t.creations (w.start c).2 = t.creations w := by
  simp [creations, World.start, hCreates]

theorem disks_start (t : Watch) (w : World Inventory) (c : Call) :
    t.disks (w.start c).2 = t.disks w :=
  congrArg (List.filter _) (Inventory.disksAt_start w.platform c t.place)

theorem calm_start (h : t.Holds w stages) (c : Call) (hIs : t.calm) :
    (w.start c).2.platform.Faultless ∧ (w.start c).2.platform.layout = w.platform.layout :=
  ⟨(h.calm hIs).1.start c, Inventory.layout_start w.platform c⟩

theorem calm_finish (h : t.Holds w stages) (started : World.Started Inventory) (hIs : t.calm) :
    (w.finish c started).2.platform.Faultless ∧
      (w.finish c started).2.platform.layout = w.platform.layout :=
  ⟨(h.calm hIs).1.finish c started.ticket, Inventory.layout_finish w.platform c started.ticket⟩

theorem Holds.start (h : t.Holds w stages) (hCreates : c.creates t.place t.pool t.lock.name = false) :
    t.Holds (w.start c).2 stages := by
  have hDisks := disks_start t w c
  refine h.shrink (by simp only [hDisks, List.Sublist.refl]) (fun _ => hDisks) (calm_start h c) ?_
  exact creates_of t w c hCreates

theorem Holds.finish (h : t.Holds w stages) (hCreates : c.creates t.place t.pool t.lock.name = false)
    (hDelete : t.calm → c.kind ≠ .deleteDisk) (started : World.Started Inventory) :
    t.Holds (w.finish c started).2 stages := by
  have hEffect := Inventory.effect_finish w.platform c started.ticket
  exact h.shrink (hEffect.named_sublist hCreates) (fun hIs => hEffect.named_eq hCreates (hDelete hIs))
    (calm_finish h started) rfl

variable {aborts : Prop} {number : Nat} {stage : Stage Sight} {operation : String}

theorem callElsewhere {goal : Except Error c.Reply → Stage Sight → Prop}
    (hCreates : c.creates t.place t.pool t.lock.name = false)
    (hDelete : t.calm → c.kind ≠ .deleteDisk) (h : ∀ result, goal result stage) :
    (underLocks aborts t.Holds).Follows number goal (Operation.call operation c).run stage := by
  refine Follows.callInPlace ?_ (fun _ _ => h _) ?_
  · exact fun w stages hInvariant => ⟨hInvariant.1, hInvariant.2.start hCreates⟩
  · intro w started
    exact Leads.stay (h _) fun stages hInvariant _ =>
      ⟨hInvariant.1, hInvariant.2.finish hCreates hDelete started⟩

/-- A delete leaves the thread where it is, except that there are none in calm. -/
theorem deleteElsewhere (hIs : ¬ t.calm) (dc : Datacenter) (pool : Pool) (id : String) :
    (underLocks aborts t.Holds).Follows number (fun _ g => g = stage)
      (VolumeStore.delete dc pool id).run stage := by
  refine Follows.bindOperation (callElsewhere rfl (fun h => absurd h hIs) ?_)
  rintro (e | failure | _)
  · rfl
  · exact Follows.reject (ignoresRecords t aborts) rfl
  · exact Follows.note (ignoresRecords t aborts) rfl

/-- A create of another disk leaves the thread where it is. -/
theorem createElsewhere {dc : Datacenter} {pool : Pool} {name : String} {sizeMb : UInt64}
    (hCreates : (Call.createDisk dc pool name sizeMb).creates t.place t.pool t.lock.name = false) :
    (underLocks aborts t.Holds).Follows number (fun _ g => g = stage)
      (VolumeStore.createUnlocked dc pool name sizeMb).run stage := by
  have hRecords := ignoresRecords t aborts
  have hCreate : (underLocks aborts t.Holds).Follows number (fun _ g => g = stage)
      (VolumeStore.create dc pool name sizeMb).run stage := by
    refine Follows.bindOperation (callElsewhere hCreates (fun _ => by simp [Call.kind]) ?_)
    rintro (e | failure | _)
    · rfl
    · exact Follows.reject hRecords rfl
    · refine Follows.bindOperation (callElsewhere rfl (fun _ => by simp [Call.kind]) ?_)
      rintro (e | failure | none | disk)
      · rfl
      · exact Follows.reject hRecords rfl
      · exact Follows.reject hRecords rfl
      · exact Follows.afterNote hRecords (Follows.pure rfl)
  refine Follows.bindOperation (callElsewhere rfl (fun _ => by simp [Call.kind]) ?_)
  rintro (e | failure | none | disk)
  · rfl
  · exact Follows.reject hRecords rfl
  · exact hCreate
  · refine Follows.afterNote hRecords ?_
    split
    · exact Follows.reject hRecords rfl
    · exact Follows.pure rfl

/-! The create of a watched disk, inside the lock of its name. -/

variable {lock : LockId} {known : Sight}

/-- Knowledge may be given up, but for a creation under way in calm. -/
theorem forget {after : Stage Sight → Prop} (hIdle : t.calm → known ≠ .creating)
    (hAfter : after ⟨.inside t.lock lock, .blank⟩) :
    (underLocks aborts t.Holds).Leads number ⟨.inside t.lock lock, known⟩ w w after := by
  rintro stages ⟨hLocks, hHolds⟩ hThread
  refine ⟨⟨_, .blank⟩, ⟨?_, hHolds.act hLocks hThread hHolds.few trivial ?_ ?_⟩, hAfter⟩
  · rwa [Stage.map_grip_set hThread]
  · exact fun hIs => ⟨(hHolds.calm hIs).1, rfl⟩
  · intro hIs hOffered
    exact ⟨(hHolds.once hIs hOffered).1, fun hCount =>
      .inl (hHolds.disks_ne_nil hLocks hThread (hIdle hIs) hIs hOffered hCount)⟩

/-- Looking a watched disk up. None is found only if there is none; a disk that is found has the size
that all are known to have. -/
theorem callFind {dc : Datacenter} (hPlace : dc.place = t.place)
    {goal : Except Error (Call.findByName dc t.pool t.lock.name).Reply → Stage Sight → Prop}
    (hIdle : known ≠ .creating) {onNone : Sight} (hOnNone : onNone = .blank ∨ onNone = .vacant)
    (hError : ∀ e, goal (.error e) ⟨.inside t.lock lock, .blank⟩)
    (hFailure : ∀ failure, goal (.ok (.error failure)) ⟨.inside t.lock lock, .blank⟩)
    (hNone : goal (.ok (.ok none)) ⟨.inside t.lock lock, onNone⟩)
    (hSome : ∀ disk, (∀ sizeMb, known = .sized sizeMb → disk.capacityMb = sizeMb) →
      goal (.ok (.ok (some disk))) ⟨.inside t.lock lock, .blank⟩) :
    (underLocks aborts t.Holds).Follows number goal
      (Operation.call operation (.findByName dc t.pool t.lock.name)).run
      ⟨.inside t.lock lock, known⟩ := by
  have hSelf : t.calm → known ≠ .creating := fun _ => hIdle
  refine Follows.call ⟨.inside t.lock lock, known⟩ ?_ ?_ ?_ ?_
  · exact fun _ abort w => forget hSelf (hError _)
  · exact fun w => Leads.stay rfl fun stages hInvariant _ =>
      ⟨hInvariant.1, hInvariant.2.start rfl⟩
  · exact fun _ abort w => forget hSelf (hError _)
  · rintro w started stages ⟨hLocks, hHolds⟩ hThread
    have hHolds' := hHolds.finish (c := .findByName dc t.pool t.lock.name) rfl
      (fun _ => by simp [Call.kind]) started
    have hMove : ∀ sight : Sight, sight.Fits (t.disks w) →
        (underLocks aborts t.Holds).invariant (w.finish (.findByName dc t.pool t.lock.name) started).2
          (stages.set number ⟨.inside t.lock lock, sight⟩) := by
      intro sight hFits
      have hDisks : t.disks (w.finish (.findByName dc t.pool t.lock.name) started).2 = t.disks w :=
        (Inventory.effect_finish w.platform _ started.ticket).named_eq rfl (by simp [Call.kind])
      refine ⟨?_, hHolds'.act hLocks hThread hHolds'.few (hDisks ▸ hFits) ?_ ?_⟩
      · rw [Stage.map_grip_set hThread]
        exact hLocks
      · exact fun hIs => ⟨(hHolds'.calm hIs).1, rfl⟩
      · intro hIs hOffered
        exact ⟨(hHolds'.once hIs hOffered).1, fun hCount =>
          .inl (hHolds'.disks_ne_nil hLocks hThread hIdle hIs hOffered hCount)⟩
    cases hReply : (w.finish (.findByName dc t.pool t.lock.name) started).1 with
    | error failure => exact ⟨_, hMove .blank trivial, hFailure failure⟩
    | ok found =>
        have hFound : found = (t.disks w).head? := by
          rw [disks, ← hPlace]
          exact Inventory.head?_named_of_finish started.ticket hReply
        cases found with
        | none =>
            refine ⟨_, hMove onNone ?_, hNone⟩
            rcases hOnNone with rfl | rfl
            · trivial
            · exact List.head?_eq_none_iff.1 hFound.symm
        | some disk =>
            refine ⟨_, hMove .blank trivial, hSome disk ?_⟩
            rintro sizeMb rfl
            exact hHolds.fits number _ hThread disk (List.mem_of_head? hFound.symm)

section

variable {dc : Datacenter} {sizeMb : UInt64}

/-- The creation of a watched disk begins where there is none. -/
theorem Holds.beginCreate (h : t.Holds w stages) (hLocks : w.locks.Agrees (stages.map Stage.grip))
    (hThread : stages[number]? = some ⟨.inside t.lock lock, .vacant⟩) (hPlace : dc.place = t.place) :
    t.Holds (w.start (.createDisk dc t.pool t.lock.name sizeMb)).2
      (stages.set number ⟨.inside t.lock lock, .creating⟩) := by
  have hVacant : t.disks w = [] := h.fits number _ hThread
  have hDisks := disks_start t w (.createDisk dc t.pool t.lock.name sizeMb)
  have hCreations : t.creations (w.start (.createDisk dc t.pool t.lock.name sizeMb)).2 = t.creations w + 1 := by
    simp [creations, World.start, Call.creates, hPlace]
  refine h.act hLocks hThread ?_ ?_ (calm_start h _) ?_
  · rw [hDisks]
    exact h.few
  · rw [hDisks]
    exact hVacant
  · intro hIs hOffered
    have hNotYet : t.creations w ≠ t.created + 1 := fun hCount =>
      h.disks_ne_nil hLocks hThread (by simp) hIs hOffered hCount hVacant
    have hCount := (h.once hIs hOffered).1
    exact ⟨by omega, fun _ => .inr rfl⟩

/-- A creation that fails leaves the disks as they are. In calm it does so only where the pool is not offered. -/
theorem Holds.refuseCreate (h : t.Holds w stages) (hLocks : w.locks.Agrees (stages.map Stage.grip))
    (hThread : stages[number]? = some ⟨.inside t.lock lock, .creating⟩) (hPlace : dc.place = t.place)
    {started : World.Started Inventory} {failure : BackendError}
    (hReply : (w.finish (.createDisk dc t.pool t.lock.name sizeMb) started).1 = .error failure)
    (hSame : (w.finish (.createDisk dc t.pool t.lock.name sizeMb) started).2.platform = w.platform) :
    t.Holds (w.finish (.createDisk dc t.pool t.lock.name sizeMb) started).2
      (stages.set number ⟨.inside t.lock lock, .blank⟩) := by
  have hNotOffered : t.calm → ¬ t.Offered := by
    intro hIs
    obtain ⟨hFaultless, hLayout⟩ := h.calm hIs
    rw [Offered, ← hLayout, Inventory.offers_layout, ← hPlace]
    exact hFaultless.not_offers_of_finish started.ticket hReply
  have hDisks : t.disks (w.finish (.createDisk dc t.pool t.lock.name sizeMb) started).2 = t.disks w :=
    congrArg (fun inv => Inventory.named inv t.place t.pool t.lock.name) hSame
  refine h.act hLocks hThread ?_ trivial (calm_finish h started) fun hIs hOffered =>
    absurd hOffered (hNotOffered hIs)
  rw [hDisks]
  exact h.few

/-- A creation that succeeds leaves just the new disk. -/
theorem Holds.endCreate (h : t.Holds w stages) (hLocks : w.locks.Agrees (stages.map Stage.grip))
    (hThread : stages[number]? = some ⟨.inside t.lock lock, .creating⟩) (hBound : 1 ≤ t.bound)
    {started : World.Started Inventory} {disk : Disk} (hSize : disk.capacityMb = sizeMb)
    (hAdd : t.disks (w.finish (.createDisk dc t.pool t.lock.name sizeMb) started).2 = t.disks w ++ [disk]) :
    t.Holds (w.finish (.createDisk dc t.pool t.lock.name sizeMb) started).2
      (stages.set number ⟨.inside t.lock lock, .sized sizeMb⟩) := by
  have hVacant : t.disks w = [] := h.fits number _ hThread
  rw [hVacant, List.nil_append] at hAdd
  refine h.act hLocks hThread ?_ ?_ (calm_finish h started) ?_
  · rw [hAdd]
    exact hBound
  · rw [hAdd]
    intro disk' hDisk
    rw [List.mem_singleton.1 hDisk, hSize]
  · intro hIs hOffered
    rw [hAdd]
    exact ⟨(h.once hIs hOffered).1, fun _ => .inl (by simp)⟩

/-- Creating a watched disk where there is none. -/
theorem callCreate (hPlace : dc.place = t.place) (hBound : 1 ≤ t.bound) (hAborts : aborts → ¬ t.calm)
    {goal : Except Error (Call.createDisk dc t.pool t.lock.name sizeMb).Reply → Stage Sight → Prop}
    (hError : ∀ e, goal (.error e) ⟨.inside t.lock lock, .blank⟩)
    (hFailure : ∀ failure, goal (.ok (.error failure)) ⟨.inside t.lock lock, .blank⟩)
    (hDone : goal (.ok (.ok ())) ⟨.inside t.lock lock, .sized sizeMb⟩) :
    (underLocks aborts t.Holds).Follows number goal
      (Operation.call operation (.createDisk dc t.pool t.lock.name sizeMb)).run
      ⟨.inside t.lock lock, .vacant⟩ := by
  refine Follows.call ⟨.inside t.lock lock, .creating⟩ ?_ ?_ ?_ ?_
  · exact fun _ abort w => forget (fun _ => by simp) (hError _)
  · rintro w stages ⟨hLocks, hHolds⟩ hThread
    refine ⟨⟨_, .creating⟩, ⟨?_, hHolds.beginCreate hLocks hThread hPlace⟩, rfl⟩
    rw [Stage.map_grip_set hThread]
    exact hLocks
  · exact fun hMay abort w => forget (fun hIs => absurd hIs (hAborts hMay)) (hError _)
  · rintro w started stages ⟨hLocks, hHolds⟩ hThread
    have hGrips (known : Sight) : w.locks.Agrees ((stages.set number ⟨.inside t.lock lock, known⟩).map Stage.grip) := by
      rwa [Stage.map_grip_set hThread]
    rcases Inventory.finish_createDisk w.platform dc t.pool t.lock.name sizeMb started.ticket with
      ⟨failure, hReply, hSame⟩ | ⟨-, hReply, disk, hSize, hAdd⟩
    · refine ⟨⟨_, .blank⟩, ⟨hGrips _, hHolds.refuseCreate hLocks hThread hPlace hReply hSame⟩, ?_⟩
      have hGoal := hFailure failure
      rwa [← hReply] at hGoal
    · rw [hPlace] at hAdd
      refine ⟨⟨_, .sized sizeMb⟩, ⟨hGrips _, hHolds.endCreate hLocks hThread hBound hSize hAdd⟩, ?_⟩
      rwa [← hReply] at hDone

end

/-- A create under way keeps the watch, and what it returns has the size that was asked for. -/
theorem createUnlocked {dc : Datacenter} (hPlace : dc.place = t.place) (hBound : 1 ≤ t.bound)
    (hAborts : aborts → ¬ t.calm) (sizeMb : UInt64) :
    (underLocks aborts t.Holds).Follows number
      (fun result g => g = ⟨.inside t.lock lock, .blank⟩ ∧
        ∀ outcome, result = .ok outcome → outcome.disk.capacityMb = sizeMb)
      (VolumeStore.createUnlocked dc t.pool t.lock.name sizeMb).run ⟨.inside t.lock lock, .blank⟩ := by
  have hRecords := ignoresRecords t aborts
  refine Follows.bindOperation (callFind hPlace (by simp) (.inr rfl) ?_ ?_ ?_ ?_)
  · exact fun e => ⟨rfl, by simp⟩
  · exact fun failure => Follows.reject hRecords ⟨rfl, by simp⟩
  · refine Follows.bindOperation (callCreate hPlace hBound hAborts ?_ ?_ ?_)
    · exact fun e => ⟨rfl, by simp⟩
    · exact fun failure => Follows.reject hRecords ⟨rfl, by simp⟩
    · refine Follows.bindOperation (callFind hPlace (by simp) (.inl rfl) ?_ ?_ ?_ ?_)
      · exact fun e => ⟨rfl, by simp⟩
      · exact fun failure => Follows.reject hRecords ⟨rfl, by simp⟩
      · exact Follows.reject hRecords ⟨rfl, by simp⟩
      · intro disk hSize
        refine Follows.afterNote hRecords (Follows.pure ⟨rfl, ?_⟩)
        rintro _ ⟨⟩
        exact hSize sizeMb rfl
  · intro disk _
    refine Follows.afterNote hRecords ?_
    split
    · exact Follows.reject hRecords ⟨rfl, by simp⟩
    · rename_i hSize
      refine Follows.pure ⟨rfl, ?_⟩
      rintro _ ⟨⟩
      exact Decidable.not_not.1 hSize

/-- What a request must have been to be given a disk: a create of a watched disk gets its size. -/
def Delivers (t : Watch) : StoreRequest → Except Error (Option Disk) → Prop
  | .create dc pool name sizeMb, .ok (some disk) =>
    dc.place = t.place → pool = t.pool → name = t.lock.name → disk.capacityMb = sizeMb
  | _, _ => True

/-- Whether a create, if it is one of a watched disk, got the size that it asked for. -/
def Sizes (t : Watch) (dc : Datacenter) (pool : Pool) (name : String) (sizeMb : UInt64)
    (result : Except Error CreateOutcome) : Prop :=
  dc.place = t.place → pool = t.pool → name = t.lock.name →
    ∀ outcome, result = .ok outcome → outcome.disk.capacityMb = sizeMb

theorem createOrGet {store : VolumeStore} (hStore : store.serializes = true)
    (hTable : store.table = t.lock.table) (hBound : 1 ≤ t.bound) (hAborts : aborts → ¬ t.calm)
    (dc : Datacenter) (pool : Pool) (name : String) (sizeMb : UInt64) :
    (underLocks aborts t.Holds).Follows number
      (fun result g => g.grip = .away ∧ g.known = .blank ∧ t.Sizes dc pool name sizeMb result)
      (store.createOrGet dc pool name sizeMb).run ⟨.away, .blank⟩ := by
  rw [VolumeStore.createOrGet, if_pos hStore]
  refine Follows.locked (fun result known => known = .blank ∧ t.Sizes dc pool name sizeMb result)
    (ignoresLocks t) rfl (fun _ _ => ⟨rfl, by simp [Sizes]⟩) fun lock => ?_
  by_cases hWatched : dc.place = t.place ∧ pool = t.pool ∧ name = t.lock.name
  · obtain ⟨hPlace, rfl, rfl⟩ := hWatched
    rw [hTable]
    refine (createUnlocked hPlace hBound hAborts sizeMb).mono ?_
    rintro result g ⟨rfl, hSize⟩
    exact ⟨rfl, rfl, rfl, fun _ _ _ => hSize⟩
  · have hCreates :
        (Call.createDisk dc pool name sizeMb).creates t.place t.pool t.lock.name = false := by
      simpa [Call.creates] using hWatched
    refine (createElsewhere hCreates).mono ?_
    rintro result g rfl
    exact ⟨rfl, rfl, rfl, fun hPlace hPool hName => absurd ⟨hPlace, hPool, hName⟩ hWatched⟩

theorem serve {store : VolumeStore} (hStore : store.serializes = true) (hTable : store.table = t.lock.table)
    (hBound : 1 ≤ t.bound) (hAborts : aborts → ¬ t.calm) (request : StoreRequest)
    (hDelete : t.calm → ∀ dc pool id, request ≠ .delete dc pool id) :
    (underLocks aborts t.Holds).Follows number (fun result _ => t.Delivers request result)
      (store.serve request).run ⟨.away, .blank⟩ := by
  cases request with
  | delete dc pool id =>
      have hNotCalm : ¬ t.calm := fun hIs => hDelete hIs dc pool id rfl
      refine Follows.bindOperation ((deleteElsewhere hNotCalm dc pool id).mono ?_)
      rintro (e | _) g _ <;> trivial
  | create dc pool name sizeMb =>
      refine Follows.bindOperation
        ((createOrGet hStore hTable hBound hAborts dc pool name sizeMb).mono ?_)
      rintro (e | outcome) g ⟨-, -, hSize⟩
      · trivial
      · exact fun hPlace hPool hName => hSize hPlace hPool hName outcome rfl

/-- Nobody knows anything when a watch begins. -/
theorem invariant_start {w : World Inventory} (hLocks : w.locks.table = [])
    (hFew : (t.disks w).length ≤ t.bound) (hCreated : t.creations w = t.created)
    (hCalm : t.calm → w.platform.Faultless ∧ w.platform.layout = t.layout) (n : Nat) :
    (underLocks aborts t.Holds).invariant w (List.replicate n ⟨.away, .blank⟩) := by
  refine ⟨.replicate hLocks n _, hFew, ?_, ?_, hCalm, ?_⟩
  · intro i stage hStage hKnown
    obtain rfl := List.eq_of_mem_replicate (List.mem_of_getElem? hStage)
    exact absurd rfl hKnown
  · intro i stage hStage
    obtain rfl := List.eq_of_mem_replicate (List.mem_of_getElem? hStage)
    trivial
  · exact fun _ _ => ⟨by omega, fun hCount => by omega⟩

theorem covers {env : Surroundings Inventory} (hInserts : ∀ c, env.commands c → ¬ c.Inserts)
    (hFails : t.calm → ∀ c, env.commands c → ¬ c.Fails) :
    (underLocks env.aborts t.Holds).Covers env where
  aborts := id
  clock := fun _ _ _ _ h => ⟨h.1, h.2.few, h.2.inside, h.2.fits, h.2.calm, h.2.once⟩
  cancel := fun _ _ _ h => ⟨h.1, h.2.few, h.2.inside, h.2.fits, h.2.calm, h.2.once⟩
  command := by
    intro w stages c hCommand h
    have hDisks : t.disks { w with platform := (Bench.obey c w.platform).2 } = t.disks w :=
      congrArg (List.filter _) (Inventory.disksAt_obey w.platform (hInserts c hCommand) t.place)
    refine ⟨h.1, h.2.shrink ?_ (fun _ => hDisks) (fun hIs => ⟨?_, ?_⟩) rfl⟩
    · simp only [hDisks, List.Sublist.refl]
    · exact (h.2.calm hIs).1.obey (hFails hIs c hCommand)
    · exact Inventory.layout_obey w.platform c

end Watch

/-- The requests of a store, side by side. -/
def VolumeStore.jobs (store : VolumeStore) (requests : List (Context × StoreRequest)) :
    List (Context × Procedure (Except Error (Option Disk))) :=
  requests.map fun (ctx, request) => (ctx, (store.serve request).run)

/-- What is watched holds along every run of a serializing store, and so do the results. -/
theorem Watch.runs {t : Watch} {store : VolumeStore} {requests : List (Context × StoreRequest)}
    {env : Surroundings Inventory} {w : World Inventory}
    {s : System Inventory (Except Error (Option Disk))}
    (hStore : store.serializes = true) (hTable : store.table = t.lock.table)
    (hLocks : w.locks.table = []) (hInserts : ∀ c, env.commands c → ¬ c.Inserts)
    (hBound : 1 ≤ t.bound) (hFew : (t.disks w).length ≤ t.bound) (hCreated : t.creations w = t.created)
    (hLayout : t.layout = w.platform.layout)
    (hCalm : t.calm → ¬ env.aborts ∧ (∀ c, env.commands c → ¬ c.Fails) ∧
      (∀ job ∈ requests, ∀ dc pool id, job.2 ≠ .delete dc pool id) ∧
      w.platform.Faultless)
    (hRuns : System.Runs env (System.start w (store.jobs requests)) s) :
    (∃ stages, t.Holds s.world stages) ∧
      ∀ number job result, requests[number]? = some job → s.result? number = some result →
        t.Delivers job.2 result := by
  have hStart : (System.start w (store.jobs requests)).Follows (underLocks env.aborts t.Holds)
      (fun number result _ => ∀ job, requests[number]? = some job → t.Delivers job.2 result)
      (List.replicate (store.jobs requests).length ⟨.away, .blank⟩) := by
    refine .startTogether (Watch.invariant_start hLocks hFew hCreated ?_ _) ?_
    · exact fun hIs => ⟨(hCalm hIs).2.2.2, hLayout.symm⟩
    · intro number job hJob
      obtain ⟨request, hRequest, rfl⟩ := Option.map_eq_some_iff.1 (List.getElem?_map ▸ hJob)
      refine (Watch.serve hStore hTable hBound ?_ request.2 ?_).mono ?_
      · exact fun hAborts hIs => (hCalm hIs).1 hAborts
      · exact fun hIs => (hCalm hIs).2.2.1 request (List.mem_of_getElem? hRequest)
      · intro result g hDelivers job hJob
        obtain rfl := Option.some.inj (hRequest.symm.trans hJob)
        exact hDelivers
  obtain ⟨stages, hFollows⟩ := hStart.runs (Watch.covers hInserts fun hIs => (hCalm hIs).2.1) hRuns
  refine ⟨⟨stages, hFollows.invariant.2⟩, fun number job result hJob hResult => ?_⟩
  obtain ⟨stage, -, hGoal⟩ := hFollows.goal_of_result hResult
  exact hGoal job hJob

/-- A store that serializes creates. Along every run, whatever fails or is given up, a name that had at
most one disk in a pool has at most one, and every create that succeeds returns a disk of the size it asked
for. In a calm run without deletes, at most one disk of the name is ever created where the pool is
offered. -/
theorem serialized_creates_never_duplicate {store : VolumeStore} (hStore : store.serializes = true)
    {w : World Inventory} (hLocks : w.locks.table = []) (requests : List (Context × StoreRequest)) :
    (∀ s, System.Runs Inventory.rough (System.start w (store.jobs requests)) s →
      (∀ place pool name, (w.platform.named place pool name).length ≤ 1 →
        (s.world.platform.named place pool name).length ≤ 1) ∧
      ∀ number ctx dc pool name sizeMb disk,
        requests[number]? = some (ctx, .create dc pool name sizeMb) →
        s.result? number = some (.ok (some disk)) → disk.capacityMb = sizeMb) ∧
    ((∀ job ∈ requests, ∀ dc pool id, job.2 ≠ .delete dc pool id) → w.platform.Faultless →
      ∀ s, System.Runs Inventory.calm (System.start w (store.jobs requests)) s →
      ∀ place pool name, w.platform.Offers place pool →
        s.world.calls.countP (·.creates place pool name) ≤
          w.calls.countP (·.creates place pool name) + 1) := by
  refine ⟨fun s hRuns => ⟨?_, ?_⟩, ?_⟩
  · intro place pool name hOne
    let t : Watch := ⟨⟨store.table, name⟩, place, pool, 1,
      w.calls.countP (·.creates place pool name), False, w.platform.layout⟩
    obtain ⟨⟨stages, hHolds⟩, -⟩ := Watch.runs (t := t) hStore rfl hLocks (fun _ h => h)
      (Nat.le_refl 1) hOne rfl rfl False.elim hRuns
    exact hHolds.few
  · intro number ctx dc pool name sizeMb disk hRequest hResult
    let bound := max 1 (w.platform.named dc.place pool name).length
    let t : Watch := ⟨⟨store.table, name⟩, dc.place, pool, bound,
      w.calls.countP (·.creates dc.place pool name), False, w.platform.layout⟩
    obtain ⟨-, hDelivers⟩ := Watch.runs (t := t) hStore rfl hLocks (fun _ h => h)
      (Nat.le_max_left _ _) (Nat.le_max_right _ _) rfl rfl False.elim hRuns
    exact hDelivers number _ _ hRequest hResult rfl rfl rfl
  · intro hCreates hFaultless s hRuns place pool name hOffers
    let bound := max 1 (w.platform.named place pool name).length
    let t : Watch := ⟨⟨store.table, name⟩, place, pool, bound,
      w.calls.countP (·.creates place pool name), True, w.platform.layout⟩
    obtain ⟨⟨stages, hHolds⟩, -⟩ := Watch.runs (t := t) hStore rfl hLocks (fun _ h => And.left h)
      (Nat.le_max_left _ _) (Nat.le_max_right _ _) rfl rfl
      (fun _ => ⟨id, fun _ h => And.right h, hCreates, hFaultless⟩) hRuns
    exact (hHolds.once trivial ((Inventory.offers_layout w.platform place pool).2 hOffers)).1

/-- Two creates of one name that ask for different sizes at once. -/
def contenders : List (Context × StoreRequest) :=
  [(.background, .create ⟨"dc", 0⟩ ⟨.datastore, "ds"⟩ "volume" 1024),
    (.background, .create ⟨"dc", 0⟩ ⟨.datastore, "ds"⟩ "volume" 2048)]

set_option maxRecDepth 10000 in
/-- The first of two creates gets its disk, the second is refused, and one disk was created. -/
theorem serialized_creates_never_duplicate_contenders :
    ∃ s : System Inventory (Except Error (Option Disk)), ∃ disk,
      System.Runs Inventory.calm
        (System.start { platform := .small } (VolumeStore.jobs ⟨true, 0⟩ contenders)) s ∧
      s.result? 0 = some (.ok (some disk)) ∧ disk.capacityMb = 1024 ∧
      s.result? 1 = some (.error (Cause.sizeDiffers 1024 2048).toError) ∧
      (s.world.platform.named 0 ⟨.datastore, "ds"⟩ "volume").length ≤ 1 ∧
      s.world.calls.countP (·.creates 0 ⟨.datastore, "ds"⟩ "volume") ≤ 1 := by
  have hAdmits : ∀ job ∈ VolumeStore.jobs ⟨true, 0⟩ contenders, Inventory.calm.Admits job.1 := by
    simp [VolumeStore.jobs, contenders, Surroundings.admits_background]
  obtain ⟨s, hRuns, -, hResults⟩ :=
    Lab.exists_runs 100 { platform := .small } (VolumeStore.jobs ⟨true, 0⟩ contenders) hAdmits
  let disk : Disk := ⟨Inventory.idText 1, "volume", 1024, .datastore "ds",
    .file (Inventory.backingPath "ds" (Inventory.idText 1))⟩
  have hFirst : s.result? 0 = some (.ok (some disk)) := hResults 0 _ (by decide +kernel)
  have hSecond := hResults 1 (.error (Cause.sizeDiffers 1024 2048).toError) (by decide +kernel)
  have hStore : (⟨true, 0⟩ : VolumeStore).serializes = true := rfl
  have hLocks : ({ platform := .small } : World Inventory).locks.table = [] := rfl
  obtain ⟨hRough, hCalm⟩ := serialized_creates_never_duplicate hStore hLocks contenders
  obtain ⟨hFew, hSizes⟩ := hRough s (System.Runs.mono False.elim (fun _ h => And.left h) hRuns)
  refine ⟨s, disk, hRuns, hFirst, hSizes 0 _ _ _ _ _ disk rfl hFirst, hSecond,
    hFew 0 _ "volume" (by decide +kernel), ?_⟩
  exact hCalm (by simp [contenders]) Inventory.faultless_small s hRuns 0 _ "volume" Inventory.offers_small

end VolumeController
