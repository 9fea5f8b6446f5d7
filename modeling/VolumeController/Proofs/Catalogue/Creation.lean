import VolumeController.Proofs.Catalogue.Representation
/-! A create request alone does to the inventory what it does to the catalogue that the inventory
represents. The lock of the name, if creates are serialized, is there only while the request lasts. -/

namespace VolumeController

variable {α : Type} {number : Nat} {s : Scene}

/-! The lock of a name that nobody else uses. -/

theorem NameLocks.modify_last (mutexes : List Mutex) (m : Mutex) (table : List (LockName × LockId))
    (f : Mutex → Mutex) :
    (⟨mutexes ++ [m], table⟩ : NameLocks).modify mutexes.length f = ⟨mutexes ++ [f m], table⟩ := by
  rw [NameLocks.modify]
  refine congrArg (NameLocks.mk · table) ?_
  induction mutexes with
  | nil => rfl
  | cons first rest ih => exact congrArg (first :: ·) ih

theorem Solo.perform {action : Action} {next : action.Answer → Procedure α} {q : Procedure α} {s' : Scene}
    (h : Solo number (next (s.perform action).1) (s.perform action).2 q s') :
    Solo number (Procedure.perform action >>= next) s q s' :=
  .act h

/-- An operation that does not look at the locks can be carried out under one. -/
theorem Solo.locked {name : LockName} {op : Operation α} {result : Except Error α} {inv : Inventory}
    (hTable : s.locks.table = [])
    (hOp : ∀ locks, Solo number op.run ⟨s.inventory, locks⟩ (.done result) ⟨inv, locks⟩) :
    ∃ locks, locks.table = [] ∧ Solo number (VolumeStore.locked name op).run s (.done result) ⟨inv, locks⟩ := by
  obtain ⟨inventory, ⟨mutexes, table⟩⟩ := s
  obtain rfl : table = [] := hTable
  let locks (handles : Nat) (holder : Option Nat) : NameLocks :=
    ⟨mutexes ++ [⟨handles, holder, []⟩], [(name, mutexes.length)]⟩
  have hTake : (⟨mutexes, []⟩ : NameLocks).takeHandle name = (mutexes.length, locks 1 none) := rfl
  have hRequest : (locks 1 none).modify mutexes.length (·.request number) = locks 1 (some number) :=
    NameLocks.modify_last _ _ _ _
  have hHeld : (locks 1 (some number)).isHeldBy mutexes.length number = true := by
    simp [NameLocks.isHeldBy, NameLocks.mutex, locks]
  have hRelease : (locks 1 (some number)).modify mutexes.length Mutex.release = locks 1 none :=
    NameLocks.modify_last _ _ _ _
  have hDrop : (locks 1 none).dropHandle mutexes.length = locks 0 none := NameLocks.modify_last _ _ _ _
  have hSweep : (locks 0 none).sweep name = ⟨mutexes ++ [⟨0, none, []⟩], []⟩ := by
    simp [NameLocks.sweep, NameLocks.find?, NameLocks.mutex, locks]
  have hWork : Solo number
      (do
        let result ← op.run
        Procedure.perform (.unlock mutexes.length)
        return result : Procedure (Except Error α)) ⟨inventory, locks 1 (some number)⟩ (.done result)
      ⟨inv, locks 1 none⟩ := by
    refine bind_done (hOp (locks 1 (some number))) (.act ?_)
    simp only [Scene.perform, hRelease]
    exact .refl _ _
  have hBack : Solo number
      (do
        Procedure.perform (.dropHandle mutexes.length)
        Procedure.perform (.sweep name)
        return result : Procedure (Except Error α)) ⟨inv, locks 1 none⟩ (.done result)
      ⟨inv, mutexes ++ [⟨0, none, []⟩], []⟩ := by
    refine .act (.act ?_)
    simp only [Scene.perform, hDrop, hSweep]
    exact .refl _ _
  refine ⟨⟨mutexes ++ [⟨0, none, []⟩], []⟩, rfl, ?_⟩
  unfold VolumeStore.locked
  refine perform (bind_done (.lock ?_ ?_) hBack)
  · simp only [Scene.perform, hTake, hRequest]
    exact hHeld
  · simp only [Scene.perform, hTake, hRequest]
    exact hWork

/-! The create of the store. -/

namespace Inventory

variable {inv : Inventory} {dc : Datacenter} {state : DatacenterState}

theorem answer_findByName (hState : inv.state? dc = some state) (pool : Pool) (name : String) :
    (inv.answer (.findByName dc pool name)).1 =
      .ok ((inv.disksAt dc.place).find? fun disk => disk.name = name && disk.isIn pool) := by
  simp only [answer, hState]
  rw [disksAt_of_state? hState]
  rfl

theorem answer_createDisk_ok (hState : inv.state? dc = some state) {pool : Pool} {parent : Parent}
    (hParent : state.placement pool = .ok parent) (name : String) (sizeMb : UInt64) :
    (inv.answer (.createDisk dc pool name sizeMb)).1 = .ok () ∧
      (inv.answer (.createDisk dc pool name sizeMb)).2.2 =
        { inv.modify dc (·.addDisk (Entry.disk ⟨idText inv.nextId, name, sizeMb, parent⟩)) with
          nextId := inv.nextId + 1 } := by
  simp only [answer, hState, createDisk, hParent]
  exact ⟨trivial, rfl⟩

theorem answer_createDisk_error (hState : inv.state? dc = some state) {pool : Pool} {failure : BackendError}
    (hParent : state.placement pool = .error failure) (name : String) (sizeMb : UInt64) :
    (inv.answer (.createDisk dc pool name sizeMb)).1 = .error failure ∧
      (inv.answer (.createDisk dc pool name sizeMb)).2.2 = inv := by
  simp only [answer, hState, createDisk, hParent]
  exact ⟨trivial, trivial⟩

/-- Zones and placements resolve to sites that are there. -/
theorem mem_sites_of_resolveZone {zone region : String} {site : Site}
    (h : inv.resolveZone zone region = .ok site) : site ∈ inv.sites := by
  unfold resolveZone at h
  split at h
  · split at h
    · rename_i site' hSites
      cases h
      simp [hSites]
    · cases h
  · split at h
    · rename_i dc site' hFind
      cases h
      exact (List.of_mem_zip (List.mem_of_find?_eq_some hFind)).2
    · cases h

theorem mem_sites_of_locateSegments {last : String × Error} {segments : List Topology} {site : Site}
    (h : inv.locateSegments last segments = .ok site) : site ∈ inv.sites := by
  induction segments generalizing last with
  | nil => cases h
  | cons segment segments ih =>
      simp only [locateSegments] at h
      split at h
      · rename_i site' hZone
        cases h
        exact mem_sites_of_resolveZone hZone
      · exact ih h

theorem mem_sites_of_locate {placement : Placement} {site : Site} (h : inv.locate placement = .ok site) :
    site ∈ inv.sites := by
  cases placement with
  | topology requirement => exact mem_sites_of_locateSegments h
  | legacy zone region =>
      simp only [locate] at h
      split at h
      · rename_i site' hZone
        cases h
        exact mem_sites_of_resolveZone hZone
      · cases h

end Inventory

namespace Solo

variable {dc : Datacenter} {pool : Pool} {name : String} {sizeMb : UInt64}

theorem findByName {found : Option Disk}
    (hFind : (s.inventory.answer (.findByName dc pool name)).1 = .ok found) :
    Solo number (Operation.call "GetFirstClassDisk" (.findByName dc pool name)).run s
      (.done (.ok (.ok found))) s := by
  rw [← hFind]
  exact callOperation "GetFirstClassDisk" (.findByName dc pool name)

/-- A disk of the name is there. -/
theorem createUnlocked_existing {disk : Disk}
    (hFind : (s.inventory.answer (.findByName dc pool name)).1 = .ok (some disk)) :
    Solo number (VolumeStore.createUnlocked dc pool name sizeMb).run s
      (.done (if disk.capacityMb = sizeMb then .ok (.existing disk)
        else .error (Cause.sizeDiffers disk.capacityMb.toNat sizeMb.toNat).toError)) s := by
  refine bindOperation (findByName hFind) (.afterNote ?_)
  by_cases hSize : disk.capacityMb = sizeMb
  · rw [if_neg (not_not.2 hSize), if_pos hSize]
    exact .refl _ s
  · rw [if_pos hSize, if_neg hSize]
    exact .reject _

/-- The pool is not there. -/
theorem createUnlocked_unoffered {failure : BackendError}
    (hFind : (s.inventory.answer (.findByName dc pool name)).1 = .ok none)
    (hReply : (s.inventory.answer (.createDisk dc pool name sizeMb)).1 = .error failure) :
    Solo number (VolumeStore.createUnlocked dc pool name sizeMb).run s
      (.done (.error (Cause.creationFailed failure).toError)) (s.after (.createDisk dc pool name sizeMb)) := by
  have hCreate : Solo number
      (Operation.call "CreateFirstClassDisk" (.createDisk dc pool name sizeMb)).run s _ _ :=
    callOperation _ _
  rw [hReply] at hCreate
  exact bindOperation (findByName hFind) (bindOperation hCreate (.reject _))

/-- A disk is created. -/
theorem createUnlocked_created {disk : Disk}
    (hFind : (s.inventory.answer (.findByName dc pool name)).1 = .ok none)
    (hReply : (s.inventory.answer (.createDisk dc pool name sizeMb)).1 = .ok ())
    (hReread : ((s.after (.createDisk dc pool name sizeMb)).inventory.answer
      (.findByName dc pool name)).1 = .ok (some disk)) :
    Solo number (VolumeStore.createUnlocked dc pool name sizeMb).run s (.done (.ok (.created disk)))
      (s.after (.createDisk dc pool name sizeMb)) := by
  have hCreate : Solo number
      (Operation.call "CreateFirstClassDisk" (.createDisk dc pool name sizeMb)).run s _ _ :=
    callOperation _ _
  rw [hReply] at hCreate
  exact bindOperation (findByName hFind)
    (bindOperation hCreate (bindOperation (findByName hReread) (.afterNote (.refl _ _))))

end Solo

/-! What the catalogue says of a create. -/

theorem Entry.report_disk {v : Entry} (site : Site)
    (h : v.sizeMb.toNat * Capacity.mebibyte < Capacity.reportable) :
    Controller.report site v.disk = .ok ⟨v.report site⟩ := by
  have hBytes : Capacity.bytes? v.disk.capacityMb = some (.ofNat (v.sizeMb.toNat * Capacity.mebibyte)) :=
    Capacity.bytes?_of_lt h
  rw [Controller.report, Volume.ofDisk_of_bytes? hBytes]
  rfl

namespace Catalogue

variable {k : Catalogue} {base inv : Inventory}

theorem named_append {place : Nat} {v : Entry} (h : k.named place v.parent.pool v.name = none) :
    (k.append place v).named place v.parent.pool v.name = some v := by
  simp only [named, append, if_pos] at h ⊢
  rw [List.find?_append, h]
  simp

theorem of_named {place : Nat} {pool : Pool} {name : String} {v : Entry}
    (h : k.named place pool name = some v) : v ∈ k.volumes place :=
  List.mem_of_find?_eq_some h

namespace IsHeldBy

theorem answer_findByName (h : k.IsHeldBy base inv) {dc : Datacenter} {state : DatacenterState}
    (hState : inv.state? dc = some state) (pool : Pool) (name : String) :
    (inv.answer (.findByName dc pool name)).1 = .ok ((k.named dc.place pool name).map (·.disk)) := by
  rw [Inventory.answer_findByName hState, h.disks, List.find?_map]
  simp only [Function.comp_def, Disk.isIn_eq_decide]
  rfl

/-- The create of the store, whatever is locked. -/
theorem createUnlocked (h : k.IsHeldBy base inv) (hSound : k.Sound) {site : Site} (hSite : site ∈ inv.sites)
    (pool : Pool) (name : String) {sizeMb : UInt64}
    (hSize : sizeMb.toNat * Capacity.mebibyte < Capacity.reportable) :
    ∃ result inv',
      (∀ locks, Solo 0 (VolumeStore.createUnlocked site.datacenter pool name sizeMb).run ⟨inv, locks⟩
        (.done result) ⟨inv', locks⟩) ∧
      (result >>= fun outcome => Controller.report site outcome.disk) =
        (k.createAt base site pool name sizeMb).1 ∧
      (k.createAt base site pool name sizeMb).2.IsHeldBy base inv' := by
  obtain ⟨state, hState⟩ := Inventory.state?_of_mem_sites hSite
  have hFind := h.answer_findByName hState pool name
  unfold Catalogue.createAt
  cases hNamed : k.named site.datacenter.place pool name with
  | some v =>
      rw [hNamed] at hFind
      refine ⟨_, inv, fun locks => Solo.createUnlocked_existing hFind, ?_⟩
      have hCapacity : v.disk.capacityMb = v.sizeMb := rfl
      simp only [hCapacity]
      split
      · exact ⟨Entry.report_disk site (hSound.sizes _ v (of_named hNamed)), h⟩
      · exact ⟨rfl, h⟩
  | none =>
      rw [hNamed] at hFind
      have hPool : inv.poolAt site.datacenter pool = state.placement pool := by
        simp only [Inventory.poolAt, hState]
      rw [h.poolAt] at hPool
      simp only [hPool]
      cases hParent : state.placement pool with
      | error failure =>
          obtain ⟨hReply, hAfter⟩ := Inventory.answer_createDisk_error hState hParent name sizeMb
          refine ⟨.error (Cause.creationFailed failure).toError, inv, fun locks => ?_, rfl, h⟩
          have hFails : Solo 0 (VolumeStore.createUnlocked site.datacenter pool name sizeMb).run ⟨inv, locks⟩
              _ _ := Solo.createUnlocked_unoffered hFind hReply
          rwa [Scene.after, hAfter] at hFails
      | ok parent =>
          let v : Entry := ⟨Inventory.idText k.next, name, sizeMb, parent⟩
          let inv' : Inventory := { inv.modify site.datacenter (·.addDisk v.disk) with nextId := inv.nextId + 1 }
          obtain ⟨hReply, hCreated⟩ := Inventory.answer_createDisk_ok hState hParent name sizeMb
          have hAfter : (inv.answer (.createDisk site.datacenter pool name sizeMb)).2.2 = inv' := by
            simp only [hCreated, inv', v, h.next]
          have hPoolOf : v.parent.pool = pool := DatacenterState.pool_of_placement hParent
          have hHeld : (k.append site.datacenter.place v).IsHeldBy base inv' := h.append hSound hState rfl
          have hThere : inv'.state? site.datacenter = some (state.addDisk v.disk) := by
            change (inv.modify site.datacenter (·.addDisk v.disk)).state? site.datacenter = _
            rw [Inventory.state?_modify, if_pos rfl, hState]
            rfl
          have hReread := hHeld.answer_findByName hThere pool name
          rw [← hPoolOf, named_append (by rwa [hPoolOf]), hPoolOf] at hReread
          refine ⟨.ok (.created v.disk), inv', fun locks => ?_, Entry.report_disk site hSize, hHeld⟩
          have hCreates : Solo 0 (VolumeStore.createUnlocked site.datacenter pool name sizeMb).run ⟨inv, locks⟩
              _ _ := Solo.createUnlocked_created hFind hReply (by rwa [Scene.after, hAfter])
          rwa [Scene.after, hAfter] at hCreates

end IsHeldBy

end Catalogue

namespace Scene.Holds

variable {k : Catalogue} {base : Inventory}

/-- The create of the store, under a lock or without one. -/
theorem createOrGet (h : s.Holds base k) (hSound : k.Sound) (store : VolumeStore) {site : Site}
    (hSite : site ∈ s.inventory.sites) (pool : Pool) (name : String) {sizeMb : UInt64}
    (hSize : sizeMb.toNat * Capacity.mebibyte < Capacity.reportable) :
    ∃ result s', Solo 0 (store.createOrGet site.datacenter pool name sizeMb).run s (.done result) s' ∧
      (result >>= fun outcome => Controller.report site outcome.disk) =
        (k.createAt base site pool name sizeMb).1 ∧
      s'.Holds base (k.createAt base site pool name sizeMb).2 := by
  obtain ⟨result, inv', hSolo, hAnswer, hHeld⟩ := h.catalogue.createUnlocked hSound hSite pool name hSize
  unfold VolumeStore.createOrGet
  cases store.serializes with
  | false => exact ⟨result, ⟨inv', s.locks⟩, hSolo s.locks, hAnswer, hHeld, h.unlocked⟩
  | true =>
      obtain ⟨locks, hTable, hLocked⟩ := Solo.locked h.unlocked hSolo
      exact ⟨result, ⟨inv', locks⟩, hLocked, hAnswer, hHeld, hTable⟩

theorem createVolume (h : s.Holds base k) (hSound : k.Sound) (c : Controller) (request : CreateVolumeRequest) :
    s.Answers base (c.createVolume request) (k.create base request) := by
  unfold Catalogue.create
  cases hOrder : Controller.order request with
  | error cause =>
      have hRefused : Solo 0 (Operation.ofCause (Controller.order request)).run s _ s := .ofCause _
      rw [hOrder] at hRefused
      refine ⟨s, .instrumented ?_, h⟩
      unfold Controller.createVolumeUncounted
      rw [hOrder]
      exact .bindError hRefused
  | ok order =>
      simp only
      have hLocate := h.catalogue.locate (request.placement order)
      cases hSite : base.locate (request.placement order) with
      | error e =>
          have hResolve : Solo 0 ((request.placement order).resolve c.labels).run s
              (.done (s.inventory.layout.locate (request.placement order))) s :=
            (Consults.resolve c.labels (request.placement order)).solo rfl
          rw [Inventory.locate_layout, hLocate, hSite] at hResolve
          refine ⟨s, .instrumented ?_, h⟩
          unfold Controller.createVolumeUncounted
          rw [hOrder]
          exact .bindOperation (.refl _ s) (.afterNote (.bindError hResolve))
      | ok site =>
          have hSize := (Capacity.requestedMb_eq_ok (Controller.requestedMb_of_order hOrder)).2
          have hThere := Inventory.mem_sites_of_locate (hLocate.trans hSite)
          obtain ⟨result, s', hSolo, hAnswer, hHolds⟩ :=
            h.createOrGet hSound c.store hThere order.pool request.name hSize
          have hStart : Solo 0 (c.createVolume request).run s _ s :=
            .createVolume c hOrder (by rw [Inventory.locate_layout, hLocate, hSite])
          refine ⟨s', ?_, hHolds⟩
          rw [← hAnswer]
          cases result with
          | ok outcome => exact hStart.trans (.fromCreate_ok hSolo)
          | error e => exact hStart.trans (.fromCreate_error hSolo)

end Scene.Holds

end VolumeController
