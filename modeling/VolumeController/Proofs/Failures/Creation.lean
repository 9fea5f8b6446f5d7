import VolumeController.Proofs.Catalogue.Creation
import VolumeController.Proofs.Failures.Requests
/-! What a create request leaves behind when it fails: what there was, or one more disk, if the disk could not be
read back. A disk that is read back has the size that was asked for and can be reported. -/

namespace VolumeController

open Rules

namespace Inventory

/-- The nodes of a datacenter with their attachments. -/
def nodesAt (inv : Inventory) (place : Nat) : Dict (Dict String) :=
  (inv.datacenters[place]?.map (·.nodes)).getD .empty

theorem nodesAt_modify (inv : Inventory) (dc : Datacenter) {f : DatacenterState → DatacenterState}
    (h : ∀ s, (f s).nodes = s.nodes) (place : Nat) :
    (inv.modify dc f).nodesAt place = inv.nodesAt place := by
  unfold nodesAt
  simp only [modify, List.getElem?_modify]
  cases inv.datacenters[place]? with
  | none => rfl
  | some s =>
      by_cases hPlace : dc.place = place
      · simp [hPlace, h]
      · simp [hPlace]

theorem nodesAt_cleared (inv : Inventory) (place : Nat) : inv.cleared.nodesAt place = inv.nodesAt place := by
  simp only [nodesAt, cleared, List.getElem?_map]
  cases inv.datacenters[place]? <;> rfl

/-- A disk was created: nothing else is new, and a search by name shows it. -/
structure Creates (inv : Inventory) (dc : Datacenter) (pool : Pool) (name : String) (sizeMb : UInt64) (disk : Disk)
    (inv' : Inventory) : Prop where
  reply : (inv.answer (.createDisk dc pool name sizeMb)).1 = .ok ()
  found : (inv'.answer (.findByName dc pool name)).1 = .ok (some disk)
  name : disk.name = name
  pool : disk.parent.pool = pool
  size : disk.capacityMb = sizeMb
  disks : ∀ place, inv'.disksAt place = inv.disksAt place ++ if place = dc.place then [disk] else []
  nodes : ∀ place, inv'.nodesAt place = inv.nodesAt place
  layout : inv'.layout = inv.layout

/-- Where a name is free, creating a disk of the name fails, or it creates what was asked for. -/
theorem creates_of_findByName {inv : Inventory} {dc : Datacenter} {state : DatacenterState}
    (hState : inv.state? dc = some state) {pool : Pool} {name : String}
    (hFree : (inv.answer (.findByName dc pool name)).1 = .ok none) (sizeMb : UInt64) :
    (∃ failure, (inv.answer (.createDisk dc pool name sizeMb)).1 = .error failure) ∨
      ∃ disk, inv.Creates dc pool name sizeMb disk (inv.answer (.createDisk dc pool name sizeMb)).2.2 := by
  cases hParent : state.placement pool with
  | error failure => exact .inl ⟨failure, (answer_createDisk_error hState hParent name sizeMb).1⟩
  | ok parent =>
      obtain ⟨hReply, hAfter⟩ := answer_createDisk_ok hState hParent name sizeMb
      let disk := Entry.disk ⟨idText inv.nextId, name, sizeMb, parent⟩
      let inv' : Inventory := { inv.modify dc (·.addDisk disk) with nextId := inv.nextId + 1 }
      have hPool : disk.parent.pool = pool := DatacenterState.pool_of_placement hParent
      have hDisks := disksAt_addDisk hState disk
      have hThere : inv'.state? dc = some (state.addDisk disk) := by
        change (inv.modify dc (·.addDisk disk)).state? dc = _
        rw [state?_modify, if_pos rfl, hState]
        rfl
      refine .inr ⟨disk, hReply, ?_, rfl, hPool, rfl, fun place => ?_, fun place => ?_, ?_⟩
      · rw [answer_findByName hState] at hFree
        have hHere : inv'.disksAt dc.place = inv.disksAt dc.place ++ [disk] :=
          (hDisks dc.place).trans (by rw [if_pos rfl])
        rw [hAfter, answer_findByName hThere, hHere, List.find?_append, Except.ok.inj hFree]
        simp [Disk.isIn_eq_decide, hPool, show disk.name = name from rfl]
      · rw [hAfter]
        exact hDisks place
      · rw [hAfter]
        exact nodesAt_modify inv dc (f := (·.addDisk disk)) (fun _ => rfl) place
      · exact (effect_answer inv _).layout

end Inventory

/-- The errors of a create that did not read its disk back. -/
inductive Error.OfReread (name : String) : Error → Prop where
  | aborted (abort : Abort) : OfReread name (Operation.abortError "GetFirstClassDisk" abort)
  | failed (failure : BackendError) : OfReread name (Cause.rereadFailed name failure).toError

namespace Alone

variable {zone : Option BackendError} {number : Nat} {inv : Inventory}

/-! The create of the store. -/

/-- What a create of the store ends with, and what is there then. -/
def CreateEnds (inv : Inventory) (dc : Datacenter) (pool : Pool) (name : String) (sizeMb : UInt64) :
    Except Error CreateOutcome → Inventory → Prop
  | .ok outcome, _ => outcome.disk.capacityMb = sizeMb
  | .error e, after => after = inv ∨ ∃ disk, inv.Creates dc pool name sizeMb disk after ∧ e.OfReread name

section

variable {dc : Datacenter} {pool : Pool} {name : String} {sizeMb : UInt64} {grip : Grip}

theorem reuse (disk : Disk) :
    (rules zone).Follows number
      (fun result after => after.grip = grip ∧ CreateEnds inv dc pool name sizeMb result after.known)
      (VolumeStore.reuse name sizeMb disk).run ⟨grip, inv⟩ := by
  refine Follows.afterNote records ?_
  by_cases hSize : disk.capacityMb = sizeMb
  · rw [if_neg (not_not.2 hSize)]
    exact ⟨rfl, hSize⟩
  · rw [if_pos hSize]
    exact Follows.reject records ⟨rfl, .inl rfl⟩

/-- Once the disk is created only reading it back can fail. -/
theorem create {state : DatacenterState} (hState : inv.state? dc = some state)
    (hFree : (inv.answer (.findByName dc pool name)).1 = .ok none) :
    (rules zone).Follows number
      (fun result after => after.grip = grip ∧ CreateEnds inv dc pool name sizeMb result after.known)
      (VolumeStore.create dc pool name sizeMb).run ⟨grip, inv⟩ := by
  refine callThen (fun _ => ⟨rfl, .inl rfl⟩) (fun _ _ => Follows.reject records ⟨rfl, .inl rfl⟩) fun _ => ?_
  rcases Inventory.creates_of_findByName hState hFree sizeMb with ⟨failure, hReply⟩ | ⟨disk, hCreates⟩
  · rw [Inventory.answer_eq_of_error hReply, hReply]
    exact Follows.reject records ⟨rfl, .inl rfl⟩
  · rw [hCreates.reply]
    refine callThen (fun abort => ⟨rfl, .inr ⟨disk, hCreates, .aborted abort⟩⟩) (fun failure _ => ?_) fun _ => ?_
    · exact Follows.reject records ⟨rfl, .inr ⟨disk, hCreates, .failed failure⟩⟩
    · rw [hCreates.found]
      exact Follows.afterNote records ⟨rfl, hCreates.size⟩

theorem createUnlocked {state : DatacenterState} (hState : inv.state? dc = some state) :
    (rules zone).Follows number
      (fun result after => after.grip = grip ∧ CreateEnds inv dc pool name sizeMb result after.known)
      (VolumeStore.createUnlocked dc pool name sizeMb).run ⟨grip, inv⟩ := by
  refine callThen (fun _ => ⟨rfl, .inl rfl⟩) (fun _ _ => Follows.reject records ⟨rfl, .inl rfl⟩) fun _ => ?_
  cases hLook : (inv.answer (.findByName dc pool name)).1 with
  | error failure => exact Follows.reject records ⟨rfl, .inl rfl⟩
  | ok found =>
      cases found with
      | some disk => exact reuse disk
      | none => exact create hState hLook

theorem createOrGet (store : VolumeStore) {state : DatacenterState} (hState : inv.state? dc = some state) :
    (rules zone).Follows number
      (fun result after => after.grip = .away ∧ CreateEnds inv dc pool name sizeMb result after.known)
      (store.createOrGet dc pool name sizeMb).run ⟨.away, inv⟩ := by
  unfold VolumeStore.createOrGet
  split
  · refine Follows.locked (CreateEnds inv dc pool name sizeMb) ignoresLocks trivial (fun _ _ => .inl rfl) fun lock => ?_
    exact (createUnlocked hState).mono fun result after h => ⟨h.1, trivial, h.2⟩
  · exact createUnlocked hState

end

/-! Placements. -/

/-- What a search for a site ends with: if a site, then the one that the inventory has, and no search for a zone
was to fail. -/
def Locates (zone : Option BackendError) (stage : Stage Inventory) (located : Except Error Site) :
    Except Error Site → Stage Inventory → Prop
  | .ok site, after => after = stage ∧ zone = none ∧ located = .ok site
  | .error _, after => after = stage

theorem exhausted {α : Type} {stage : Stage Inventory} {goal : Except Error α → Stage Inventory → Prop}
    (tried : String) (cause : Error) (h : ∀ e, goal (.error e) stage) :
    (rules zone).Follows number goal (Placement.exhausted tried cause : Operation α).run stage := by
  unfold Placement.exhausted
  split
  · exact Follows.afterNote records (h _)
  · exact Follows.reject records (h _)

/-- What a search for one zone ends with: unless it was aborted, an error is the inventory's own or the failure of
all searches for zones. -/
theorem lookup (labels : LabelsConfig) (tag region : String) (stage : Stage Inventory) :
    (rules zone).Follows number
      (fun
        | .ok site, after => after = stage ∧ zone = none ∧ stage.known.resolveZone tag region = .ok site
        | .error e, after => after = stage ∧ (e.isAborted = false → zone = none →
            ∃ failure, stage.known.resolveZone tag region = .error failure ∧ e = .backend failure))
      (Placement.lookup labels tag region).run stage := by
  refine callThen (fun abort => ⟨rfl, ?_⟩) (fun failure hFails => ⟨rfl, ?_⟩) fun hWorks => ?_
  · intro hAborted
    cases abort <;> cases hAborted
  · intro _ hNone
    rw [hNone] at hFails
    cases hFails rfl
  · have hReply : (stage.known.answer (.resolveZone ⟨labels.zone, labels.region, tag, region⟩)).1 =
        stage.known.resolveZone tag region := rfl
    rw [hReply]
    cases hZone : stage.known.resolveZone tag region with
    | ok site => exact ⟨rfl, hWorks rfl, rfl⟩
    | error failure => exact ⟨rfl, fun _ _ => ⟨failure, rfl, rfl⟩⟩

theorem searchSegments (labels : LabelsConfig) (last : String × Error) (segments : List Topology)
    (stage : Stage Inventory) :
    (rules zone).Follows number (Locates zone stage (stage.known.locateSegments last segments))
      (Placement.searchSegments labels last segments).run stage := by
  induction segments generalizing last with
  | nil => exact exhausted last.1 last.2 fun _ => rfl
  | cons segment segments ih =>
      refine Follows.bindOperation (Follows.attempt ((lookup labels _ _ stage).mono ?_))
      rintro (e | site) after ⟨rfl, h⟩
      · by_cases hAborted : e.isAborted = true
        · simp only [hAborted, if_true]
          exact exhausted _ _ fun _ => rfl
        · simp only [hAborted]
          refine (ih (segment.segment zoneLabel, e)).mono ?_
          rintro (e' | site) after' hFound
          · exact hFound
          · obtain ⟨rfl, hNone, hLocated⟩ := hFound
            obtain ⟨failure, hZone, rfl⟩ := h (Bool.not_eq_true _ ▸ hAborted) hNone
            refine ⟨rfl, hNone, ?_⟩
            simp only [Inventory.locateSegments, hZone]
            exact hLocated
      · refine Follows.afterNote records ⟨rfl, h.1, ?_⟩
        simp only [Inventory.locateSegments, h.2]

theorem resolve (labels : LabelsConfig) (placement : Placement) (stage : Stage Inventory) :
    (rules zone).Follows number (Locates zone stage (stage.known.locate placement))
      (placement.resolve labels).run stage := by
  cases placement with
  | topology requirement => exact Follows.afterNote records (searchSegments labels _ _ stage)
  | legacy tag region =>
      refine Follows.afterNote records (Follows.bindOperation (Follows.attempt ((lookup labels _ _ stage).mono ?_)))
      rintro (e | site) after ⟨rfl, h⟩
      · exact exhausted _ _ fun _ => rfl
      · refine ⟨rfl, h.1, ?_⟩
        simp only [Inventory.locate, h.2]

/-! The request. -/

/-- What a create request leaves: if it failed, what there was, or also the disk that it did not read back. -/
def CreateLeaves (inv : Inventory) (request : CreateVolumeRequest) :
    Except Error CreateVolumeResponse → Stage Inventory → Prop
  | .ok _, _ => True
  | .error e, after => after.known = inv ∨ ∃ order site disk, Controller.order request = .ok order ∧
      inv.locate (request.placement order) = .ok site ∧ after.grip = .away ∧
      inv.Creates site.datacenter order.pool request.name order.sizeMb disk after.known ∧ e.OfReread request.name

theorem createVolume (c : Controller) (request : CreateVolumeRequest) :
    (rules zone).Follows number (CreateLeaves inv request) (c.createVolume request).run ⟨.away, inv⟩ := by
  refine Follows.instrumented records (Follows.bindOperation (Follows.ofCause records ?_ fun _ _ => .inl rfl))
  intro order hOrder
  refine Follows.afterNote records (Follows.bindOperation ((resolve c.labels _ _).mono ?_))
  rintro (e | site) after hFound
  · exact .inl (congrArg Stage.known hFound)
  obtain ⟨rfl, -, hSite⟩ := hFound
  obtain ⟨state, hState⟩ := Inventory.state?_of_mem_sites (Inventory.mem_sites_of_locate hSite)
  refine Follows.bindOperation ((createOrGet c.store hState).mono ?_)
  rintro (e | outcome) ⟨grip, known⟩ ⟨rfl, hEnds⟩
  · rcases hEnds with rfl | ⟨disk, hCreates, hReread⟩
    · exact .inl rfl
    · exact .inr ⟨order, site, disk, hOrder, hSite, rfl, hCreates, hReread⟩
  · have hGranted := Controller.requestedMb_of_order hOrder
    rw [← show outcome.disk.capacityMb = order.sizeMb from hEnds] at hGranted
    obtain ⟨bytes, hBytes, -⟩ := Capacity.bytes?_of_requestedMb hGranted
    have hReport : (rules zone).Follows number (CreateLeaves inv request)
        (do
          let volume ← Operation.ofCause (Volume.ofDisk outcome.disk site.endpoint site.datacenter.name)
          return ⟨volume⟩ : Operation CreateVolumeResponse).run ⟨.away, known⟩ := by
      rw [Volume.ofDisk_of_bytes? hBytes]
      exact trivial
    cases outcome with
    | existing disk => exact Follows.afterNote records hReport
    | created disk => exact hReport

end Alone

end VolumeController
