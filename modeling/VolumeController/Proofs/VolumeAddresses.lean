import VolumeController.Proofs.ExactDeletes
import VolumeController.Proofs.Failures
import VolumeController.Proofs.SeparateCreates
/-! The attributes of a volume address it. They tell the pool and the name of its disk, and a create that takes its
parameters from them looks for a disk just there. Main result: it finds the disk that is reported, if the disk is the
first of its name in its pool, so that nothing is created again. -/

namespace VolumeController

variable {disk : Disk} {dc : Datacenter}

/-! What is read from the attributes. -/

/-- The pool that parameters tell, as a create takes it from them. -/
def Controller.pool (parameters : Dict String) : Pool :=
  ⟨.ofParameter (parameter parameters Attribute.parentType), parameter parameters Attribute.parentName⟩

/-- A create whose parameters are accepted takes its pool from them. -/
theorem Controller.pool_of_order {request : CreateVolumeRequest} {order : CreateOrder}
    (h : Controller.order request = .ok order) : order.pool = pool request.parameters := by
  have hParameter {key value : String} (hRequired : requiredParameter request.parameters key = .ok value) :
      value = parameter request.parameters key := by
    unfold requiredParameter at hRequired
    split at hRequired
    · cases hRequired
    · exact (Except.ok.inj hRequired).symm
  unfold Controller.order at h
  simp only at h
  split at h
  · cases h
  · split at h
    · cases h
    · obtain ⟨kind, hKind, h⟩ := bind_eq_ok h
      obtain ⟨name, hName, h⟩ := bind_eq_ok h
      obtain ⟨sizeMb, -, h⟩ := bind_eq_ok h
      cases h
      rw [hParameter hKind, hParameter hName]
      rfl

namespace Disk

/-- The two entries that tell the pool, one case for each kind of parent. -/
theorem get?_attributes_parent (disk : Disk) (endpoint datacenter : String) :
    let attributes := disk.attributes endpoint datacenter
    match disk.parent with
    | .datastore name =>
      attributes.get? Attribute.parentType = some "Datastore" ∧ attributes.get? Attribute.parentName = some name
    | .cluster name _ =>
      attributes.get? Attribute.parentType = some "DatastoreCluster" ∧
        attributes.get? Attribute.parentName = some name := by
  intro attributes
  have hType : attributes.get? Attribute.parentType = some disk.parent.kind.text := disk.get?_attributes _ _ _
  have hName : attributes.get? Attribute.parentName =
      match disk.parent with
      | .datastore name => some name
      | .cluster name _ => some name := disk.get?_attributes _ _ _
  cases hParent : disk.parent with
  | datastore name =>
      rw [hParent] at hType hName
      exact ⟨hType, hName⟩
  | cluster name member =>
      rw [hParent] at hType hName
      exact ⟨hType, hName⟩

theorem parameter_attributes_name (disk : Disk) (endpoint datacenter : String) :
    Controller.parameter (disk.attributes endpoint datacenter) Attribute.name = disk.name := by
  rw [Controller.parameter, get?_attributes]
  rfl

/-- The attributes tell the pool that the disk lies in. -/
theorem pool_attributes (disk : Disk) (endpoint datacenter : String) :
    Controller.pool (disk.attributes endpoint datacenter) = disk.parent.pool := by
  have hKind : Controller.parameter (disk.attributes endpoint datacenter) Attribute.parentType =
      disk.parent.kind.text := by
    rw [Controller.parameter, get?_attributes]
    rfl
  have hEntries := disk.get?_attributes_parent endpoint datacenter
  rw [Controller.pool, hKind, PoolKind.ofParameter_text, Controller.parameter]
  cases hParent : disk.parent with
  | datastore name =>
      rw [hParent] at hEntries
      rw [hEntries.2]
      rfl
  | cluster name member =>
      rw [hParent] at hEntries
      rw [hEntries.2]
      rfl

theorem isIn_pool_attributes (disk : Disk) (endpoint datacenter : String) :
    disk.isIn (Controller.pool (disk.attributes endpoint datacenter)) = true := by
  rw [pool_attributes]
  exact disk.isIn_pool

end Disk

/-! Creates at the address of a disk. -/

/-- Whether a disk of a datacenter is the first of its name in its pool. -/
def DatacenterState.HasFirst (state : DatacenterState) (disk : Disk) : Prop :=
  ∃ earlier later, state.disks = earlier ++ disk :: later ∧
    ∀ other ∈ earlier, other.parent.pool = disk.parent.pool → other.name ≠ disk.name

/-- A search finds the first disk of its name in its pool. -/
theorem DatacenterState.HasFirst.findByName_eq {state : DatacenterState} (h : state.HasFirst disk) :
    state.findByName disk.parent.pool disk.name = some disk := by
  obtain ⟨earlier, later, hDisks, hEarlier⟩ := h
  rw [findByName, hDisks, List.find?_eq_some_iff_append]
  refine ⟨by simp, earlier, later, rfl, fun other hOther => ?_⟩
  by_cases hPool : other.parent.pool = disk.parent.pool
  · simp [hEarlier other hOther hPool]
  · simp [Disk.isIn_eq_decide, hPool]

/-- What a create at the address of a disk ends with. -/
def Disk.againstSize (disk : Disk) (sizeMb : UInt64) : Except Error CreateOutcome :=
  if disk.capacityMb = sizeMb then .ok (.existing disk)
  else .error (Cause.sizeDiffers disk.capacityMb.toNat sizeMb.toNat).toError

/-- Where a search shows a disk, a create of the store hands it out or refuses it, and only reads. -/
theorem VolumeStore.createOrGet_meets_still {inv : Inventory} {pool : Pool} {name : String}
    (hFound : (inv.answer (.findByName dc pool name)).1 = .ok (some disk)) (store : VolumeStore) (sizeMb : UInt64) :
    (store.createOrGet dc pool name sizeMb).run.Meets inv.still.unaborted (· = disk.againstSize sizeMb) := by
  have hUnlocked : (createUnlocked dc pool name sizeMb).run.Meets inv.still.unaborted
      (· = disk.againstSize sizeMb) := by
    refine .bindOperation (.call rfl (fun abort hTold => absurd rfl (hTold.1 abort)) fun reply hTold => ?_)
    obtain rfl : reply = .ok (some disk) := hTold.2.trans hFound
    refine .afterNote ?_
    unfold Disk.againstSize
    by_cases hSize : disk.capacityMb = sizeMb
    · rw [if_neg (not_not.2 hSize), if_pos hSize]
      exact rfl
    · rw [if_pos hSize, if_neg hSize]
      exact .reject rfl
  unfold createOrGet
  split
  · exact .locked (fun _ => trivial) (fun _ abort hTold => absurd rfl (hTold.1 abort)) hUnlocked
  · exact hUnlocked

/-- Attributes address the volume that they are reported with. The pool that a create takes from the attributes of a disk
is the pool that the disk is deleted from, and the disk lies in it. Let the disk be the first of its name in its pool.
Any creates of the store at once that take pool and name from the attributes, where nothing fails and no context ends
them, create nothing and change nothing: each hands out just this disk if it asks for its size, and is told that the
volume exists already if it asks for another. Each of them alone comes to its end. -/
theorem attributes_address_volumes {w : World Inventory} (hFaultless : w.platform.Faultless) {state : DatacenterState}
    (hState : w.platform.state? dc = some state) (hFirst : state.HasFirst disk) (endpoint : String) :
    let attributes := disk.attributes endpoint dc.name
    let create (sizeMb : UInt64) : CreateCall :=
      ⟨dc, Controller.pool attributes, Controller.parameter attributes Attribute.name, sizeMb⟩
    (Controller.pool attributes = disk.parent.pool ∧ disk.isIn (Controller.pool attributes) = true) ∧
    (∀ request order, request.parameters.get? Attribute.parentType = attributes.get? Attribute.parentType →
      request.parameters.get? Attribute.parentName = attributes.get? Attribute.parentName →
        Controller.order request = .ok order → order.pool = disk.parent.pool) ∧
    ∀ store : VolumeStore,
      (∀ (sizes : List (Context × UInt64)) s, System.Runs Inventory.calm (System.start w
          (store.creates (sizes.map fun (ctx, sizeMb) => (ctx, create sizeMb)))) s →
        s.world.platform.cleared = w.platform.cleared ∧
        (∃ begun, s.world.calls = begun ++ w.calls ∧ ∀ call ∈ begun, call.reads) ∧
        ∀ number ctx sizeMb result, sizes[number]? = some (ctx, sizeMb) → s.result? number = some result →
          (sizeMb = disk.capacityMb → result = .ok (.existing disk)) ∧
          (sizeMb ≠ disk.capacityMb → ∃ message, result = .error (.alreadyExists message))) ∧
      (w.locks.table = [] → ∀ sizeMb, ∃ s result,
        System.Runs Inventory.calm (System.start w (store.creates [(.background, create sizeMb)])) s ∧
          s.result? 0 = some result) := by
  intro attributes create
  have hPool : Controller.pool attributes = disk.parent.pool := disk.pool_attributes endpoint dc.name
  have hName : Controller.parameter attributes Attribute.name = disk.name :=
    disk.parameter_attributes_name endpoint dc.name
  have hFound : (w.platform.cleared.answer (.findByName dc (Controller.pool attributes)
      (Controller.parameter attributes Attribute.name))).1 = .ok (some disk) := by
    rw [Inventory.answer_cleared, hPool, hName, ← hFirst.findByName_eq]
    simp only [Inventory.answer, hState]
  refine ⟨⟨hPool, disk.isIn_pool_attributes endpoint dc.name⟩, fun request order hKind hParent hOrder => ?_,
    fun store => ⟨fun sizes s hRuns => ?_, fun hLocks sizeMb => ?_⟩⟩
  · rw [Controller.pool_of_order hOrder, ← hPool, Controller.pool, Controller.pool, Controller.parameter,
      Controller.parameter, hKind, hParent]
    rfl
  · have hUpheld := (Inventory.upheld_still w.platform.cleared).unaborted id
    have hMeets : ∀ (number : Nat) job,
        (store.creates (sizes.map fun (ctx, sizeMb) => (ctx, create sizeMb)))[number]? = some job →
          job.2.Meets w.platform.cleared.still.unaborted fun result =>
            ∀ ctx sizeMb, sizes[number]? = some (ctx, sizeMb) → result = disk.againstSize sizeMb := by
      intro number job hJob
      simp only [VolumeStore.creates, List.map_map, List.getElem?_map, Option.map_eq_some_iff] at hJob
      obtain ⟨⟨ctx, sizeMb⟩, hSize, rfl⟩ := hJob
      refine (VolumeStore.createOrGet_meets_still hFound store sizeMb).mono ?_
      rintro _ rfl ctx' sizeMb' hSize'
      cases hSize.symm.trans hSize'
      rfl
    obtain ⟨⟨-, hSame⟩, hResults⟩ := hUpheld.runs ⟨hFaultless, rfl⟩ hMeets hRuns
    refine ⟨hSame, hUpheld.hasBegun ⟨hFaultless, rfl⟩ hMeets hRuns, ?_⟩
    intro number ctx sizeMb result hSize hResult
    rw [hResults number result hResult ctx sizeMb hSize, Disk.againstSize]
    exact ⟨fun hFits => if_pos hFits.symm, fun hOther => ⟨_, if_neg fun hFits => hOther hFits.symm⟩⟩
  · exact (create sizeMb).exists_alone store hLocks hFaultless

/-- The disk of a cluster in a crowd. -/
def Disk.pooled : Disk :=
  ⟨"shared", "volume", 2048, .cluster "ds" "ds", .other "rdm"⟩

/-- The attributes of the disk, and two sizes to ask for at once: its own, and another one. -/
def Disk.pooledCreates : List (Context × CreateCall) :=
  let attributes := Disk.pooled.attributes "vc:443" "dc"
  [(.background, 2048), (.background, 1024)].map fun (ctx, sizeMb) =>
    (ctx, ⟨⟨"dc", 0⟩, Controller.pool attributes, Controller.parameter attributes Attribute.name, sizeMb⟩)

set_option maxRecDepth 10000 in
/-- In a crowd of disks of one name the disk of the cluster is handed out for its size and refused for another. -/
theorem attributes_address_volumes_crowded :
    ∃ s message, System.Runs Inventory.calm
        (System.start { platform := .crowded } (VolumeStore.creates ⟨true, 0⟩ Disk.pooledCreates)) s ∧
      s.result? 0 = some (.ok (.existing Disk.pooled)) ∧ s.result? 1 = some (.error (.alreadyExists message)) ∧
      s.world.platform.cleared = Inventory.crowded.cleared := by
  have hAdmits : ∀ job ∈ VolumeStore.creates ⟨true, 0⟩ Disk.pooledCreates, Inventory.calm.Admits job.1 := by
    simp [VolumeStore.creates, Disk.pooledCreates, Surroundings.admits_background]
  obtain ⟨s, hRuns, -, hResults⟩ := Lab.exists_runs 100 { platform := .crowded }
    (VolumeStore.creates ⟨true, 0⟩ Disk.pooledCreates) hAdmits
  have hFaultless : ({ platform := .crowded } : World Inventory).platform.Faultless := Inventory.faultless_crowded
  have hFirst : (DatacenterState.holding "dc" Disk.crowd).HasFirst Disk.pooled :=
    ⟨Disk.crowd.take 1, Disk.crowd.drop 2, rfl, by decide⟩
  have hState : ({ platform := .crowded } : World Inventory).platform.state? ⟨"dc", 0⟩ =
      some (.holding "dc" Disk.crowd) := rfl
  obtain ⟨-, -, hCreates⟩ := attributes_address_volumes hFaultless hState hFirst "vc:443"
  obtain ⟨hSame, -, hEnds⟩ := (hCreates ⟨true, 0⟩).1 [(.background, 2048), (.background, 1024)] s hRuns
  have hFirstResult : s.result? 0 = some (Disk.pooled.againstSize 2048) := hResults 0 _ (by decide +kernel)
  have hSecondResult : s.result? 1 = some (Disk.pooled.againstSize 1024) := hResults 1 _ (by decide +kernel)
  obtain ⟨message, hMessage⟩ := (hEnds 1 _ _ _ rfl hSecondResult).2 (by decide)
  refine ⟨s, message, hRuns, ?_, hMessage ▸ hSecondResult, hSame⟩
  rw [hFirstResult, (hEnds 0 _ _ _ rfl hFirstResult).1 rfl]

end VolumeController
