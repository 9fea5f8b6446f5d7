import VolumeController.Proofs.Inventory
/-! An inventory without its faults. While nothing fails, faults only count calls and delay them, so an
inventory answers as it does without them. -/

namespace VolumeController

/-- A datacenter without its faults. -/
def DatacenterState.cleared (dc : DatacenterState) : DatacenterState :=
  { dc with faults := {} }

namespace Inventory

/-- An inventory without its faults. -/
def cleared (inv : Inventory) : Inventory :=
  { inv with datacenters := inv.datacenters.map (·.cleared), faults := {} }

variable (inv : Inventory)

theorem cleared_cleared : inv.cleared.cleared = inv.cleared := by
  simp [cleared, DatacenterState.cleared, Function.comp_def]

theorem state?_cleared (dc : Datacenter) :
    inv.cleared.state? dc = (inv.state? dc).map (·.cleared) := by
  simp [cleared, state?]

theorem layout_cleared : inv.cleared.layout = inv.layout := by
  simp [cleared, layout, DatacenterState.cleared, DatacenterState.layout, Function.comp_def]

theorem disksAt_cleared (place : Nat) : inv.cleared.disksAt place = inv.disksAt place := by
  simp only [disksAt, cleared, List.getElem?_map]
  cases inv.datacenters[place]? <;> rfl

theorem disksAt_eq_of_cleared {inv inv' : Inventory} (h : inv'.cleared = inv.cleared) {place : Nat} :
    inv'.disksAt place = inv.disksAt place := by
  rw [← disksAt_cleared, h, disksAt_cleared]

theorem named_cleared (place : Nat) (pool : Pool) (name : String) :
    inv.cleared.named place pool name = inv.named place pool name := by
  rw [named, named, disksAt_cleared]

theorem faultless_cleared : inv.cleared.Faultless := by
  refine ⟨rfl, fun s hs => ?_⟩
  obtain ⟨s', -, rfl⟩ := List.mem_map.1 hs
  rfl

theorem cleared_modify (dc : Datacenter) {f g : DatacenterState → DatacenterState}
    (h : ∀ s, (f s).cleared = g s.cleared) : (inv.modify dc f).cleared = inv.cleared.modify dc g := by
  have hMap : (inv.datacenters.modify dc.place f).map (·.cleared) =
      (inv.datacenters.map (·.cleared)).modify dc.place g := by
    refine List.ext_getElem? fun i => ?_
    simp only [List.getElem?_map, List.getElem?_modify]
    cases inv.datacenters[i]? with
    | none => rfl
    | some s =>
        by_cases hPlace : dc.place = i
        · simp [hPlace, h]
        · simp [hPlace]
  simp [modify, cleared, hMap]

theorem cleared_modifyFaults (dc : Option Datacenter) (f : Faults → Faults) :
    (inv.modifyFaults dc f).cleared = inv.cleared := by
  cases dc with
  | none => rfl
  | some dc =>
      have hModify := cleared_modify inv dc (f := fun s => { s with faults := f s.faults }) (g := id)
        fun _ => rfl
      refine hModify.trans ?_
      simp [modify]

theorem cleared_start (c : Call) : (Platform.start c inv).2.2.cleared = inv.cleared :=
  cleared_modifyFaults inv _ _

theorem cleared_obey {c : InventoryCommand} (hCommand : ¬ c.Inserts) :
    (Bench.obey c inv).2.cleared = inv.cleared := by
  cases c with
  | fail dc kind failure => exact cleared_modifyFaults inv dc _
  | clear dc kind => exact cleared_modifyFaults inv dc _
  | delay dc latency => exact cleared_modifyFaults inv dc _
  | countCalls dc kind => cases dc <;> rfl
  | insertDisk dc d => exact absurd trivial hCommand
  | _ => rfl

theorem sites_cleared : inv.cleared.sites = inv.sites :=
  sites_eq_of_map (·.cleared) rfl (fun _ => rfl) fun _ => rfl

theorem resolveZone_cleared (zone region : String) :
    inv.cleared.resolveZone zone region = inv.resolveZone zone region :=
  resolveZone_eq_of_map (·.cleared) rfl (fun _ => rfl) (fun _ => rfl) (fun _ _ _ => rfl) zone region

theorem createDisk_cleared (dc : Datacenter) (s : DatacenterState) (pool : Pool) (name : String)
    (sizeMb : UInt64) :
    inv.cleared.createDisk dc s.cleared pool name sizeMb =
      ((inv.createDisk dc s pool name sizeMb).1, (inv.createDisk dc s pool name sizeMb).2.1,
        (inv.createDisk dc s pool name sizeMb).2.2.cleared) := by
  have hPlacement : s.cleared.placement pool = s.placement pool := rfl
  simp only [createDisk, hPlacement]
  cases s.placement pool with
  | error failure => rfl
  | ok parent =>
      let disk : Disk := ⟨idText inv.nextId, name, sizeMb, parent,
        .file (backingPath parent.owner (idText inv.nextId))⟩
      have hModify := cleared_modify inv dc (f := (·.addDisk disk)) (g := (·.addDisk disk)) fun _ => rfl
      refine Prod.ext rfl (Prod.ext rfl ?_)
      exact congrArg (fun inv' : Inventory => { inv' with nextId := inv.nextId + 1 }) hModify.symm

theorem deleteDisk_cleared (dc : Datacenter) (s : DatacenterState) (pool : Pool) (id : String) :
    inv.cleared.deleteDisk dc s.cleared pool id =
      ((inv.deleteDisk dc s pool id).1, (inv.deleteDisk dc s pool id).2.1,
        (inv.deleteDisk dc s pool id).2.2.cleared) := by
  have hRemove : s.cleared.removeDisk? pool id = (s.removeDisk? pool id).map (·.cleared) := by
    have hDisks : s.cleared.disks = s.disks := rfl
    unfold DatacenterState.removeDisk?
    rw [hDisks]
    split <;> rfl
  simp only [deleteDisk, hRemove]
  cases s.removeDisk? pool id with
  | none => rfl
  | some s' =>
      have hModify := cleared_modify inv dc (f := fun _ => s') (g := fun _ => s'.cleared) fun _ => rfl
      exact Prod.ext rfl (Prod.ext rfl hModify.symm)

theorem attachDisk_cleared (node : Node) (s : DatacenterState) (path : String)
    (controller : ScsiController) :
    inv.cleared.attachDisk node s.cleared path controller =
      ((inv.attachDisk node s path controller).1, (inv.attachDisk node s path controller).2.1,
        (inv.attachDisk node s path controller).2.2.cleared) := by
  have hHandle : s.cleared.handle? node.name path = s.handle? node.name path := rfl
  simp only [attachDisk, hHandle]
  cases s.handle? node.name path with
  | some handle => rfl
  | none =>
      have hModify := cleared_modify inv node.datacenter
        (f := (·.addDevice node.name path (idText inv.nextId)))
        (g := (·.addDevice node.name path (idText inv.nextId))) fun _ => rfl
      refine Prod.ext rfl (Prod.ext rfl ?_)
      exact congrArg (fun inv' : Inventory => { inv' with nextId := inv.nextId + 1 }) hModify.symm

theorem detachDisk_cleared (node : Node) (s : DatacenterState) (path : String) :
    inv.cleared.detachDisk node s.cleared path =
      ((inv.detachDisk node s path).1, (inv.detachDisk node s path).2.1,
        (inv.detachDisk node s path).2.2.cleared) := by
  have hHandle : s.cleared.handle? node.name path = s.handle? node.name path := rfl
  simp only [detachDisk, hHandle]
  cases s.handle? node.name path with
  | none => rfl
  | some handle =>
      have hModify := cleared_modify inv node.datacenter (f := (·.removeDevice node.name path))
        (g := (·.removeDevice node.name path)) fun _ => rfl
      exact Prod.ext rfl (Prod.ext rfl hModify.symm)

/-- Answers do not depend on faults. -/
theorem answer_cleared (c : Call) :
    inv.cleared.answer c = ((inv.answer c).1, (inv.answer c).2.1, (inv.answer c).2.2.cleared) := by
  cases c with
  | apiVersion center => rfl
  | resolveZone query => simp [answer, resolveZone_cleared]
  | listSites => simp [answer, sites_cleared]
  | findByName dc pool name =>
      simp only [answer, state?_cleared]
      cases inv.state? dc <;> rfl
  | findById dc id =>
      simp only [answer, state?_cleared]
      cases inv.state? dc <;> rfl
  | createDisk dc pool name sizeMb =>
      simp only [answer, state?_cleared]
      cases inv.state? dc with
      | none => rfl
      | some s => exact createDisk_cleared inv dc s pool name sizeMb
  | deleteDisk dc pool id =>
      simp only [answer, state?_cleared]
      cases inv.state? dc with
      | none => rfl
      | some s => exact deleteDisk_cleared inv dc s pool id
  | listDisks dc =>
      simp only [answer, state?_cleared]
      cases inv.state? dc <;> rfl
  | findNode dc dnsName =>
      simp only [answer, state?_cleared]
      cases inv.state? dc <;> rfl
  | attachDisk node path controller =>
      simp only [answer, state?_cleared]
      cases inv.state? node.datacenter with
      | none => rfl
      | some s => exact attachDisk_cleared inv node s path controller
  | detachDisk node path =>
      simp only [answer, state?_cleared]
      cases inv.state? node.datacenter with
      | none => rfl
      | some s => exact detachDisk_cleared inv node s path

/-- While nothing fails, the end of a call is the answer of the inventory without its faults. -/
theorem Faultless.finish_cleared {inv : Inventory} (hInv : inv.Faultless) (c : Call)
    (ticket : Platform.Ticket Inventory) :
    (Platform.finish c ticket inv).1 = (inv.cleared.answer c).1 ∧
      (Platform.finish c ticket inv).2.2.cleared = (inv.cleared.answer c).2.2 := by
  rw [hInv.finish_eq, answer_cleared]
  exact ⟨rfl, rfl⟩

end Inventory

end VolumeController
