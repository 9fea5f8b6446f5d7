import Mathlib.Algebra.Group.Nat.Defs
import Mathlib.Data.List.Nodup
import VolumeController.Proofs.Capacity
import VolumeController.Proofs.Catalogue.Creation
import VolumeController.Proofs.Interleaving.Agreement
/-! Inventories as calls leave them: ids and backing files are never given twice, sizes are those that a
create request can ask for, and disks lie where the configuration has room for them. The inventory promises to
show only disks that can be reported and attached. -/

namespace VolumeController

/-- A size, in megabytes, that can be asked for: whole gibibytes, few enough to be reported in bytes. -/
def Capacity.Granted (sizeMb : UInt64) : Prop :=
  0 < sizeMb.toNat ∧ 1024 ∣ sizeMb.toNat ∧ sizeMb.toNat * mebibyte < reportable

/-- A disk as it is made at a place of a layout. -/
structure Disk.Regular (layout : Inventory) (place : Nat) (disk : Disk) : Prop where
  backing : disk.backing = .file (Inventory.backingPath disk.parent.owner disk.id)
  size : Capacity.Granted disk.capacityMb
  parent : ∃ s, layout.datacenters[place]? = some s ∧ s.placement disk.parent.pool = .ok disk.parent

/-- A disk that can be reported and attached. -/
structure Disk.Usable (disk : Disk) : Prop where
  file : ∃ path, disk.backing = .file path
  size : disk.capacityMb.toNat * Capacity.mebibyte < Capacity.reportable

theorem Parent.eq_of_owner (parent : Parent) :
    parent = .datastore parent.owner ∨ ∃ cluster, parent = .cluster cluster parent.owner := by
  cases parent with
  | datastore name => exact .inl rfl
  | cluster name member => exact .inr ⟨name, rfl⟩

theorem Disk.Regular.usable {layout : Inventory} {place : Nat} {disk : Disk} (h : disk.Regular layout place) :
    disk.Usable :=
  ⟨⟨_, h.backing⟩, h.size.2.2⟩

namespace Inventory

/-- An inventory of a layout, with regular disks whose ids were drawn once each. -/
structure Regular (inv layout : Inventory) : Prop where
  configured : inv.layout = layout
  ids : inv.DistinctIds
  drawn : ∀ place, ∀ disk ∈ inv.disksAt place, ∃ n < inv.nextId, disk.id = idText n
  disks : ∀ place, ∀ disk ∈ inv.disksAt place, disk.Regular layout place

variable {layout inv inv' : Inventory} {dc : Datacenter} {pool : Pool} {name : String} {sizeMb : UInt64}

/-- Creating a disk fails and changes nothing, or it puts a new disk after all others. -/
theorem createDisk_cases (inv : Inventory) (dc : Datacenter) (pool : Pool) (name : String) (sizeMb : UInt64)
    (ticket : Platform.Ticket Inventory) :
    (Platform.finish (.createDisk dc pool name sizeMb) ticket inv).2.2 = inv ∨
      ∃ s parent, inv.state? dc = some s ∧ s.placement pool = .ok parent ∧
        (Platform.finish (.createDisk dc pool name sizeMb) ticket inv).2.2 =
          { inv.modify dc (·.addDisk (Entry.disk ⟨idText inv.nextId, name, sizeMb, parent⟩)) with
            nextId := inv.nextId + 1 } := by
  simp only [Platform.finish]
  split
  · exact .inl rfl
  · cases hState : inv.state? dc with
    | none =>
        simp only [answer, hState]
        exact .inl trivial
    | some s =>
        cases hParent : s.placement pool with
        | error failure => exact .inl (answer_createDisk_error hState hParent name sizeMb).2
        | ok parent => exact .inr ⟨s, parent, rfl, hParent, (answer_createDisk_ok hState hParent name sizeMb).2⟩

theorem Effect.nextId_le {c : Call} (h : inv.Effect c inv') : inv.nextId ≤ inv'.nextId := by
  cases h with
  | keep => exact Nat.le_refl _
  | create => exact Nat.le_succ _
  | delete => exact Nat.le_refl _
  | attach => exact Nat.le_succ _
  | detach => exact Nat.le_refl _

theorem nextId_modifyFaults (inv : Inventory) (dc : Option Datacenter) (f : Faults → Faults) :
    (inv.modifyFaults dc f).nextId = inv.nextId := by
  cases dc <;> rfl

theorem nextId_obey (inv : Inventory) {c : InventoryCommand} (hCommand : ¬ c.Inserts) :
    (Bench.obey c inv).2.nextId = inv.nextId := by
  cases c with
  | fail dc kind failure => exact nextId_modifyFaults inv dc _
  | clear dc kind => exact nextId_modifyFaults inv dc _
  | delay dc latency => exact nextId_modifyFaults inv dc _
  | countCalls dc kind => cases dc <;> rfl
  | insertDisk dc d => exact absurd trivial hCommand
  | _ => rfl

namespace Regular

/-- Disks may go, and ids may be drawn for other things. -/
theorem sublist (h : inv.Regular layout) (hLayout : inv'.layout = inv.layout)
    (hDisks : ∀ place, (inv'.disksAt place).Sublist (inv.disksAt place)) (hNext : inv.nextId ≤ inv'.nextId) :
    inv'.Regular layout where
  configured := hLayout.trans h.configured
  ids := by
    refine ⟨fun place => (h.ids.within place).sublist ((hDisks place).map _), ?_⟩
    intro place place' disk disk' hDisk hDisk' hSame
    exact h.ids.across place place' disk disk' ((hDisks place).mem hDisk) ((hDisks place').mem hDisk') hSame
  drawn := by
    intro place disk hDisk
    obtain ⟨n, hn, hId⟩ := h.drawn place disk ((hDisks place).mem hDisk)
    exact ⟨n, Nat.lt_of_lt_of_le hn hNext, hId⟩
  disks := fun place disk hDisk => h.disks place disk ((hDisks place).mem hDisk)

/-- A new disk of a granted size in a pool that is there. -/
theorem addDisk (h : inv.Regular layout) {s : DatacenterState} {parent : Parent}
    (hState : inv.state? dc = some s) (hParent : s.placement pool = .ok parent)
    (hSize : Capacity.Granted sizeMb) :
    ({ inv.modify dc (·.addDisk (Entry.disk ⟨idText inv.nextId, name, sizeMb, parent⟩)) with
      nextId := inv.nextId + 1 } : Inventory).Regular layout := by
  let disk : Disk := Entry.disk ⟨idText inv.nextId, name, sizeMb, parent⟩
  have hDisks := disksAt_addDisk hState disk
  have hMem : ∀ place, ∀ d ∈ (inv.modify dc (·.addDisk disk)).disksAt place,
      d ∈ inv.disksAt place ∨ dc.place = place ∧ d = disk := by
    intro place d hd
    rw [hDisks, List.mem_append] at hd
    refine hd.imp id fun hNew => ?_
    split at hNew
    · rename_i hPlace
      exact ⟨hPlace.symm, List.mem_singleton.1 hNew⟩
    · cases hNew
  have hFresh : ∀ place, ∀ d ∈ inv.disksAt place, d.id ≠ disk.id := by
    intro place d hd hSame
    obtain ⟨n, hn, hId⟩ := h.drawn place d hd
    have hNumber : n = inv.nextId := idText_injective (hId.symm.trans hSame)
    omega
  refine ⟨?_, ⟨fun place => ?_, ?_⟩, ?_, ?_⟩
  · exact (layout_modify inv dc (f := (·.addDisk disk)) fun _ => rfl).trans h.configured
  · show ((inv.modify dc (·.addDisk disk)).disksAt place |>.map (·.id)).Nodup
    rw [hDisks]
    split
    · exact nodup_map_append (h.ids.within _) (hFresh place)
    · rw [List.append_nil]
      exact h.ids.within place
  · intro place place' d d' hd hd' hSame
    rcases hMem place d hd with hOld | ⟨hPlace, hNew⟩
    · rcases hMem place' d' hd' with hOld' | ⟨-, hNew'⟩
      · exact h.ids.across place place' d d' hOld hOld' hSame
      · exact absurd (hSame.trans (congrArg (·.id) hNew')) (hFresh place d hOld)
    · rcases hMem place' d' hd' with hOld' | ⟨hPlace', -⟩
      · exact absurd (hSame.symm.trans (congrArg (·.id) hNew)) (hFresh place' d' hOld')
      · exact hPlace.symm.trans hPlace'
  · intro place d hd
    rcases hMem place d hd with hOld | ⟨-, rfl⟩
    · obtain ⟨n, hn, hId⟩ := h.drawn place d hOld
      exact ⟨n, Nat.lt_succ_of_lt hn, hId⟩
    · exact ⟨inv.nextId, Nat.lt_succ_self _, rfl⟩
  · intro place d hd
    rcases hMem place d hd with hOld | ⟨rfl, rfl⟩
    · exact h.disks place d hOld
    · refine ⟨rfl, hSize, s.layout, ?_, ?_⟩
      · rw [← h.configured, Inventory.layout, List.getElem?_map, show inv.datacenters[dc.place]? = some s from hState]
        rfl
      · have hPool : parent.pool = pool := DatacenterState.pool_of_placement hParent
        exact (congrArg s.placement hPool).trans hParent

/-- The end of a call, where a disk is created only of a granted size. -/
theorem finish (h : inv.Regular layout) {c : Call}
    (hSize : ∀ dc pool name sizeMb, c = .createDisk dc pool name sizeMb → Capacity.Granted sizeMb)
    (ticket : Platform.Ticket Inventory) : (Platform.finish c ticket inv).2.2.Regular layout := by
  have hEffect := effect_finish inv c ticket
  by_cases hCreate : ∃ dc pool name sizeMb, c = .createDisk dc pool name sizeMb
  · obtain ⟨dc, pool, name, sizeMb, rfl⟩ := hCreate
    rcases createDisk_cases inv dc pool name sizeMb ticket with hKeep | ⟨s, parent, hState, hParent, hNew⟩
    · rwa [hKeep]
    · rw [hNew]
      exact h.addDisk hState hParent (hSize _ _ _ _ rfl)
  · refine h.sublist hEffect.layout (fun place => ?_) hEffect.nextId_le
    rcases hEffect.disksAt place with hKeep | ⟨dc, pool, name, sizeMb, _, hIs, -⟩ | ⟨_, _, id, -, -, hRemove⟩
    · rw [hKeep]
    · exact absurd ⟨dc, pool, name, sizeMb, hIs⟩ hCreate
    · rw [hRemove]
      exact List.eraseP_sublist

/-- Disks that are shown are usable. -/
theorem usable (h : inv.Regular layout) {s : DatacenterState} (hState : inv.state? dc = some s) {disk : Disk}
    (hDisk : disk ∈ s.disks) : disk.Usable := by
  rw [← disksAt_of_state? hState] at hDisk
  exact (h.disks _ disk hDisk).usable

end Regular

/-- What threads may ask of an inventory, and what it shows them. -/
def terms : Contract where
  asks
    | .call (.createDisk _ _ _ sizeMb) => Capacity.Granted sizeMb
    | _ => True
  told
    | .call (.findByName _ _ _), .ok (.ok (some disk)) => disk.Usable
    | .call (.findById _ _), .ok (.ok (some disk)) => disk.Usable
    | .call (.listDisks _), .ok (.ok disks) => ∀ disk ∈ disks, disk.Usable
    | .listings _, .ok answers => ∀ disks, .ok disks ∈ answers → ∀ disk ∈ disks, disk.Usable
    | _, _ => True

theorem Regular.told_answer (h : inv.Regular layout) (c : Call) :
    terms.told (.call c) (.ok (inv.answer c).1) := by
  cases c with
  | findByName dc pool name =>
      simp only [answer]
      cases hState : inv.state? dc with
      | none => trivial
      | some s =>
          simp only
          cases hFind : s.findByName pool name with
          | none => trivial
          | some disk => exact h.usable hState (List.mem_of_find?_eq_some hFind)
  | findById dc id =>
      simp only [answer]
      cases hState : inv.state? dc with
      | none => trivial
      | some s =>
          simp only
          cases hFind : s.findById id with
          | none => trivial
          | some disk => exact h.usable hState (List.mem_of_find?_eq_some hFind)
  | listDisks dc =>
      simp only [answer]
      cases hState : inv.state? dc with
      | none => trivial
      | some s => exact fun disk hDisk => h.usable hState hDisk
  | _ => trivial

/-- Whatever is asked of an inventory and done to it, it stays as it is configured. -/
theorem upheld_configured (env : Surroundings Inventory) (layout : Inventory) :
    Contract.Upheld ⟨fun _ => True, fun _ _ => True⟩ env fun inv => inv.layout = layout where
  start c inv _ h := (layout_start inv c).trans h
  finish c ticket inv _ h := ⟨trivial, (layout_finish inv c ticket).trans h⟩
  command c inv _ h := (layout_obey inv c).trans h
  abort _ _ _ := trivial
  asksListings _ _ _ _ := trivial
  listings _ _ _ := trivial
  lock _ := trivial
  work _ := trivial

/-- Whatever fails and whatever is given up, an inventory keeps to its terms. -/
theorem upheld_terms (layout : Inventory) : terms.Upheld rough (·.Regular layout) where
  start := by
    intro c inv _ h
    refine h.sublist (layout_start inv c) (fun place => ?_) (Nat.le_of_eq (nextId_modifyFaults inv _ _).symm)
    rw [disksAt_start]
  finish := by
    intro c ticket inv hAsks h
    refine ⟨?_, h.finish ?_ ticket⟩
    · simp only [Platform.finish]
      split
      · cases c <;> trivial
      · exact h.told_answer c
    · rintro dc pool name sizeMb rfl
      exact hAsks
  command := by
    intro c inv hCommand h
    refine h.sublist (layout_obey inv c) (fun place => ?_) (Nat.le_of_eq (nextId_obey inv hCommand).symm)
    rw [disksAt_obey inv hCommand]
  abort := by
    intro _ wait abort
    cases wait with
    | call c => cases c <;> trivial
    | _ => trivial
  asksListings := fun _ _ _ _ => trivial
  listings := by
    intro dcs answers h disks hDisks
    obtain ⟨dc, hTold⟩ := h _ hDisks
    exact hTold
  lock := fun _ => trivial
  work := fun _ => trivial

/-! What is well formed about an inventory. -/

/-- All disks. -/
def disks (inv : Inventory) : List Disk :=
  inv.datacenters.flatMap (·.disks)

theorem mem_disks_iff {disk : Disk} : disk ∈ inv.disks ↔ ∃ place, disk ∈ inv.disksAt place := by
  constructor
  · intro h
    obtain ⟨s, hState, hDisk⟩ := List.mem_flatMap.1 h
    obtain ⟨place, hPlace⟩ := List.mem_iff_getElem?.1 hState
    refine ⟨place, ?_⟩
    rw [disksAt, hPlace]
    exact hDisk
  · rintro ⟨place, hDisk⟩
    rw [disksAt] at hDisk
    cases hPlace : inv.datacenters[place]? with
    | none =>
        rw [hPlace] at hDisk
        cases hDisk
    | some s =>
        rw [hPlace] at hDisk
        exact List.mem_flatMap.2 ⟨s, List.mem_of_getElem? hPlace, hDisk⟩

theorem DistinctIds.nodup (h : inv.DistinctIds) : (inv.disks.map (·.id)).Nodup := by
  rw [disks, List.map_flatMap, List.nodup_flatMap]
  constructor
  · intro s hState
    obtain ⟨place, hPlace⟩ := List.mem_iff_getElem?.1 hState
    have hWithin := h.within place
    rwa [disksAt, hPlace] at hWithin
  · rw [List.pairwise_iff_getElem]
    intro i j hi hj hLess id hHere hThere
    obtain ⟨disk, hDisk, rfl⟩ := List.mem_map.1 hHere
    obtain ⟨disk', hDisk', hSame⟩ := List.mem_map.1 hThere
    have hAt : disk ∈ inv.disksAt i := by
      rw [disksAt, List.getElem?_eq_getElem hi]
      exact hDisk
    have hAt' : disk' ∈ inv.disksAt j := by
      rw [disksAt, List.getElem?_eq_getElem hj]
      exact hDisk'
    have hPlace := h.across i j disk disk' hAt hAt' hSame.symm
    omega

end Inventory

/-- All datacenters in the order of enumeration. -/
def Config.datacenters (config : Config) : List DatacenterConfig :=
  config.virtualCenters.toList.flatMap fun (_, center) => center.datacenters

/-- Where a configured datacenter has room for disks: on its datastores, and in its clusters on their first
members. -/
def DatacenterConfig.Houses (dc : DatacenterConfig) : Parent → Prop
  | .datastore name => name ∈ dc.datastores
  | .cluster name member =>
    ∃ cluster ∈ dc.datastoreClusters, cluster.name = name ∧ cluster.datastores.head? = some member

namespace Inventory

variable {inv : Inventory} {config : Config}

/-- What can be relied on in an inventory of a configuration. -/
structure WellFormed (inv : Inventory) (config : Config) : Prop where
  ids : (inv.disks.map (·.id)).Nodup
  /-- The file of a disk is named by the datastore that the disk lies on and by its id without dashes. -/
  files : ∀ disk ∈ inv.disks, ∃ datastore,
    (disk.parent = .datastore datastore ∨ ∃ cluster, disk.parent = .cluster cluster datastore) ∧
    disk.backing =
      .file ("[" ++ datastore ++ "] fcd/" ++ String.ofList (disk.id.toList.filter (· ≠ '-')) ++ ".vmdk")
  backings : (inv.disks.map (·.backing)).Nodup
  sizes : ∀ disk ∈ inv.disks, 0 < disk.capacityMb.toNat ∧ 1024 ∣ disk.capacityMb.toNat ∧
    disk.capacityMb.toNat < 2 ^ 43
  parents : ∀ place, ∀ disk ∈ inv.disksAt place,
    ∃ dc, config.datacenters[place]? = some dc ∧ dc.Houses disk.parent

/-- The datacenters and their states are enumerated alike, each state with its server and endpoint. -/
theorem exists_tagged (config : Config) : ∃ tagged : List (String × String × DatacenterConfig),
    (ofConfig config).datacenters = (tagged.map fun t => .ofConfig t.1 t.2.1 t.2.2) ∧
      config.datacenters = tagged.map fun t => t.2.2 := by
  refine ⟨config.virtualCenters.toList.flatMap fun (server, center) =>
    center.datacenters.map fun dc => (server, Endpoint.ofServer server center.port, dc), ?_, ?_⟩
  · simp [ofConfig, List.map_flatMap, Function.comp_def]
  · simp [Config.datacenters, List.map_flatMap, Function.comp_def]

/-- Datacenters are enumerated as they are configured. -/
theorem exists_datacenter {place : Nat} {s : DatacenterState}
    (h : (ofConfig config).datacenters[place]? = some s) :
    ∃ server endpoint dc, config.datacenters[place]? = some dc ∧ s = .ofConfig server endpoint dc := by
  obtain ⟨tagged, hStates, hConfigured⟩ := exists_tagged config
  rw [hStates, List.getElem?_map] at h
  obtain ⟨⟨server, endpoint, dc⟩, hTagged, rfl⟩ := Option.map_eq_some_iff.1 h
  refine ⟨server, endpoint, dc, ?_, rfl⟩
  rw [hConfigured, List.getElem?_map, hTagged]
  rfl

/-- Disks are placed where the datacenter has room. -/
theorem houses_of_placement {server endpoint : String} {dc : DatacenterConfig} {pool : Pool} {parent : Parent}
    (h : (DatacenterState.ofConfig server endpoint dc).placement pool = .ok parent) : dc.Houses parent := by
  obtain ⟨kind, name⟩ := pool
  cases kind with
  | datastore =>
      simp only [DatacenterState.placement] at h
      split at h
      · rename_i hThere
        cases h
        exact List.contains_iff_mem.1 hThere
      · cases h
  | datastoreCluster =>
      simp only [DatacenterState.placement] at h
      split at h
      · rename_i member hMember
        cases h
        obtain ⟨members, hCluster, hHead⟩ := Option.bind_eq_some_iff.1 hMember
        obtain ⟨cluster, hConfigured, hPair⟩ := List.mem_map.1 (Dict.mem_of_get?_ofList hCluster)
        cases hPair
        exact ⟨cluster, hConfigured, rfl, hHead⟩
      · cases h

theorem Regular.wellFormed (h : inv.Regular (ofConfig config).layout) : inv.WellFormed config where
  ids := h.ids.nodup
  files := by
    intro disk hDisk
    obtain ⟨place, hPlace⟩ := mem_disks_iff.1 hDisk
    refine ⟨disk.parent.owner, disk.parent.eq_of_owner, ?_⟩
    rw [(h.disks place disk hPlace).backing, backingPath_eq]
  backings := by
    refine List.Nodup.map_on ?_ (.of_map _ h.ids.nodup)
    intro disk hDisk disk' hDisk' hSame
    obtain ⟨place, hPlace⟩ := mem_disks_iff.1 hDisk
    obtain ⟨place', hPlace'⟩ := mem_disks_iff.1 hDisk'
    obtain ⟨n, -, hId⟩ := h.drawn place disk hPlace
    obtain ⟨n', -, hId'⟩ := h.drawn place' disk' hPlace'
    rw [(h.disks place disk hPlace).backing, (h.disks place' disk' hPlace').backing, hId, hId'] at hSame
    injection hSame with hPath
    have hIds : disk.id = disk'.id := by
      rw [hId, hId', backingPath_injective hPath]
    exact List.inj_on_of_nodup_map h.ids.nodup hDisk hDisk' hIds
  sizes := by
    intro disk hDisk
    obtain ⟨place, hPlace⟩ := mem_disks_iff.1 hDisk
    obtain ⟨hPositive, hWhole, hReportable⟩ := (h.disks place disk hPlace).size
    refine ⟨hPositive, hWhole, ?_⟩
    simp only [Capacity.mebibyte, Capacity.reportable] at hReportable
    omega
  parents := by
    intro place disk hDisk
    obtain ⟨s, hState, hParent⟩ := (h.disks place disk hDisk).parent
    rw [layout, List.getElem?_map] at hState
    obtain ⟨s', hConfigured, rfl⟩ := Option.map_eq_some_iff.1 hState
    obtain ⟨server, endpoint, dc, hDatacenter, rfl⟩ := exists_datacenter hConfigured
    rw [DatacenterState.placement_layout] at hParent
    exact ⟨dc, hDatacenter, houses_of_placement hParent⟩

/-- A new inventory has no disks. -/
theorem regular_ofConfig (config : Config) : (ofConfig config).Regular (ofConfig config).layout := by
  refine ⟨rfl, ⟨fun place => ?_, fun place place' disk disk' hDisk => ?_⟩, fun place disk hDisk => ?_,
    fun place disk hDisk => ?_⟩
  · rw [disksAt_ofConfig]
    exact .nil
  · rw [disksAt_ofConfig] at hDisk
    cases hDisk
  · rw [disksAt_ofConfig] at hDisk
    cases hDisk
  · rw [disksAt_ofConfig] at hDisk
    cases hDisk

end Inventory

end VolumeController
