import VolumeController.Proofs.Catalogue.Creation
import VolumeController.Proofs.WellFormed
/-! The pools of a configuration can be used. A cluster may be configured more than once, and then its last entry counts.
Main result: in an inventory of a configuration that was accepted, a disk can be created in a pool if and only if the
pool is configured. It lies on the datastore, or on the first member in the last entry of the cluster, and a search by
name shows a disk of its name. -/

namespace VolumeController

/-! The last binding of a key counts. -/

namespace Dict

variable {β : Type} {bindings earlier later : List (String × β)} {key : String} {value : β}

/-- Bindings of other keys do not matter to a key. -/
theorem get?_foldl_of_forall_ne (m : Dict β) (h : ∀ e ∈ later, e.1 ≠ key) :
    (later.foldl (fun m e => m.insert e.1 e.2) m).get? key = m.get? key := by
  induction later generalizing m with
  | nil => rfl
  | cons e later ih =>
      obtain ⟨hFirst, hRest⟩ := List.forall_mem_cons.1 h
      rw [List.foldl_cons, ih _ hRest, get?_insert, if_neg hFirst.symm]

theorem get?_ofList_append_cons (h : ∀ e ∈ later, e.1 ≠ key) :
    (ofList (earlier ++ (key, value) :: later)).get? key = some value := by
  rw [ofList, List.foldl_append, List.foldl_cons, get?_foldl_of_forall_ne _ h, get?_insert, if_pos rfl]

theorem get?_ofList_of_forall_ne (h : ∀ e ∈ bindings, e.1 ≠ key) : (ofList bindings).get? key = none :=
  get?_foldl_of_forall_ne empty h

end Dict

namespace DatacenterConfig

/-- Whether a datacenter has a pool: a datastore, or a cluster of whatever members. -/
def Lists (dc : DatacenterConfig) (pool : Pool) : Prop :=
  match pool.kind with
  | .datastore => pool.name ∈ dc.datastores
  | .datastoreCluster => ∃ cluster ∈ dc.datastoreClusters, cluster.name = pool.name

instance (dc : DatacenterConfig) (pool : Pool) : Decidable (dc.Lists pool) :=
  match pool with
  | ⟨.datastore, name⟩ => inferInstanceAs (Decidable (name ∈ dc.datastores))
  | ⟨.datastoreCluster, name⟩ => inferInstanceAs (Decidable (∃ cluster ∈ dc.datastoreClusters, cluster.name = name))

/-- Where a datacenter puts the disks of a pool: on the datastore, or on the first member in the last entry of the
cluster. -/
inductive Places (dc : DatacenterConfig) : Pool → Parent → Prop where
  | datastore {name : String} (h : name ∈ dc.datastores) : Places dc ⟨.datastore, name⟩ (.datastore name)
  | cluster {earlier later : List ClusterConfig} {cluster : ClusterConfig} {member : String} {others : List String}
      (hClusters : dc.datastoreClusters = earlier ++ cluster :: later) (hLast : ∀ c ∈ later, c.name ≠ cluster.name)
      (hMembers : cluster.datastores = member :: others) :
      Places dc ⟨.datastoreCluster, cluster.name⟩ (.cluster cluster.name member)

variable {dc : DatacenterConfig} {pool : Pool} {parent : Parent} {server endpoint : String}

/-- A cluster that is configured has a last entry. -/
theorem exists_last {clusters : List ClusterConfig} {name : String} (h : ∃ cluster ∈ clusters, cluster.name = name) :
    ∃ earlier cluster later, clusters = earlier ++ cluster :: later ∧ cluster.name = name ∧
      ∀ c ∈ later, c.name ≠ name := by
  induction clusters with
  | nil =>
      obtain ⟨cluster, hCluster, -⟩ := h
      exact (List.not_mem_nil hCluster).elim
  | cons cluster clusters ih =>
      by_cases hRest : ∃ c ∈ clusters, c.name = name
      · obtain ⟨earlier, last, later, rfl, hName, hLast⟩ := ih hRest
        exact ⟨cluster :: earlier, last, later, rfl, hName, hLast⟩
      · obtain ⟨c, hc, hName⟩ := h
        rcases List.mem_cons.1 hc with rfl | hOther
        · exact ⟨[], c, clusters, rfl, hName, fun c' hc' hSame => hRest ⟨c', hc', hSame⟩⟩
        · exact absurd ⟨c, hOther, hName⟩ hRest

/-- Where no cluster is without members, every pool that is configured has a place. -/
theorem Lists.exists_places (h : dc.Lists pool) (hMembers : ∀ cluster ∈ dc.datastoreClusters, cluster.datastores ≠ []) :
    ∃ parent, dc.Places pool parent := by
  obtain ⟨kind, name⟩ := pool
  cases kind with
  | datastore => exact ⟨_, .datastore h⟩
  | datastoreCluster =>
      obtain ⟨earlier, cluster, later, hClusters, rfl, hLast⟩ := exists_last h
      obtain ⟨member, others, hSome⟩ := List.exists_cons_of_ne_nil (hMembers cluster (by simp [hClusters]))
      exact ⟨_, .cluster hClusters hLast hSome⟩

/-- Disks are put where the datacenter places them. -/
theorem Places.placement_eq (h : dc.Places pool parent) :
    (DatacenterState.ofConfig server endpoint dc).placement pool = .ok parent := by
  cases h with
  | datastore hThere => exact if_pos (List.contains_iff_mem.2 hThere)
  | @cluster earlier later cluster member others hClusters hLast hMembers =>
      have hEntry : (DatacenterState.ofConfig server endpoint dc).clusters.get? cluster.name =
          some cluster.datastores := by
        rw [DatacenterState.ofConfig, hClusters, List.map_append, List.map_cons]
        exact Dict.get?_ofList_append_cons (List.forall_mem_map.2 hLast)
      simp only [DatacenterState.placement, hEntry, hMembers, Option.bind_some, List.head?_cons]

/-- What is not configured is not found. -/
theorem placement_of_not_lists (h : ¬ dc.Lists pool) :
    (DatacenterState.ofConfig server endpoint dc).placement pool = .error (.notFound pool.kind.text pool.name) := by
  obtain ⟨kind, name⟩ := pool
  cases kind with
  | datastore => exact if_neg fun hThere => h (List.contains_iff_mem.1 hThere)
  | datastoreCluster =>
      have hNone : (DatacenterState.ofConfig server endpoint dc).clusters.get? name = none :=
        Dict.get?_ofList_of_forall_ne (List.forall_mem_map.2 fun cluster hCluster hName => h ⟨cluster, hCluster, hName⟩)
      simp only [DatacenterState.placement, hNone, Option.bind_none]
      rfl

end DatacenterConfig

/-- In a configuration that was accepted no cluster is without members. -/
theorem Config.members_of_validate {config : Config} (h : config.validate = .ok config) {dc : DatacenterConfig}
    (hDatacenter : dc ∈ config.datacenters) : ∀ cluster ∈ dc.datastoreClusters, cluster.datastores ≠ [] := by
  obtain ⟨⟨server, center⟩, hCenter, hHere⟩ := List.mem_flatMap.1 hDatacenter
  have hNone : config.objection? = none := by
    unfold validate at h
    split at h
    · cases h
    · assumption
  unfold objection? at hNone
  split at hNone
  · cases hNone
  have hSound : dc.objection? server = none :=
    List.findSome?_eq_none_iff.1 (List.findSome?_eq_none_iff.1 hNone _ hCenter) dc hHere
  unfold DatacenterConfig.objection? at hSound
  split at hSound
  · cases hSound
  intro cluster hCluster hEmpty
  have hFound := List.find?_eq_none.1 (Option.map_eq_none_iff.1 hSound) cluster hCluster
  exact hFound (List.isEmpty_iff.2 hEmpty)

namespace Inventory

variable {config : Config} {inv inv' : Inventory} {dc : Datacenter} {dcConfig : DatacenterConfig} {pool : Pool}

/-- A datacenter of a configuration places disks as it is configured, whatever was done to the inventory. -/
theorem exists_state (hLayout : inv.layout = (ofConfig config).layout)
    (hDatacenter : config.datacenters[dc.place]? = some dcConfig) :
    ∃ state server endpoint, inv.state? dc = some state ∧
      ∀ pool, state.placement pool = (DatacenterState.ofConfig server endpoint dcConfig).placement pool := by
  obtain ⟨tagged, hStates, hConfigured⟩ := exists_tagged config
  rw [hConfigured, List.getElem?_map] at hDatacenter
  obtain ⟨⟨server, endpoint, dcConfig⟩, hTagged, rfl⟩ := Option.map_eq_some_iff.1 hDatacenter
  have hPlace := congrArg (fun inv : Inventory => inv.datacenters[dc.place]?) hLayout
  simp only [layout, hStates, List.getElem?_map, hTagged, Option.map_some] at hPlace
  obtain ⟨state, hState, hSame⟩ := Option.map_eq_some_iff.1 hPlace
  refine ⟨state, server, endpoint, hState, fun pool => ?_⟩
  rw [← DatacenterState.placement_layout, hSame, DatacenterState.placement_layout]

/-- A call to a datacenter without faults does what it asks for. -/
theorem finish_eq_answer {c : Call} (hHere : c.datacenter? = some dc)
    (hFaultless : ∀ state, inv.state? dc = some state → state.Faultless) (ticket : Platform.Ticket Inventory) :
    Platform.finish c ticket inv = inv.answer c := by
  have hFailures : (inv.faultsOf c).failures = [] := by
    simp only [faultsOf, hHere]
    cases hState : inv.state? dc with
    | none => rfl
    | some state => exact hFaultless state hState
  have hNone : (inv.faultsOf c).failure? c.kind = none := by
    rw [Faults.failure?, hFailures]
    rfl
  simp only [Platform.finish, hNone]

/-- An inventory has got one disk more, as it was asked for in a pool. -/
structure Gains (inv : Inventory) (dc : Datacenter) (dcConfig : DatacenterConfig) (pool : Pool) (name : String)
    (sizeMb : UInt64) (disk : Disk) (inv' : Inventory) : Prop where
  named : disk.name = name
  sized : disk.capacityMb = sizeMb
  inside : disk.isIn pool
  placed : dcConfig.Places pool disk.parent
  appended : ∀ place, inv'.disksAt place = inv.disksAt place ++ if place = dc.place then [disk] else []
  rest : inv' = { inv.modify dc (·.addDisk disk) with nextId := inv.nextId + 1 }

/-- A disk that has a place is created there. -/
theorem gains_of_places {state : DatacenterState} (hState : inv.state? dc = some state) {parent : Parent}
    (hParent : state.placement pool = .ok parent) (hPlaces : dcConfig.Places pool parent) (name : String)
    (sizeMb : UInt64) : (inv.answer (.createDisk dc pool name sizeMb)).1 = .ok () ∧
      ∃ disk, inv.Gains dc dcConfig pool name sizeMb disk (inv.answer (.createDisk dc pool name sizeMb)).2.2 := by
  obtain ⟨hReply, hAfter⟩ := answer_createDisk_ok hState hParent name sizeMb
  let disk := Entry.disk ⟨idText inv.nextId, name, sizeMb, parent⟩
  have hInside : disk.isIn pool := by
    rw [disk.isIn_eq_decide]
    exact decide_eq_true (DatacenterState.pool_of_placement hParent)
  refine ⟨hReply, disk, rfl, rfl, hInside, hPlaces, fun place => ?_, hAfter⟩
  rw [hAfter]
  exact disksAt_addDisk hState disk place

namespace Gains

variable {name : String} {sizeMb : UInt64} {disk : Disk} {state : DatacenterState}

theorem state?_eq (h : inv.Gains dc dcConfig pool name sizeMb disk inv') (hState : inv.state? dc = some state) :
    inv'.state? dc = some (state.addDisk disk) := by
  have hModified : (inv.modify dc (·.addDisk disk)).state? dc = some (state.addDisk disk) := by
    rw [state?_modify, if_pos rfl, hState]
    rfl
  rw [h.rest]
  exact hModified

/-- A search by name shows a disk of the name, as there is the new one at least. -/
theorem exists_found (h : inv.Gains dc dcConfig pool name sizeMb disk inv') (hState : inv.state? dc = some state) :
    ∃ found ∈ inv'.disksAt dc.place, (inv'.answer (.findByName dc pool name)).1 = .ok (some found) ∧
      found.name = name ∧ found.isIn pool := by
  have hMem : disk ∈ inv'.disksAt dc.place := by
    rw [h.appended, if_pos rfl]
    exact List.mem_concat_self
  have hSome : ((inv'.disksAt dc.place).find? fun d => d.name = name && d.isIn pool).isSome :=
    List.find?_isSome.2 ⟨disk, hMem, by simp [h.named, h.inside]⟩
  obtain ⟨found, hFound⟩ := Option.isSome_iff_exists.1 hSome
  have hFits := List.find?_some hFound
  rw [Bool.and_eq_true, decide_eq_true_eq] at hFits
  rw [answer_findByName (h.state?_eq hState), hFound]
  exact ⟨found, List.mem_of_find?_eq_some hFound, rfl, hFits.1, hFits.2⟩

end Gains

end Inventory

/-- Configured pools. A disk is created at a datacenter of a configuration that was accepted, at any moment of any run
from the inventory of the configuration at which no calls to the datacenter fail. This succeeds if and only if the pool
is configured. Then the inventory gains just one disk, in its pool and where the datacenter places it, and a search by
name shows a disk of its name in the pool. Otherwise the pool is not found, and nothing changes. -/
theorem configured_pools_are_usable {α : Type} {config : Config} {env : Surroundings Inventory} {w : World Inventory}
    {jobs : List (Context × Procedure α)} {s : System Inventory α} {dc : Datacenter} {dcConfig : DatacenterConfig}
    (hValid : config.validate = .ok config) (hPlatform : w.platform = .ofConfig config)
    (hRuns : System.Runs env (.start w jobs) s) (hDatacenter : config.datacenters[dc.place]? = some dcConfig)
    (hFaultless : ∀ state, s.world.platform.state? dc = some state → state.Faultless) (pool : Pool) (name : String)
    (sizeMb : UInt64) (ticket : Platform.Ticket Inventory) :
    let ended := Platform.finish (.createDisk dc pool name sizeMb) ticket s.world.platform
    (ended.1 = .ok () ↔ dcConfig.Lists pool) ∧
    (dcConfig.Lists pool → ∃ disk,
      s.world.platform.Gains dc dcConfig pool name sizeMb disk ended.2.2 ∧
      ∃ found ∈ ended.2.2.disksAt dc.place,
        (Platform.finish (.findByName dc pool name) ticket ended.2.2).1 = .ok (some found) ∧ found.name = name ∧
          found.isIn pool) ∧
    (¬ dcConfig.Lists pool →
      ended.1 = .error (.notFound pool.kind.text pool.name) ∧ ended.2.2 = s.world.platform) := by
  intro ended
  have hLayout : s.world.platform.layout = (Inventory.ofConfig config).layout :=
    ((Inventory.upheld_configured env (Inventory.ofConfig config).layout).runs (by rw [hPlatform])
      (fun _ job _ => job.2.meets_freely) hRuns).1
  obtain ⟨state, server, endpoint, hState, hPlaces⟩ := Inventory.exists_state hLayout hDatacenter
  have hEnded : ended = s.world.platform.answer (.createDisk dc pool name sizeMb) :=
    Inventory.finish_eq_answer rfl hFaultless ticket
  by_cases hLists : dcConfig.Lists pool
  · obtain ⟨parent, hParent⟩ :=
      hLists.exists_places (config.members_of_validate hValid (List.mem_of_getElem? hDatacenter))
    obtain ⟨hReply, disk, hGains⟩ :=
      Inventory.gains_of_places hState ((hPlaces pool).trans hParent.placement_eq) hParent name sizeMb
    rw [← hEnded] at hReply hGains
    have hThere := hGains.state?_eq hState
    have hStill : ∀ state', ended.2.2.state? dc = some state' → state'.Faultless := fun state' hState' => by
      obtain rfl := Option.some.inj (hThere.symm.trans hState')
      exact hFaultless state hState
    obtain ⟨found, hFound, hAnswer, hFits⟩ := hGains.exists_found hState
    rw [← Inventory.finish_eq_answer rfl hStill ticket] at hAnswer
    exact ⟨⟨fun _ => hLists, fun _ => hReply⟩, fun _ => ⟨disk, hGains, found, hFound, hAnswer, hFits⟩,
      fun h => absurd hLists h⟩
  · have hRefused := Inventory.answer_createDisk_error hState
      ((hPlaces pool).trans (DatacenterConfig.placement_of_not_lists hLists)) name sizeMb
    rw [← hEnded] at hRefused
    refine ⟨⟨fun hOk => ?_, fun h => absurd h hLists⟩, fun h => absurd h hLists, fun _ => hRefused⟩
    cases hRefused.1.symm.trans hOk

set_option maxRecDepth 10000 in
/-- A cluster is configured twice, and its last entry counts. A name can be used again. A member of the cluster is no
pool of its own. -/
theorem configured_pools_are_usable_twice :
    let datacenter : DatacenterConfig := { name := "dc", datastores := ["plain"], datastoreClusters :=
      [⟨"fast", ["old"]⟩, ⟨"slow", ["plain"]⟩, ⟨"fast", ["new", "old"]⟩] }
    let config : Config := { virtualCenters := .ofList [("vc", { datacenters := [datacenter] })] }
    let dc : Datacenter := ⟨"dc", 0⟩
    let fast : Pool := ⟨.datastoreCluster, "fast"⟩
    let jobs := [(Context.background, (Operation.call "CreateDisk" (.createDisk dc fast "volume" 1024)).run)]
    ∃ s, System.Runs Inventory.rough (.start { platform := Inventory.ofConfig config } jobs) s ∧
      (∃ disk inv, s.world.platform.Gains dc datacenter fast "volume" 2048 disk inv ∧
        disk.parent = .cluster "fast" "new" ∧ (inv.disksAt 0).map (·.capacityMb) = [1024, 2048]) ∧
      (Platform.finish (.createDisk dc ⟨.datastore, "new"⟩ "volume" 2048) () s.world.platform).1 =
        .error (.notFound "Datastore" "new") := by
  intro datacenter config dc fast jobs
  have hAdmits : ∀ job ∈ jobs, Inventory.rough.Admits job.1 := by
    simp [jobs, Surroundings.admits_background]
  obtain ⟨s, hRuns, hWorld, -⟩ := Lab.exists_runs 100 { platform := Inventory.ofConfig config } jobs hAdmits
  have hDisks : (s.world.platform.disksAt 0).map (·.capacityMb) = [1024] := by
    rw [hWorld]
    decide +kernel
  have hFaults : (s.world.platform.state? dc).map (·.faults.failures) = some [] := by
    rw [hWorld]
    decide +kernel
  have hFaultless : ∀ state, s.world.platform.state? dc = some state → state.Faultless := fun state hState => by
    rw [hState] at hFaults
    exact Option.some.inj hFaults
  have hDatacenter : config.datacenters[dc.place]? = some datacenter := by decide +kernel
  have hUsable := configured_pools_are_usable (by decide +kernel) rfl hRuns hDatacenter hFaultless
  obtain ⟨-, hGains, -⟩ := hUsable fast "volume" 2048 ()
  obtain ⟨-, -, hRefused⟩ := hUsable ⟨.datastore, "new"⟩ "volume" 2048 ()
  obtain ⟨disk, hDisk, -⟩ := hGains (by decide +kernel)
  have hParent : (DatacenterState.ofConfig "vc" "vc" datacenter).placement fast = .ok disk.parent :=
    hDisk.placed.placement_eq
  refine ⟨s, hRuns, ⟨disk, _, hDisk, ?_, ?_⟩, (hRefused (by decide +kernel)).1⟩
  · exact Except.ok.inj (hParent.symm.trans (by decide +kernel))
  · rw [hDisk.appended, if_pos rfl, List.map_append, hDisks]
    simp [hDisk.sized]

end VolumeController
