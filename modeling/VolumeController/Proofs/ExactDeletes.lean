import VolumeController.Proofs.DeletedVolumes
import VolumeController.Proofs.Failures.Creation
/-! A delete takes out the disk that it found. The disk is looked for by its id, and deleted by its id from the pool that
it lies in, whoever else has the id, the name or the pool. Main result: where nothing fails and nobody else acts, the
first disk of the id is gone, and everything else is as it was and where it was. -/

namespace VolumeController

variable {id : String} {disk : Disk}

/-- Before the first disk of an id there is none of the id in its pool either. -/
theorem Inventory.exists_eraseP_of_find? {disks : List Disk}
    (h : (disks.find? fun disk => disk.id = id) = some disk) :
    ∃ earlier later, disks = earlier ++ disk :: later ∧ (∀ other ∈ earlier, other.id ≠ id) ∧
      (disks.eraseP fun other => other.id = id && other.isIn disk.parent.pool) = earlier ++ later := by
  obtain ⟨hId, earlier, later, rfl, hEarlier⟩ := List.find?_eq_some_iff_append.1 h
  have hOthers : ∀ other ∈ earlier, other.id ≠ id := fun other hOther => by simpa using hEarlier other hOther
  refine ⟨earlier, later, rfl, hOthers, ?_⟩
  rw [List.eraseP_append_right _ fun other hOther => by simp [hOthers other hOther], List.eraseP_cons_of_pos]
  simpa using hId

/-- To remove a disk that was found from its pool removes just that disk. -/
theorem DatacenterState.exists_removeDisk?_of_findById {dc : DatacenterState} (h : dc.findById id = some disk) :
    ∃ earlier later, dc.disks = earlier ++ disk :: later ∧ (∀ other ∈ earlier, other.id ≠ id) ∧
      dc.removeDisk? disk.parent.pool id = some { dc with disks := earlier ++ later } := by
  obtain ⟨earlier, later, hDisks, hEarlier, hErase⟩ := Inventory.exists_eraseP_of_find? h
  have hId : disk.id = id := by simpa using List.find?_some h
  have hThere : (dc.disks.any fun other => other.id = id && other.isIn disk.parent.pool) = true := by
    rw [hDisks]
    simp [hId]
  refine ⟨earlier, later, hDisks, hEarlier, ?_⟩
  rw [removeDisk?, if_pos hThere, hErase]

namespace Inventory

/-- Whether an inventory comes from another one by the loss of a disk, the first of its id, and of nothing else. -/
structure LosesFirst (inv : Inventory) (id : String) (place : Nat) (disk : Disk) (inv' : Inventory) : Prop where
  id_eq : disk.id = id
  /-- No datacenter before has a disk of the id. -/
  before : ∀ place' < place, ∀ other ∈ inv.disksAt place', other.id ≠ id
  /-- Its own datacenter has none before it, and keeps all others in their order. -/
  here : ∃ earlier later, inv.disksAt place = earlier ++ disk :: later ∧ (∀ other ∈ earlier, other.id ≠ id) ∧
    inv'.disksAt place = earlier ++ later
  elsewhere : ∀ place', place' ≠ place → inv'.disksAt place' = inv.disksAt place'
  nodes : ∀ place', inv'.nodesAt place' = inv.nodesAt place'
  layout : inv'.layout = inv.layout
  nextId : inv'.nextId = inv.nextId

variable {inv inv' : Inventory} {site : Site}

theorem LosesFirst.of_cleared {place : Nat} (h : inv.cleared.LosesFirst id place disk inv'.cleared) :
    inv.LosesFirst id place disk inv' := by
  obtain ⟨hId, hBefore, hHere, hElsewhere, hNodes, hLayout, hNextId⟩ := h
  simp only [disksAt_cleared, nodesAt_cleared, layout_cleared] at hBefore hHere hElsewhere hNodes hLayout
  exact ⟨hId, hBefore, hHere, hElsewhere, hNodes, hLayout, hNextId⟩

/-- The search passes over all datacenters before the one where it finds the disk. -/
theorem before_of_locateDisk (h : inv.locateDisk id = some (site, disk)) :
    (∀ place < site.datacenter.place, ∀ other ∈ inv.disksAt place, other.id ≠ id) ∧
      ((inv.disksAt site.datacenter.place).find? fun other => other.id = id) = some disk := by
  obtain ⟨passed, site', rest, hSites, hFound, hPassed⟩ := List.findSome?_eq_some_iff.1 h
  obtain ⟨disk', hFind, hPair⟩ := Option.map_eq_some_iff.1 hFound
  cases hPair
  refine ⟨fun place hPlace other hOther => ?_, hFind⟩
  have hSite : inv.sites[passed.length]? = some site := by simp [hSites]
  rw [(place_of_sites hSite).1] at hPlace
  have hEarlier : inv.sites[place]? = some passed[place] := by
    rw [hSites, List.getElem?_append_left hPlace, List.getElem?_eq_getElem hPlace]
  have hNone := hPassed _ (List.getElem_mem hPlace)
  rw [Option.map_eq_none_iff, (place_of_sites hEarlier).1, List.find?_eq_none] at hNone
  simpa using hNone other hOther

/-- The call that deletes a disk where it was found takes out just the disk. -/
theorem losesFirst_of_locateDisk (h : inv.locateDisk id = some (site, disk)) :
    inv.LosesFirst id site.datacenter.place disk
      (inv.answer (.deleteDisk site.datacenter disk.parent.pool id)).2.2 := by
  obtain ⟨hSite, hDisk, hId⟩ := of_locateDisk h
  obtain ⟨hBefore, hFind⟩ := before_of_locateDisk h
  obtain ⟨state, hState⟩ := state?_of_mem_sites hSite
  obtain ⟨earlier, later, hDisks, hEarlier, hErase⟩ := exists_eraseP_of_find? hFind
  obtain ⟨-, hDropped⟩ := answer_deleteDisk_of_mem hState hDisk hId
  rw [hDropped]
  refine ⟨hId, hBefore, ⟨earlier, later, hDisks, hEarlier, ?_⟩, fun place hPlace => ?_, ?_, ?_, rfl⟩
  · rw [disksAt_modify_self hState, DatacenterState.dropDisk, ← disksAt_of_state? hState]
    exact hErase
  · exact disksAt_modify_of_ne (fun hSame => hPlace hSame.symm) _
  · exact nodesAt_modify inv site.datacenter fun _ => rfl
  · exact layout_modify inv site.datacenter fun _ => rfl

end Inventory

/-- A delete request alone, where nothing fails and no context ends it, over any inventory: disks may share ids, names
and pools, and be kept in anything. The request succeeds, and can always be brought to its end. If no disk has the id,
then nothing has changed; otherwise the first disk of the id is gone, and nothing else. In every datacenter, to remove
the disk that was found by its id from the pool that it lies in removes just that disk. -/
theorem deletes_are_exact {w : World Inventory} (hFaultless : w.platform.Faultless) (hId : id ≠ "") (ctx : Context)
    {s : System Inventory (Except Error DeleteVolumeResponse)}
    (hRuns : System.Runs Inventory.calm (System.start w (Controller.deletes id [ctx])) s) :
    (∀ result, s.result? 0 = some result → result = .ok ⟨⟩ ∧
      ((∀ place, ∀ disk ∈ w.platform.disksAt place, disk.id ≠ id) →
        s.world.platform.cleared = w.platform.cleared) ∧
      ((∃ place, ∃ disk ∈ w.platform.disksAt place, disk.id = id) →
        ∃ place disk, w.platform.LosesFirst id place disk s.world.platform)) ∧
    (ctx.Endless → ∃ s', System.Runs Inventory.calm s s' ∧ s'.Finished) ∧
    ∀ (dc : DatacenterState) disk, dc.findById id = some disk →
      ∃ earlier later, dc.disks = earlier ++ disk :: later ∧ (∀ other ∈ earlier, other.id ≠ id) ∧
        dc.removeDisk? disk.parent.pool id = some { dc with disks := earlier ++ later } := by
  refine ⟨fun result hResult => ?_, fun hEndless => ?_, fun _ _ => DatacenterState.exists_removeDisk?_of_findById⟩
  · have hShows : w.Shows ⟨w.platform.cleared, w.locks⟩ := ⟨hFaultless, rfl, rfl⟩
    cases hFind : w.platform.cleared.locateDisk id with
    | none =>
        obtain ⟨rfl, hEnd⟩ := (Solo.deleteVolume_absent hId hFind).eq_of_result hShows hRuns hResult
        refine ⟨rfl, fun _ => hEnd.inventory, ?_⟩
        rintro ⟨place, disk, hDisk, hDiskId⟩
        rw [← Inventory.disksAt_cleared] at hDisk
        exact absurd hDiskId (Inventory.locateDisk_eq_none_iff.1 hFind place disk hDisk)
    | some found =>
        obtain ⟨site, disk⟩ := found
        obtain ⟨rfl, hEnd⟩ := (Solo.deleteVolume hId hFind).eq_of_result hShows hRuns hResult
        have hLoses := Inventory.losesFirst_of_locateDisk hFind
        refine ⟨rfl, fun hAbsent => ?_, fun _ => ⟨site.datacenter.place, disk, .of_cleared ?_⟩⟩
        · obtain ⟨-, hDisk, hDiskId⟩ := Inventory.of_locateDisk hFind
          rw [Inventory.disksAt_cleared] at hDisk
          exact absurd hDiskId (hAbsent _ disk hDisk)
        · rw [hEnd.inventory]
          exact hLoses
  · have hFree : (System.start w (Controller.deletes id [ctx])).Free := by
      refine .start fun job hJob => ?_
      obtain rfl := List.mem_singleton.1 hJob
      exact ⟨hEndless, .deleteVolume _⟩
    exact (hFree.runs hRuns).exists_finished

/-- A datacenter with some disks, and with a node that a file is attached to. -/
def DatacenterState.holding (name : String) (disks : List Disk) : DatacenterState :=
  { (ofConfig "vc" "vc:443" { name, datastores := ["ds"], nodes := ["node"] }).addDevice "node" "[ds] a" "handle" with
    disks }

/-- Disks of one name. Three of them have one id, and two of these lie in one pool and in one file. -/
def Disk.crowd : List Disk :=
  [⟨"single", "volume", 1024, .datastore "ds", .file "[ds] a"⟩,
    ⟨"shared", "volume", 2048, .cluster "ds" "ds", .other "rdm"⟩,
    ⟨"shared", "volume", 1024, .datastore "ds", .file "[ds] a"⟩,
    ⟨"shared", "volume", 1024, .datastore "ds", .file "[ds] a"⟩]

/-- Two datacenters with the same disks. -/
def Inventory.crowded : Inventory :=
  ⟨[⟨"vc", 443, "6.7.0"⟩], [.holding "dc" Disk.crowd, .holding "other" Disk.crowd], {}, 1⟩

theorem Inventory.faultless_crowded : crowded.Faultless :=
  ⟨rfl, List.forall_mem_cons.2 ⟨rfl, List.forall_mem_singleton.2 rfl⟩⟩

set_option maxRecDepth 10000 in
/-- Of six disks with one id only the first one is deleted. -/
theorem deletes_are_exact_crowded :
    ∃ s place disk, System.Runs Inventory.calm (System.start { platform := .crowded }
        (Controller.deletes "shared" [.background])) s ∧
      s.result? 0 = some (.ok ⟨⟩) ∧ Inventory.crowded.LosesFirst "shared" place disk s.world.platform ∧
      s.world.platform.disksAt 0 = Disk.crowd.eraseIdx 1 ∧ s.world.platform.disksAt 1 = Disk.crowd := by
  have hAdmits : ∀ job ∈ Controller.deletes "shared" [.background], Inventory.calm.Admits job.1 := by
    simp [Controller.deletes, Surroundings.admits_background]
  obtain ⟨s, hRuns, hWorld, hResults⟩ := Lab.exists_runs 100 { platform := .crowded }
    (Controller.deletes "shared" [.background]) hAdmits
  have hResult : s.result? 0 = some (.ok ⟨⟩) := hResults 0 _ (by decide +kernel)
  have hFaultless : ({ platform := .crowded } : World Inventory).platform.Faultless := Inventory.faultless_crowded
  have hThere : ∃ disk ∈ Inventory.crowded.disksAt 0, disk.id = "shared" := by decide +kernel
  obtain ⟨hEnd, -, -⟩ := deletes_are_exact hFaultless (by decide) .background hRuns
  obtain ⟨place, disk, hLoses⟩ := (hEnd _ hResult).2.2 ⟨0, hThere⟩
  refine ⟨s, place, disk, hRuns, hResult, hLoses, ?_, ?_⟩
  · rw [hWorld]
    decide +kernel
  · rw [hWorld]
    decide +kernel

end VolumeController
