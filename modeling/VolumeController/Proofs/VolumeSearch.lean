import VolumeController.Proofs.Interleaving.Solo
/-! The search for the site that has the disk of an id, over all sites in order, and the removal of the
disk that was found. -/

namespace VolumeController

namespace Inventory

variable {inv : Inventory} {dc : Datacenter} {id : String}

/-- No two disks anywhere have the same id. -/
structure DistinctIds (inv : Inventory) : Prop where
  within : ∀ place, ((inv.disksAt place).map (·.id)).Nodup
  across : ∀ place place' disk disk', disk ∈ inv.disksAt place → disk' ∈ inv.disksAt place' →
    disk.id = disk'.id → place = place'

/-- The first site that has a disk of an id, and the disk. -/
def locateDisk (inv : Inventory) (id : String) : Option (Site × Disk) :=
  inv.sites.findSome? fun site =>
    ((inv.disksAt site.datacenter.place).find? fun disk => disk.id = id).map (site, ·)

theorem length_sites (inv : Inventory) : inv.sites.length = inv.datacenters.length := by
  simp [sites]

/-- Sites are numbered by their places. -/
theorem place_of_sites {i : Nat} {site : Site} (h : inv.sites[i]? = some site) :
    site.datacenter.place = i ∧ ∃ s, inv.datacenters[i]? = some s ∧
      site = ⟨s.endpoint, s.name, i⟩ := by
  simp only [sites, List.getElem?_map, List.getElem?_zipIdx, Option.map_eq_some_iff] at h
  obtain ⟨⟨s, place⟩, ⟨s', hState, hPair⟩, rfl⟩ := h
  cases hPair
  exact ⟨Nat.zero_add i, s, hState, by simp⟩

/-- Every site is there. -/
theorem state?_of_mem_sites {site : Site} (h : site ∈ inv.sites) :
    ∃ s, inv.state? site.datacenter = some s := by
  obtain ⟨i, hi⟩ := List.mem_iff_getElem?.1 h
  obtain ⟨hPlace, s, hState, -⟩ := place_of_sites hi
  exact ⟨s, by rwa [state?, hPlace]⟩

theorem lt_of_mem_disksAt {place : Nat} {disk : Disk} (h : disk ∈ inv.disksAt place) :
    place < inv.datacenters.length := by
  by_cases hPlace : place < inv.datacenters.length
  · exact hPlace
  · rw [disksAt, List.getElem?_eq_none (Nat.le_of_not_lt hPlace)] at h
    cases h

/-- Every disk lies at a site. -/
theorem exists_site_of_mem_disksAt {place : Nat} {disk : Disk} (h : disk ∈ inv.disksAt place) :
    ∃ site ∈ inv.sites, site.datacenter.place = place := by
  have hPlace : place < inv.sites.length := by
    rw [length_sites]
    exact lt_of_mem_disksAt h
  have hSite := List.getElem?_eq_getElem hPlace
  exact ⟨inv.sites[place], List.getElem_mem hPlace, (place_of_sites hSite).1⟩

theorem locateDisk_eq_none_iff :
    inv.locateDisk id = none ↔ ∀ place, ∀ disk ∈ inv.disksAt place, disk.id ≠ id := by
  simp only [locateDisk, List.findSome?_eq_none_iff, Option.map_eq_none_iff, List.find?_eq_none,
    decide_eq_true_eq]
  constructor
  · intro h place disk hDisk
    obtain ⟨site, hSite, rfl⟩ := exists_site_of_mem_disksAt hDisk
    exact h site hSite disk hDisk
  · exact fun h site _ disk hDisk => h _ disk hDisk

theorem of_locateDisk {site : Site} {disk : Disk} (h : inv.locateDisk id = some (site, disk)) :
    site ∈ inv.sites ∧ disk ∈ inv.disksAt site.datacenter.place ∧ disk.id = id := by
  obtain ⟨site', hSite, hFound⟩ := List.exists_of_findSome?_eq_some h
  obtain ⟨disk', hFind, hPair⟩ := Option.map_eq_some_iff.1 hFound
  cases hPair
  exact ⟨hSite, List.mem_of_find?_eq_some hFind, by simpa using List.find?_some hFind⟩

theorem answer_findById {s : DatacenterState} (hState : inv.state? dc = some s) (id : String) :
    (inv.answer (.findById dc id)).1 = .ok ((inv.disksAt dc.place).find? fun disk => disk.id = id) := by
  simp only [answer, hState]
  rw [disksAt_of_state? hState]
  rfl

/-- Among disks of different ids, taking out the one of an id takes out all of them. -/
theorem eraseP_eq_filter {disks : List Disk} {pool : Pool} (hIds : (disks.map (·.id)).Nodup)
    (h : ∃ disk ∈ disks, disk.id = id ∧ disk.isIn pool = true) :
    (disks.eraseP fun disk => disk.id = id && disk.isIn pool) = disks.filter fun disk => disk.id ≠ id := by
  induction disks with
  | nil => simp at h
  | cons first rest ih =>
      rw [List.map_cons, List.nodup_cons] at hIds
      have hOthers : first.id = id → ∀ disk ∈ rest, disk.id ≠ id := by
        rintro rfl disk hDisk hSame
        exact hIds.1 (hSame ▸ List.mem_map_of_mem hDisk)
      by_cases hFirst : first.id = id ∧ first.isIn pool = true
      · rw [List.eraseP_cons_of_pos (by simpa using hFirst), List.filter_cons_of_neg (by simp [hFirst.1])]
        exact (List.filter_eq_self.2 fun disk hDisk => by simpa using hOthers hFirst.1 disk hDisk).symm
      · obtain ⟨disk, hDisk, hId, hPool⟩ := h
        have hRest : disk ∈ rest := by
          rcases List.mem_cons.1 hDisk with rfl | hRest
          · exact absurd ⟨hId, hPool⟩ hFirst
          · exact hRest
        have hOther : first.id ≠ id := fun hSame => hOthers hSame disk hRest hId
        rw [List.eraseP_cons_of_neg (by simp [hOther]), List.filter_cons_of_pos (by simp [hOther]),
          ih hIds.2 ⟨disk, hRest, hId, hPool⟩]

/-- Deleting fails and changes nothing where no disk of the id lies in the pool. Otherwise the first such
disk is taken out. -/
theorem answer_deleteDisk {s : DatacenterState} (hState : inv.state? dc = some s) (pool : Pool)
    (id : String) :
    ((∀ disk ∈ inv.disksAt dc.place, disk.id = id → disk.isIn pool = false) ∧
      (inv.answer (.deleteDisk dc pool id)).1 = .error (.notFound "FirstClassDisk" id) ∧
      (inv.answer (.deleteDisk dc pool id)).2.2 = inv) ∨
    (∃ disk ∈ inv.disksAt dc.place, disk.id = id ∧ disk.isIn pool = true) ∧
      (inv.answer (.deleteDisk dc pool id)).1 = .ok () ∧
      (inv.answer (.deleteDisk dc pool id)).2.2 = inv.modify dc (·.dropDisk pool id) := by
  simp only [answer, hState, deleteDisk]
  rw [disksAt_of_state? hState]
  cases hRemove : s.removeDisk? pool id with
  | none =>
      refine .inl ⟨?_, rfl, rfl⟩
      simpa [DatacenterState.removeDisk?] using hRemove
  | some s' =>
      refine .inr ⟨?_, rfl, ?_⟩
      · unfold DatacenterState.removeDisk? at hRemove
        split at hRemove
        · rename_i hAny
          simpa using hAny
        · cases hRemove
      · rw [removeDisk?_eq_some hRemove]
        exact modify_eq_modify_of_state? hState (·.dropDisk pool id)

/-- To delete a disk from the pool that it lies in succeeds. -/
theorem answer_deleteDisk_of_mem {s : DatacenterState} (hState : inv.state? dc = some s) {disk : Disk}
    (hDisk : disk ∈ inv.disksAt dc.place) (hId : disk.id = id) :
    (inv.answer (.deleteDisk dc disk.parent.pool id)).1 = .ok () ∧
      (inv.answer (.deleteDisk dc disk.parent.pool id)).2.2 = inv.modify dc (·.dropDisk disk.parent.pool id) := by
  rcases answer_deleteDisk hState disk.parent.pool id with ⟨hNone, -, -⟩ | ⟨-, hDeleted⟩
  · cases disk.isIn_pool.symm.trans (hNone disk hDisk hId)
  · exact hDeleted

/-- What is left when the only disk of an id is deleted. -/
theorem DistinctIds.disksAt_dropDisk (hIds : inv.DistinctIds) {pool : Pool}
    (h : ∃ disk ∈ inv.disksAt dc.place, disk.id = id ∧ disk.isIn pool = true) (place : Nat) :
    (inv.modify dc (·.dropDisk pool id)).disksAt place =
      (inv.disksAt place).filter fun disk => disk.id ≠ id := by
  by_cases hPlace : dc.place = place
  · subst hPlace
    have hThere : dc.place < inv.datacenters.length := by
      obtain ⟨disk, hDisk, -⟩ := h
      exact lt_of_mem_disksAt hDisk
    have hState : inv.state? dc = some inv.datacenters[dc.place] := List.getElem?_eq_getElem hThere
    rw [disksAt_modify_self hState, disksAt_of_state? hState]
    refine eraseP_eq_filter ?_ ?_
    · rw [← disksAt_of_state? hState]
      exact hIds.within dc.place
    · rw [← disksAt_of_state? hState]
      exact h
  · rw [disksAt_modify_of_ne hPlace]
    obtain ⟨disk, hDisk, hId, -⟩ := h
    refine (List.filter_eq_self.2 fun disk' hDisk' => ?_).symm
    have hOther : disk'.id ≠ id := fun hSame =>
      hPlace (hIds.across _ _ disk disk' hDisk hDisk' (hId.trans hSame.symm))
    simpa using hOther

end Inventory

namespace Solo

variable {number : Nat} {s : Scene} {id : String}

/-- Sites that are there are asked in order until one has the disk. -/
theorem searchSites (sites : List Site) (hThere : ∀ site ∈ sites, ∃ state,
      s.inventory.state? site.datacenter = some state) :
    Solo number (VolumeStore.searchSites id none sites).run s
      (.done (match sites.findSome? fun site =>
          ((s.inventory.disksAt site.datacenter.place).find? fun disk => disk.id = id).map (site, ·) with
        | some found => .ok found
        | none => .error (.diskNotFound id))) s := by
  induction sites with
  | nil => exact .refl _ s
  | cons site sites ih =>
      obtain ⟨state, hState⟩ := hThere site List.mem_cons_self
      have hLook : Solo number
          (Operation.call "FindFirstClassDisk" (.findById site.datacenter id)).run s
          (.done (.ok (s.inventory.answer (.findById site.datacenter id)).1)) s :=
        callOperation "FindFirstClassDisk" (.findById site.datacenter id)
      rw [Inventory.answer_findById hState] at hLook
      have hRest := ih fun site' hSite' => hThere site' (List.mem_cons_of_mem _ hSite')
      rw [List.findSome?_cons]
      cases hFind : (s.inventory.disksAt site.datacenter.place).find? fun disk => disk.id = id with
      | none =>
          rw [hFind] at hLook
          exact bindOperation hLook hRest
      | some disk =>
          rw [hFind] at hLook
          exact bindOperation hLook (.refl _ s)

theorem resolve (id : String) :
    Solo number (VolumeStore.resolve id).run s
      (.done (match s.inventory.locateDisk id with
        | some found => .ok found
        | none => .error (.diskNotFound id))) s := by
  have hSites : Solo number (Operation.call "ListBackendInstances" .listSites).run s
      (.done (.ok (.ok s.inventory.sites))) s :=
    callOperation "ListBackendInstances" .listSites
  exact bindOperation hSites (searchSites _ fun site hSite => Inventory.state?_of_mem_sites hSite)

end Solo

end VolumeController
