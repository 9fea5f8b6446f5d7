import Mathlib.Data.List.Nodup
import VolumeController.Proofs.DeleteRequest
/-! Delete requests for one id side by side, in calm. A thread is known by how many sites it has seen to be
without the id; once a site is without it, it stays so. -/

namespace VolumeController

open Rules

/-- Deletes of an id that begin on an inventory. -/
structure Purge where
  id : String
  before : Inventory

namespace Purge

variable (t : Purge)

/-- What holds at every moment: nothing but the disk of the id is taken out, and a thread that has seen a
number of sites to be without the id is right. -/
structure Holds (w : World Inventory) (stages : List Nat) : Prop where
  faultless : w.platform.Faultless
  layout : w.platform.layout = t.before.layout
  kept : ∀ place, w.platform.disksAt place = t.before.disksAt place ∨
    w.platform.disksAt place = (t.before.disksAt place).filter fun disk => disk.id ≠ t.id
  seen : ∀ (i n : Nat), stages[i]? = some n → ∀ place < n, ∀ disk ∈ w.platform.disksAt place, disk.id ≠ t.id

/-- The rules of a purge. -/
abbrev rules (t : Purge) : Rules Inventory Nat where
  invariant := t.Holds
  aborts := False

variable {t} {w w' : World Inventory} {stages : List Nat} {number n : Nat}

theorem Holds.same (h : t.Holds w stages)
    (hDisks : ∀ place, w'.platform.disksAt place = w.platform.disksAt place)
    (hFaultless : w'.platform.Faultless) (hLayout : w'.platform.layout = w.platform.layout) :
    t.Holds w' stages := by
  refine ⟨hFaultless, hLayout.trans h.layout, ?_, ?_⟩
  · simpa only [hDisks] using h.kept
  · simpa only [hDisks] using h.seen

/-- No site ever gets the id back. -/
theorem Holds.mem_before (h : t.Holds w stages) {place : Nat} {disk : Disk}
    (hDisk : disk ∈ w.platform.disksAt place) : disk ∈ t.before.disksAt place := by
  rcases h.kept place with hSame | hLess
  · rwa [← hSame]
  · rw [hLess] at hDisk
    exact List.mem_of_mem_filter hDisk

/-- A thread learns how many sites are without the id. -/
theorem Holds.learn (h : t.Holds w stages)
    (hSeen : ∀ place < n, ∀ disk ∈ w.platform.disksAt place, disk.id ≠ t.id) :
    t.Holds w (stages.set number n) := by
  refine ⟨h.faultless, h.layout, h.kept, ?_⟩
  intro i m hStage
  rcases List.mem_or_eq_of_mem_set (List.mem_of_getElem? hStage) with hOld | rfl
  · obtain ⟨j, hj⟩ := List.mem_iff_getElem?.1 hOld
    exact h.seen j m hj
  · exact hSeen

theorem Holds.length_datacenters (h : t.Holds w stages) :
    w.platform.datacenters.length = t.before.datacenters.length := by
  have hLength := congrArg (fun inv => inv.datacenters.length) h.layout
  simpa [Inventory.layout] using hLength

theorem Holds.start (h : t.Holds w stages) (c : Call) : t.Holds (w.start c).2 stages :=
  h.same (fun place => Inventory.disksAt_start w.platform c place) (h.faultless.start c)
    (Inventory.layout_start w.platform c)

theorem calm (t : Purge) : t.rules.Calm t.before.layout where
  aborts := fun h => h
  faultless := fun _ _ h => h.faultless
  layout := fun _ _ h => h.layout
  records := ⟨fun _ _ _ h => h.same (fun _ => rfl) h.faultless rfl,
    fun _ _ _ h => h.same (fun _ => rfl) h.faultless rfl⟩
  start := fun _ _ c _ h => h.start c

theorem covers (t : Purge) : t.rules.Covers Inventory.calm where
  aborts := fun h => h
  clock := fun _ _ _ _ h => h.same (fun _ => rfl) h.faultless rfl
  cancel := fun _ _ _ h => h.same (fun _ => rfl) h.faultless rfl
  command := fun w _ _ hCommand h =>
    h.same (Inventory.disksAt_obey w.platform hCommand.1) (h.faultless.obey hCommand.2)
      (Inventory.layout_obey w.platform _)

variable {operation : String} {dc : Datacenter}

/-- Asking the next site. -/
theorem callFind (hPlace : dc.place = n) (hThere : n < t.before.datacenters.length)
    {goal : Except Error (Call.findById dc t.id).Reply → Nat → Prop}
    (hNone : goal (.ok (.ok none)) (n + 1))
    (hSome : ∀ disk, disk ∈ t.before.disksAt n → disk.id = t.id → goal (.ok (.ok (some disk))) n) :
    t.rules.Follows number goal (Operation.call operation (.findById dc t.id)).run n := by
  refine Follows.callInPlace (fun w stages h => h.start _) False.elim ?_
  intro w started stages hHolds hThread
  have hFinish := (calm t).finish (c := .findById dc t.id) rfl started hHolds
  obtain ⟨s, hState⟩ : ∃ s, w.platform.state? dc = some s := by
    rw [← hHolds.length_datacenters, ← hPlace] at hThere
    exact ⟨_, List.getElem?_eq_getElem hThere⟩
  have hReply : (w.finish (.findById dc t.id) started).1 =
      .ok ((w.platform.disksAt n).find? fun disk => disk.id = t.id) := by
    rw [← hPlace, ← Inventory.answer_findById hState t.id]
    exact congrArg Prod.fst (hHolds.faultless.finish_eq _ started.ticket)
  have hSame : (w.finish (.findById dc t.id) started).2.platform = w.platform :=
    (Inventory.effect_finish w.platform _ started.ticket).eq_of_reads rfl
  cases hFind : (w.platform.disksAt n).find? fun disk => disk.id = t.id with
  | none =>
      rw [hFind] at hReply
      refine ⟨n + 1, hFinish.learn ?_, by rwa [hReply]⟩
      intro place hLess disk hDisk
      rw [hSame] at hDisk
      by_cases hHere : place = n
      · subst hHere
        simpa using List.find?_eq_none.1 hFind disk hDisk
      · exact hHolds.seen number n hThread place (by omega) disk hDisk
  | some disk =>
      rw [hFind] at hReply
      refine ⟨n, hFinish.learn ?_, ?_⟩
      · rw [hSame]
        exact hHolds.seen number n hThread
      · rw [hReply]
        exact hSome disk (hHolds.mem_before (List.mem_of_find?_eq_some hFind))
          (by simpa using List.find?_some hFind)

/-- The search ends with a disk of the id, or all sites are without it. -/
theorem searchSites (sites : List Site)
    (hPlaces : ∀ (i : Nat) site, sites[i]? = some site → site.datacenter.place = n + i)
    (hLength : n + sites.length = t.before.datacenters.length) :
    t.rules.Follows number
      (fun
        | .ok (site, disk), _ => disk ∈ t.before.disksAt site.datacenter.place ∧ disk.id = t.id
        | .error e, n => e = .diskNotFound t.id ∧ n = t.before.datacenters.length)
      (VolumeStore.searchSites t.id none sites).run n := by
  induction sites generalizing n with
  | nil => exact ⟨rfl, hLength⟩
  | cons site sites ih =>
      rw [List.length_cons] at hLength
      have hPlace : site.datacenter.place = n := hPlaces 0 site rfl
      simp only [VolumeStore.searchSites]
      refine Follows.bindOperation (callFind hPlace (by omega) ?_ ?_)
      · refine ih (fun i site' hSite => ?_) (by omega)
        have hNext := hPlaces (i + 1) site' hSite
        omega
      · intro disk hDisk hId
        exact ⟨hPlace ▸ hDisk, hId⟩

theorem resolve (t : Purge) :
    t.rules.Follows number
      (fun
        | .ok (site, disk), _ => disk ∈ t.before.disksAt site.datacenter.place ∧ disk.id = t.id
        | .error e, n => e = .diskNotFound t.id ∧ n = t.before.datacenters.length)
      (VolumeStore.resolve t.id).run 0 := by
  refine Follows.bindOperation (t.calm.read rfl fun inv _ hLayout => ?_)
  have hLength := congrArg (fun inv => inv.datacenters.length) hLayout
  simp only [Inventory.layout, List.length_map] at hLength
  refine searchSites inv.sites (fun i site hSite => ?_) ?_
  · rw [(Inventory.place_of_sites hSite).1, Nat.zero_add]
  · rw [Inventory.length_sites, Nat.zero_add, hLength]

theorem Holds.distinctIds (h : t.Holds w stages) (hIds : t.before.DistinctIds) :
    w.platform.DistinctIds where
  within := by
    intro place
    rcases h.kept place with hSame | hLess
    · rw [hSame]
      exact hIds.within place
    · rw [hLess]
      exact (hIds.within place).sublist (List.filter_sublist.map _)
  across := fun place place' disk disk' hDisk hDisk' =>
    hIds.across place place' disk disk' (h.mem_before hDisk) (h.mem_before hDisk')

/-- Deleting the disk that was found. Either this takes it out, or it was taken out before. -/
theorem callDelete (hIds : t.before.DistinctIds) {found : Disk}
    (hFound : found ∈ t.before.disksAt dc.place) (hId : found.id = t.id)
    {goal : Except Error (Call.deleteDisk dc found.parent.pool t.id).Reply → Nat → Prop}
    (hOk : goal (.ok (.ok ())) t.before.datacenters.length)
    (hGone : goal (.ok (.error (.notFound "FirstClassDisk" t.id))) t.before.datacenters.length) :
    t.rules.Follows number goal (Operation.call operation (.deleteDisk dc found.parent.pool t.id)).run n := by
  refine Follows.callInPlace (fun w stages h => h.start _) False.elim ?_
  intro w started stages hHolds hThread
  obtain ⟨s, hState⟩ : ∃ s, w.platform.state? dc = some s := by
    have hThere := Inventory.lt_of_mem_disksAt hFound
    rw [← hHolds.length_datacenters] at hThere
    exact ⟨_, List.getElem?_eq_getElem hThere⟩
  have hOnly : ∀ place disk, disk ∈ t.before.disksAt place → disk.id = t.id →
      place = dc.place ∧ disk = found := by
    intro place disk hDisk hSame
    obtain rfl := hIds.across place dc.place disk found hDisk hFound (hSame.trans hId.symm)
    exact ⟨rfl, List.inj_on_of_nodup_map (hIds.within _) hDisk hFound (hSame.trans hId.symm)⟩
  have hFinish := hHolds.faultless.finish_eq (.deleteDisk dc found.parent.pool t.id) started.ticket
  have hFaultless := hHolds.faultless.finish (.deleteDisk dc found.parent.pool t.id) started.ticket
  have hLayout := Inventory.layout_finish w.platform (.deleteDisk dc found.parent.pool t.id) started.ticket
  have hReply : (w.finish (.deleteDisk dc found.parent.pool t.id) started).1 =
      (w.platform.answer (.deleteDisk dc found.parent.pool t.id)).1 := congrArg Prod.fst hFinish
  have hPlatform : (w.finish (.deleteDisk dc found.parent.pool t.id) started).2.platform =
      (w.platform.answer (.deleteDisk dc found.parent.pool t.id)).2.2 :=
    congrArg (fun answer => answer.2.2) hFinish
  refine ⟨t.before.datacenters.length, ?_⟩
  rcases Inventory.answer_deleteDisk hState found.parent.pool t.id with
    ⟨hNone, hAnswer, hSame⟩ | ⟨hSome, hAnswer, hDropped⟩
  · rw [hReply, hAnswer]
    refine ⟨(hHolds.same (fun place => ?_) hFaultless hLayout).learn ?_, hGone⟩
    · rw [hPlatform, hSame]
    · intro place _ disk hDisk hSameId
      rw [hPlatform, hSame] at hDisk
      obtain ⟨rfl, rfl⟩ := hOnly place disk (hHolds.mem_before hDisk) hSameId
      cases disk.isIn_pool.symm.trans (hNone disk hDisk hSameId)
  · have hDisks : ∀ place,
        (w.finish (.deleteDisk dc found.parent.pool t.id) started).2.platform.disksAt place =
          (w.platform.disksAt place).filter fun disk => disk.id ≠ t.id := by
      intro place
      rw [hPlatform, hDropped]
      exact (hHolds.distinctIds hIds).disksAt_dropDisk hSome place
    have hWithout : ∀ place, ∀ disk ∈
        (w.finish (.deleteDisk dc found.parent.pool t.id) started).2.platform.disksAt place,
        disk.id ≠ t.id := by
      intro place disk hDisk
      rw [hDisks place] at hDisk
      simpa using List.of_mem_filter hDisk
    rw [hReply, hAnswer]
    refine ⟨⟨hFaultless, hLayout.trans hHolds.layout, fun place => .inr ?_, ?_⟩, hOk⟩
    · rw [hDisks place]
      rcases hHolds.kept place with hSame | hLess
      · rw [hSame]
      · rw [hLess, List.filter_filter]
        simp
    · exact fun i m _ place _ => hWithout place

/-- The error of a request that was overtaken by another one. -/
def overtaken (id : String) : Error :=
  (Cause.deletionFailed id (.notFound "FirstClassDisk" id)).toError

/-- How a delete request may end: refused without an id, or else at a stage where all sites are without the
id. Then it succeeded, or there was a volume and the request was overtaken. -/
def Ends (t : Purge) (result : Except Error DeleteVolumeResponse) (n : Nat) : Prop :=
  t.id = "" ∧ result = .error Cause.volumeIdMissing.toError ∨
  t.id ≠ "" ∧ n = t.before.datacenters.length ∧ (result = .ok ⟨⟩ ∨
    (∃ place, ∃ disk ∈ t.before.disksAt place, disk.id = t.id) ∧ result = .error (overtaken t.id))

theorem deleteVolume (hIds : t.before.DistinctIds) :
    t.rules.Follows number t.Ends (Controller.deleteVolume ⟨t.id⟩).run 0 := by
  have hRecords := t.calm.records
  refine Follows.instrumented hRecords ?_
  unfold Controller.deleteVolumeUncounted
  split
  · rename_i hId
    exact Follows.bindOperation (Follows.reject hRecords (.inl ⟨hId, rfl⟩))
  · rename_i hId
    refine Follows.bindOperation (Follows.attempt (t.resolve.mono ?_))
    rintro (e | ⟨site, disk⟩) n hResult
    · obtain ⟨rfl, rfl⟩ := hResult
      exact Follows.afterNote hRecords (Follows.pure (.inr ⟨hId, rfl, .inl rfl⟩))
    · obtain ⟨hDisk, hDiskId⟩ := hResult
      refine Follows.bindOperation (Follows.bindOperation (callDelete hIds hDisk hDiskId ?_ ?_))
      · exact Follows.note hRecords (Follows.pure (.inr ⟨hId, rfl, .inl rfl⟩))
      · exact Follows.reject hRecords (.inr ⟨hId, rfl, .inr ⟨⟨_, disk, hDisk, hDiskId⟩, rfl⟩⟩)

end Purge

end VolumeController
