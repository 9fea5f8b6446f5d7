import VolumeController.Proofs.CreateRequest
import VolumeController.Proofs.Interleaving.Progress
import VolumeController.Proofs.VolumeSearch
/-! Delete requests. A request looks for its volume at all sites and then asks the site that has it to
delete it; the two are separate calls. -/

namespace VolumeController

/-- A delete request from the moment that its volume was found. -/
def Controller.fromDelete (id : String) (site : Site) (disk : Disk) : Operation DeleteVolumeResponse :=
  instrumented "DeleteVolume" do
    VolumeStore.delete site.datacenter disk.parent.pool id
    return ⟨⟩

/-! A delete request alone. -/

namespace Solo

variable {number : Nat} {s : Scene} {id : String} {site : Site} {disk : Disk}

theorem deleteVolume_unnamed :
    Solo number (Controller.deleteVolume ⟨""⟩).run s (.done (.error Cause.volumeIdMissing.toError)) s :=
  instrumented (bindError (.reject .volumeIdMissing))

theorem deleteVolume_absent (hId : id ≠ "") (hAbsent : s.inventory.locateDisk id = none) :
    Solo number (Controller.deleteVolume ⟨id⟩).run s (.done (.ok ⟨⟩)) s := by
  have hResolve : Solo number (VolumeStore.resolve id).run s _ s := resolve id
  rw [hAbsent] at hResolve
  refine instrumented ?_
  unfold Controller.deleteVolumeUncounted
  rw [if_neg hId]
  exact bindOperation (attempt hResolve) (.afterNote (.refl _ s))

theorem deleteVolume_found (hId : id ≠ "") (hFound : s.inventory.locateDisk id = some (site, disk)) :
    Solo number (Controller.deleteVolume ⟨id⟩).run s (Controller.fromDelete id site disk).run s := by
  have hResolve : Solo number (VolumeStore.resolve id).run s _ s := resolve id
  rw [hFound] at hResolve
  have hBefore : Solo number (Controller.deleteVolumeUncounted ⟨id⟩).run s
      (do
        VolumeStore.delete site.datacenter disk.parent.pool id
        return ⟨⟩ : Operation DeleteVolumeResponse).run s := by
    unfold Controller.deleteVolumeUncounted
    rw [if_neg hId]
    exact bindOperation (attempt hResolve) (.refl _ s)
  exact hBefore.bind _

/-- What the request ends with is what the site answers. -/
theorem fromDelete (id : String) (site : Site) (disk : Disk) :
    Solo number (Controller.fromDelete id site disk).run s
      (.done (match (s.inventory.answer (.deleteDisk site.datacenter disk.parent.pool id)).1 with
        | .ok () => .ok ⟨⟩
        | .error failure => .error (Cause.deletionFailed id failure).toError))
      (s.after (.deleteDisk site.datacenter disk.parent.pool id)) := by
  have hCall : Solo number (Operation.call "DeleteFirstClassDisk"
      (.deleteDisk site.datacenter disk.parent.pool id)).run s (.done (.ok _)) _ := callOperation _ _
  cases hReply : (s.inventory.answer (.deleteDisk site.datacenter disk.parent.pool id)).1 with
  | error failure =>
      rw [hReply] at hCall
      exact instrumented (bindError (bindOperation hCall (.reject _)))
  | ok done =>
      rw [hReply] at hCall
      exact instrumented (bindOperation (bindOperation hCall (.note _)) (.refl _ _))

/-- The volume that was found is deleted. -/
theorem deleteVolume (hId : id ≠ "") (hFound : s.inventory.locateDisk id = some (site, disk)) :
    Solo number (Controller.deleteVolume ⟨id⟩).run s (.done (.ok ⟨⟩))
      (s.after (.deleteDisk site.datacenter disk.parent.pool id)) := by
  obtain ⟨hSite, hDisk, hDiskId⟩ := Inventory.of_locateDisk hFound
  obtain ⟨state, hState⟩ := Inventory.state?_of_mem_sites hSite
  have hRest : Solo number (Controller.fromDelete id site disk).run s _ _ := fromDelete id site disk
  obtain ⟨hReply, -⟩ := Inventory.answer_deleteDisk_of_mem hState hDisk hDiskId
  rw [hReply] at hRest
  exact (deleteVolume_found hId hFound).trans hRest

end Solo

/-! What a delete request waits for. -/

namespace Procedure.OnlyCalls

theorem instrumented {α : Type} {name : String} {op : Operation α} (h : Procedure.OnlyCalls op.run) :
    Procedure.OnlyCalls (Controller.instrumented name op).run :=
  h.bind fun _ => .act fun _ => .done _

theorem searchSites (id : String) (last : Option BackendError) (sites : List Site) :
    Procedure.OnlyCalls (VolumeStore.searchSites id last sites).run := by
  induction sites generalizing last with
  | nil => cases last <;> exact .done _
  | cons site sites ih =>
      simp only [VolumeStore.searchSites]
      refine bindOperation (callOperation _ _) ?_
      rintro (failure | found)
      · exact bindOperation (note _) fun _ => ih _
      · cases found with
        | none => exact ih last
        | some disk => exact .done _

theorem resolve (id : String) : Procedure.OnlyCalls (VolumeStore.resolve id).run := by
  refine bindOperation (callOperation _ _) ?_
  rintro (failure | sites)
  · exact .done _
  · exact searchSites id none sites

theorem delete (dc : Datacenter) (pool : Pool) (id : String) :
    Procedure.OnlyCalls (VolumeStore.delete dc pool id).run := by
  refine bindOperation (callOperation _ _) ?_
  rintro (failure | done)
  · exact reject _
  · exact note _

theorem lookupFailed {α : Type} (operation id : String) (e : Error) :
    Procedure.OnlyCalls (Controller.lookupFailed operation id e : Operation α).run := by
  unfold Controller.lookupFailed
  split
  · exact bindOperation (note _) fun _ => .done _
  · exact reject _

theorem deleteVolume (request : DeleteVolumeRequest) :
    Procedure.OnlyCalls (Controller.deleteVolume request).run := by
  refine instrumented ?_
  unfold Controller.deleteVolumeUncounted
  split
  · exact reject _
  · refine bindOperation ((resolve _).bind fun _ => .done _) ?_
    intro found
    split
    · exact bindOperation (delete _ _ _) fun _ => .done _
    · exact bindOperation (note _) fun _ => .done _
    · exact lookupFailed _ _ _

end Procedure.OnlyCalls

end VolumeController
