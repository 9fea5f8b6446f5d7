import VolumeController.Proofs.Failures.Alone
/-! What requests leave behind when they fail. A request that changes the inventory does so with its last call
and cannot fail any more after it, except for a create, which reads the disk back. -/

namespace VolumeController

open Rules

variable {α β : Type}

namespace Alone

variable {zone : Option BackendError} {number : Nat}

/-! Requests that only read. -/

namespace Keeps

theorem searchSites (id : String) (last : Option BackendError) (sites : List Site) :
    Keeps zone number (VolumeStore.searchSites id last sites).run := by
  induction sites generalizing last with
  | nil => cases last <;> exact done _
  | cons site sites ih =>
      simp only [VolumeStore.searchSites]
      refine bindOperation (call _ rfl) ?_
      rintro (failure | found)
      · exact afterNote (ih _)
      · cases found with
        | none => exact ih last
        | some disk => exact done _

theorem resolve (id : String) : Keeps zone number (VolumeStore.resolve id).run := by
  refine bindOperation (call _ rfl) ?_
  rintro (failure | sites)
  · exact done _
  · exact searchSites id none sites

theorem lookupFailed (operation id : String) (e : Error) :
    Keeps zone number (Controller.lookupFailed operation id e : Operation α).run := by
  unfold Controller.lookupFailed
  split
  · exact afterNote (done _)
  · exact reject _

theorem requireIds (volumeId nodeId : String) : Keeps zone number (Controller.requireIds volumeId nodeId).run := by
  unfold Controller.requireIds
  split
  · exact reject _
  · split
    · exact reject _
    · exact done _

theorem resolveVolume (operation id : String) :
    Keeps zone number (Controller.resolveVolume operation id).run := by
  refine bindOperation (attempt (resolve id)) ?_
  rintro (e | found)
  · exact lookupFailed _ _ _
  · exact done _

theorem resolveNode (dc : Datacenter) (name : String) :
    Keeps zone number (Attachment.resolveNode dc name).run := by
  refine bindOperation (call _ rfl) ?_
  rintro (failure | node)
  · exact afterNote (done _)
  · exact done _

theorem backingFile (disk : Disk) : Keeps zone number (Attachment.backingFile disk).run := by
  unfold Attachment.backingFile
  split
  · exact done _
  · exact reject _

theorem collect (sites : List Site) (answers : List (Except BackendError (List Disk))) :
    Keeps zone number (Listing.collect sites answers).run := by
  induction sites generalizing answers with
  | nil => exact done _
  | cons site sites ih =>
      rcases answers with - | ⟨failure | disks, answers⟩
      · exact done _
      · exact afterNote (ih answers)
      · exact bindOperation (ih answers) fun _ => done _

theorem allDisks : Keeps zone number Listing.allDisks.run := by
  refine bindOperation (call _ rfl) ?_
  rintro (failure | sites)
  · exact reject _
  · exact bindOperation (listings _ _) (collect sites)

theorem listVolumes (request : ListVolumesRequest) : Keeps zone number (Controller.listVolumes request).run := by
  apply instrumented
  refine bindOperation (ofCause _) fun limit => ?_
  refine bindOperation (ofCause _) fun start => ?_
  refine bindOperation allDisks fun disks => ?_
  refine bindOperation (ofCause _) fun bounds => ?_
  refine afterNote (bindOperation (ofCause _) fun entries => ?_)
  simp only
  split
  · exact afterNote (done _)
  · exact done _

end Keeps

/-! Requests that change the inventory. -/

/-- A result and the stage after it: after an error all is as it was. -/
def Spares (stage : Stage Inventory) : Except Error α → Stage Inventory → Prop
  | .ok _, _ => True
  | .error _, after => after = stage

theorem Keeps.spares {p : Procedure (Except Error α)} (h : Keeps zone number p) (stage : Stage Inventory) :
    (rules zone).Follows number (Spares stage) p stage := by
  apply (h stage).mono
  rintro (e | a) after hAfter
  · exact hAfter
  · trivial

/-- What follows an operation that spares what there was, if it cannot fail. -/
theorem Spares.bindOperation {op : Operation α} {f : α → Operation β} {stage : Stage Inventory}
    (h : (rules zone).Follows number (Spares stage) op.run stage)
    (hf : ∀ a after, (rules zone).Follows number (Spares stage) (f a).run after) :
    (rules zone).Follows number (Spares stage) (op >>= f).run stage := by
  apply Follows.bindOperation
  apply h.mono
  rintro (e | a) after hAfter
  · exact hAfter
  · exact hf a after

/-- A call is the last thing that can fail. -/
theorem Spares.call {operation : String} {c : Call} {f : c.Reply → Operation β} {stage : Stage Inventory}
    (hError : ∀ failure, Keeps zone number (f (.error failure)).run)
    (hOk : ∀ value after, (rules zone).Follows number (Spares stage) (f (.ok value)).run after) :
    (rules zone).Follows number (Spares stage) (Operation.call operation c >>= f).run stage := by
  refine callThen (fun _ => rfl) (fun failure _ => (hError failure).spares _) fun _ => ?_
  cases hReply : (stage.known.answer c).1 with
  | ok value => exact hOk value _
  | error failure =>
      rw [Inventory.answer_eq_of_error hReply]
      exact (hError failure).spares _

/-- A note is written, and nothing fails. -/
theorem Spares.note (event : Event) (stage after : Stage Inventory) :
    (rules zone).Follows number (Spares stage) (Operation.note event).run after :=
  Follows.note records trivial

theorem spares_delete (dc : Datacenter) (pool : Pool) (id : String) (stage : Stage Inventory) :
    (rules zone).Follows number (Spares stage) (VolumeStore.delete dc pool id).run stage :=
  Spares.call (fun _ => .reject _) fun _ after => Spares.note _ stage after

theorem spares_attach (node : Node) (disk : Disk) (bus : ScsiController) (stage : Stage Inventory) :
    (rules zone).Follows number (Spares stage) (Attachment.attach node disk bus).run stage := by
  refine (Keeps.backingFile disk).followedByOperation (fun _ => rfl) fun path => ?_
  refine Spares.call (fun _ => .afterNote (.done _)) fun handle after => ?_
  exact Follows.afterNote records trivial

theorem spares_detach (node : Node) (disk : Disk) (stage : Stage Inventory) :
    (rules zone).Follows number (Spares stage) (Attachment.detach node disk).run stage := by
  refine (Keeps.backingFile disk).followedByOperation (fun _ => rfl) fun path => ?_
  exact Spares.call (fun _ => .afterNote (.done _)) fun _ after => Spares.note _ stage after

theorem spares_deleteVolume (request : DeleteVolumeRequest) (stage : Stage Inventory) :
    (rules zone).Follows number (Spares stage) (Controller.deleteVolume request).run stage := by
  refine Follows.instrumented records ?_
  unfold Controller.deleteVolumeUncounted
  split
  · exact (Keeps.reject _).spares stage
  · refine (Keeps.resolve _).attempt.followedByOperation (fun _ => rfl) fun found => ?_
    split
    · exact Spares.bindOperation (spares_delete _ _ _ stage) fun _ _ => trivial
    · exact (Keeps.note _).followedByOperation (fun _ => rfl) fun _ => trivial
    · exact (Keeps.lookupFailed _ _ _).spares stage

theorem spares_publishVolume (request : PublishVolumeRequest) (stage : Stage Inventory) :
    (rules zone).Follows number (Spares stage) (Controller.publishVolume request).run stage := by
  refine Follows.instrumented records ?_
  refine (Keeps.requireIds _ _).followedByOperation (fun _ => rfl) fun _ => ?_
  refine (Keeps.resolveVolume _ _).followedByOperation (fun _ => rfl) fun found => ?_
  refine (Keeps.resolveNode _ _).followedByOperation (fun _ => rfl) fun node => ?_
  exact Spares.bindOperation (spares_attach node found.2 _ stage) fun _ _ => trivial

theorem spares_unpublishVolume (request : UnpublishVolumeRequest) (stage : Stage Inventory) :
    (rules zone).Follows number (Spares stage) (Controller.unpublishVolume request).run stage := by
  refine Follows.instrumented records ?_
  refine (Keeps.requireIds _ _).followedByOperation (fun _ => rfl) fun _ => ?_
  refine (Keeps.resolveVolume _ _).followedByOperation (fun _ => rfl) fun found => ?_
  refine (Keeps.resolveNode _ _).followedByOperation (fun _ => rfl) fun node => ?_
  exact Spares.bindOperation (spares_detach node found.2 stage) fun _ _ => trivial

end Alone

end VolumeController
