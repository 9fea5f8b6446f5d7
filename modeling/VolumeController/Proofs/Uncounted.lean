import VolumeController.Proofs.Catalogue
/-! What requests do before they are counted. Nothing on the way is counted, and once the request is accepted no
answer of the platform, and no abort, leads to the error of an invalid request. Main result: a create whose order is
accepted, a delete with an id, a publish or an unpublish with both ids, and a listing with a limit and an offset are
not called invalid any more. -/

namespace VolumeController

variable {α β : Type}

/-- Whether an action counts a finished request. -/
def Action.Counts : Action → Prop
  | .observe _ _ => True
  | _ => False

/-- Whether a procedure counts nothing on its way and ends as wanted, whatever it is told. -/
def Procedure.Uncounted (goal : α → Prop) : Procedure α → Prop
  | .done a => goal a
  | .act action next => ¬ action.Counts ∧ ∀ answer, Uncounted goal (next answer)
  | .await _ next => ∀ answer, Uncounted goal (next answer)

namespace Procedure.Uncounted

variable {goal : Except Error α → Prop}

theorem mono {p : Procedure α} {goal goal' : α → Prop} (h : p.Uncounted goal) (hGoal : ∀ a, goal a → goal' a) :
    p.Uncounted goal' := by
  induction p with
  | done a => exact hGoal a h
  | act action next ih => exact ⟨h.1, fun answer => ih answer (h.2 answer)⟩
  | await wait next ih => exact fun answer => ih answer (h answer)

theorem bind {p : Procedure α} {f : α → Procedure β} {goal : β → Prop}
    (h : p.Uncounted fun a => (f a).Uncounted goal) : (p >>= f).Uncounted goal := by
  induction p with
  | done a => exact h
  | act action next ih => exact ⟨h.1, fun answer => ih answer (h.2 answer)⟩
  | await wait next ih => exact fun answer => ih answer (h answer)

/-! Operations. -/

theorem bindOperation {op : Operation α} {f : α → Operation β} {goal : Except Error β → Prop}
    (h : op.run.Uncounted fun
      | .ok a => (f a).run.Uncounted goal
      | .error e => goal (.error e)) : (op >>= f).run.Uncounted goal := by
  apply bind
  apply h.mono
  intro result hResult
  cases result <;> exact hResult

theorem afterNote {event : Event} {op : Operation α} (h : op.run.Uncounted goal) :
    (do Operation.note event; op : Operation α).run.Uncounted goal :=
  bindOperation ⟨id, fun _ => h⟩

theorem reject {cause : Cause} (h : goal (.error cause.toError)) :
    (Operation.reject cause : Operation α).run.Uncounted goal :=
  afterNote h

theorem attempt {op : Operation α} {goal : Except Error (Except Error α) → Prop}
    (h : op.run.Uncounted fun result => goal (.ok result)) : (Operation.attempt op).run.Uncounted goal :=
  bind h

theorem locked {name : LockName} {op : Operation α}
    (hAbort : ∀ abort, goal (.error (Operation.abortError "AcquireNameLock" abort))) (h : op.run.Uncounted goal) :
    (VolumeStore.locked name op).run.Uncounted goal := by
  refine ⟨id, fun lock answer => ?_⟩
  have hLeave : Procedure.Uncounted (fun result => (do
        Procedure.perform (.dropHandle lock)
        Procedure.perform (.sweep name)
        return result : Procedure (Except Error α)).Uncounted goal)
      (do
        let result ← op.run
        Procedure.perform (.unlock lock)
        return result : Procedure (Except Error α)) :=
    bind (h.mono fun _ hGoal => ⟨id, fun _ => ⟨id, fun _ => ⟨id, fun _ => hGoal⟩⟩⟩)
  cases answer with
  | error abort => exact ⟨id, fun _ => ⟨id, fun _ => hAbort abort⟩⟩
  | ok held => exact bind hLeave

end Procedure.Uncounted

/-- Whether a result does not call its request invalid. -/
def Accepts (result : Except Error α) : Prop :=
  ∀ e, result = .error e → e.code ≠ .invalidArgument

namespace Accepts

open Procedure.Uncounted

theorem ok (a : α) : Accepts (.ok a) :=
  nofun

theorem error {e : Error} (h : e.code ≠ .invalidArgument) : Accepts (.error e : Except Error α) := by
  rintro _ ⟨⟩
  exact h

theorem ne_of_isAborted {e : Error} (h : e.isAborted) : e.code ≠ .invalidArgument := by
  cases e with
  | cancelled operation => exact nofun
  | deadlineExceeded operation => exact nofun
  | _ => cases h

theorem ne_of_abortError (operation : String) (abort : Abort) :
    (Operation.abortError operation abort).code ≠ .invalidArgument := by
  cases abort <;> exact nofun

theorem ne_of_backend (failure : BackendError) : (Error.backend failure).code ≠ .invalidArgument := by
  cases failure <;> exact nofun

/-! Operations. -/

theorem done (a : α) : (pure a : Operation α).run.Uncounted Accepts :=
  ok a

theorem rejected {cause : Cause} (h : cause.toError.code ≠ .invalidArgument) :
    (Operation.reject cause : Operation α).run.Uncounted Accepts :=
  reject (error h)

theorem caused {result : Except Cause α} (h : ∀ cause, result = .error cause → cause.toError.code ≠ .invalidArgument) :
    (Operation.ofCause result).run.Uncounted Accepts := by
  cases result with
  | ok a => exact ok a
  | error cause => exact rejected (h cause rfl)

theorem bindThen {op : Operation α} {f : α → Operation β} (h : op.run.Uncounted Accepts)
    (hf : ∀ a, (f a).run.Uncounted Accepts) : (op >>= f).run.Uncounted Accepts := by
  refine bindOperation (h.mono ?_)
  rintro (e | a) hResult
  · exact error (hResult e rfl)
  · exact hf a

theorem waitThen {operation : String} {wait : Wait} {f : wait.Answer → Operation α}
    (h : ∀ answer, (f answer).run.Uncounted Accepts) : (Operation.wait operation wait >>= f).run.Uncounted Accepts := by
  refine bindOperation fun answer => ?_
  cases answer with
  | error abort => exact error (ne_of_abortError operation abort)
  | ok answer => exact h answer

theorem callThen {operation : String} {c : Call} {f : c.Reply → Operation α}
    (h : ∀ reply, (f reply).run.Uncounted Accepts) : (Operation.call operation c >>= f).run.Uncounted Accepts :=
  waitThen h

/-- What follows an operation whose failure is looked at. -/
theorem attemptThen {op : Operation α} {f : Except Error α → Operation β} (h : op.run.Uncounted Accepts)
    (hf : ∀ result, (f result).run.Uncounted Accepts) : (Operation.attempt op >>= f).run.Uncounted Accepts :=
  bindOperation (attempt (h.mono fun result _ => hf result))

/-! Volumes that exist. -/

theorem searchSites (id : String) (last : Option BackendError) (sites : List Site) :
    (VolumeStore.searchSites id last sites).run.Uncounted Accepts := by
  induction sites generalizing last with
  | nil => cases last <;> exact error nofun
  | cons site sites ih =>
      simp only [VolumeStore.searchSites]
      refine callThen ?_
      rintro (failure | _ | disk)
      · exact afterNote (ih _)
      · exact ih last
      · exact ok (site, disk)

theorem resolve (id : String) : (VolumeStore.resolve id).run.Uncounted Accepts := by
  refine callThen ?_
  rintro (failure | sites)
  · exact error nofun
  · exact searchSites id none sites

theorem lookupFailed (operation id : String) (e : Error) :
    (Controller.lookupFailed operation id e : Operation α).run.Uncounted Accepts := by
  unfold Controller.lookupFailed
  split
  · exact afterNote (error (ne_of_isAborted ‹_›))
  · exact rejected nofun

theorem resolveVolume (operation id : String) : (Controller.resolveVolume operation id).run.Uncounted Accepts := by
  refine attemptThen (resolve id) ?_
  rintro (e | found)
  · exact lookupFailed operation id e
  · exact ok found

theorem delete (dc : Datacenter) (pool : Pool) (id : String) :
    (VolumeStore.delete dc pool id).run.Uncounted Accepts := by
  refine callThen ?_
  rintro (failure | deleted)
  · exact rejected nofun
  · exact afterNote (done ())

theorem deleteVolume {request : DeleteVolumeRequest} (hId : request.volumeId ≠ "") :
    (Controller.deleteVolumeUncounted request).run.Uncounted Accepts := by
  unfold Controller.deleteVolumeUncounted
  rw [if_neg hId]
  refine attemptThen (resolve _) fun result => ?_
  split
  · exact bindThen (delete _ _ _) fun _ => done _
  · exact afterNote (done _)
  · exact lookupFailed _ _ _

theorem resolveNode (dc : Datacenter) (name : String) :
    (Attachment.resolveNode dc name).run.Uncounted Accepts := by
  refine callThen ?_
  rintro (failure | node)
  · exact afterNote (error (ne_of_backend failure))
  · exact ok node

theorem backingFile (disk : Disk) : (Attachment.backingFile disk).run.Uncounted Accepts := by
  unfold Attachment.backingFile
  split
  · exact done _
  · exact rejected nofun

theorem attach (node : Node) (disk : Disk) (bus : ScsiController) :
    (Attachment.attach node disk bus).run.Uncounted Accepts := by
  refine bindThen (backingFile disk) fun path => callThen ?_
  rintro (failure | handle)
  · exact afterNote (error (ne_of_backend failure))
  · exact afterNote (done handle)

theorem detach (node : Node) (disk : Disk) : (Attachment.detach node disk).run.Uncounted Accepts := by
  refine bindThen (backingFile disk) fun path => callThen ?_
  rintro (failure | detached)
  · exact afterNote (error (ne_of_backend failure))
  · exact afterNote (done ())

theorem requireIds {volumeId nodeId : String} (hVolume : volumeId ≠ "") (hNode : nodeId ≠ "") :
    (Controller.requireIds volumeId nodeId).run.Uncounted Accepts := by
  rw [Controller.requireIds, if_neg hVolume, if_neg hNode]
  exact done ()

theorem publishVolume {request : PublishVolumeRequest} (hVolume : request.volumeId ≠ "") (hNode : request.nodeId ≠ "") :
    (Controller.publishVolumeUncounted request).run.Uncounted Accepts := by
  refine bindThen (requireIds hVolume hNode) fun _ => bindThen (resolveVolume _ _) fun found => ?_
  exact bindThen (resolveNode _ _) fun node => bindThen (attach _ _ _) fun handle => done _

theorem unpublishVolume {request : UnpublishVolumeRequest} (hVolume : request.volumeId ≠ "")
    (hNode : request.nodeId ≠ "") : (Controller.unpublishVolumeUncounted request).run.Uncounted Accepts := by
  refine bindThen (requireIds hVolume hNode) fun _ => bindThen (resolveVolume _ _) fun found => ?_
  exact bindThen (resolveNode _ _) fun node => bindThen (detach _ _) fun _ => done _

/-! Listings. -/

theorem collect (sites : List Site) (answers : List (Except BackendError (List Disk))) :
    (Listing.collect sites answers).run.Uncounted Accepts := by
  induction sites generalizing answers with
  | nil => exact done []
  | cons site sites ih =>
      rcases answers with - | ⟨failure | disks, answers⟩
      · exact done []
      · exact afterNote (ih answers)
      · exact bindThen (ih answers) fun _ => done _

theorem allDisks : Listing.allDisks.run.Uncounted Accepts := by
  refine callThen ?_
  rintro (failure | sites)
  · exact rejected nofun
  · exact waitThen fun answers => collect sites answers

theorem ne_of_compute {start limit total : Nat} {cause : Cause}
    (h : PageBounds.compute start limit total = .error cause) : cause.toError.code ≠ .invalidArgument := by
  unfold PageBounds.compute at h
  split at h <;> cases h
  rintro ⟨⟩

theorem ne_of_ofDisk {disk : Disk} {endpoint datacenter : String} {cause : Cause}
    (h : Volume.ofDisk disk endpoint datacenter = .error cause) : cause.toError.code ≠ .invalidArgument := by
  rw [LocatedDisk.cause_of_volume (d := ⟨endpoint, datacenter, disk⟩) h]
  exact nofun

theorem ne_of_entries {disks : List LocatedDisk} {cause : Cause} (h : Listing.entries disks = .error cause) :
    cause.toError.code ≠ .invalidArgument := by
  obtain ⟨d, -, hVolume⟩ := Listing.exists_of_entries_eq_error h
  exact ne_of_ofDisk hVolume

theorem listVolumes {request : ListVolumesRequest} {limit start : Nat}
    (hLimit : Listing.limit request.maxEntries = .ok limit) (hStart : offsetOfToken request.startingToken = .ok start) :
    (Listing.page request).run.Uncounted Accepts := by
  unfold Listing.page
  rw [hLimit, hStart]
  refine bindThen (done limit) fun limit => bindThen (done start) fun start => bindThen allDisks fun disks => ?_
  refine bindThen (caused fun _ h => ne_of_compute h) fun bounds => afterNote ?_
  refine bindThen (caused fun _ h => ne_of_entries h) fun entries => ?_
  simp only
  split
  · exact afterNote (done _)
  · exact done _

/-! Creates. -/

theorem exhausted (zone : String) (cause : Error) :
    (Placement.exhausted zone cause : Operation α).run.Uncounted Accepts := by
  unfold Placement.exhausted
  split
  · exact afterNote (error (ne_of_isAborted ‹_›))
  · exact rejected nofun

theorem lookup (labels : LabelsConfig) (zone region : String) :
    (Placement.lookup labels zone region).run.Uncounted Accepts := by
  refine callThen ?_
  rintro (failure | site)
  · exact error (ne_of_backend failure)
  · exact ok site

theorem searchSegments (labels : LabelsConfig) (last : String × Error) (segments : List Topology) :
    (Placement.searchSegments labels last segments).run.Uncounted Accepts := by
  induction segments generalizing last with
  | nil => exact exhausted _ _
  | cons segment segments ih =>
      refine attemptThen (lookup labels _ _) ?_
      rintro (e | site)
      · simp only
        split
        · exact exhausted _ _
        · exact ih _
      · exact afterNote (done site)

theorem resolvePlacement (labels : LabelsConfig) (placement : Placement) :
    (placement.resolve labels).run.Uncounted Accepts := by
  cases placement with
  | topology requirement => exact afterNote (searchSegments labels _ _)
  | legacy zone region =>
      refine afterNote (attemptThen (lookup labels _ _) ?_)
      rintro (e | site)
      · exact exhausted _ _
      · exact ok site

theorem create (dc : Datacenter) (pool : Pool) (name : String) (sizeMb : UInt64) :
    (VolumeStore.create dc pool name sizeMb).run.Uncounted Accepts := by
  refine callThen ?_
  rintro (failure | created)
  · exact rejected nofun
  · refine callThen ?_
    rintro (failure | _ | disk)
    · exact rejected nofun
    · exact rejected nofun
    · exact afterNote (done _)

theorem createUnlocked (dc : Datacenter) (pool : Pool) (name : String) (sizeMb : UInt64) :
    (VolumeStore.createUnlocked dc pool name sizeMb).run.Uncounted Accepts := by
  refine callThen ?_
  rintro (failure | _ | disk)
  · exact rejected nofun
  · exact create dc pool name sizeMb
  · refine afterNote ?_
    split
    · exact rejected nofun
    · exact done _

theorem createOrGet (store : VolumeStore) (dc : Datacenter) (pool : Pool) (name : String) (sizeMb : UInt64) :
    (store.createOrGet dc pool name sizeMb).run.Uncounted Accepts := by
  unfold VolumeStore.createOrGet
  split
  · exact locked (fun abort => error (ne_of_abortError _ abort)) (createUnlocked dc pool name sizeMb)
  · exact createUnlocked dc pool name sizeMb

theorem createVolume (c : Controller) {request : CreateVolumeRequest} {order : Controller.CreateOrder}
    (hOrder : Controller.order request = .ok order) :
    (c.createVolumeUncounted request).run.Uncounted Accepts := by
  unfold Controller.createVolumeUncounted
  rw [hOrder]
  refine bindThen (done order) fun order => afterNote ?_
  refine bindThen (resolvePlacement _ _) fun site => bindThen (createOrGet _ _ _ _ _) fun outcome => ?_
  have hReport : (do
      let volume ← Operation.ofCause (Volume.ofDisk outcome.disk site.endpoint site.datacenter.name)
      return ⟨volume⟩ : Operation CreateVolumeResponse).run.Uncounted Accepts :=
    bindThen (caused fun _ h => ne_of_ofDisk h) fun _ => done _
  cases outcome with
  | existing disk => exact afterNote hReport
  | created disk => exact hReport

end Accepts

/-! The requests that are counted. -/

/-- The name that a request is counted under. -/
def VolumeRequest.operation : VolumeRequest → String
  | .create _ => "CreateVolume"
  | .delete _ => "DeleteVolume"
  | .publish _ => "ControllerPublishVolume"
  | .unpublish _ => "ControllerUnpublishVolume"
  | .list _ => "ListVolumes"

/-- Carries out a request without counting it. -/
def Controller.handleUncounted (c : Controller) : (request : VolumeRequest) → Operation request.Response
  | .create request => c.createVolumeUncounted request
  | .delete request => deleteVolumeUncounted request
  | .publish request => publishVolumeUncounted request
  | .unpublish request => unpublishVolumeUncounted request
  | .list request => Listing.page request

/-- Every request is carried out, and then counted once. -/
theorem Controller.handle_eq_instrumented (c : Controller) (request : VolumeRequest) :
    c.handle request = instrumented request.operation (c.handleUncounted request) := by
  cases request <;> rfl

end VolumeController
