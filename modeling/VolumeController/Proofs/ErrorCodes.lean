import VolumeController.Proofs.Aborts
import VolumeController.Proofs.Attachments.History
import VolumeController.Proofs.Catalogue.Service
import VolumeController.Proofs.DeleteOutcome
import VolumeController.Proofs.RacingCreates
/-! Which errors a request may end with, whoever answers it. A failure of the platform is wrapped, unless it comes
from the node of a publish or an unpublish, which passes it on as it is. Main result: the error of every request is
one that its operation may end with after what it heard, and a volume that nobody shows is an internal failure. -/

namespace VolumeController

variable {α β : Type}

/-- The codes that every operation on volumes may fail with. -/
def StatusCode.IsCommon : StatusCode → Prop
  | .invalidArgument | .internal | .cancelled | .deadlineExceeded => True
  | _ => False

theorem Error.isCommon_of_isAborted {e : Error} (h : e.isAborted) : e.code.IsCommon := by
  cases e with
  | cancelled operation => trivial
  | deadlineExceeded operation => trivial
  | _ => cases h

theorem Operation.isCommon_abortError (operation : String) (abort : Abort) :
    (abortError operation abort).code.IsCommon :=
  Error.isCommon_of_isAborted (isAborted_abortError operation abort)

theorem BackendError.not_isCommon (failure : BackendError) : ¬ failure.code.IsCommon := by
  cases failure <;> exact id

/-- Nothing but a disk of another size is told apart from other failures. -/
theorem Cause.Refuses.isCommon {cause : Cause} (h : cause.Refuses) : cause.toError.code.IsCommon := by
  rw [show cause.toError.code = .invalidArgument from h]
  trivial

theorem Volume.isCommon_of_ofDisk {disk : Disk} {endpoint datacenter : String} {cause : Cause}
    (h : ofDisk disk endpoint datacenter = .error cause) : cause.toError.code.IsCommon := by
  unfold ofDisk at h
  split at h <;> cases h
  trivial

theorem PageBounds.isCommon_of_compute {start limit total : Nat} {cause : Cause}
    (h : compute start limit total = .error cause) : cause.toError.code.IsCommon := by
  unfold compute at h
  split at h <;> cases h
  trivial

/-- A failure that was heard last is passed on as it is. -/
def Call.PassedOn (c : Call) (heard : List Exchange) (e : Error) : Prop :=
  ∃ before failure, heard = before ++ [⟨.call c, .ok (.error failure)⟩] ∧ e = .backend failure

/-- Whether a wait is for a lookup by name or for a creation. -/
def Exchange.ConcernsName (x : Exchange) : Prop :=
  match x.wait with
  | .call (.findByName _ _ _) | .call (.createDisk _ _ _ _) => True
  | _ => False

/-- The first lookup by name showed a disk of another size than ordered; it was the last thing that was asked for,
so nothing was created. -/
def ShowsOtherSize (name : String) (order : Controller.CreateOrder) (heard : List Exchange) : Prop :=
  ∃ before dc disk, heard = before ++ [.named dc order.pool name (some disk)] ∧ disk.capacityMb ≠ order.sizeMb ∧
    ∀ x ∈ before, ¬ x.ConcernsName

/-- The errors that a request may end with after what it heard. -/
def VolumeRequest.MayFailWith (heard : List Exchange) (e : Error) : VolumeRequest → Prop
  | .create request => e.code.IsCommon ∨
    e.code = .alreadyExists ∧ ∃ order, Controller.order request = .ok order ∧ ShowsOtherSize request.name order heard
  | .delete _ | .list _ => e.code.IsCommon
  | .publish request => e.code.IsCommon ∨ (∃ dc, Call.PassedOn (.findNode dc request.nodeId) heard e) ∨
    ∃ node path bus, Call.PassedOn (.attachDisk node path bus) heard e
  | .unpublish request => e.code.IsCommon ∨ (∃ dc, Call.PassedOn (.findNode dc request.nodeId) heard e) ∨
    ∃ node path, Call.PassedOn (.detachDisk node path) heard e

/-- The dialogue in which anything may be asked and told. -/
def Dialogue.free : Dialogue := {}

/-- Whether an operation fails, if it fails, with a common code or in a way of its own. -/
def FailsOnly (own : List Exchange → Error → Prop) (told : List Exchange) (result : Except Error α) : Prop :=
  ∀ e, result = .error e → e.code.IsCommon ∨ own told e

/-- Whether an operation fails, if it fails, with a common code. -/
abbrev FailsCommonly (told : List Exchange) (result : Except Error α) : Prop :=
  FailsOnly (fun _ _ => False) told result

namespace FailsOnly

variable {own : List Exchange → Error → Prop} {told : List Exchange}

theorem ok (a : α) : FailsOnly own told (.ok a) :=
  nofun

theorem common {e : Error} (h : e.code.IsCommon) : FailsOnly own told (.error e : Except Error α) := by
  rintro _ ⟨⟩
  exact .inl h

theorem special {e : Error} (h : own told e) : FailsOnly own told (.error e : Except Error α) := by
  rintro _ ⟨⟩
  exact .inr h

theorem of_commonly {e : Error} (h : FailsCommonly told (.error e : Except Error α)) :
    FailsOnly own told (.error e : Except Error β) :=
  common ((h e rfl).resolve_right id)

open Procedure.Converses

/-! Operations, whoever answers them. -/

theorem done (a : α) : (pure a : Operation α).run.Converses .free (FailsOnly own) told :=
  ok a

theorem rejected {cause : Cause} (h : cause.toError.code.IsCommon) :
    (Operation.reject cause : Operation α).run.Converses .free (FailsOnly own) told :=
  reject (common h)

theorem caused {result : Except Cause α} (h : ∀ cause, result = .error cause → cause.toError.code.IsCommon) :
    (Operation.ofCause result).run.Converses .free (FailsOnly own) told := by
  cases result with
  | ok a => exact ok a
  | error cause => exact rejected (h cause rfl)

theorem waitThen {operation : String} {wait : Wait} {f : wait.Answer → Operation α}
    (h : ∀ answer, (f answer).run.Converses .free (FailsOnly own) (told ++ [⟨wait, .ok answer⟩])) :
    (Operation.wait operation wait >>= f).run.Converses .free (FailsOnly own) told := by
  refine bindOperation ⟨trivial, fun answer _ => ?_⟩
  cases answer with
  | error abort => exact common (e := Operation.abortError operation abort) (Operation.isCommon_abortError _ abort)
  | ok answer => exact h answer

theorem callThen {operation : String} {c : Call} {f : c.Reply → Operation α}
    (h : ∀ reply, (f reply).run.Converses .free (FailsOnly own) (told ++ [⟨.call c, .ok reply⟩])) :
    (Operation.call operation c >>= f).run.Converses .free (FailsOnly own) told :=
  waitThen h

/-- What follows an operation that fails with common codes. -/
theorem bindThen {op : Operation α} {f : α → Operation β} (h : op.run.Converses .free FailsCommonly told)
    (hf : ∀ a told, (f a).run.Converses .free (FailsOnly own) told) :
    (op >>= f).run.Converses .free (FailsOnly own) told := by
  refine bindOperation (h.mono ?_)
  rintro told (e | a) hFails
  · exact of_commonly hFails
  · exact hf a told

/-- What follows an operation that may fail in any way. -/
theorem attemptThen {op : Operation α} {f : Except Error α → Operation β}
    (hf : ∀ result told, (f result).run.Converses .free (FailsOnly own) told) :
    (Operation.attempt op >>= f).run.Converses .free (FailsOnly own) told :=
  bindOperation (attempt ((Procedure.converses_freely (fun _ _ => trivial) _ _).mono fun told result _ =>
    hf result told))

/-! Requests for volumes that exist. -/

/-- However the lookup of a volume ended, its failure has a common code. -/
theorem lookupFailed (operation id : String) (e : Error) :
    (Controller.lookupFailed operation id e : Operation α).run.Converses .free (FailsOnly own) told := by
  unfold Controller.lookupFailed
  split
  · exact afterNote (common (Error.isCommon_of_isAborted ‹_›))
  · exact rejected trivial

theorem delete (dc : Datacenter) (pool : Pool) (id : String) :
    (VolumeStore.delete dc pool id).run.Converses .free FailsCommonly told := by
  refine callThen ?_
  rintro (failure | deleted)
  · exact rejected trivial
  · exact fun _ => ok ()

theorem deleteVolume (request : DeleteVolumeRequest) :
    (Controller.deleteVolume request).run.Converses .free FailsCommonly told := by
  refine instrumented ?_
  unfold Controller.deleteVolumeUncounted
  split
  · exact rejected trivial
  · refine attemptThen fun result told => ?_
    split
    · exact bindThen (delete _ _ _) fun _ _ => done _
    · exact afterNote (done _)
    · exact lookupFailed _ _ _

theorem requireIds (volumeId nodeId : String) :
    (Controller.requireIds volumeId nodeId).run.Converses .free FailsCommonly told := by
  unfold Controller.requireIds
  split
  · exact rejected trivial
  · split
    · exact rejected trivial
    · exact done ()

theorem resolveVolume (operation id : String) :
    (Controller.resolveVolume operation id).run.Converses .free FailsCommonly told := by
  refine attemptThen ?_
  rintro (e | found) told
  · exact lookupFailed _ _ _
  · exact ok found

theorem resolveNode (dc : Datacenter) (name : String) :
    (Attachment.resolveNode dc name).run.Converses .free (FailsOnly fun told e =>
      Call.PassedOn (.findNode dc name) told e) told := by
  refine callThen ?_
  rintro (failure | node)
  · exact afterNote (special ⟨told, failure, rfl, rfl⟩)
  · exact ok node

/-- A node that is not found is the platform's failure. -/
theorem meet (operation volumeId nodeId : String) :
    (Controller.meet operation volumeId nodeId).run.Converses .free (FailsOnly fun told e =>
      ∃ dc, Call.PassedOn (.findNode dc nodeId) told e) told := by
  refine bindThen (requireIds _ _) fun _ told => bindThen (resolveVolume _ _) fun found told => ?_
  refine bindOperation ((resolveNode _ _).mono ?_)
  rintro told (e | node) hFails
  · rintro _ ⟨⟩
    exact (hFails e rfl).imp id fun hPassed => ⟨_, hPassed⟩
  · exact ok _

theorem attach (node : Node) (disk : Disk) (bus : ScsiController) :
    (Attachment.attach node disk bus).run.Converses .free (FailsOnly fun told e =>
      ∃ path, Call.PassedOn (.attachDisk node path bus) told e) told := by
  unfold Attachment.attach Attachment.backingFile
  cases disk.filePath? with
  | none => exact bindOperation (rejected trivial)
  | some path =>
      refine callThen ?_
      rintro (failure | handle)
      · exact afterNote (special ⟨path, told, failure, rfl, rfl⟩)
      · exact afterNote (ok handle)

theorem detach (node : Node) (disk : Disk) :
    (Attachment.detach node disk).run.Converses .free (FailsOnly fun told e =>
      ∃ path, Call.PassedOn (.detachDisk node path) told e) told := by
  unfold Attachment.detach Attachment.backingFile
  cases disk.filePath? with
  | none => exact bindOperation (rejected trivial)
  | some path =>
      refine callThen ?_
      rintro (failure | detached)
      · exact afterNote (special ⟨path, told, failure, rfl, rfl⟩)
      · exact fun _ => ok ()

theorem publishVolume (request : PublishVolumeRequest) :
    (Controller.publishVolume request).run.Converses .free (FailsOnly fun told e =>
      (∃ dc, Call.PassedOn (.findNode dc request.nodeId) told e) ∨
        ∃ node path bus, Call.PassedOn (.attachDisk node path bus) told e) told := by
  refine instrumented ?_
  rw [Controller.publishVolumeUncounted_eq]
  refine bindOperation ((meet _ _ _).mono ?_)
  rintro told (e | ⟨site, disk, node⟩) hMeet
  · rintro _ ⟨⟩
    exact (hMeet e rfl).imp id .inl
  refine bindOperation ((attach _ _ _).mono ?_)
  rintro told (e | handle) hAttach
  · rintro _ ⟨⟩
    exact (hAttach e rfl).imp id fun ⟨path, hPassed⟩ => .inr ⟨node, path, _, hPassed⟩
  · exact ok _

theorem unpublishVolume (request : UnpublishVolumeRequest) :
    (Controller.unpublishVolume request).run.Converses .free (FailsOnly fun told e =>
      (∃ dc, Call.PassedOn (.findNode dc request.nodeId) told e) ∨
        ∃ node path, Call.PassedOn (.detachDisk node path) told e) told := by
  refine instrumented ?_
  rw [Controller.unpublishVolumeUncounted_eq]
  refine bindOperation ((meet _ _ _).mono ?_)
  rintro told (e | ⟨site, disk, node⟩) hMeet
  · rintro _ ⟨⟩
    exact (hMeet e rfl).imp id .inl
  refine bindOperation ((detach _ _).mono ?_)
  rintro told (e | detached) hDetach
  · rintro _ ⟨⟩
    exact (hDetach e rfl).imp id fun ⟨path, hPassed⟩ => .inr ⟨node, path, hPassed⟩
  · exact ok _

/-! Listings. -/

theorem collect (sites : List Site) (answers : List (Except BackendError (List Disk))) :
    (Listing.collect sites answers).run.Converses .free FailsCommonly told := by
  induction sites generalizing answers told with
  | nil => exact done []
  | cons site sites ih =>
      rcases answers with - | ⟨failure | disks, answers⟩
      · exact done []
      · exact afterNote (ih answers)
      · exact bindThen (ih answers) fun _ _ => done _

theorem allDisks : Listing.allDisks.run.Converses .free FailsCommonly told := by
  refine callThen ?_
  rintro (failure | sites)
  · exact rejected trivial
  · exact waitThen fun answers => collect sites answers

theorem isCommon_of_entries {disks : List LocatedDisk} {cause : Cause} (h : Listing.entries disks = .error cause) :
    cause.toError.code.IsCommon := by
  obtain ⟨d, -, hVolume⟩ := Listing.exists_of_entries_eq_error h
  exact Volume.isCommon_of_ofDisk hVolume

theorem listVolumes (request : ListVolumesRequest) :
    (Controller.listVolumes request).run.Converses .free FailsCommonly told := by
  refine instrumented (bindThen (caused fun _ h => (Cause.refuses_of_limit h).isCommon) fun limit told => ?_)
  refine bindThen (caused fun _ h => (Cause.refuses_of_offsetOfToken h).isCommon) fun start told => ?_
  refine bindThen allDisks fun disks told => ?_
  refine bindThen (caused fun _ h => PageBounds.isCommon_of_compute h) fun bounds told => ?_
  refine afterNote (bindThen (caused fun _ h => isCommon_of_entries h) fun entries told => ?_)
  simp only
  split
  · exact afterNote (done _)
  · exact done _

/-! Creates. -/

/-- Whether an operation has not yet looked for a name, and fails, if it fails, with a common code. -/
def BeforeName (told : List Exchange) (result : Except Error α) : Prop :=
  (∀ x ∈ told, ¬ x.ConcernsName) ∧ FailsCommonly told result

theorem forall_mem_concat {x : Exchange} (h : ∀ x ∈ told, ¬ x.ConcernsName) (hx : ¬ x.ConcernsName) :
    ∀ y ∈ told ++ [x], ¬ y.ConcernsName :=
  List.forall_mem_append.2 ⟨h, List.forall_mem_singleton.2 hx⟩

theorem exhausted (h : ∀ x ∈ told, ¬ x.ConcernsName) (zone : String) (cause : Error) :
    (Placement.exhausted zone cause : Operation α).run.Converses .free BeforeName told := by
  unfold Placement.exhausted
  split
  · exact afterNote ⟨h, common (Error.isCommon_of_isAborted ‹_›)⟩
  · exact reject ⟨h, common trivial⟩

/-- Whatever a lookup of a zone ends with, it has not looked for a name. -/
theorem lookupThen (h : ∀ x ∈ told, ¬ x.ConcernsName) (labels : LabelsConfig) (zone region : String)
    {f : Except Error Site → Operation α} (hf : ∀ result told, (∀ x ∈ told, ¬ x.ConcernsName) →
      (f result).run.Converses .free BeforeName told) :
    (Operation.attempt (Placement.lookup labels zone region) >>= f).run.Converses .free BeforeName told := by
  refine bindOperation (attempt (Procedure.Converses.callThen trivial (fun abort _ => ?_) ?_))
  · exact hf _ _ (forall_mem_concat h id)
  · rintro (failure | site) -
    · exact hf _ _ (forall_mem_concat h id)
    · exact hf _ _ (forall_mem_concat h id)

theorem searchSegments (h : ∀ x ∈ told, ¬ x.ConcernsName) (labels : LabelsConfig) (last : String × Error)
    (segments : List Topology) :
    (Placement.searchSegments labels last segments).run.Converses .free BeforeName told := by
  induction segments generalizing last told with
  | nil => exact exhausted h _ _
  | cons segment segments ih =>
      refine lookupThen h labels _ _ ?_
      rintro (e | site) told h
      · simp only
        split
        · exact exhausted h _ _
        · exact ih h _
      · exact afterNote ⟨h, ok site⟩

theorem resolvePlacement (labels : LabelsConfig) (placement : Placement) :
    (placement.resolve labels).run.Converses .free BeforeName [] := by
  have hNone : ∀ x ∈ ([] : List Exchange), ¬ x.ConcernsName := fun x hx => (List.not_mem_nil hx).elim
  cases placement with
  | topology requirement => exact afterNote (searchSegments hNone _ _ _)
  | legacy zone region =>
      refine afterNote (lookupThen hNone labels _ _ ?_)
      rintro (e | site) told h
      · exact exhausted h _ _
      · exact ⟨h, ok site⟩

theorem create (dc : Datacenter) (pool : Pool) (name : String) (sizeMb : UInt64) :
    (VolumeStore.create dc pool name sizeMb).run.Converses .free FailsCommonly told := by
  refine callThen ?_
  rintro (failure | created)
  · exact rejected trivial
  · refine callThen ?_
    rintro (failure | _ | disk)
    · exact rejected trivial
    · exact rejected trivial
    · exact afterNote (done _)

theorem createUnlocked (h : ∀ x ∈ told, ¬ x.ConcernsName) (dc : Datacenter) (name : String)
    (order : Controller.CreateOrder) :
    (VolumeStore.createUnlocked dc order.pool name order.sizeMb).run.Converses .free (FailsOnly fun told e =>
      e.code = .alreadyExists ∧ ShowsOtherSize name order told) told := by
  refine callThen ?_
  rintro (failure | _ | disk)
  · exact rejected trivial
  · refine (create _ _ _ _).mono fun told result hFails => ?_
    cases result with
    | ok outcome => exact ok outcome
    | error e => exact of_commonly hFails
  · refine afterNote ?_
    split
    · rename_i hSize
      exact reject (special ⟨rfl, told, dc, disk, rfl, hSize, h⟩)
    · exact done _

theorem createOrGet (h : ∀ x ∈ told, ¬ x.ConcernsName) (store : VolumeStore) (dc : Datacenter) (name : String)
    (order : Controller.CreateOrder) :
    (store.createOrGet dc order.pool name order.sizeMb).run.Converses .free (FailsOnly fun told e =>
      e.code = .alreadyExists ∧ ShowsOtherSize name order told) told := by
  unfold VolumeStore.createOrGet
  split
  · refine locked (fun _ => trivial) (fun lock abort => common (Operation.isCommon_abortError _ abort)) fun lock => ?_
    exact createUnlocked (forall_mem_concat h id) dc name order
  · exact createUnlocked h dc name order

theorem describe (disk : Disk) (endpoint datacenter : String) :
    (do
      let volume ← Operation.ofCause (Volume.ofDisk disk endpoint datacenter)
      return ⟨volume⟩ : Operation CreateVolumeResponse).run.Converses .free (FailsOnly own) told :=
  bindThen (caused fun _ h => Volume.isCommon_of_ofDisk h) fun _ _ => done _

theorem createVolume (c : Controller) (request : CreateVolumeRequest) :
    (c.createVolume request).run.Converses .free (FailsOnly fun told e => e.code = .alreadyExists ∧
      ∃ order, Controller.order request = .ok order ∧ ShowsOtherSize request.name order told) [] := by
  refine instrumented ?_
  unfold Controller.createVolumeUncounted
  cases hOrder : Controller.order request with
  | error cause => exact bindOperation (rejected (Cause.refuses_of_order hOrder).isCommon)
  | ok order =>
      refine afterNote (bindOperation ((resolvePlacement _ _).mono ?_))
      rintro told (e | site) ⟨h, hFails⟩
      · exact of_commonly hFails
      refine bindOperation ((createOrGet h _ _ _ _).mono ?_)
      rintro told (e | outcome) hFails
      · rintro _ ⟨⟩
        exact (hFails e rfl).imp id fun ⟨hCode, hShows⟩ => ⟨hCode, order, rfl, hShows⟩
      cases outcome with
      | existing disk => exact afterNote (describe _ _ _)
      | created disk => exact describe _ _ _

theorem handle (c : Controller) (request : VolumeRequest) :
    (c.handle request).run.Converses .free
      (fun told result => ∀ e, result = .error e → request.MayFailWith told e) [] := by
  cases request with
  | create request => exact createVolume c request
  | delete request =>
      exact (deleteVolume request).mono fun told result hFails e hError => (hFails e hError).resolve_right id
  | publish request => exact publishVolume request
  | unpublish request => exact unpublishVolume request
  | list request =>
      exact (listVolumes request).mono fun told result hFails e hError => (hFails e hError).resolve_right id

theorem answer (c : Controller) (request : VolumeRequest) :
    (c.answer request).Converses .free
      (fun told answered => answered.1 = request ∧ ∀ e, answered.2 = .error e → answered.1.MayFailWith told e) [] :=
  bind ((handle c request).mono fun _ _ hFails => ⟨rfl, hFails⟩)

end FailsOnly

/-! Volumes that nobody shows. -/

/-- Whether a volume was shown to a request, unless the request ended in an internal failure. -/
def ShownOrInternal (id : String) (told : List Exchange) (result : Except Error α) : Prop :=
  (∃ dc disk, .found dc id disk ∈ told) ∨ ∃ text, result = .error (.internal text)

namespace ShownOrInternal

open Procedure.Converses

variable {id node : String} {told : List Exchange}

theorem of_mem (h : ∃ dc disk, .found dc id disk ∈ told) (op : Operation α) :
    op.run.Converses unaborted (ShownOrInternal id) told := by
  obtain ⟨dc, disk, hFound⟩ := h
  exact (Procedure.converses_freely (fun _ _ => trivial) _ _).extending.mono fun told' _ hMore =>
    .inl ⟨dc, disk, hMore.1 hFound⟩

/-- A search that is not aborted shows the volume or ends in a failure that is no abort. -/
theorem resolveVolume (operation : String) :
    (Controller.resolveVolume operation id).run.Converses unaborted (ShownOrInternal id) [] := by
  refine bindOperation (attempt ((VolumeStore.resolve_converses id).mono ?_))
  rintro told result (⟨failure, rfl, rfl⟩ | ⟨sites, heard, rfl, hEnds⟩)
  · exact reject (.inr ⟨_, rfl⟩)
  · cases hEnds with
    | found before site disk after hSites hBefore hTold =>
        refine .inl ⟨site.datacenter, disk, ?_⟩
        simp [hTold]
    | absent hLast hTold => exact reject (.inr ⟨_, rfl⟩)
    | uncertain replies failure hSites hNone hFailed hTold => exact reject (.inr ⟨_, rfl⟩)

theorem resolveThen (operation : String) (f : Site × Disk → Operation β) :
    (Controller.resolveVolume operation id >>= f).run.Converses unaborted (ShownOrInternal id) [] := by
  refine bindOperation ((resolveVolume operation).mono ?_)
  rintro told (e | found) hShown
  · refine hShown.imp_right ?_
    rintro ⟨text, hSame⟩
    cases hSame
    exact ⟨text, rfl⟩
  · exact of_mem (hShown.resolve_right nofun) _

/-- A publish or an unpublish of a volume that nobody shows is an internal failure. -/
theorem handle (c : Controller) {request : VolumeRequest} (hTarget : request.target? = some (id, node)) (hId : id ≠ "")
    (hNode : node ≠ "") : (c.handle request).run.Converses unaborted (ShownOrInternal id) [] := by
  have hIds : Controller.requireIds id node = pure () := by
    rw [Controller.requireIds, if_neg hId, if_neg hNode]
  cases request with
  | publish request =>
      cases hTarget
      refine instrumented ?_
      rw [Controller.publishVolumeUncounted, hIds, pure_bind]
      exact resolveThen _ _
  | unpublish request =>
      cases hTarget
      refine instrumented ?_
      rw [Controller.unpublishVolumeUncounted, hIds, pure_bind]
      exact resolveThen _ _
  | _ => cases hTarget

end ShownOrInternal

/-- Whether a call is part of what a publish or an unpublish does with the node of a name. -/
def Call.ServesNode (node : String) : Call → Prop
  | .findNode _ name => name = node
  | .attachDisk _ _ _ | .detachDisk _ _ => True
  | _ => False

/-- What the result of a request says about what the request has heard. -/
structure Classified (request : VolumeRequest) (heard : List Exchange) (result : Except Error request.Response) :
    Prop where
  /-- An error is one that the operation may end with. -/
  allowed : ∀ e, result = .error e → request.MayFailWith heard e
  /-- A code of the platform's own comes from the node of a publish or an unpublish, whose failure was heard last and
  is passed on as it is. -/
  passedOn : ∀ e (failure : BackendError), result = .error e → e.code = failure.code →
    ∃ id node c, request.target? = some (id, node) ∧ Call.ServesNode node c ∧ c.PassedOn heard e
  /-- A volume that is asked for without an abort, and that nobody shows, is an internal failure of a publish and of
  an unpublish. -/
  unresolved : ∀ id node, request.target? = some (id, node) → id ≠ "" → node ≠ "" →
    (∀ x ∈ heard, ∀ abort, x.answer ≠ .error abort) → (∀ dc disk, .found dc id disk ∉ heard) →
    ∃ text, result = .error (.internal text)

/-- Only the operations that deal with a node pass on what the platform reports. -/
theorem VolumeRequest.MayFailWith.exists_passedOn {request : VolumeRequest} {heard : List Exchange} {e : Error}
    (h : request.MayFailWith heard e) {failure : BackendError} (hCode : e.code = failure.code) :
    ∃ id node c, request.target? = some (id, node) ∧ Call.ServesNode node c ∧ c.PassedOn heard e := by
  have hNot : ¬ e.code.IsCommon := hCode ▸ failure.not_isCommon
  cases request with
  | create request =>
      obtain ⟨hTaken, -⟩ := h.resolve_left hNot
      cases failure <;> cases hCode.symm.trans hTaken
  | delete request => exact absurd h hNot
  | list request => exact absurd h hNot
  | publish request =>
      obtain ⟨dc, hPassed⟩ | ⟨vm, path, bus, hPassed⟩ := h.resolve_left hNot
      · exact ⟨_, request.nodeId, .findNode dc _, rfl, rfl, hPassed⟩
      · exact ⟨_, request.nodeId, .attachDisk vm path bus, rfl, trivial, hPassed⟩
  | unpublish request =>
      obtain ⟨dc, hPassed⟩ | ⟨vm, path, hPassed⟩ := h.resolve_left hNot
      · exact ⟨_, request.nodeId, .findNode dc _, rfl, rfl, hPassed⟩
      · exact ⟨_, request.nodeId, .detachDisk vm path, rfl, trivial, hPassed⟩

/-- What was answered belongs to the request that was made. -/
theorem Chronicle.Runs.exists_request {σ : Type} [Bench σ] {env : Surroundings σ}
    {kind : Chronicle σ Answered → Chronicle σ Answered → Prop} {w : World σ} {controller : Controller}
    {requests : List (Context × VolumeRequest)} {c : Chronicle σ Answered}
    (hRuns : Runs env kind (.start w (controller.answers requests)) c) {number : Nat} {request : VolumeRequest}
    {result : Except Error request.Response} (hResult : c.result? number = some ⟨request, result⟩) :
    ∃ ctx, requests[number]? = some (ctx, request) := by
  obtain ⟨ctx, request', hRequest, hSame, -⟩ :=
    hRuns.wanted_of_result (FailsOnly.answer controller) (fun _ _ => trivial) hResult
  obtain rfl : request = request' := hSame
  exact ⟨ctx, hRequest⟩

theorem Chronicle.exists_of_failure? {σ : Type} [Platform σ] {c : Chronicle σ Answered} {number : Nat} {e : Error}
    (h : (c.result? number).bind VolumeRequest.failure? = some e) :
    ∃ request, c.result? number = some ⟨request, .error e⟩ := by
  obtain ⟨⟨request, result⟩, hResult, hFailure⟩ := Option.bind_eq_some_iff.1 h
  cases result with
  | ok response => cases hFailure
  | error e' =>
      cases hFailure
      exact ⟨request, hResult⟩

/-- Any requests at once over any platform, under any contexts. A request that has ended with an error ended with one
that its operation may fail with after what it heard. -/
theorem errors_are_classified {σ : Type} [Bench σ] {env : Surroundings σ} {w : World σ} (controller : Controller)
    {requests : List (Context × VolumeRequest)} {c : Chronicle σ Answered}
    (hRuns : Chronicle.Runs env (fun _ _ => True) (.start w (controller.answers requests)) c) {number : Nat}
    {request : VolumeRequest} {result : Except Error request.Response}
    (hResult : c.result? number = some ⟨request, result⟩) :
    (∃ ctx, requests[number]? = some (ctx, request)) ∧ Classified request (c.heardBy number) result := by
  obtain ⟨ctx, request', hRequest, hSame, hFails⟩ :=
    hRuns.wanted_of_result (FailsOnly.answer controller) (fun _ _ => trivial) hResult
  obtain rfl : request = request' := hSame
  refine ⟨⟨ctx, hRequest⟩, hFails, fun e failure hError hCode => (hFails e hError).exists_passedOn hCode, ?_⟩
  intro id node hTarget hId hNode hUnaborted hUnshown
  have hJob := controller.getElem?_answers hRequest
  have hAnswer : (controller.answer request).Converses unaborted
      (fun told answered => ShownOrInternal id told answered.2) [] :=
    .bind ((ShownOrInternal.handle controller hTarget hId hNode).mono fun _ _ hShown => hShown)
  refine (hRuns.goal_of_result hJob hAnswer hUnaborted hResult).resolve_left ?_
  rintro ⟨dc, disk, hFound⟩
  exact hUnshown dc disk hFound

set_option maxRecDepth 10000 in
/-- A volume is created, and then wanted in another size: the second request was shown the volume first, and created
nothing. -/
theorem errors_are_classified_taken :
    let requests := [.create (.single 1), .create (.single 2)].map (Context.background, ·)
    ∃ (c : Chronicle Inventory Answered) (e : Error) (order : Controller.CreateOrder),
      Chronicle.Runs Inventory.rough (fun _ _ => True)
        (.start { platform := .ofConfig .single } (Controller.answers ⟨{}, ⟨false, 0⟩⟩ requests)) c ∧
      c.result? 1 = some ⟨.create (.single 2), .error e⟩ ∧ e.code = .alreadyExists ∧
      Controller.order (.single 2) = .ok order ∧ ShowsOtherSize "volume" order (c.heardBy 1) := by
  intro requests
  let jobs := Controller.answers ⟨{}, ⟨false, 0⟩⟩ requests
  let refused := [0, 1].foldl System.advance (System.start { platform := Inventory.ofConfig .single } jobs)
  obtain ⟨turns, hRuns⟩ : ∃ turns, Chronicle.Runs Inventory.rough (fun _ _ => True)
      (.start { platform := .ofConfig .single } jobs) ⟨refused, turns⟩ :=
    Chronicle.exists_advances (fun _ _ _ _ _ => trivial) [0, 1] _ []
  have hFailure : (refused.result? 1).bind VolumeRequest.failure? = some (Cause.sizeDiffers 1024 2048).toError := by
    decide +kernel
  clear_value refused
  obtain ⟨request, hResult⟩ := Chronicle.exists_of_failure? (c := ⟨refused, turns⟩) hFailure
  obtain ⟨⟨ctx, hRequest⟩, hClassified⟩ := errors_are_classified ⟨{}, ⟨false, 0⟩⟩ hRuns hResult
  obtain rfl : VolumeRequest.create (.single 2) = request := by
    simpa [requests] using congrArg (Option.map Prod.snd) hRequest
  obtain ⟨hCode, order, hOrder, hShows⟩ := (hClassified.allowed _ rfl).resolve_left id
  exact ⟨⟨refused, turns⟩, _, order, hRuns, hResult, hCode, hOrder, hShows⟩

end VolumeController
