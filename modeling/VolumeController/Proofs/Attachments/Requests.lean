import VolumeController.Proofs.Interleaving.Dialogues
import VolumeController.Proofs.Inventory.Attachments
import VolumeController.Proofs.WellFormed.Requests
/-! What requests ask of nodes. Only a publish attaches a file, and only an unpublish detaches one: the file of a
disk that some datacenter showed under the id of the request, on a node that the same datacenter showed under the
name of the request. Main result: every request keeps to this, and a publish returns the handle that it was told. -/

namespace VolumeController

variable {α β : Type}

namespace Exchange

/-- A datacenter shows a disk under an id. -/
abbrev found (dc : Datacenter) (id : String) (disk : Disk) : Exchange :=
  ⟨.call (.findById dc id), .ok (.ok (some disk))⟩

/-- A datacenter shows a node under a name. -/
abbrev met (dc : Datacenter) (name : String) (node : Node) : Exchange :=
  ⟨.call (.findNode dc name), .ok (.ok node)⟩

/-- A file is attached to a node under a handle. -/
abbrev attached (node : Node) (path : String) (bus : ScsiController) (handle : String) : Exchange :=
  ⟨.call (.attachDisk node path bus), .ok (.ok handle)⟩

/-- A file is detached from a node. -/
abbrev detached (node : Node) (path : String) : Exchange :=
  ⟨.call (.detachDisk node path), .ok (.ok ())⟩

end Exchange

/-- A node and a path as they were found for the id of a volume and the name of a node. -/
def Resolved (told : List Exchange) (volumeId nodeId : String) (node : Node) (path : String) : Prop :=
  ∃ dc disk, .found dc volumeId disk ∈ told ∧ .met dc nodeId node ∈ told ∧ disk.filePath? = some path

/-- A file is attached or detached only as the request says, once volume and node are found. -/
def VolumeRequest.dialogue (request : VolumeRequest) : Dialogue where
  asks told
    | .call (.attachDisk node path _) =>
      ∃ r, request = .publish r ∧ Resolved told r.volumeId r.nodeId node path
    | .call (.detachDisk node path) =>
      ∃ r, request = .unpublish r ∧ Resolved told r.volumeId r.nodeId node path
    | _ => True

/-- What procedures keep to that have nothing to do with nodes. -/
def Contract.offNodes : Contract where
  asks
    | .call c => ¬ c.TouchesNodes
    | _ => True
  told _ _ := True

/-- Such procedures keep to the dialogue of every request. -/
theorem Procedure.Meets.converses {p : Procedure α} {goal : α → Prop} (h : p.Meets .offNodes goal)
    (request : VolumeRequest) (told : List Exchange) :
    p.Converses request.dialogue (fun _ a => goal a) told := by
  induction p generalizing told with
  | done a => exact h
  | act action next ih => exact fun answer => ih answer (h answer) told
  | await wait next ih =>
      refine ⟨?_, fun answer _ => ih answer (h.2 answer trivial) _⟩
      have hAsks := h.1
      cases wait with
      | call c =>
          cases c with
          | attachDisk => exact absurd trivial hAsks
          | detachDisk => exact absurd trivial hAsks
          | _ => trivial
      | _ => trivial

/-- Whether an operation has nothing to do with nodes. -/
def StaysOff (op : Operation α) : Prop :=
  op.run.Meets .offNodes fun _ => True

namespace StaysOff

open Procedure.Meets

theorem bindThen {op : Operation α} {f : α → Operation β} (h : StaysOff op) (hf : ∀ a, StaysOff (f a)) :
    StaysOff (op >>= f) := by
  apply bindOperation
  apply h.mono
  rintro (e | a) -
  · trivial
  · exact hf a

theorem callThen {operation : String} {c : Call} {f : c.Reply → Operation β} (hCall : ¬ c.TouchesNodes)
    (hf : ∀ reply, StaysOff (f reply)) : StaysOff (Operation.call operation c >>= f) :=
  bindOperation (call hCall (fun _ _ => trivial) fun reply _ => hf reply)

theorem attempt {op : Operation α} (h : StaysOff op) : StaysOff (Operation.attempt op) :=
  Procedure.Meets.attempt h

theorem rejected (cause : Cause) : StaysOff (Operation.reject cause : Operation α) :=
  reject trivial

theorem caused (result : Except Cause α) : StaysOff (Operation.ofCause result) :=
  ofCause trivial

/-! Volumes. -/

theorem searchSites (id : String) (last : Option BackendError) (sites : List Site) :
    StaysOff (VolumeStore.searchSites id last sites) := by
  induction sites generalizing last with
  | nil => cases last <;> exact trivial
  | cons site sites ih =>
      rw [VolumeStore.searchSites]
      refine callThen (fun h => h) ?_
      rintro (failure | _ | disk)
      · exact afterNote (ih _)
      · exact ih last
      · trivial

theorem resolve (id : String) : StaysOff (VolumeStore.resolve id) := by
  refine callThen nofun ?_
  rintro (failure | sites)
  · trivial
  · exact searchSites id none sites

theorem lookupFailed (operation id : String) (e : Error) :
    StaysOff (Controller.lookupFailed operation id e : Operation α) := by
  unfold Controller.lookupFailed
  split
  · exact afterNote trivial
  · exact rejected _

theorem deleteVolume (request : DeleteVolumeRequest) : StaysOff (Controller.deleteVolume request) := by
  refine instrumented ?_
  unfold Controller.deleteVolumeUncounted
  split
  · exact rejected _
  · refine bindThen (attempt (resolve _)) fun found => ?_
    split
    · refine bindThen (callThen nofun ?_) fun _ => trivial
      rintro (failure | done)
      · exact rejected _
      · exact note trivial
    · exact afterNote trivial
    · exact lookupFailed _ _ _

theorem createUnlocked (dc : Datacenter) (pool : Pool) (name : String) (sizeMb : UInt64) :
    StaysOff (VolumeStore.createUnlocked dc pool name sizeMb) := by
  refine callThen nofun ?_
  rintro (failure | _ | disk)
  · exact rejected _
  · refine callThen nofun ?_
    rintro (failure | created)
    · exact rejected _
    · refine callThen nofun ?_
      rintro (failure | _ | disk)
      · exact rejected _
      · exact rejected _
      · exact afterNote trivial
  · refine afterNote ?_
    split
    · exact rejected _
    · trivial

theorem createOrGet (store : VolumeStore) (dc : Datacenter) (pool : Pool) (name : String) (sizeMb : UInt64) :
    StaysOff (store.createOrGet dc pool name sizeMb) := by
  unfold VolumeStore.createOrGet
  split
  · exact locked (fun _ => trivial) (fun _ _ _ => trivial) (createUnlocked _ _ _ _)
  · exact createUnlocked _ _ _ _

theorem exhausted (zone : String) (cause : Error) : StaysOff (Placement.exhausted zone cause : Operation α) := by
  unfold Placement.exhausted
  split
  · exact afterNote trivial
  · exact rejected _

theorem lookup (labels : LabelsConfig) (zone region : String) : StaysOff (Placement.lookup labels zone region) := by
  refine callThen nofun ?_
  rintro (failure | site) <;> trivial

theorem searchSegments (labels : LabelsConfig) (last : String × Error) (segments : List Topology) :
    StaysOff (Placement.searchSegments labels last segments) := by
  induction segments generalizing last with
  | nil => exact exhausted _ _
  | cons segment segments ih =>
      refine bindThen (attempt (lookup _ _ _)) ?_
      rintro (e | site)
      · simp only
        split
        · exact exhausted _ _
        · exact ih _
      · exact afterNote trivial

theorem resolvePlacement (labels : LabelsConfig) (placement : Placement) : StaysOff (placement.resolve labels) := by
  cases placement with
  | topology requirement => exact afterNote (searchSegments _ _ _)
  | legacy zone region =>
      refine afterNote (bindThen (attempt (lookup _ _ _)) ?_)
      rintro (e | site)
      · exact exhausted _ _
      · trivial

theorem createVolume (c : Controller) (request : CreateVolumeRequest) : StaysOff (c.createVolume request) := by
  refine instrumented (bindThen (caused _) fun order => ?_)
  refine afterNote (bindThen (resolvePlacement _ _) fun site => ?_)
  refine bindThen (createOrGet _ _ _ _ _) fun outcome => ?_
  have hVolume : StaysOff (do
      let volume ← Operation.ofCause (Volume.ofDisk outcome.disk site.endpoint site.datacenter.name)
      return ⟨volume⟩ : Operation CreateVolumeResponse) := bindThen (caused _) fun _ => trivial
  cases outcome with
  | existing disk => exact afterNote hVolume
  | created disk => exact hVolume

theorem collect (sites : List Site) (answers : List (Except BackendError (List Disk))) :
    StaysOff (Listing.collect sites answers) := by
  induction sites generalizing answers with
  | nil => trivial
  | cons site sites ih =>
      rcases answers with - | ⟨failure | disks, answers⟩
      · trivial
      · exact afterNote (ih answers)
      · exact bindThen (ih answers) fun _ => trivial

theorem listVolumes (request : ListVolumesRequest) : StaysOff (Controller.listVolumes request) := by
  have hAll : StaysOff Listing.allDisks := by
    refine callThen nofun ?_
    rintro (failure | sites)
    · exact rejected _
    · exact bindOperation (wait trivial (fun _ _ => trivial) fun answers _ => collect sites answers)
  refine instrumented (bindThen (caused _) fun limit => bindThen (caused _) fun start => ?_)
  refine bindThen hAll fun disks => bindThen (caused _) fun bounds => ?_
  refine afterNote (bindThen (caused _) fun entries => ?_)
  simp only
  split
  · exact afterNote trivial
  · trivial

end StaysOff

/-! Requests for a volume and a node. -/

section

variable (request : VolumeRequest) {told : List Exchange}

/-- A search ends with the site that showed the disk. -/
theorem VolumeStore.searchSites_found (id : String) (last : Option BackendError) (sites : List Site) :
    (searchSites id last sites).run.Converses request.dialogue (fun told result => ∀ site disk,
      result = .ok (site, disk) → .found site.datacenter id disk ∈ told) told := by
  induction sites generalizing last told with
  | nil =>
      cases last with
      | none => exact fun site disk hResult => by cases hResult
      | some failure => exact fun site disk hResult => by cases hResult
  | cons site sites ih =>
      rw [searchSites]
      refine .callThen trivial (fun abort _ site disk hResult => ?_) ?_
      · cases hResult
      rintro (failure | _ | disk) -
      · exact .afterNote (ih _)
      · exact ih last
      · rintro _ _ ⟨⟩
        exact List.mem_append_right _ List.mem_cons_self

theorem Controller.resolveVolume_found (operation id : String) :
    (resolveVolume operation id).run.Converses request.dialogue (fun told result => ∀ site disk,
      result = .ok (site, disk) → .found site.datacenter id disk ∈ told) told := by
  have hResolve : (VolumeStore.resolve id).run.Converses request.dialogue (fun told result => ∀ site disk,
      result = .ok (site, disk) → .found site.datacenter id disk ∈ told) told := by
    refine .callThen trivial nofun ?_
    rintro (failure | sites) -
    · exact nofun
    · exact VolumeStore.searchSites_found request id none sites
  refine .bindOperation (.attempt (hResolve.mono ?_))
  rintro told (e | found) hFound
  · show (lookupFailed operation id e).run.Converses _ _ told
    unfold lookupFailed
    split
    · exact .afterNote nofun
    · exact .reject nofun
  · exact hFound

/-- Volume and node are found at one datacenter. -/
theorem Controller.meet_found (operation volumeId nodeId : String) :
    (meet operation volumeId nodeId).run.Converses request.dialogue (fun told result => ∀ site disk node,
      result = .ok (site, disk, node) →
        .found site.datacenter volumeId disk ∈ told ∧ .met site.datacenter nodeId node ∈ told) told := by
  have hIds : StaysOff (requireIds volumeId nodeId) := by
    unfold requireIds
    split
    · exact .rejected _
    · split
      · exact .rejected _
      · trivial
  refine .bindOperation ((hIds.converses request told).mono ?_)
  rintro told (e | _) -
  · exact nofun
  · refine .bindOperation ((resolveVolume_found request operation volumeId).mono ?_)
    rintro told (e | ⟨site, disk⟩) hFound
    · exact nofun
    · refine .bindOperation (.callThen trivial nofun ?_)
      rintro (failure | node) -
      · exact .afterNote nofun
      · rintro _ _ _ ⟨⟩
        exact ⟨List.mem_append_left _ (hFound site disk rfl), List.mem_append_right _ List.mem_cons_self⟩

end

namespace Controller

theorem publishVolume_converses (request : PublishVolumeRequest) :
    (publishVolume request).run.Converses (VolumeRequest.publish request).dialogue (fun told result =>
      ∀ response, result = .ok response → ∃ node path bus handle, .attached node path bus handle ∈ told ∧
        response.publishContext.get? Attribute.page83Data = some handle) [] := by
  refine .instrumented ?_
  rw [publishVolumeUncounted_eq]
  refine .bindOperation ((meet_found _ _ _ _).mono ?_)
  rintro told (e | ⟨site, disk, node⟩) hMet
  · exact nofun
  · obtain ⟨hFound, hNode⟩ := hMet site disk node rfl
    simp only
    unfold Attachment.attach Attachment.backingFile
    cases hPath : disk.filePath? with
    | none => exact .bindOperation (.bindOperation (.reject nofun))
    | some path =>
        refine .bindOperation (.bindOperation ?_)
        refine .callThen ⟨request, rfl, _, disk, hFound, hNode, hPath⟩ nofun ?_
        rintro (failure | handle) -
        · exact .afterNote nofun
        · refine .afterNote ?_
          rintro _ ⟨⟩
          exact ⟨node, path, _, handle, List.mem_append_right _ List.mem_cons_self, by simp⟩

theorem unpublishVolume_converses (request : UnpublishVolumeRequest) :
    (unpublishVolume request).run.Converses (VolumeRequest.unpublish request).dialogue (fun _ _ => True) [] := by
  refine .instrumented ?_
  rw [unpublishVolumeUncounted_eq]
  refine .bindOperation ((meet_found _ _ _ _).mono ?_)
  rintro told (e | ⟨site, disk, node⟩) hMet
  · trivial
  · obtain ⟨hFound, hNode⟩ := hMet site disk node rfl
    simp only
    unfold Attachment.detach Attachment.backingFile
    cases hPath : disk.filePath? with
    | none => exact .bindOperation (.bindOperation (.reject trivial))
    | some path =>
        refine .bindOperation (.bindOperation ?_)
        refine .callThen ⟨request, rfl, _, disk, hFound, hNode, hPath⟩ (fun _ _ => trivial) ?_
        rintro (failure | done) -
        · exact .afterNote trivial
        · exact fun _ => trivial

/-- What a request was answered with belongs to it, and a publish returns the handle that it was told. -/
def Reports (request : VolumeRequest) (told : List Exchange)
    (answered : (request : VolumeRequest) × Except Error request.Response) : Prop :=
  answered.1 = request ∧ ∀ r response, answered = ⟨.publish r, .ok response⟩ → ∃ node path bus handle,
    .attached node path bus handle ∈ told ∧ response.publishContext.get? Attribute.page83Data = some handle

theorem answer_converses (c : Controller) (request : VolumeRequest) :
    (c.answer request).Converses request.dialogue (Reports request) [] := by
  have hQuiet (hOff : StaysOff (c.handle request)) (hKind : ∀ r, request ≠ .publish r) :
      (c.answer request).Converses request.dialogue (Reports request) [] := by
    refine .bind ((hOff.converses request []).mono fun told result _ => ⟨rfl, fun r response hSame => ?_⟩)
    exact absurd (congrArg Sigma.fst hSame) (hKind r)
  cases request with
  | create request => exact hQuiet (.createVolume c request) nofun
  | delete request => exact hQuiet (.deleteVolume request) nofun
  | list request => exact hQuiet (.listVolumes request) nofun
  | publish request =>
      refine .bind ((publishVolume_converses request).mono fun told result hResult => ⟨rfl, ?_⟩)
      rintro _ response ⟨⟩
      exact hResult response rfl
  | unpublish request =>
      exact .bind ((unpublishVolume_converses request).mono fun told result _ => ⟨rfl, nofun⟩)

end Controller

end VolumeController
