import VolumeController.Proofs.Pages
import VolumeController.Proofs.WellFormed
/-! Requests keep to the terms of the inventory: a create asks only for a granted size. Main result: whatever
requests are interleaved and whatever goes wrong, the inventory stays well formed, no listing meets a disk that
cannot be reported, and no disk that is to be attached or detached lacks a file. -/

namespace VolumeController

/-- Answers a request, whatever it is. -/
def Controller.answer (c : Controller) (request : VolumeRequest) :
    Procedure ((request : VolumeRequest) × Except Error request.Response) := do
  let result ← (c.handle request).run
  return ⟨request, result⟩

/-- Answers requests, each under a context of its own. -/
def Controller.answers (c : Controller) (requests : List (Context × VolumeRequest)) :
    List (Context × Procedure ((request : VolumeRequest) × Except Error request.Response)) :=
  requests.map fun job => (job.1, c.answer job.2)

theorem Controller.getElem?_answers (c : Controller) {requests : List (Context × VolumeRequest)} {number : Nat}
    {ctx : Context} {request : VolumeRequest} (h : requests[number]? = some (ctx, request)) :
    (c.answers requests)[number]? = some (ctx, c.answer request) := by
  rw [answers, List.getElem?_map, h]
  rfl

/-- An error about a disk that no request should meet: one without a file, or one too large to report. -/
def Error.IsDefect (e : Error) : Prop :=
  (∃ text, e = .contractViolation text) ∨ ∃ id sizeMb, e = (Cause.capacityUnreportable id sizeMb).toError

theorem Error.not_isDefect_abortError (operation : String) (abort : Abort) :
    ¬ (Operation.abortError operation abort).IsDefect := by
  rintro (⟨text, h⟩ | ⟨id, sizeMb, h⟩) <;> cases abort <;> cases h

theorem Error.not_isDefect_backend (failure : BackendError) : ¬ (Error.backend failure).IsDefect := by
  rintro (⟨text, h⟩ | ⟨id, sizeMb, h⟩) <;> cases h

namespace Cause

theorem head?_append {text more : String} {c : Char} (h : text.toList.head? = some c) :
    (text ++ more).toList.head? = some c := by
  rw [String.toList_append, List.head?_append, h]
  rfl

/-- The first letter tells a size that cannot be reported from all other internal failures. -/
theorem eq_of_capacityUnreportable {cause : Cause} {id : String} {sizeMb : Nat}
    (h : cause.toError = (capacityUnreportable id sizeMb).toError) (c : Char)
    (hInitial : cause.message.toList.head? = some c) (hInternal : cause.toError = .internal cause.message) :
    c = 'V' := by
  have hUnreportable : (capacityUnreportable id sizeMb).message.toList.head? = some 'V' :=
    head?_append (head?_append (head?_append (head?_append (by decide))))
  rw [hInternal] at h
  injection h with hText
  rw [hText, hUnreportable] at hInitial
  exact (Option.some.inj hInitial).symm

theorem not_isDefect {cause : Cause} (hFile : ∀ name id, cause ≠ .notFileBacked name id)
    (hSize : ∀ id sizeMb, cause ≠ .capacityUnreportable id sizeMb) : ¬ cause.toError.IsDefect := by
  rintro (⟨text, h⟩ | ⟨id, sizeMb, h⟩)
  · cases cause with
    | notFileBacked name id => exact hFile name id rfl
    | _ => cases h
  · have hLetter := eq_of_capacityUnreportable h
    cases cause with
    | capacityUnreportable id sizeMb => exact hSize id sizeMb rfl
    | lookupFailed name failure =>
        exact absurd (hLetter 'G' (head?_append (head?_append (head?_append (by decide)))) rfl) (by decide)
    | creationFailed failure =>
        exact absurd (hLetter 'C' (head?_append (by decide)) rfl) (by decide)
    | lostAfterCreation name =>
        exact absurd (hLetter 'G' (head?_append (head?_append (by decide))) rfl) (by decide)
    | rereadFailed name failure =>
        exact absurd (hLetter 'G' (head?_append (head?_append (head?_append (by decide)))) rfl) (by decide)
    | deletionFailed id' failure =>
        exact absurd (hLetter 'D' (head?_append (head?_append (head?_append (by decide)))) rfl) (by decide)
    | sitesUnlisted failure =>
        exact absurd (hLetter 'l' (head?_append (by decide)) rfl) (by decide)
    | ownerUncertain id' failure =>
        exact absurd (hLetter 'c' (head?_append (head?_append (head?_append (by decide)))) rfl) (by decide)
    | ownerUnresolved id' error =>
        exact absurd (hLetter 'W' (head?_append (head?_append (head?_append (by decide)))) rfl) (by decide)
    | zoneUnresolved zone error =>
        exact absurd (hLetter 'F' (head?_append (head?_append (head?_append (by decide)))) rfl) (by decide)
    | startBeyondEnd start total =>
        exact absurd (hLetter 'I' (head?_append (head?_append (head?_append (head?_append (by decide))))) rfl) (by decide)
    | _ => cases h

/-- A cause that is found in a request, not in a disk. -/
def OfRequest (cause : Cause) : Prop :=
  (∀ name id, cause ≠ .notFileBacked name id) ∧ ∀ id sizeMb, cause ≠ .capacityUnreportable id sizeMb

/-- A cause that a request is refused for before anything is asked of the platform. -/
def Refuses (cause : Cause) : Prop :=
  cause.toError.code = .invalidArgument

theorem Refuses.ofRequest {cause : Cause} (h : cause.Refuses) : cause.OfRequest := by
  refine ⟨?_, ?_⟩
  · rintro name id rfl
    cases h
  · rintro id sizeMb rfl
    cases h

theorem refuses_of_requestedMb {required : Int64} {cause : Cause}
    (h : Capacity.requestedMb required = .error cause) : cause.Refuses := by
  unfold Capacity.requestedMb at h
  simp only at h
  split at h
  · cases h
    rfl
  · generalize (if required.toInt = 0 then Capacity.roundUp (Capacity.defaultGib * Capacity.gibibyte)
      else Capacity.roundUp required.toInt.toNat) = size at h
    split at h <;> cases h
    rfl

theorem refuses_of_requiredParameter {parameters : Dict String} {key : String} {cause : Cause}
    (h : Controller.requiredParameter parameters key = .error cause) : cause.Refuses := by
  unfold Controller.requiredParameter at h
  split at h <;> cases h
  rfl

theorem refuses_of_order {request : CreateVolumeRequest} {cause : Cause}
    (h : Controller.order request = .error cause) : cause.Refuses := by
  unfold Controller.order at h
  simp only at h
  split at h
  · cases h
    rfl
  · split at h
    · cases h
      rfl
    · cases hKind : Controller.requiredParameter request.parameters Attribute.parentType with
      | error cause' =>
          rw [hKind] at h
          cases h
          exact refuses_of_requiredParameter hKind
      | ok kind =>
          rw [hKind] at h
          cases hName : Controller.requiredParameter request.parameters Attribute.parentName with
          | error cause' =>
              rw [hName] at h
              cases h
              exact refuses_of_requiredParameter hName
          | ok name =>
              rw [hName] at h
              cases hSize : Capacity.requestedMb ((request.capacityRange.map (·.requiredBytes)).getD 0) with
              | error cause' =>
                  rw [hSize] at h
                  cases h
                  exact refuses_of_requestedMb hSize
              | ok sizeMb =>
                  rw [hSize] at h
                  cases h

theorem refuses_of_limit {maxEntries : Int32} {cause : Cause} (h : Listing.limit maxEntries = .error cause) :
    cause.Refuses := by
  unfold Listing.limit at h
  split at h <;> cases h
  rfl

theorem refuses_of_offsetOfToken {token : String} {cause : Cause} (h : offsetOfToken token = .error cause) :
    cause.Refuses := by
  unfold offsetOfToken at h
  split at h
  · cases h
  · split at h <;> cases h
    rfl

theorem ofRequest_of_compute {start limit total : Nat} {cause : Cause}
    (h : PageBounds.compute start limit total = .error cause) : cause.OfRequest := by
  unfold PageBounds.compute at h
  split at h <;> cases h
  exact ⟨by simp, by simp⟩

end Cause

/-- A result that is as wanted, or an error that is no defect. -/
def Lawful {α : Type} (after : α → Prop) : Except Error α → Prop
  | .ok a => after a
  | .error e => ¬ e.IsDefect

namespace Lawful

open Procedure.Meets
open Inventory (terms)

variable {α : Type}

/-- A call, and what follows its reply. -/
theorem callThen {operation : String} {c : Call} {β : Type} {f : c.Reply → Operation β} {after : β → Prop}
    (hAsks : terms.asks (.call c))
    (h : ∀ reply, terms.told (.call c) (.ok reply) → (f reply).run.Meets terms (Lawful after)) :
    (Operation.call operation c >>= f).run.Meets terms (Lawful after) :=
  bindOperation (call hAsks (fun abort _ => Error.not_isDefect_abortError operation abort) h)

theorem bindThen {β : Type} {op : Operation α} {f : α → Operation β} {after : α → Prop} {after' : β → Prop}
    (h : op.run.Meets terms (Lawful after)) (hf : ∀ a, after a → (f a).run.Meets terms (Lawful after')) :
    (op >>= f).run.Meets terms (Lawful after') := by
  apply bindOperation
  apply h.mono
  intro result hResult
  cases result with
  | error e => exact hResult
  | ok a => exact hf a hResult

theorem rejected {after : α → Prop} {cause : Cause} (hFile : ∀ name id, cause ≠ .notFileBacked name id)
    (hSize : ∀ id sizeMb, cause ≠ .capacityUnreportable id sizeMb) :
    (Operation.reject cause : Operation α).run.Meets terms (Lawful after) :=
  reject (Cause.not_isDefect hFile hSize)

theorem caused {result : Except Cause α} (h : ∀ cause, result = .error cause → cause.OfRequest) :
    (Operation.ofCause result).run.Meets terms (Lawful fun a => result = .ok a) := by
  cases result with
  | ok a => exact rfl
  | error cause => exact rejected (h cause rfl).1 (h cause rfl).2

/-! Volumes that exist. -/

theorem searchSites (id : String) (last : Option BackendError) (sites : List Site) :
    (VolumeStore.searchSites id last sites).run.Meets terms (Lawful fun found => found.2.Usable) := by
  induction sites generalizing last with
  | nil =>
      cases last with
      | none => rintro (⟨text, ⟨⟩⟩ | ⟨id, sizeMb, ⟨⟩⟩)
      | some failure => exact Cause.not_isDefect (by simp) (by simp)
  | cons site sites ih =>
      simp only [VolumeStore.searchSites]
      refine callThen trivial ?_
      rintro (failure | found) hTold
      · exact afterNote (ih _)
      · cases found with
        | none => exact ih last
        | some disk => exact hTold

theorem resolve (id : String) :
    (VolumeStore.resolve id).run.Meets terms (Lawful fun found => found.2.Usable) := by
  refine callThen trivial ?_
  rintro (failure | sites) -
  · exact Cause.not_isDefect (by simp) (by simp)
  · exact searchSites id none sites

theorem lookupFailed {after : α → Prop} (operation id : String) {e : Error} (h : ¬ e.IsDefect) :
    (Controller.lookupFailed operation id e : Operation α).run.Meets terms (Lawful after) := by
  unfold Controller.lookupFailed
  split
  · exact afterNote h
  · exact rejected (by simp) (by simp)

theorem resolveVolume (operation id : String) :
    (Controller.resolveVolume operation id).run.Meets terms (Lawful fun found => found.2.Usable) := by
  apply bindOperation
  apply attempt
  apply (resolve id).mono
  rintro (e | found) hResult
  · exact lookupFailed operation id hResult
  · exact hResult

theorem requireIds (volumeId nodeId : String) :
    (Controller.requireIds volumeId nodeId).run.Meets terms (Lawful fun _ => True) := by
  unfold Controller.requireIds
  split
  · exact rejected (by simp) (by simp)
  · split
    · exact rejected (by simp) (by simp)
    · trivial

theorem resolveNode (dc : Datacenter) (name : String) :
    (Attachment.resolveNode dc name).run.Meets terms (Lawful fun _ => True) := by
  refine callThen trivial ?_
  rintro (failure | node) -
  · exact afterNote (Error.not_isDefect_backend failure)
  · trivial

theorem attach {disk : Disk} (hDisk : disk.Usable) (node : Node) (bus : ScsiController) :
    (Attachment.attach node disk bus).run.Meets terms (Lawful fun _ => True) := by
  obtain ⟨path, hPath⟩ := hDisk.file
  unfold Attachment.attach Attachment.backingFile Disk.filePath?
  rw [hPath]
  refine callThen trivial ?_
  rintro (failure | handle) -
  · exact afterNote (Error.not_isDefect_backend failure)
  · exact afterNote trivial

theorem detach {disk : Disk} (hDisk : disk.Usable) (node : Node) :
    (Attachment.detach node disk).run.Meets terms (Lawful fun _ => True) := by
  obtain ⟨path, hPath⟩ := hDisk.file
  unfold Attachment.detach Attachment.backingFile Disk.filePath?
  rw [hPath]
  refine callThen trivial ?_
  rintro (failure | done) -
  · exact afterNote (Error.not_isDefect_backend failure)
  · exact note trivial

theorem publishVolume (request : PublishVolumeRequest) :
    (Controller.publishVolume request).run.Meets terms (Lawful fun _ => True) := by
  apply instrumented
  apply bindThen (requireIds _ _)
  intro _ _
  apply bindThen (resolveVolume _ _)
  intro found hUsable
  apply bindThen (resolveNode _ _)
  intro node _
  apply bindThen (attach hUsable node _)
  intro handle _
  trivial

theorem unpublishVolume (request : UnpublishVolumeRequest) :
    (Controller.unpublishVolume request).run.Meets terms (Lawful fun _ => True) := by
  apply instrumented
  apply bindThen (requireIds _ _)
  intro _ _
  apply bindThen (resolveVolume _ _)
  intro found hUsable
  apply bindThen (resolveNode _ _)
  intro node _
  apply bindThen (detach hUsable node)
  intro _ _
  trivial

theorem delete (dc : Datacenter) (pool : Pool) (id : String) :
    (VolumeStore.delete dc pool id).run.Meets terms (Lawful fun _ => True) := by
  refine callThen trivial ?_
  rintro (failure | done) -
  · exact rejected (by simp) (by simp)
  · exact note trivial

theorem deleteVolume (request : DeleteVolumeRequest) :
    (Controller.deleteVolume request).run.Meets terms (Lawful fun _ => True) := by
  apply instrumented
  unfold Controller.deleteVolumeUncounted
  split
  · exact rejected (by simp) (by simp)
  · apply bindOperation
    apply attempt
    apply (resolve _).mono
    rintro (e | found) hResult
    · show Procedure.Meets terms _ (ExceptT.run _)
      split
      · cases ‹_ = _›
      · exact afterNote trivial
      · rename_i e' _ hError
        cases hError
        exact lookupFailed _ _ hResult
    · apply bindThen (delete _ _ _)
      intro _ _
      trivial

/-! Volumes that are created. -/

theorem createUnlocked {sizeMb : UInt64} (hSize : Capacity.Granted sizeMb) (dc : Datacenter) (pool : Pool)
    (name : String) :
    (VolumeStore.createUnlocked dc pool name sizeMb).run.Meets terms
      (Lawful fun outcome => outcome.disk.Usable) := by
  refine callThen trivial ?_
  rintro (failure | found) hTold
  · exact rejected (by simp) (by simp)
  · cases found with
    | some disk =>
        apply afterNote
        split
        · exact rejected (by simp) (by simp)
        · exact hTold
    | none =>
        refine callThen hSize ?_
        rintro (failure | done) -
        · exact rejected (by simp) (by simp)
        · refine callThen trivial ?_
          rintro (failure | found) hTold
          · exact rejected (by simp) (by simp)
          · cases found with
            | none => exact rejected (by simp) (by simp)
            | some disk => exact afterNote hTold

theorem createOrGet {sizeMb : UInt64} (hSize : Capacity.Granted sizeMb) (store : VolumeStore) (dc : Datacenter)
    (pool : Pool) (name : String) :
    (store.createOrGet dc pool name sizeMb).run.Meets terms (Lawful fun outcome => outcome.disk.Usable) := by
  unfold VolumeStore.createOrGet
  split
  · exact locked (fun _ => trivial) (fun _ abort _ => Error.not_isDefect_abortError _ abort)
      (createUnlocked hSize _ _ _)
  · exact createUnlocked hSize _ _ _

theorem lookup (labels : LabelsConfig) (zone region : String) :
    (Placement.lookup labels zone region).run.Meets terms (Lawful fun _ => True) := by
  refine callThen trivial ?_
  rintro (failure | site) -
  · exact Error.not_isDefect_backend failure
  · trivial

theorem exhausted {after : α → Prop} (zone : String) {cause : Error} (h : ¬ cause.IsDefect) :
    (Placement.exhausted zone cause : Operation α).run.Meets terms (Lawful after) := by
  unfold Placement.exhausted
  split
  · exact afterNote h
  · exact rejected (by simp) (by simp)

theorem searchSegments (labels : LabelsConfig) {last : String × Error} (hLast : ¬ last.2.IsDefect)
    (segments : List Topology) :
    (Placement.searchSegments labels last segments).run.Meets terms (Lawful fun _ => True) := by
  induction segments generalizing last with
  | nil => exact exhausted _ hLast
  | cons segment segments ih =>
      apply bindOperation
      apply attempt
      apply (lookup labels _ _).mono
      rintro (e | site) hResult
      · show Procedure.Meets terms _ (ExceptT.run _)
        simp only
        split
        · exact exhausted _ hResult
        · exact ih hResult
      · exact afterNote trivial

theorem resolvePlacement (labels : LabelsConfig) (placement : Placement) :
    (placement.resolve labels).run.Meets terms (Lawful fun _ => True) := by
  cases placement with
  | topology requirement =>
      apply afterNote
      apply searchSegments
      rintro (⟨text, ⟨⟩⟩ | ⟨id, sizeMb, ⟨⟩⟩)
  | legacy zone region =>
      apply afterNote
      apply bindOperation
      apply attempt
      apply (lookup labels _ _).mono
      rintro (e | site) hResult
      · exact exhausted _ hResult
      · trivial

theorem createVolume (c : Controller) (request : CreateVolumeRequest) :
    (c.createVolume request).run.Meets terms (Lawful fun _ => True) := by
  apply instrumented
  apply bindThen (caused fun _ h => (Cause.refuses_of_order h).ofRequest)
  intro order hOrder
  have hRequested := Controller.requestedMb_of_order hOrder
  obtain ⟨hPositive, hWhole⟩ := Capacity.size_of_requestedMb hRequested
  have hSize : Capacity.Granted order.sizeMb :=
    ⟨hPositive, hWhole, (Capacity.requestedMb_eq_ok hRequested).2⟩
  apply afterNote
  apply bindThen (resolvePlacement _ _)
  intro site _
  apply bindThen (createOrGet hSize _ _ _ _)
  intro outcome hUsable
  have hVolume : (do
      let volume ← Operation.ofCause (Volume.ofDisk outcome.disk site.endpoint site.datacenter.name)
      return ⟨volume⟩ : Operation CreateVolumeResponse).run.Meets terms (Lawful fun _ => True) := by
    rw [Volume.ofDisk_of_bytes? (Capacity.bytes?_of_lt hUsable.size)]
    trivial
  cases outcome with
  | existing disk => exact afterNote hVolume
  | created disk => exact hVolume

/-! Listings. -/

theorem collect (sites : List Site) {answers : List (Except BackendError (List Disk))}
    (h : ∀ disks, .ok disks ∈ answers → ∀ disk ∈ disks, disk.Usable) :
    (Listing.collect sites answers).run.Meets terms (Lawful fun disks => ∀ d ∈ disks, d.Reportable) := by
  induction sites generalizing answers with
  | nil => exact fun d hd => (List.not_mem_nil hd).elim
  | cons site sites ih =>
      cases answers with
      | nil => exact fun d hd => (List.not_mem_nil hd).elim
      | cons answer answers =>
          have hRest := ih fun disks hDisks => h disks (List.mem_cons_of_mem _ hDisks)
          cases answer with
          | error failure => exact afterNote hRest
          | ok disks =>
              apply bindThen hRest
              intro rest hReportable d hd
              rcases List.mem_append.1 hd with hHere | hThere
              · obtain ⟨disk, hDisk, rfl⟩ := List.mem_map.1 hHere
                exact (h disks List.mem_cons_self disk hDisk).size
              · exact hReportable d hThere

theorem allDisks :
    Listing.allDisks.run.Meets terms (Lawful fun disks => ∀ d ∈ disks, d.Reportable) := by
  refine callThen trivial ?_
  rintro (failure | sites) -
  · exact rejected (by simp) (by simp)
  · apply bindOperation
    exact wait trivial (fun abort _ => Error.not_isDefect_abortError _ abort) fun answers hTold => collect sites hTold

theorem listVolumes (request : ListVolumesRequest) :
    (Controller.listVolumes request).run.Meets terms (Lawful fun _ => True) := by
  apply instrumented
  apply bindThen (caused fun _ h => (Cause.refuses_of_limit h).ofRequest)
  intro limit _
  apply bindThen (caused fun _ h => (Cause.refuses_of_offsetOfToken h).ofRequest)
  intro start _
  apply bindThen allDisks
  intro disks hReportable
  apply bindThen (caused fun _ => Cause.ofRequest_of_compute)
  intro bounds _
  apply afterNote
  rw [Listing.entries_eq_ok fun d hd => hReportable d (PageBounds.mem_of_mem_slice hd)]
  apply bindOperation
  split
  · exact afterNote trivial
  · trivial

/-- Every request keeps to the terms, and ends in no defect. -/
theorem answer (c : Controller) (request : VolumeRequest) :
    (c.answer request).Meets terms fun answered => ∀ e, answered.2 = .error e → ¬ e.IsDefect := by
  have hHandle : (c.handle request).run.Meets terms (Lawful fun _ => True) := by
    cases request with
    | create request => exact createVolume c request
    | delete request => exact deleteVolume request
    | publish request => exact publishVolume request
    | unpublish request => exact unpublishVolume request
    | list request => exact listVolumes request
  apply Procedure.Meets.bind
  apply hHandle.mono
  intro result hResult e hError
  change result = .error e at hError
  rw [hError] at hResult
  exact hResult

end Lawful

/-- The inventory stays well formed. Whatever fails, is delayed, is cancelled or runs out of time while requests
are interleaved, ids and backing files are distinct, sizes are whole gibibytes that can be reported, and disks
lie where their datacenter has room. No request meets a size that it cannot report, or a disk without a file. -/
theorem inventory_stays_well_formed (c : Controller) {config : Config} {w : World Inventory}
    (hPlatform : w.platform = .ofConfig config) (requests : List (Context × VolumeRequest))
    {s : System Inventory ((request : VolumeRequest) × Except Error request.Response)}
    (hRuns : System.Runs Inventory.rough (System.start w (c.answers requests)) s) :
    s.world.platform.WellFormed config ∧
    ∀ number request e, s.result? number = some ⟨request, .error e⟩ →
      (∀ text, e ≠ .contractViolation text) ∧
      ∀ id sizeMb, e ≠ (Cause.capacityUnreportable id sizeMb).toError := by
  have hState : w.platform.Regular (Inventory.ofConfig config).layout := by
    rw [hPlatform]
    exact Inventory.regular_ofConfig config
  have hMeets : ∀ (number : Nat) job, (c.answers requests)[number]? = some job →
      job.2.Meets Inventory.terms fun answered => ∀ e, answered.2 = .error e → ¬ e.IsDefect := by
    intro number job hJob
    obtain ⟨request, -, rfl⟩ := List.mem_map.1 (List.mem_of_getElem? hJob)
    exact Lawful.answer c request.2
  obtain ⟨hRegular, hResults⟩ :=
    (Inventory.upheld_terms (Inventory.ofConfig config).layout).runs hState hMeets hRuns
  refine ⟨hRegular.wellFormed, fun number request e hResult => ?_⟩
  have hNone := hResults number _ hResult e rfl
  exact ⟨fun text h => hNone (.inl ⟨text, h⟩), fun id sizeMb h => hNone (.inr ⟨id, sizeMb, h⟩)⟩

/-- Two requests for a volume at once, and a listing. -/
def VolumeRequest.rush : List (Context × VolumeRequest) :=
  [(.background, .create (.single 1)), (.background, .create (.single 2)), (.background, .list ⟨0, ""⟩)]

set_option maxRecDepth 10000 in
/-- They leave one well-formed volume. -/
theorem inventory_stays_well_formed_rush :
    ∃ s, System.Runs Inventory.rough
        (System.start { platform := .ofConfig .single } (Controller.answers ⟨{}, ⟨false, 0⟩⟩ VolumeRequest.rush)) s ∧
      s.world.platform.disks.length = 1 ∧ s.world.platform.WellFormed .single := by
  have hAdmits : ∀ job ∈ Controller.answers ⟨{}, ⟨false, 0⟩⟩ VolumeRequest.rush, Inventory.rough.Admits job.1 := by
    simp [Controller.answers, VolumeRequest.rush, Surroundings.admits_background]
  obtain ⟨s, hRuns, hWorld, -⟩ := Lab.exists_runs 100 { platform := .ofConfig .single }
    (Controller.answers ⟨{}, ⟨false, 0⟩⟩ VolumeRequest.rush) hAdmits
  refine ⟨s, hRuns, ?_, (inventory_stays_well_formed ⟨{}, ⟨false, 0⟩⟩ rfl VolumeRequest.rush hRuns).1⟩
  rw [hWorld]
  decide +kernel

end VolumeController
