import VolumeController.Http.Router
import VolumeController.Proofs.Catalogue
import VolumeController.Startup
/-! What an abort does to a procedure, whichever wait it strikes and however the others were answered. A
procedure heeds aborts if from the first one on it waits for nothing and ends with the error that names the
operation of the wait. Main results: the operations on volumes, the start-up check and the routes heed aborts. -/

namespace VolumeController

variable {α β : Type}

/-- The operation that a call is put for. -/
def Call.operation : Call → String
  | .apiVersion _ => "APIVersion"
  | .resolveZone _ => "ResolveZone"
  | .listSites => "ListBackendInstances"
  | .findByName _ _ _ => "GetFirstClassDisk"
  | .findById _ _ => "FindFirstClassDisk"
  | .createDisk _ _ _ _ => "CreateFirstClassDisk"
  | .deleteDisk _ _ _ => "DeleteFirstClassDisk"
  | .listDisks _ => "ListFirstClassDisks"
  | .findNode _ _ => "GetVMByDNSName"
  | .attachDisk _ _ _ => "AttachDisk"
  | .detachDisk _ _ => "DetachDisk"

namespace Wait

/-- The operation that a wait is made for; work has none. -/
def operation : Wait → String
  | .call c => c.operation
  | .listings _ => "ListFirstClassDisks"
  | .lock _ => "AcquireNameLock"
  | .work _ => ""

/-- How an operation ends when one of its waits is aborted. -/
def aborted (wait : Wait) (abort : Abort) : Except Error α :=
  .error (Operation.abortError wait.operation abort)

end Wait

theorem Operation.isAborted_abortError (operation : String) (abort : Abort) :
    (Operation.abortError operation abort).isAborted = true := by
  cases abort <;> rfl

namespace Procedure

/-- Whether a procedure waits for nothing and ends with a result, whatever its actions are answered with. -/
def Quits (result : α) : Procedure α → Prop
  | .done a => a = result
  | .act _ next => ∀ answer, Quits result (next answer)
  | .await _ _ => False

/-- Whether a procedure quits after an abort, with the result that is due for the aborted wait. -/
def Heeds (aborted : Wait → Abort → α) : Procedure α → Prop
  | .done _ => True
  | .act _ next => ∀ answer, Heeds aborted (next answer)
  | .await wait next =>
    (∀ abort, (next (.error abort)).Quits (aborted wait abort)) ∧ ∀ answer, Heeds aborted (next (.ok answer))

namespace Quits

theorem bind {p : Procedure α} {f : α → Procedure β} {a : α} {b : β} (h : p.Quits a) (hf : (f a).Quits b) :
    (p >>= f).Quits b := by
  induction p with
  | done a' =>
      obtain rfl := h
      exact hf
  | act action next ih => exact fun answer => ih answer (h answer)
  | await wait next ih => exact h.elim

theorem afterNote {event : Event} {op : Operation α} {result : Except Error α} (h : op.run.Quits result) :
    (do Operation.note event; op : Operation α).run.Quits result :=
  fun _ => h

theorem heeds {p : Procedure α} {a : α} (aborted : Wait → Abort → α) (h : p.Quits a) : p.Heeds aborted := by
  induction p with
  | done a' => trivial
  | act action next ih => exact fun answer => ih answer (h answer)
  | await wait next ih => exact h.elim

/-! Ends of operations that were aborted before. -/

theorem exhausted (zone : String) {e : Error} (h : e.isAborted) :
    (Placement.exhausted zone e : Operation α).run.Quits (.error e) := by
  rw [Placement.exhausted, if_pos h]
  exact afterNote rfl

theorem lookupFailed (operation id : String) {e : Error} (h : e.isAborted) :
    (Controller.lookupFailed operation id e : Operation α).run.Quits (.error e) := by
  rw [Controller.lookupFailed, if_pos h]
  exact afterNote rfl

end Quits

namespace Heeds

theorem bind {p : Procedure α} {f : α → Procedure β} {aborted : Wait → Abort → α}
    {aborted' : Wait → Abort → β} (h : p.Heeds aborted)
    (hAbort : ∀ wait abort, (f (aborted wait abort)).Quits (aborted' wait abort))
    (hf : ∀ a, (f a).Heeds aborted') : (p >>= f).Heeds aborted' := by
  induction p with
  | done a => exact hf a
  | act action next ih => exact fun answer => ih answer (h answer)
  | await wait next ih => exact ⟨fun abort => (h.1 abort).bind (hAbort wait abort), fun answer => ih _ (h.2 answer)⟩

/-! Operations. -/

theorem bindOperation {op : Operation α} {f : α → Operation β} (h : op.run.Heeds Wait.aborted)
    (hf : ∀ a, (f a).run.Heeds Wait.aborted) : (op >>= f).run.Heeds Wait.aborted := by
  apply h.bind
  · exact fun wait abort => rfl
  · rintro (e | a)
    · trivial
    · exact hf a

theorem afterNote {event : Event} {op : Operation α} (h : op.run.Heeds Wait.aborted) :
    (do Operation.note event; op : Operation α).run.Heeds Wait.aborted :=
  fun _ => h

theorem reject (cause : Cause) : (Operation.reject cause : Operation α).run.Heeds Wait.aborted :=
  afterNote trivial

theorem ofCause (result : Except Cause α) : (Operation.ofCause result).run.Heeds Wait.aborted := by
  cases result with
  | ok a => trivial
  | error cause => exact reject cause

/-- A wait that is made under its own name. -/
theorem wait (w : Wait) : (Operation.wait w.operation w).run.Heeds Wait.aborted :=
  ⟨fun _ => rfl, fun _ => trivial⟩

theorem call (c : Call) : (Operation.call c.operation c).run.Heeds Wait.aborted :=
  wait (.call c)

/-- What is done with the result of an operation must pass an abort on. -/
theorem bindAttempt {op : Operation α} {f : Except Error α → Operation β} (h : op.run.Heeds Wait.aborted)
    (hAbort : ∀ e : Error, e.isAborted → (f (.error e)).run.Quits (.error e))
    (hf : ∀ result, (f result).run.Heeds Wait.aborted) :
    (Operation.attempt op >>= f).run.Heeds Wait.aborted := by
  have hAttempt : (Operation.attempt op).run.Heeds fun wait abort => .ok (wait.aborted abort) :=
    h.bind (fun _ _ => rfl) fun _ => trivial
  apply hAttempt.bind
  · exact fun wait abort => hAbort _ (Operation.isAborted_abortError _ abort)
  · rintro (e | result)
    · trivial
    · exact hf result

theorem instrumented (name : String) {op : Operation α} (h : op.run.Heeds Wait.aborted) :
    (Controller.instrumented name op).run.Heeds Wait.aborted := by
  apply h.bind
  · exact fun _ _ _ => rfl
  · exact fun _ _ => trivial

theorem locked (name : LockName) {op : Operation α} (h : op.run.Heeds Wait.aborted) :
    (VolumeStore.locked name op).run.Heeds Wait.aborted := by
  intro lock
  have hWork : (do
      let result ← op.run
      Procedure.perform (.unlock lock)
      return result : Procedure (Except Error α)).Heeds Wait.aborted :=
    h.bind (fun _ _ _ => rfl) fun _ _ => trivial
  refine ⟨fun abort _ _ => rfl, fun _ => ?_⟩
  apply hWork.bind
  · exact fun _ _ _ _ => rfl
  · exact fun _ _ _ => trivial

/-! Placements. -/

theorem exhausted (zone : String) (e : Error) :
    (Placement.exhausted zone e : Operation α).run.Heeds Wait.aborted := by
  unfold Placement.exhausted
  split
  · exact afterNote trivial
  · exact reject _

theorem lookup (labels : LabelsConfig) (zone region : String) :
    (Placement.lookup labels zone region).run.Heeds Wait.aborted := by
  apply bindOperation (call _)
  rintro (failure | site) <;> trivial

/-- An abort ends the search at the segment that it strikes. -/
theorem searchSegments (labels : LabelsConfig) (last : String × Error) (segments : List Topology) :
    (Placement.searchSegments labels last segments).run.Heeds Wait.aborted := by
  induction segments generalizing last with
  | nil => exact exhausted last.1 last.2
  | cons segment segments ih =>
      apply bindAttempt (lookup labels _ _)
      · intro e hAborted
        simp only [hAborted, if_true]
        exact Quits.exhausted _ hAborted
      · rintro (e | site)
        · simp only
          split
          · exact exhausted _ e
          · exact ih _
        · exact afterNote trivial

theorem resolvePlacement (labels : LabelsConfig) (placement : Placement) :
    (Placement.resolve labels placement).run.Heeds Wait.aborted := by
  cases placement with
  | topology requirement => exact afterNote (searchSegments labels _ _)
  | legacy zone region =>
      apply afterNote
      apply bindAttempt (lookup labels zone region)
      · exact fun e hAborted => Quits.exhausted zone hAborted
      · rintro (e | site)
        · exact exhausted zone e
        · trivial

/-! The volume store. -/

theorem createUnlocked (dc : Datacenter) (pool : Pool) (name : String) (sizeMb : UInt64) :
    (VolumeStore.createUnlocked dc pool name sizeMb).run.Heeds Wait.aborted := by
  apply bindOperation (call (.findByName dc pool name))
  rintro (failure | _ | disk)
  · exact reject _
  · apply bindOperation (call (.createDisk dc pool name sizeMb))
    rintro (failure | created)
    · exact reject _
    · apply bindOperation (call (.findByName dc pool name))
      rintro (failure | _ | disk)
      · exact reject _
      · exact reject _
      · exact afterNote trivial
  · apply afterNote
    split
    · exact reject _
    · trivial

theorem createOrGet (store : VolumeStore) (dc : Datacenter) (pool : Pool) (name : String) (sizeMb : UInt64) :
    (store.createOrGet dc pool name sizeMb).run.Heeds Wait.aborted := by
  unfold VolumeStore.createOrGet
  split
  · exact locked _ (createUnlocked dc pool name sizeMb)
  · exact createUnlocked dc pool name sizeMb

/-- An abort ends the search at the site that it strikes. -/
theorem searchSites (id : String) (last : Option BackendError) (sites : List Site) :
    (VolumeStore.searchSites id last sites).run.Heeds Wait.aborted := by
  induction sites generalizing last with
  | nil => cases last <;> trivial
  | cons site sites ih =>
      have hCall := call (.findById site.datacenter id)
      cases last <;>
      · apply bindOperation hCall
        rintro (failure | _ | disk)
        · exact afterNote (ih _)
        · exact ih _
        · trivial

theorem resolve (id : String) : (VolumeStore.resolve id).run.Heeds Wait.aborted := by
  apply bindOperation (call .listSites)
  rintro (failure | sites)
  · trivial
  · exact searchSites id none sites

/-! The operations on volumes. -/

theorem createVolume (c : Controller) (request : CreateVolumeRequest) :
    (c.createVolume request).run.Heeds Wait.aborted := by
  apply instrumented
  apply bindOperation (ofCause _)
  intro order
  apply afterNote
  apply bindOperation (resolvePlacement _ _)
  intro site
  apply bindOperation (createOrGet _ _ _ _ _)
  rintro (disk | disk)
  · exact bindOperation (ofCause _) fun _ => trivial
  · exact afterNote (bindOperation (ofCause _) fun _ => trivial)

theorem lookupFailed (operation id : String) (e : Error) :
    (Controller.lookupFailed operation id e : Operation α).run.Heeds Wait.aborted := by
  unfold Controller.lookupFailed
  split
  · exact afterNote trivial
  · exact reject _

/-- An aborted search is not taken for a volume that is gone. -/
theorem deleteVolume (request : DeleteVolumeRequest) :
    (Controller.deleteVolume request).run.Heeds Wait.aborted := by
  apply instrumented
  unfold Controller.deleteVolumeUncounted
  split
  · exact reject _
  apply bindAttempt (resolve request.volumeId)
  · intro e hAborted
    cases e with
    | cancelled operation => exact Quits.lookupFailed _ _ rfl
    | deadlineExceeded operation => exact Quits.lookupFailed _ _ rfl
    | _ => cases hAborted
  · rintro (e | ⟨site, disk⟩)
    · cases e with
      | diskNotFound id => exact afterNote trivial
      | _ => exact lookupFailed _ _ _
    · apply bindOperation
      · apply bindOperation (call (.deleteDisk site.datacenter disk.parent.pool request.volumeId))
        rintro (failure | _)
        · exact reject _
        · exact fun _ => trivial
      · exact fun _ => trivial

theorem requireIds (volumeId nodeId : String) :
    (Controller.requireIds volumeId nodeId).run.Heeds Wait.aborted := by
  unfold Controller.requireIds
  split
  · exact reject _
  · split
    · exact reject _
    · trivial

theorem resolveVolume (operation id : String) :
    (Controller.resolveVolume operation id).run.Heeds Wait.aborted := by
  apply bindAttempt (resolve id)
  · exact fun e hAborted => Quits.lookupFailed operation id hAborted
  · rintro (e | found)
    · exact lookupFailed operation id e
    · trivial

theorem resolveNode (dc : Datacenter) (dnsName : String) :
    (Attachment.resolveNode dc dnsName).run.Heeds Wait.aborted := by
  apply bindOperation (call (.findNode dc dnsName))
  rintro (failure | node)
  · exact afterNote trivial
  · trivial

theorem backingFile (disk : Disk) : (Attachment.backingFile disk).run.Heeds Wait.aborted := by
  unfold Attachment.backingFile
  split
  · trivial
  · exact reject _

theorem attach (node : Node) (disk : Disk) (bus : ScsiController) :
    (Attachment.attach node disk bus).run.Heeds Wait.aborted := by
  apply bindOperation (backingFile disk)
  intro path
  apply bindOperation (call (.attachDisk node path bus))
  rintro (failure | handle) <;> exact afterNote trivial

theorem detach (node : Node) (disk : Disk) : (Attachment.detach node disk).run.Heeds Wait.aborted := by
  apply bindOperation (backingFile disk)
  intro path
  apply bindOperation (call (.detachDisk node path))
  rintro (failure | _)
  · exact afterNote trivial
  · exact fun _ => trivial

theorem publishVolume (request : PublishVolumeRequest) :
    (Controller.publishVolume request).run.Heeds Wait.aborted := by
  apply instrumented
  apply bindOperation (requireIds _ _)
  intro _
  apply bindOperation (resolveVolume _ _)
  intro found
  apply bindOperation (resolveNode _ _)
  intro node
  exact bindOperation (attach _ _ _) fun _ => trivial

theorem unpublishVolume (request : UnpublishVolumeRequest) :
    (Controller.unpublishVolume request).run.Heeds Wait.aborted := by
  apply instrumented
  apply bindOperation (requireIds _ _)
  intro _
  apply bindOperation (resolveVolume _ _)
  intro found
  apply bindOperation (resolveNode _ _)
  intro node
  exact bindOperation (detach _ _) fun _ => trivial

theorem collect (sites : List Site) (answers : List (Except BackendError (List Disk))) :
    (Listing.collect sites answers).run.Heeds Wait.aborted := by
  fun_induction Listing.collect sites answers with
  | case1 site sites disks answers ih => exact bindOperation ih fun _ => trivial
  | case2 site sites failure answers ih => exact afterNote ih
  | case3 => trivial

theorem allDisks : Listing.allDisks.run.Heeds Wait.aborted := by
  apply bindOperation (call .listSites)
  rintro (failure | sites)
  · exact reject _
  · exact bindOperation (wait (.listings _)) fun answers => collect sites answers

theorem listVolumes (request : ListVolumesRequest) :
    (Controller.listVolumes request).run.Heeds Wait.aborted := by
  apply instrumented
  apply bindOperation (ofCause _)
  intro limit
  apply bindOperation (ofCause _)
  intro start
  apply bindOperation allDisks
  intro disks
  apply bindOperation (ofCause _)
  intro bounds
  apply afterNote
  apply bindOperation (ofCause _)
  intro entries
  simp only
  split
  · exact afterNote trivial
  · trivial

theorem handle (c : Controller) (request : VolumeRequest) : (c.handle request).run.Heeds Wait.aborted := by
  cases request with
  | create request => exact createVolume c request
  | delete request => exact deleteVolume request
  | publish request => exact publishVolume request
  | unpublish request => exact unpublishVolume request
  | list request => exact listVolumes request

/-! The start-up check. -/

theorem checkCenters (centers : List String) : (Startup.checkCenters centers).run.Heeds Wait.aborted := by
  induction centers with
  | nil => trivial
  | cons center centers ih =>
      apply bindOperation (call (.apiVersion center))
      rintro (failure | version)
      · exact afterNote trivial
      · simp only
        split
        · exact afterNote trivial
        · exact afterNote ih

theorem check : Startup.check.run.Heeds Wait.aborted :=
  fun centers => checkCenters centers

end Heeds

end Procedure

/-! The routes. -/

/-- The response to a request that was aborted at a wait. -/
def Http.abortResponse (wait : Wait) (abort : Abort) : Http.Response :=
  .ofResult Service.noMessage (wait.aborted abort)

namespace Procedure.Heeds

theorem method (c : Controller) {m : Method} (hMethod : m ∈ Service.methods) (request : m.Request) :
    (m.handle c request).run.Heeds Wait.aborted := by
  simp only [Service.methods, List.mem_cons, List.not_mem_nil, or_false] at hMethod
  rcases hMethod with rfl | rfl | rfl | rfl | rfl | rfl | rfl | rfl | rfl | rfl | rfl
  · exact createVolume c request
  · exact deleteVolume request
  · exact publishVolume request
  · exact unpublishVolume request
  · trivial
  · exact listVolumes request
  all_goals trivial

theorem respond (c : Controller) (request : Http.Request) :
    (Http.respond c request).Heeds Http.abortResponse := by
  unfold Http.respond
  split
  · trivial
  split
  · trivial
  split
  · rename_i m hFind
    unfold Http.invoke
    split
    · split
      · trivial
      · exact (method c (List.mem_of_find?_eq_some hFind) _).bind (fun _ _ => rfl) fun _ => trivial
    · trivial
  · trivial

end Procedure.Heeds

end VolumeController
