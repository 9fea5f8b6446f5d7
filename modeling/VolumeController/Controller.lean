import VolumeController.Attachment
import VolumeController.Listing
import VolumeController.Message.Capability
import VolumeController.Message.Lifecycle
import VolumeController.Placement.Resolution
import VolumeController.VolumeStore
/-!
The controller: the operations that the orchestrator asks for. Requests are checked before the platform
is called, and each of the five operations on volumes counts its outcome.
-/

namespace VolumeController

/-- A controller: the tag categories of its platform and its volume store. -/
structure Controller where
  labels : LabelsConfig
  store : VolumeStore
  deriving DecidableEq

namespace Controller

/-- Counts the outcome of an operation under its name. -/
def instrumented {α : Type} (operation : String) (op : Operation α) : Operation α :=
  ExceptT.mk do
    let result ← op.run
    Procedure.perform (.observe operation (match result with
      | .ok _ => none
      | .error e => some e.code))
    return result

/-- A request parameter, empty if it is not given. -/
def parameter (parameters : Dict String) (key : String) : String :=
  (parameters.get? key).getD ""

/-- A request parameter that must be given. -/
def requiredParameter (parameters : Dict String) (key : String) : Except Cause String :=
  if parameter parameters key = "" then .error (.parameterMissing key)
  else .ok (parameter parameters key)

/-- What a create request asks for, once it is found to be well formed. -/
structure CreateOrder where
  pool : Pool
  sizeMb : UInt64
  zone : String
  region : String
  deriving DecidableEq

/-- Checks a create request. -/
def order (request : CreateVolumeRequest) : Except Cause CreateOrder := do
  if request.parameters.isEmpty then throw .parametersMissing
  if request.name = "" then throw .nameMissing
  let kind ← requiredParameter request.parameters Attribute.parentType
  let name ← requiredParameter request.parameters Attribute.parentName
  let sizeMb ← Capacity.requestedMb ((request.capacityRange.map (·.requiredBytes)).getD 0)
  return ⟨⟨.ofParameter kind, name⟩, sizeMb, parameter request.parameters Attribute.zone,
    parameter request.parameters Attribute.region⟩

/-- Creates the volume of a request, or finds it. -/
def createVolumeUncounted (c : Controller) (request : CreateVolumeRequest) :
    Operation CreateVolumeResponse := do
  let order ← Operation.ofCause (order request)
  Operation.note
    (.createRequested request.name order.sizeMb.toNat order.pool order.zone order.region)
  let site ← Placement.resolve c.labels
    (.of request.accessibilityRequirements order.zone order.region)
  let outcome ← c.store.createOrGet site.datacenter order.pool request.name order.sizeMb
  if let .existing disk := outcome then Operation.note (.createReused request.name disk.id)
  let volume ← Operation.ofCause (Volume.ofDisk outcome.disk site.endpoint site.datacenter.name)
  return ⟨volume⟩

/-- Creates the volume of a request, or finds it. -/
def createVolume (c : Controller) (request : CreateVolumeRequest) : Operation CreateVolumeResponse :=
  instrumented "CreateVolume" (c.createVolumeUncounted request)

/-- Ends a request whose volume could not be found: an abort stays what it is. -/
def lookupFailed {α : Type} (operation id : String) (e : Error) : Operation α :=
  if e.isAborted then do
    Operation.note (.lookupAborted operation id e)
    throw e
  else Operation.reject (.ownerUnresolved id e)

/-- Deletes the volume of a request. A volume that no site has counts as deleted. -/
def deleteVolumeUncounted (request : DeleteVolumeRequest) : Operation DeleteVolumeResponse := do
  if request.volumeId = "" then Operation.reject .volumeIdMissing
  match ← Operation.attempt (VolumeStore.resolve request.volumeId) with
  | .ok (site, disk) =>
    VolumeStore.delete site.datacenter disk.parent.pool request.volumeId
    return ⟨⟩
  | .error (.diskNotFound _) =>
    Operation.note (.alreadyGone request.volumeId)
    return ⟨⟩
  | .error e => lookupFailed "DeleteVolume" request.volumeId e

/-- Deletes the volume of a request. -/
def deleteVolume (request : DeleteVolumeRequest) : Operation DeleteVolumeResponse :=
  instrumented "DeleteVolume" (deleteVolumeUncounted request)

/-- Refuses a request without a volume or without a node. -/
def requireIds (volumeId nodeId : String) : Operation Unit :=
  if volumeId = "" then Operation.reject .volumeIdMissing
  else if nodeId = "" then Operation.reject .nodeIdMissing
  else return ()

/-- The site and the disk of a volume that must exist. -/
def resolveVolume (operation id : String) : Operation (Site × Disk) := do
  match ← Operation.attempt (VolumeStore.resolve id) with
  | .ok found => return found
  | .error e => lookupFailed operation id e

/-- Attaches the volume of a request to its node. -/
def publishVolumeUncounted (request : PublishVolumeRequest) : Operation PublishVolumeResponse := do
  requireIds request.volumeId request.nodeId
  let (site, disk) ← resolveVolume "ControllerPublishVolume" request.volumeId
  let node ← Attachment.resolveNode site.datacenter request.nodeId
  let handle ← Attachment.attach node disk Attachment.defaultController
  return ⟨(disk.attributes site.endpoint site.datacenter.name).insert Attribute.page83Data handle⟩

/-- Attaches the volume of a request to its node. -/
def publishVolume (request : PublishVolumeRequest) : Operation PublishVolumeResponse :=
  instrumented "ControllerPublishVolume" (publishVolumeUncounted request)

/-- Detaches the volume of a request from its node. -/
def unpublishVolumeUncounted (request : UnpublishVolumeRequest) :
    Operation UnpublishVolumeResponse := do
  requireIds request.volumeId request.nodeId
  let (site, disk) ← resolveVolume "ControllerUnpublishVolume" request.volumeId
  let node ← Attachment.resolveNode site.datacenter request.nodeId
  Attachment.detach node disk
  return ⟨⟩

/-- Detaches the volume of a request from its node. -/
def unpublishVolume (request : UnpublishVolumeRequest) : Operation UnpublishVolumeResponse :=
  instrumented "ControllerUnpublishVolume" (unpublishVolumeUncounted request)

/-- Lists one page of volumes. -/
def listVolumes (request : ListVolumesRequest) : Operation ListVolumesResponse :=
  instrumented "ListVolumes" (Listing.page request)

/-- What the controller can do. -/
def capabilities : GetCapabilitiesResponse :=
  ⟨[.listVolumes, .createDeleteVolume, .publishUnpublishVolume]⟩

/-- Capabilities are neither confirmed nor refused. -/
def validateCapabilities (_ : ValidateCapabilitiesRequest) :
    Operation ValidateCapabilitiesResponse :=
  return ⟨none, ""⟩

/-- No capacity is reported. -/
def getCapacity (_ : GetCapacityRequest) : Operation GetCapacityResponse :=
  return ⟨0⟩

/-- Snapshots are not made. -/
def createSnapshot (_ : CreateSnapshotRequest) : Operation Unit :=
  throw (.unimplemented "CreateSnapshot")

/-- Snapshots are not deleted. -/
def deleteSnapshot (_ : DeleteSnapshotRequest) : Operation Unit :=
  throw (.unimplemented "DeleteSnapshot")

/-- Snapshots are not listed. -/
def listSnapshots (_ : ListSnapshotsRequest) : Operation Unit :=
  throw (.unimplemented "ListSnapshots")

end Controller

end VolumeController
