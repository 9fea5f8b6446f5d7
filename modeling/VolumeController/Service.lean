import VolumeController.Controller
/-!
The service: the controller's operations by name, each with the messages that it takes and gives.
-/

namespace VolumeController

/-- An operation of the service. -/
structure Method where
  name : String
  Request : Type
  Response : Type
  request : Codec Request
  response : Codec Response
  /-- Whether the operation takes a message at all. -/
  takesMessage : Bool
  handle : Controller → Request → Operation Response

namespace Service

/-- No message: anything is taken for it, and nothing is given. -/
def noMessage : Codec Unit where
  encode _ := .null
  decode _ := .ok ()

/-- An operation that takes a message. -/
def method {α β : Type} (name : String) (request : Codec α) (response : Codec β)
    (handle : Controller → α → Operation β) : Method :=
  ⟨name, α, β, request, response, true, handle⟩

/-- The operations of the service. -/
def methods : List Method := [
  method "CreateVolume" CreateVolumeRequest.codec CreateVolumeResponse.codec Controller.createVolume,
  method "DeleteVolume" DeleteVolumeRequest.codec DeleteVolumeResponse.codec
    fun _ => Controller.deleteVolume,
  method "ControllerPublishVolume" PublishVolumeRequest.codec PublishVolumeResponse.codec
    fun _ => Controller.publishVolume,
  method "ControllerUnpublishVolume" UnpublishVolumeRequest.codec UnpublishVolumeResponse.codec
    fun _ => Controller.unpublishVolume,
  method "ValidateVolumeCapabilities" ValidateCapabilitiesRequest.codec
    ValidateCapabilitiesResponse.codec fun _ => Controller.validateCapabilities,
  method "ListVolumes" ListVolumesRequest.codec ListVolumesResponse.codec
    fun _ => Controller.listVolumes,
  method "GetCapacity" GetCapacityRequest.codec GetCapacityResponse.codec
    fun _ => Controller.getCapacity,
  { method "ControllerGetCapabilities" noMessage GetCapabilitiesResponse.codec
      fun _ _ => return Controller.capabilities with takesMessage := false },
  method "CreateSnapshot" CreateSnapshotRequest.codec noMessage fun _ => Controller.createSnapshot,
  method "DeleteSnapshot" DeleteSnapshotRequest.codec noMessage fun _ => Controller.deleteSnapshot,
  method "ListSnapshots" ListSnapshotsRequest.codec noMessage fun _ => Controller.listSnapshots]

/-- The operation of a name. -/
def find? (name : String) : Option Method :=
  methods.find? (·.name = name)

end Service

end VolumeController
