import VolumeController.Message.Topology
import VolumeController.Message.Volume
/-!
Messages about what the controller can do, and those of the operations it answers without doing
anything: validation, capacity and snapshots.
-/

namespace VolumeController

/-- What a controller may be able to do. -/
inductive ControllerCapability where
  | createDeleteVolume
  | publishUnpublishVolume
  | listVolumes
  | getCapacity
  | createDeleteSnapshot
  | listSnapshots
  deriving DecidableEq, Repr

namespace ControllerCapability

/-- The name of a capability on the wire. -/
def wireName : ControllerCapability → String
  | .createDeleteVolume => "CREATE_DELETE_VOLUME"
  | .publishUnpublishVolume => "PUBLISH_UNPUBLISH_VOLUME"
  | .listVolumes => "LIST_VOLUMES"
  | .getCapacity => "GET_CAPACITY"
  | .createDeleteSnapshot => "CREATE_DELETE_SNAPSHOT"
  | .listSnapshots => "LIST_SNAPSHOTS"

/-- All capabilities that have a name. -/
def all : List ControllerCapability :=
  [.createDeleteVolume, .publishUnpublishVolume, .listVolumes, .getCapacity, .createDeleteSnapshot,
    .listSnapshots]

/-- A capability is written as its name. -/
def codec : Codec ControllerCapability :=
  .oneOf wireName all

end ControllerCapability

/-- The answer to what the controller can do. -/
structure GetCapabilitiesResponse where
  capabilities : List ControllerCapability
  deriving DecidableEq

/-- The capabilities must be there. -/
def GetCapabilitiesResponse.codec : Codec GetCapabilitiesResponse :=
  .record (.cons (.required "capabilities" (.list ControllerCapability.codec)) .nil)
    (fun (capabilities, _) => ⟨capabilities⟩) (fun r => (r.capabilities, ()))

/-- The question whether a volume has some capabilities. -/
structure ValidateCapabilitiesRequest where
  volumeId : String
  volumeCapabilities : List VolumeCapability
  deriving DecidableEq

/-- Only the volume must be named. -/
def ValidateCapabilitiesRequest.codec : Codec ValidateCapabilitiesRequest :=
  .record
    (.cons (.required "volumeId" .text) <|
      .cons (.defaulted "volumeCapabilities" (.list VolumeCapability.codec) []) .nil)
    (fun (volumeId, volumeCapabilities, _) => ⟨volumeId, volumeCapabilities⟩)
    (fun r => (r.volumeId, r.volumeCapabilities, ()))

/-- The answer whether a volume has some capabilities; none confirms nothing. -/
structure ValidateCapabilitiesResponse where
  confirmed : Option (List VolumeCapability)
  message : String
  deriving DecidableEq

/-- What is not confirmed is not written. -/
def ValidateCapabilitiesResponse.codec : Codec ValidateCapabilitiesResponse :=
  .record
    (.cons (.omittable "confirmed" (.list VolumeCapability.codec)) <|
      .cons (.defaulted "message" .text "") .nil)
    (fun (confirmed, message, _) => ⟨confirmed, message⟩) (fun r => (r.confirmed, r.message, ()))

/-- The question how much can still be created. -/
structure GetCapacityRequest where
  parameters : Dict String
  accessibleTopology : Option Topology
  deriving DecidableEq

/-- Everything may be left out. -/
def GetCapacityRequest.codec : Codec GetCapacityRequest :=
  .record
    (.cons (.defaulted "parameters" (.dict .text) .empty) <|
      .cons (.optional "accessibleTopology" Topology.codec) .nil)
    (fun (parameters, accessibleTopology, _) => ⟨parameters, accessibleTopology⟩)
    (fun r => (r.parameters, r.accessibleTopology, ()))

/-- The answer how much can still be created. -/
structure GetCapacityResponse where
  availableCapacity : Int64
  deriving DecidableEq

/-- The capacity must be there. -/
def GetCapacityResponse.codec : Codec GetCapacityResponse :=
  .record (.cons (.required "availableCapacity" .int64) .nil)
    (fun (availableCapacity, _) => ⟨availableCapacity⟩) (fun r => (r.availableCapacity, ()))

/-- The wish for a snapshot of a volume. -/
structure CreateSnapshotRequest where
  sourceVolumeId : String
  name : String
  deriving DecidableEq

/-- Everything may be left out. -/
def CreateSnapshotRequest.codec : Codec CreateSnapshotRequest :=
  .record (.cons (.defaulted "sourceVolumeId" .text "") <| .cons (.defaulted "name" .text "") .nil)
    (fun (sourceVolumeId, name, _) => ⟨sourceVolumeId, name⟩)
    (fun r => (r.sourceVolumeId, r.name, ()))

/-- The wish that a snapshot be gone. -/
structure DeleteSnapshotRequest where
  snapshotId : String
  deriving DecidableEq

/-- Everything may be left out. -/
def DeleteSnapshotRequest.codec : Codec DeleteSnapshotRequest :=
  .record (.cons (.defaulted "snapshotId" .text "") .nil) (fun (snapshotId, _) => ⟨snapshotId⟩)
    (fun r => (r.snapshotId, ()))

/-- The wish for a page of snapshots. -/
structure ListSnapshotsRequest where
  maxEntries : Int32
  startingToken : String
  deriving DecidableEq

/-- Everything may be left out. -/
def ListSnapshotsRequest.codec : Codec ListSnapshotsRequest :=
  .record
    (.cons (.defaulted "maxEntries" .int32 0) <| .cons (.defaulted "startingToken" .text "") .nil)
    (fun (maxEntries, startingToken, _) => ⟨maxEntries, startingToken⟩)
    (fun r => (r.maxEntries, r.startingToken, ()))

end VolumeController
