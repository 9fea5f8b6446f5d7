import VolumeController.Message.Topology
import VolumeController.Message.Volume
/-!
Messages of the life of one volume: creating, deleting, publishing to a node and unpublishing from it.
-/

namespace VolumeController

/-- The wish for a volume of a name. -/
structure CreateVolumeRequest where
  name : String
  capacityRange : Option CapacityRange
  volumeCapabilities : List VolumeCapability
  parameters : Dict String
  accessibilityRequirements : Option TopologyRequirement
  deriving DecidableEq

/-- Only the name must be there. -/
def CreateVolumeRequest.codec : Codec CreateVolumeRequest :=
  .record
    (.cons (.required "name" .text) <| .cons (.optional "capacityRange" CapacityRange.codec) <|
      .cons (.defaulted "volumeCapabilities" (.list VolumeCapability.codec) []) <|
      .cons (.defaulted "parameters" (.dict .text) .empty) <|
      .cons (.optional "accessibilityRequirements" TopologyRequirement.codec) .nil)
    (fun (name, capacityRange, volumeCapabilities, parameters, accessibilityRequirements, _) =>
      ⟨name, capacityRange, volumeCapabilities, parameters, accessibilityRequirements⟩)
    (fun r => (r.name, r.capacityRange, r.volumeCapabilities, r.parameters,
      r.accessibilityRequirements, ()))

/-- The volume that was created or found. -/
structure CreateVolumeResponse where
  volume : Volume
  deriving DecidableEq

/-- The volume must be there. -/
def CreateVolumeResponse.codec : Codec CreateVolumeResponse :=
  .record (.cons (.required "volume" Volume.codec) .nil) (fun (volume, _) => ⟨volume⟩)
    (fun r => (r.volume, ()))

/-- The wish that a volume be gone. -/
structure DeleteVolumeRequest where
  volumeId : String
  deriving DecidableEq

/-- The volume must be named. -/
def DeleteVolumeRequest.codec : Codec DeleteVolumeRequest :=
  .record (.cons (.required "volumeId" .text) .nil) (fun (volumeId, _) => ⟨volumeId⟩)
    (fun r => (r.volumeId, ()))

/-- The answer that a volume is gone. -/
structure DeleteVolumeResponse where
  deriving DecidableEq

/-- The answer says nothing more. -/
def DeleteVolumeResponse.codec : Codec DeleteVolumeResponse :=
  .record .nil (fun _ => ⟨⟩) (fun _ => ())

/-- The wish for a volume on a node. -/
structure PublishVolumeRequest where
  volumeId : String
  nodeId : String
  volumeCapability : Option VolumeCapability
  readonly : Bool
  volumeContext : Dict String
  deriving DecidableEq

/-- Volume and node must be named. -/
def PublishVolumeRequest.codec : Codec PublishVolumeRequest :=
  .record
    (.cons (.required "volumeId" .text) <| .cons (.required "nodeId" .text) <|
      .cons (.optional "volumeCapability" VolumeCapability.codec) <|
      .cons (.defaulted "readonly" .bool false) <|
      .cons (.defaulted "volumeContext" (.dict .text) .empty) .nil)
    (fun (volumeId, nodeId, volumeCapability, readonly, volumeContext, _) =>
      ⟨volumeId, nodeId, volumeCapability, readonly, volumeContext⟩)
    (fun r => (r.volumeId, r.nodeId, r.volumeCapability, r.readonly, r.volumeContext, ()))

/-- What the node needs to find an attached volume. -/
structure PublishVolumeResponse where
  publishContext : Dict String
  deriving DecidableEq

/-- The context must be there. -/
def PublishVolumeResponse.codec : Codec PublishVolumeResponse :=
  .record (.cons (.required "publishContext" (.dict .text)) .nil)
    (fun (publishContext, _) => ⟨publishContext⟩) (fun r => (r.publishContext, ()))

/-- The wish that a volume be taken off a node. -/
structure UnpublishVolumeRequest where
  volumeId : String
  nodeId : String
  deriving DecidableEq

/-- Volume and node must be named. -/
def UnpublishVolumeRequest.codec : Codec UnpublishVolumeRequest :=
  .record (.cons (.required "volumeId" .text) <| .cons (.required "nodeId" .text) .nil)
    (fun (volumeId, nodeId, _) => ⟨volumeId, nodeId⟩) (fun r => (r.volumeId, r.nodeId, ()))

/-- The answer that a volume is off a node. -/
structure UnpublishVolumeResponse where
  deriving DecidableEq

/-- The answer says nothing more. -/
def UnpublishVolumeResponse.codec : Codec UnpublishVolumeResponse :=
  .record .nil (fun _ => ⟨⟩) (fun _ => ())

end VolumeController
