import VolumeController.Message.Capability
import VolumeController.Message.ErrorReport
import VolumeController.Message.Lifecycle
import VolumeController.Message.Listing
import VolumeController.Platform.Call
import VolumeController.Proofs.Json.Codecs
/-! The messages on the wire. Main result: reading the text that is written for a message gives the message back,
whatever its values: requests, responses, error reports, disks, pools and bus controllers. -/

namespace VolumeController

open Codec.Lawful Field.Lawful

/-! Disks. -/

theorem PoolKind.codec_lawful : PoolKind.codec.Lawful :=
  oneOf fun kind => by cases kind <;> rfl

theorem ScsiController.codec_lawful : ScsiController.codec.Lawful :=
  oneOf fun controller => by cases controller; rfl

theorem Pool.codec_lawful : Pool.codec.Lawful :=
  record ⟨required PoolKind.codec_lawful, required text, trivial⟩ (by decide) fun _ => rfl

theorem Backing.codecOver_lawful {file other : Codec String} (hFile : file.Lawful) (hOther : other.Lawful) :
    (Backing.codecOver file other).Lawful := by
  intro backing
  cases backing with
  | file path =>
      simp only [codecOver, Document.ofJson, Document.ofFields, Codec.decodeCase, hFile path]
      rfl
  | other kind =>
      simp only [codecOver, Document.ofJson, Document.ofFields, Codec.decodeCase, hOther kind]
      rfl

theorem Backing.codec_lawful : Backing.codec.Lawful :=
  codecOver_lawful (record ⟨required text, trivial⟩ (by decide) fun _ => rfl)
    (record ⟨required text, trivial⟩ (by decide) fun _ => rfl)

theorem Parent.codecOver_lawful {datastore : Codec String} {cluster : Codec (String × String)}
    (hDatastore : datastore.Lawful) (hCluster : cluster.Lawful) : (Parent.codecOver datastore cluster).Lawful := by
  intro parent
  cases parent with
  | datastore name =>
      simp only [codecOver, Document.ofJson, Document.ofFields, Codec.decodeCase, hDatastore name]
      rfl
  | cluster name member =>
      simp only [codecOver, Document.ofJson, Document.ofFields, Codec.decodeCase, hCluster (name, member)]
      rfl

theorem Parent.codec_lawful : Parent.codec.Lawful :=
  codecOver_lawful (record ⟨required text, trivial⟩ (by decide) fun _ => rfl)
    (record ⟨required text, required text, trivial⟩ (by decide) fun _ => rfl)

theorem Disk.codec_lawful : Disk.codec.Lawful :=
  record ⟨required text, required text, required uint64, required Parent.codec_lawful, required Backing.codec_lawful,
    trivial⟩ (by decide) fun _ => rfl

/-! What the messages are made of. -/

theorem Volume.codec_lawful : Volume.codec.Lawful :=
  record ⟨required text, required int64, defaulted (dict text), trivial⟩ (by decide) fun _ => rfl

theorem Topology.codec_lawful : Topology.codec.Lawful :=
  record ⟨defaulted (dict text), trivial⟩ (by decide) fun _ => rfl

theorem TopologyRequirement.codec_lawful : TopologyRequirement.codec.Lawful :=
  record ⟨defaulted (list Topology.codec_lawful), defaulted (list Topology.codec_lawful), trivial⟩ (by decide)
    fun _ => rfl

theorem CapacityRange.codec_lawful : CapacityRange.codec.Lawful :=
  record ⟨defaulted int64, defaulted int64, trivial⟩ (by decide) fun _ => rfl

theorem VolumeCapability.codec_lawful : VolumeCapability.codec.Lawful :=
  record ⟨optional text fun _ => nofun, optional text fun _ => nofun, defaulted (list text), trivial⟩ (by decide)
    fun _ => rfl

theorem ControllerCapability.codec_lawful : ControllerCapability.codec.Lawful :=
  oneOf fun capability => by cases capability <;> rfl

/-! Requests and responses. -/

theorem CreateVolumeRequest.codec_lawful : CreateVolumeRequest.codec.Lawful :=
  record ⟨required text, optional CapacityRange.codec_lawful fun _ => nofun,
    defaulted (list VolumeCapability.codec_lawful), defaulted (dict text),
    optional TopologyRequirement.codec_lawful fun _ => nofun, trivial⟩ (by decide) fun _ => rfl

theorem CreateVolumeResponse.codec_lawful : CreateVolumeResponse.codec.Lawful :=
  record ⟨required Volume.codec_lawful, trivial⟩ (by decide) fun _ => rfl

theorem DeleteVolumeRequest.codec_lawful : DeleteVolumeRequest.codec.Lawful :=
  record ⟨required text, trivial⟩ (by decide) fun _ => rfl

theorem DeleteVolumeResponse.codec_lawful : DeleteVolumeResponse.codec.Lawful :=
  record trivial (by decide) fun _ => rfl

theorem PublishVolumeRequest.codec_lawful : PublishVolumeRequest.codec.Lawful :=
  record ⟨required text, required text, optional VolumeCapability.codec_lawful fun _ => nofun, defaulted bool,
    defaulted (dict text), trivial⟩ (by decide) fun _ => rfl

theorem PublishVolumeResponse.codec_lawful : PublishVolumeResponse.codec.Lawful :=
  record ⟨required (dict text), trivial⟩ (by decide) fun _ => rfl

theorem UnpublishVolumeRequest.codec_lawful : UnpublishVolumeRequest.codec.Lawful :=
  record ⟨required text, required text, trivial⟩ (by decide) fun _ => rfl

theorem UnpublishVolumeResponse.codec_lawful : UnpublishVolumeResponse.codec.Lawful :=
  record trivial (by decide) fun _ => rfl

theorem ListVolumesRequest.codec_lawful : ListVolumesRequest.codec.Lawful :=
  record ⟨defaulted int32, defaulted text, trivial⟩ (by decide) fun _ => rfl

theorem ListVolumesEntry.codec_lawful : ListVolumesEntry.codec.Lawful :=
  record ⟨required Volume.codec_lawful, trivial⟩ (by decide) fun _ => rfl

theorem ListVolumesResponse.codec_lawful : ListVolumesResponse.codec.Lawful :=
  record ⟨required (list ListVolumesEntry.codec_lawful), defaulted text, trivial⟩ (by decide) fun _ => rfl

theorem ValidateCapabilitiesRequest.codec_lawful : ValidateCapabilitiesRequest.codec.Lawful :=
  record ⟨required text, defaulted (list VolumeCapability.codec_lawful), trivial⟩ (by decide) fun _ => rfl

theorem ValidateCapabilitiesResponse.codec_lawful : ValidateCapabilitiesResponse.codec.Lawful :=
  record ⟨omittable (list VolumeCapability.codec_lawful) fun _ => nofun, defaulted text, trivial⟩ (by decide)
    fun _ => rfl

theorem GetCapacityRequest.codec_lawful : GetCapacityRequest.codec.Lawful :=
  record ⟨defaulted (dict text), optional Topology.codec_lawful fun _ => nofun, trivial⟩ (by decide) fun _ => rfl

theorem GetCapacityResponse.codec_lawful : GetCapacityResponse.codec.Lawful :=
  record ⟨required int64, trivial⟩ (by decide) fun _ => rfl

theorem CreateSnapshotRequest.codec_lawful : CreateSnapshotRequest.codec.Lawful :=
  record ⟨defaulted text, defaulted text, trivial⟩ (by decide) fun _ => rfl

theorem DeleteSnapshotRequest.codec_lawful : DeleteSnapshotRequest.codec.Lawful :=
  record ⟨defaulted text, trivial⟩ (by decide) fun _ => rfl

theorem ListSnapshotsRequest.codec_lawful : ListSnapshotsRequest.codec.Lawful :=
  record ⟨defaulted int32, defaulted text, trivial⟩ (by decide) fun _ => rfl

theorem GetCapabilitiesResponse.codec_lawful : GetCapabilitiesResponse.codec.Lawful :=
  record ⟨required (list ControllerCapability.codec_lawful), trivial⟩ (by decide) fun _ => rfl

theorem ErrorReport.codec_lawful : ErrorReport.codec.Lawful :=
  record ⟨required text, required text, ⟨option text fun _ => nofun, fun _ hNone =>
    congrArg some (Option.isNone_iff_eq_none.1 hNone).symm⟩, trivial⟩ (by decide) fun _ => rfl

/-- Every message, and every disk, pool and bus controller, is read back from its text exactly as it was. -/
theorem messages_restored :
    Volume.codec.Restores ∧ Topology.codec.Restores ∧ TopologyRequirement.codec.Restores ∧
    CapacityRange.codec.Restores ∧ VolumeCapability.codec.Restores ∧
    CreateVolumeRequest.codec.Restores ∧ CreateVolumeResponse.codec.Restores ∧
    DeleteVolumeRequest.codec.Restores ∧ DeleteVolumeResponse.codec.Restores ∧
    PublishVolumeRequest.codec.Restores ∧ PublishVolumeResponse.codec.Restores ∧
    UnpublishVolumeRequest.codec.Restores ∧ UnpublishVolumeResponse.codec.Restores ∧
    ListVolumesRequest.codec.Restores ∧ ListVolumesEntry.codec.Restores ∧ ListVolumesResponse.codec.Restores ∧
    ValidateCapabilitiesRequest.codec.Restores ∧ ValidateCapabilitiesResponse.codec.Restores ∧
    GetCapacityRequest.codec.Restores ∧ GetCapacityResponse.codec.Restores ∧
    CreateSnapshotRequest.codec.Restores ∧ DeleteSnapshotRequest.codec.Restores ∧
    ListSnapshotsRequest.codec.Restores ∧
    ControllerCapability.codec.Restores ∧ GetCapabilitiesResponse.codec.Restores ∧
    ErrorReport.codec.Restores ∧
    Disk.codec.Restores ∧ Backing.codec.Restores ∧ Parent.codec.Restores ∧
    Pool.codec.Restores ∧ PoolKind.codec.Restores ∧ ScsiController.codec.Restores :=
  ⟨Volume.codec_lawful.restores, Topology.codec_lawful.restores, TopologyRequirement.codec_lawful.restores,
    CapacityRange.codec_lawful.restores, VolumeCapability.codec_lawful.restores,
    CreateVolumeRequest.codec_lawful.restores, CreateVolumeResponse.codec_lawful.restores,
    DeleteVolumeRequest.codec_lawful.restores, DeleteVolumeResponse.codec_lawful.restores,
    PublishVolumeRequest.codec_lawful.restores, PublishVolumeResponse.codec_lawful.restores,
    UnpublishVolumeRequest.codec_lawful.restores, UnpublishVolumeResponse.codec_lawful.restores,
    ListVolumesRequest.codec_lawful.restores, ListVolumesEntry.codec_lawful.restores,
    ListVolumesResponse.codec_lawful.restores,
    ValidateCapabilitiesRequest.codec_lawful.restores, ValidateCapabilitiesResponse.codec_lawful.restores,
    GetCapacityRequest.codec_lawful.restores, GetCapacityResponse.codec_lawful.restores,
    CreateSnapshotRequest.codec_lawful.restores, DeleteSnapshotRequest.codec_lawful.restores,
    ListSnapshotsRequest.codec_lawful.restores,
    ControllerCapability.codec_lawful.restores, GetCapabilitiesResponse.codec_lawful.restores,
    ErrorReport.codec_lawful.restores,
    Disk.codec_lawful.restores, Backing.codec_lawful.restores, Parent.codec_lawful.restores,
    Pool.codec_lawful.restores, PoolKind.codec_lawful.restores, ScsiController.codec_lawful.restores⟩

end VolumeController
