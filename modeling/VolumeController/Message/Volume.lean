import VolumeController.Capacity
import VolumeController.Json.Record
/-!
Volumes as they are reported to the orchestrator, and what the orchestrator says about the volumes it
wants.
-/

namespace VolumeController

/-- A provisioned volume. -/
structure Volume where
  volumeId : String
  capacityBytes : Int64
  volumeContext : Dict String
  deriving DecidableEq

namespace Volume

/-- The report of a disk found at an endpoint and datacenter. Only a size beyond the reportable bytes
stands in its way. -/
def ofDisk (disk : Disk) (endpoint datacenter : String) : Except Cause Volume :=
  match Capacity.bytes? disk.capacityMb with
  | some bytes => .ok ⟨disk.id, bytes, disk.attributes endpoint datacenter⟩
  | none => .error (.capacityUnreportable disk.id disk.capacityMb.toNat)

theorem ofDisk_of_bytes? {disk : Disk} {bytes : Int64}
    (h : Capacity.bytes? disk.capacityMb = some bytes) (endpoint datacenter : String) :
    ofDisk disk endpoint datacenter = .ok ⟨disk.id, bytes, disk.attributes endpoint datacenter⟩ := by
  rw [ofDisk, h]

theorem bytes?_of_ofDisk {disk : Disk} {endpoint datacenter : String} {volume : Volume}
    (h : ofDisk disk endpoint datacenter = .ok volume) :
    Capacity.bytes? disk.capacityMb = some volume.capacityBytes := by
  cases hBytes : Capacity.bytes? disk.capacityMb with
  | none =>
    rw [ofDisk, hBytes] at h
    cases h
  | some bytes =>
    rw [ofDisk_of_bytes? hBytes] at h
    cases h
    rfl

/-- Identity and capacity must be there. -/
def codec : Codec Volume :=
  .record
    (.cons (.required "volumeId" .text) <| .cons (.required "capacityBytes" .int64) <|
      .cons (.defaulted "volumeContext" (.dict .text) .empty) .nil)
    (fun (volumeId, capacityBytes, volumeContext, _) => ⟨volumeId, capacityBytes, volumeContext⟩)
    (fun v => (v.volumeId, v.capacityBytes, v.volumeContext, ()))

end Volume

/-- The size asked for. The limit is taken but not interpreted. -/
structure CapacityRange where
  requiredBytes : Int64
  limitBytes : Int64
  deriving DecidableEq

/-- A bound that is left out is zero. -/
def CapacityRange.codec : Codec CapacityRange :=
  .record
    (.cons (.defaulted "requiredBytes" .int64 0) <| .cons (.defaulted "limitBytes" .int64 0) .nil)
    (fun (requiredBytes, limitBytes, _) => ⟨requiredBytes, limitBytes⟩)
    (fun r => (r.requiredBytes, r.limitBytes, ()))

/-- The access asked for, taken but not interpreted. -/
structure VolumeCapability where
  accessMode : Option String
  fsType : Option String
  mountFlags : List String
  deriving DecidableEq

/-- Everything may be left out. -/
def VolumeCapability.codec : Codec VolumeCapability :=
  .record
    (.cons (.optional "accessMode" .text) <| .cons (.optional "fsType" .text) <|
      .cons (.defaulted "mountFlags" (.list .text) []) .nil)
    (fun (accessMode, fsType, mountFlags, _) => ⟨accessMode, fsType, mountFlags⟩)
    (fun c => (c.accessMode, c.fsType, c.mountFlags, ()))

end VolumeController
