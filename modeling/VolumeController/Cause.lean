import VolumeController.Error
import VolumeController.Text.Numeral
import VolumeController.Text.Quoted
/-!
Causes: every failure that this library itself finds, with its wording and its place among the errors.
-/

namespace VolumeController

open Text

/-- What is wrong with a request, an answer of the platform, or a configuration. -/
inductive Cause where
  | parametersMissing
  | nameMissing
  | parameterMissing (key : String)
  | volumeIdMissing
  | nodeIdMissing
  | sizeNegative (bytes : Int)
  | sizeTooLarge (bytes : Int)
  | limitNegative (limit : Int)
  | tokenUnreadable (token : String) (fault : NumeralFault)
  | sizeDiffers (existing requested : Nat)
  | notFileBacked (name id : String)
  | lookupFailed (name : String) (failure : BackendError)
  | creationFailed (failure : BackendError)
  | lostAfterCreation (name : String)
  | rereadFailed (name : String) (failure : BackendError)
  | deletionFailed (id : String) (failure : BackendError)
  | sitesUnlisted (failure : BackendError)
  /-- No site showed the disk, but a site that could not answer may still own it. -/
  | ownerUncertain (id : String) (failure : BackendError)
  | ownerUnresolved (id : String) (error : Error)
  | zoneUnresolved (zone : String) (error : Error)
  | startBeyondEnd (start total : Nat)
  | capacityUnreportable (id : String) (sizeMb : Nat)
  | versionUnanswered (center : String) (failure : BackendError)
  | versionUnreadable (version : String)
  | versionTooOld (version : String)
  | labelsEmpty
  | datacenterUnnamed (server : String)
  | clusterEmpty (cluster server datacenter : String)
  | fileMissing (path : String)
  deriving DecidableEq, Repr

namespace Cause

/-- The wording of a cause. -/
def message : Cause → String
  | .parametersMissing => "Create parameters is a required parameter."
  | .nameMissing => "Volume name is a required parameter."
  | .parameterMissing key => s!"Volume parameter {key} is a required parameter."
  | .volumeIdMissing => "Volume ID is a required parameter."
  | .nodeIdMissing => "Node ID is a required parameter."
  | .sizeNegative bytes => s!"Required bytes {intText bytes} must not be negative."
  | .sizeTooLarge bytes => s!"Required bytes {intText bytes} exceeds the maximum volume size."
  | .limitNegative limit => s!"Invalid max entries {intText limit}. Must not be negative."
  | .tokenUnreadable token fault => s!"Invalid starting token {token}. Err: {fault.message}"
  | .sizeDiffers existing requested =>
    s!"Volume already exists but requesting different size. Existing {natText existing} != " ++
      s!"Requested {natText requested}"
  | .notFileBacked name id => s!"disk {name} ({id}) is not file-backed"
  | .lookupFailed name failure => s!"GetFirstClassDisk({name}) failed. Err: {failure.message}"
  | .creationFailed failure => s!"CreateFirstClassDisk failed. Err: {failure.message}"
  | .lostAfterCreation name =>
    s!"GetFirstClassDiskByName({name}) failed. Err: not found after create"
  | .rereadFailed name failure => s!"GetFirstClassDiskByName({name}) failed. Err: {failure.message}"
  | .deletionFailed id failure => s!"DeleteFirstClassDisk({id}) failed. Err: {failure.message}"
  | .sitesUnlisted failure => s!"listing backend instances failed: {failure.message}"
  | .ownerUncertain id failure =>
    s!"could not rule out volume {id} on every backend: {failure.message}"
  | .ownerUnresolved id error => s!"WhichVCandDCByFCDId({id}) failed. Err: {error.message}"
  | .zoneUnresolved zone error =>
    s!"Failed to retrieve VC/DC based on zone {zone}. Err: {error.message}"
  | .startBeyondEnd start total =>
    s!"Invalid start token {natText start}. Greater than total items {natText total}."
  | .capacityUnreportable id sizeMb =>
    s!"Volume {id} capacity {natText sizeMb} MB exceeds the reportable byte range"
  | .versionUnanswered center failure => s!"APIVersion({center}) failed: {failure.message}"
  | .versionUnreadable version => s!"unparseable API version {quoted version}"
  | .versionTooOld version =>
    s!"API version {version} does not support first class disks (requires 6.5+)"
  | .labelsEmpty => "labels.zone and labels.region must not be empty"
  | .datacenterUnnamed server => s!"virtual center {server} has a datacenter without a name"
  | .clusterEmpty cluster server datacenter =>
    s!"datastore cluster {cluster} in {server}/{datacenter} has no member datastores"
  | .fileMissing path => s!"cannot read {path}: No such file or directory (os error 2)"

/-- The error that a cause ends in. -/
def toError (cause : Cause) : Error :=
  match cause with
  | .parametersMissing | .nameMissing | .parameterMissing _ | .volumeIdMissing | .nodeIdMissing
  | .sizeNegative _ | .sizeTooLarge _ | .limitNegative _ | .tokenUnreadable _ _ =>
    .invalidArgument cause.message
  | .sizeDiffers _ _ => .alreadyExists cause.message
  | .notFileBacked _ _ => .contractViolation cause.message
  | .lookupFailed _ _ | .creationFailed _ | .lostAfterCreation _ | .rereadFailed _ _
  | .deletionFailed _ _ | .sitesUnlisted _ | .ownerUncertain _ _ | .ownerUnresolved _ _
  | .zoneUnresolved _ _ | .startBeyondEnd _ _ | .capacityUnreportable _ _ => .internal cause.message
  | .versionUnanswered _ _ | .versionUnreadable _ | .versionTooOld _ | .labelsEmpty
  | .datacenterUnnamed _ | .clusterEmpty _ _ _ | .fileMissing _ => .configuration cause.message

end Cause

end VolumeController
