import VolumeController.Cause
import VolumeController.Disk
/-!
Log events: what the library notes while it works, with the level and the wording of each note.
-/

namespace VolumeController

open Text

/-- How serious an event is. -/
inductive Level where
  | info
  | warn
  | error
  deriving DecidableEq, Repr

/-- The name of a level. -/
def Level.text : Level → String
  | .info => "INFO"
  | .warn => "WARN"
  | .error => "ERROR"

/-- One note in the log. -/
inductive Event where
  /-- A request or a check failed for a cause of this library's own. -/
  | failed (cause : Cause)
  | nodeUnresolved (node : String) (failure : BackendError)
  | attachFailed (disk path : String) (failure : BackendError)
  | detachFailed (disk path : String) (failure : BackendError)
  | versionUnanswered (failure : BackendError)
  | versionRefused (center : String) (error : Error)
  | nameTaken (name : String)
  | lookupFailed (id endpoint datacenter : String) (failure : BackendError)
  | listingSkipped (endpoint datacenter : String) (failure : BackendError)
  | alreadyGone (id : String)
  | zoneAborted (zone : String) (error : Error)
  | lookupAborted (operation id : String) (error : Error)
  | createRequested (name : String) (sizeMb : Nat) (pool : Pool) (zone region : String)
  | createReused (name id : String)
  | created (name : String) (sizeMb : Nat) (id : String)
  | deleted (id : String) (pool : Pool)
  | resolvingTopology (kind : String) (segments : Nat)
  | resolvingLegacy (zone region : String)
  | zoneResolved (zone region endpoint datacenter : String)
  | pageSelected (start stop total : Nat)
  | pageContinues (token : String)
  | attached (path handle : String)
  | detached (path node : String)
  | versionAccepted (center version : String)
  | diskPlaced (name : String) (sizeMb : Nat) (pool : Pool) (id : String)
  | diskRemoved (id : String) (pool : Pool)
  | deviceAdded (path node controller handle : String)
  | deviceRemoved (path node : String)
  deriving DecidableEq

namespace Event

/-- The level of an event. -/
def level : Event → Level
  | .failed _ | .nodeUnresolved _ _ | .attachFailed _ _ _ | .detachFailed _ _ _
  | .versionUnanswered _ | .versionRefused _ _ => .error
  | .nameTaken _ | .lookupFailed _ _ _ _ | .listingSkipped _ _ _ | .alreadyGone _
  | .zoneAborted _ _ | .lookupAborted _ _ _ => .warn
  | _ => .info

/-- The wording of an event. -/
def message : Event → String
  | .failed cause => cause.message
  | .nodeUnresolved node failure => s!"GetVMByDNSName({node}) failed. Err: {failure.message}"
  | .attachFailed disk path failure => s!"AttachDisk({disk} = {path}) failed. Err: {failure.message}"
  | .detachFailed disk path failure => s!"DetachDisk({disk} = {path}) failed. Err: {failure.message}"
  | .versionUnanswered failure => s!"APIVersion failed err={failure.message}"
  | .versionRefused center error => s!"checkAPI failed for {center} err={error.message}"
  | .nameTaken name =>
    s!"Volume with name {name} already exists. Checking for similar parameters."
  | .lookupFailed id endpoint datacenter failure =>
    s!"Lookup of {id} on {endpoint}/{datacenter} failed: {failure.message}"
  | .listingSkipped endpoint datacenter failure =>
    s!"Skipping {endpoint}/{datacenter} in volume listing: {failure.message}"
  | .alreadyGone id =>
    s!"Failed to retrieve VC/DC based on FCDID {id}. Treating volume as deleted."
  | .zoneAborted zone error => s!"Zone resolution aborted for zone {zone}: {error.message}"
  | .lookupAborted operation id error => s!"{operation} aborted for volume {id}: {error.message}"
  | .createRequested name sizeMb pool zone region =>
    s!"CreateVolume name={name} size_mb={natText sizeMb} pool={pool.display} zone={zone} " ++
      s!"region={region}"
  | .createReused name id => s!"CreateVolume {name} reused existing disk {id}"
  | .created name sizeMb id => s!"Created volume {name} ({natText sizeMb} MB) with id {id}"
  | .deleted id pool => s!"Deleted volume {id} from {pool.display}"
  | .resolvingTopology kind segments =>
    s!"Resolving backend with {kind} topology ({natText segments} segments)"
  | .resolvingLegacy zone region => s!"Resolving backend with legacy zone={zone} region={region}"
  | .zoneResolved zone region endpoint datacenter =>
    s!"Resolved zone={zone} region={region} to {endpoint}/{datacenter}"
  | .pageSelected start stop total =>
    s!"Start: {natText start}, End: {natText stop}, Total: {natText total}"
  | .pageContinues token => s!"Next token is {token}"
  | .attached path handle => s!"AttachDisk({path}) succeeded with UUID: {handle}"
  | .detached path node => s!"DetachDisk({path}) from {node} succeeded"
  | .versionAccepted center version => s!"Virtual center {center} reports API version {version}"
  | .diskPlaced name sizeMb pool id =>
    s!"Creating first class disk {name} ({natText sizeMb} MB) in {pool.display} -> {id}"
  | .diskRemoved id pool => s!"Deleted first class disk {id} from {pool.display}"
  | .deviceAdded path node controller handle =>
    s!"Attaching {path} to {node} on {controller} controller as {handle}"
  | .deviceRemoved path node => s!"Detached {path} from {node}"

end Event

end VolumeController
