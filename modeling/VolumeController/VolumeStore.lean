import VolumeController.Procedure
/-!
The volume store: creating a disk or finding the one that is already there, finding the site that owns
an id, and deleting.
-/

namespace VolumeController

/-- Whether a create made its disk or found it. -/
inductive CreateOutcome where
  | created (disk : Disk)
  | existing (disk : Disk)
  deriving DecidableEq

/-- The disk of an outcome. -/
def CreateOutcome.disk : CreateOutcome → Disk
  | .created disk => disk
  | .existing disk => disk

/-- A volume store: whether creates of one name wait for each other, and the table of locks that they
use for it. -/
structure VolumeStore where
  serializes : Bool
  table : Nat
  deriving DecidableEq

namespace VolumeStore

/-- Runs an operation under the lock of a name. The lock is let go before the handle is given back, and
the handle before the table is swept. -/
def locked {α : Type} (name : LockName) (op : Operation α) : Operation α :=
  ExceptT.mk do
    let lock ← Procedure.perform (.takeHandle name)
    let result ← (do
      match ← (Operation.wait "AcquireNameLock" (.lock lock)).run with
      | .ok () =>
        let result ← op.run
        Procedure.perform (.unlock lock)
        return result
      | .error e => return .error e)
    Procedure.perform (.dropHandle lock)
    Procedure.perform (.sweep name)
    return result

/-- Accepts a disk that was found under the wanted name if it has the wanted size. -/
def reuse (name : String) (sizeMb : UInt64) (disk : Disk) : Operation CreateOutcome := do
  Operation.note (.nameTaken name)
  if disk.capacityMb ≠ sizeMb then
    Operation.reject (.sizeDiffers disk.capacityMb.toNat sizeMb.toNat)
  else return .existing disk

/-- Creates a disk and reads it back, since creating does not describe it. -/
def create (datacenter : Datacenter) (pool : Pool) (name : String) (sizeMb : UInt64) :
    Operation CreateOutcome := do
  match ← Operation.call "CreateFirstClassDisk" (.createDisk datacenter pool name sizeMb) with
  | .error failure => Operation.reject (.creationFailed failure)
  | .ok () =>
    match ← Operation.call "GetFirstClassDisk" (.findByName datacenter pool name) with
    | .ok (some disk) =>
      Operation.note (.created name sizeMb.toNat disk.id)
      return .created disk
    | .ok none => Operation.reject (.lostAfterCreation name)
    | .error failure => Operation.reject (.rereadFailed name failure)

/-- Finds the disk of a name in a pool, or creates it, without a lock. -/
def createUnlocked (datacenter : Datacenter) (pool : Pool) (name : String) (sizeMb : UInt64) :
    Operation CreateOutcome := do
  match ← Operation.call "GetFirstClassDisk" (.findByName datacenter pool name) with
  | .error failure => Operation.reject (.lookupFailed name failure)
  | .ok (some disk) => reuse name sizeMb disk
  | .ok none => create datacenter pool name sizeMb

/-- Finds the disk of a name and size in a pool, or creates it. -/
def createOrGet (store : VolumeStore) (datacenter : Datacenter) (pool : Pool) (name : String)
    (sizeMb : UInt64) : Operation CreateOutcome :=
  if store.serializes then locked ⟨store.table, name⟩ (createUnlocked datacenter pool name sizeMb)
  else createUnlocked datacenter pool name sizeMb

/-- Asks sites in order for the disk of an id. A site that cannot answer is passed over, but unless a
later one shows the disk, its failure leaves open whether the disk exists. -/
def searchSites (id : String) : Option BackendError → List Site → Operation (Site × Disk)
  | some failure, [] => throw (Cause.ownerUncertain id failure).toError
  | none, [] => throw (.diskNotFound id)
  | last, site :: sites => do
    match ← Operation.call "FindFirstClassDisk" (.findById site.datacenter id) with
    | .ok (some disk) => return (site, disk)
    | .ok none => searchSites id last sites
    | .error failure =>
      Operation.note (.lookupFailed id site.endpoint site.datacenter.name failure)
      searchSites id (some failure) sites

/-- Finds the site that owns the disk of an id, and the disk. -/
def resolve (id : String) : Operation (Site × Disk) := do
  match ← Operation.call "ListBackendInstances" .listSites with
  | .error failure => throw (Cause.sitesUnlisted failure).toError
  | .ok sites => searchSites id none sites

/-- Deletes the disk of an id from a pool. -/
def delete (datacenter : Datacenter) (pool : Pool) (id : String) : Operation Unit := do
  match ← Operation.call "DeleteFirstClassDisk" (.deleteDisk datacenter pool id) with
  | .error failure => Operation.reject (.deletionFailed id failure)
  | .ok () => Operation.note (.deleted id pool)

end VolumeStore

end VolumeController
