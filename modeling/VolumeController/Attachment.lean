import VolumeController.Procedure
/-!
Attachments: putting the backing file of a disk on a node and taking it off. Failures of the node are
passed through as the platform reported them.
-/

namespace VolumeController.Attachment

/-- The bus controller that every volume is attached through. -/
def defaultController : ScsiController := .paraVirtual

/-- Finds a node by its DNS name. -/
def resolveNode (datacenter : Datacenter) (dnsName : String) : Operation Node := do
  match ← Operation.call "GetVMByDNSName" (.findNode datacenter dnsName) with
  | .ok node => return node
  | .error failure =>
    Operation.note (.nodeUnresolved dnsName failure)
    throw (.backend failure)

/-- The backing file of a disk; only disks backed by a file can be attached. -/
def backingFile (disk : Disk) : Operation String :=
  match disk.filePath? with
  | some path => return path
  | none => Operation.reject (.notFileBacked disk.name disk.id)

/-- Attaches a disk to a node and returns the handle of the attachment. -/
def attach (node : Node) (disk : Disk) (controller : ScsiController) : Operation String := do
  let path ← backingFile disk
  match ← Operation.call "AttachDisk" (.attachDisk node path controller) with
  | .ok handle =>
    Operation.note (.attached path handle)
    return handle
  | .error failure =>
    Operation.note (.attachFailed disk.name path failure)
    throw (.backend failure)

/-- Detaches a disk from a node. -/
def detach (node : Node) (disk : Disk) : Operation Unit := do
  let path ← backingFile disk
  match ← Operation.call "DetachDisk" (.detachDisk node path) with
  | .ok () => Operation.note (.detached path node.name)
  | .error failure =>
    Operation.note (.detachFailed disk.name path failure)
    throw (.backend failure)

end VolumeController.Attachment
