import VolumeController.Disk.Codec
import VolumeController.Inventory
import VolumeController.Script
import VolumeController.Simulation.Answer
/-!
Benches: what can be done to a platform, and seen of it, other than by calls.
-/

namespace VolumeController

/-- A platform that takes commands. -/
class Bench (σ : Type) extends Platform σ where
  Command : Type
  obey : Command → σ → StepResult × σ

/-- A command to an inventory. Commands without a datacenter concern the platform as a whole. -/
inductive InventoryCommand where
  | fail (datacenter : Option Datacenter) (kind : CallKind) (failure : BackendError)
  | clear (datacenter : Option Datacenter) (kind : CallKind)
  | delay (datacenter : Option Datacenter) (latency : Option Nat)
  | countCalls (datacenter : Option Datacenter) (kind : CallKind)
  | insertDisk (datacenter : Datacenter) (disk : Document)
  | countDisks (datacenter : Datacenter)
  | showDisk (datacenter : Datacenter) (id : String)
  | showNode (datacenter : Datacenter) (node path : String)

/-- The error of a disk or message that cannot be read. -/
def Rejection.toError : Rejection → Error
  | .malformed => .jsonParse "malformed text"
  | .mismatch => .jsonParse "unexpected shape"

namespace Inventory

/-- What a node shows of its attachments. -/
def view? (inv : Inventory) (dc : Datacenter) (node path : String) : Option NodeView := do
  let state ← inv.state? dc
  let attachments ← state.nodes.get? node
  return ⟨node, attachments.toList.length, attachments.get? path⟩

/-- Carries out a command. -/
def obey : InventoryCommand → Inventory → StepResult × Inventory
  | .fail dc kind failure, inv => (.ok .nothing, inv.modifyFaults dc (·.fail kind failure))
  | .clear dc kind, inv => (.ok .nothing, inv.modifyFaults dc (·.clear kind))
  | .delay dc latency, inv => (.ok .nothing, inv.modifyFaults dc fun f => { f with latency })
  | .countCalls none kind, inv => (.ok (.count (inv.faults.calls kind)), inv)
  | .countCalls (some dc) kind, inv =>
    (.ok (.count (((inv.state? dc).map (·.faults.calls kind)).getD 0)), inv)
  | .insertDisk dc d, inv =>
    match Disk.valueCodec.decode d with
    | .ok disk => (.ok .nothing, inv.modify dc (·.addDisk disk))
    | .error rejection => (.error rejection.toError, inv)
  | .countDisks dc, inv => (.ok (.count (((inv.state? dc).map (·.disks.length)).getD 0)), inv)
  | .showDisk dc id, inv => (.ok (.disk ((inv.state? dc).bind (·.findById id))), inv)
  | .showNode dc node path, inv => (.ok (.node (inv.view? dc node path)), inv)

instance : Bench Inventory where
  Command := InventoryCommand
  obey := obey

end Inventory

/-- A script takes no commands. -/
instance : Bench Script where
  Command := Empty
  obey command script := (nomatch command, script)

end VolumeController
