import VolumeController.Config
import VolumeController.Platform
import VolumeController.Text.Quoted
/-!
The inventory: a platform in memory, built from a configuration. Calls can be made to fail and to take
time, and are counted when they start.
-/

namespace VolumeController

/-- The kinds of calls that can be told to fail. -/
inductive CallKind where
  | apiVersion
  | resolveZone
  | listSites
  | findByName
  | findById
  | createDisk
  | deleteDisk
  | listDisks
  | findNode
  | attachDisk
  | detachDisk
  deriving DecidableEq, Repr

/-- The kind of a call. -/
def Call.kind : Call → CallKind
  | .apiVersion _ => .apiVersion
  | .resolveZone _ => .resolveZone
  | .listSites => .listSites
  | .findByName _ _ _ => .findByName
  | .findById _ _ => .findById
  | .createDisk _ _ _ _ => .createDisk
  | .deleteDisk _ _ _ => .deleteDisk
  | .listDisks _ => .listDisks
  | .findNode _ _ => .findNode
  | .attachDisk _ _ _ => .attachDisk
  | .detachDisk _ _ => .detachDisk

/-- The datacenter that a call goes to; none for a call to the platform as a whole. -/
def Call.datacenter? : Call → Option Datacenter
  | .apiVersion _ | .resolveZone _ | .listSites => none
  | .findByName dc _ _ | .findById dc _ | .createDisk dc _ _ _ | .deleteDisk dc _ _
  | .listDisks dc | .findNode dc _ => some dc
  | .attachDisk node _ _ | .detachDisk node _ => some node.datacenter

/-- How calls go wrong, how long they take, and how many were started. -/
structure Faults where
  failures : List (CallKind × BackendError) := []
  latency : Option Nat := none
  started : List CallKind := []
  deriving DecidableEq

namespace Faults

/-- Makes calls of a kind fail until they are cleared. -/
def fail (f : Faults) (kind : CallKind) (failure : BackendError) : Faults :=
  { f with failures := (kind, failure) :: f.failures.filter (·.1 != kind) }

/-- Lets calls of a kind succeed again. -/
def clear (f : Faults) (kind : CallKind) : Faults :=
  { f with failures := f.failures.filter (·.1 != kind) }

/-- The failure of calls of a kind. -/
def failure? (f : Faults) (kind : CallKind) : Option BackendError :=
  f.failures.lookup kind

/-- Counts a started call. -/
def enter (f : Faults) (kind : CallKind) : Faults :=
  { f with started := kind :: f.started }

/-- How many calls of a kind were started. -/
def calls (f : Faults) (kind : CallKind) : Nat :=
  f.started.count kind

end Faults

/-- A virtual center. -/
structure Center where
  server : String
  port : UInt16
  apiVersion : String
  deriving DecidableEq

/-- The state of one datacenter. -/
structure DatacenterState where
  server : String
  endpoint : String
  name : String
  zone : Option String
  region : Option String
  datastores : List String
  clusters : Dict (List String)
  /-- The disks in the order they came. -/
  disks : List Disk
  /-- For each node the handles of its attachments, by the path of the backing file. -/
  nodes : Dict (Dict String)
  faults : Faults
  deriving DecidableEq

namespace DatacenterState

/-- The state of a configured datacenter, without disks. The last cluster of a name counts. -/
def ofConfig (server endpoint : String) (dc : DatacenterConfig) : DatacenterState where
  server := server
  endpoint := endpoint
  name := dc.name
  zone := dc.zone
  region := dc.region
  datastores := dc.datastores
  clusters := .ofList (dc.datastoreClusters.map fun c => (c.name, c.datastores))
  disks := []
  nodes := .ofList (dc.nodes.map fun node => (node, .empty))
  faults := {}

/-- Whether the tags match a zone and region; an empty part matches every tag. -/
def matchesZone (dc : DatacenterState) (zone region : String) : Bool :=
  (zone = "" || dc.zone = some zone) && (region = "" || dc.region = some region)

/-- The first disk of a name in a pool. -/
def findByName (dc : DatacenterState) (pool : Pool) (name : String) : Option Disk :=
  dc.disks.find? fun disk => disk.name = name && disk.isIn pool

/-- The first disk of an id. -/
def findById (dc : DatacenterState) (id : String) : Option Disk :=
  dc.disks.find? fun disk => disk.id = id

/-- Where a new disk of a pool lies: on the datastore, or on the first member of the cluster. -/
def placement (dc : DatacenterState) (pool : Pool) : Except BackendError Parent :=
  match pool.kind with
  | .datastore =>
    if dc.datastores.contains pool.name then .ok (.datastore pool.name)
    else .error (.notFound "Datastore" pool.name)
  | .datastoreCluster =>
    match (dc.clusters.get? pool.name).bind List.head? with
    | some member => .ok (.cluster pool.name member)
    | none => .error (.notFound "DatastoreCluster" pool.name)

/-- Puts a disk after all others. -/
def addDisk (dc : DatacenterState) (disk : Disk) : DatacenterState :=
  { dc with disks := dc.disks ++ [disk] }

/-- The disks without the first one of an id in a pool; none if there is no such disk. -/
def removeDisk? (dc : DatacenterState) (pool : Pool) (id : String) : Option DatacenterState :=
  if dc.disks.any fun disk => disk.id = id && disk.isIn pool then
    some { dc with disks := dc.disks.eraseP fun disk => disk.id = id && disk.isIn pool }
  else none

/-- The handle under which a file is attached to a node. -/
def handle? (dc : DatacenterState) (node path : String) : Option String :=
  (dc.nodes.get? node).bind (·.get? path)

/-- Attaches a file to a node under a handle. -/
def addDevice (dc : DatacenterState) (node path handle : String) : DatacenterState :=
  { dc with nodes := dc.nodes.insert node (((dc.nodes.get? node).getD .empty).insert path handle) }

/-- Detaches a file from a node. -/
def removeDevice (dc : DatacenterState) (node path : String) : DatacenterState :=
  { dc with nodes := dc.nodes.insert node (((dc.nodes.get? node).getD .empty).erase path) }

end DatacenterState

/-- A platform in memory. Datacenters are in order of enumeration: by server, then as configured. -/
structure Inventory where
  centers : List Center
  datacenters : List DatacenterState
  /-- How calls to the platform as a whole go. -/
  faults : Faults
  /-- The number of the next id that is drawn. -/
  nextId : Nat
  deriving DecidableEq

namespace Inventory

/-- The inventory that a configuration describes. -/
def ofConfig (config : Config) : Inventory where
  centers := config.virtualCenters.toList.map fun (server, c) => ⟨server, c.port, c.apiVersion⟩
  datacenters := config.virtualCenters.toList.flatMap fun (server, c) =>
    c.datacenters.map (.ofConfig server (Endpoint.ofServer server c.port))
  faults := {}
  nextId := 1

/-- The id of a number. -/
def idText (n : Nat) : String :=
  let digits := Text.hexadecimal n
  "00000000-0000-4000-8000-" ++ String.ofList (List.replicate (12 - digits.length) '0' ++ digits)

/-- The path of the backing file of a new disk. -/
def backingPath (datastore id : String) : String :=
  s!"[{datastore}] fcd/" ++ String.ofList (id.toList.filter (· != '-')) ++ ".vmdk"

/-- The state of a datacenter. -/
def state? (inv : Inventory) (dc : Datacenter) : Option DatacenterState :=
  inv.datacenters[dc.place]?

/-- Changes the state of a datacenter. -/
def modify (inv : Inventory) (dc : Datacenter) (f : DatacenterState → DatacenterState) : Inventory :=
  { inv with datacenters := inv.datacenters.modify dc.place f }

/-- All sites in order of enumeration. -/
def sites (inv : Inventory) : List Site :=
  inv.datacenters.zipIdx.map fun (dc, place) => ⟨dc.endpoint, dc.name, place⟩

/-- The first datacenter of a name at a virtual center. -/
def datacenter? (inv : Inventory) (server name : String) : Option Datacenter :=
  (inv.datacenters.findIdx? fun dc => dc.server = server && dc.name = name).map (⟨name, ·⟩)

/-- The site of a zone and region: the first one whose tags match. A search without zone and region
finds the only site there is. -/
def resolveZone (inv : Inventory) (zone region : String) : Except BackendError Site :=
  if zone = "" && region = "" then
    match inv.sites with
    | [site] => .ok site
    | _ => .error (.noZoneMatch "" "")
  else
    match (inv.datacenters.zip inv.sites).find? fun (dc, _) => dc.matchesZone zone region with
    | some (_, site) => .ok site
    | none => .error (.noZoneMatch zone region)

/-- The faults that a call meets. -/
def faultsOf (inv : Inventory) (c : Call) : Faults :=
  match c.datacenter? with
  | none => inv.faults
  | some dc => ((inv.state? dc).map (·.faults)).getD {}

/-- Changes the faults of a datacenter, or of the platform as a whole. -/
def modifyFaults (inv : Inventory) (dc : Option Datacenter) (f : Faults → Faults) : Inventory :=
  match dc with
  | none => { inv with faults := f inv.faults }
  | some dc => inv.modify dc fun state => { state with faults := f state.faults }

/-- What a call reports about a datacenter that is not there. -/
def missing (dc : Datacenter) : BackendError := .notFound "Datacenter" dc.name

/-- Creates a disk under a fresh id. -/
def createDisk (inv : Inventory) (dc : Datacenter) (state : DatacenterState) (pool : Pool)
    (name : String) (sizeMb : UInt64) : Except BackendError Unit × List Event × Inventory :=
  match state.placement pool with
  | .error failure => (.error failure, [], inv)
  | .ok parent =>
    let id := idText inv.nextId
    let disk : Disk := ⟨id, name, sizeMb, parent, .file (backingPath parent.owner id)⟩
    (.ok (), [.diskPlaced name sizeMb.toNat pool id],
      { inv.modify dc (·.addDisk disk) with nextId := inv.nextId + 1 })

/-- Deletes the first disk of an id in a pool. -/
def deleteDisk (inv : Inventory) (dc : Datacenter) (state : DatacenterState) (pool : Pool)
    (id : String) : Except BackendError Unit × List Event × Inventory :=
  match state.removeDisk? pool id with
  | some state => (.ok (), [.diskRemoved id pool], inv.modify dc fun _ => state)
  | none => (.error (.notFound "FirstClassDisk" id), [], inv)

/-- Attaches a file to a node. A file that is attached keeps its handle. -/
def attachDisk (inv : Inventory) (node : Node) (state : DatacenterState) (path : String)
    (controller : ScsiController) : Except BackendError String × List Event × Inventory :=
  match state.handle? node.name path with
  | some handle => (.ok handle, [], inv)
  | none =>
    let handle := idText inv.nextId
    (.ok handle, [.deviceAdded path node.name controller.text handle],
      { inv.modify node.datacenter (·.addDevice node.name path handle) with nextId := inv.nextId + 1 })

/-- Detaches a file from a node. -/
def detachDisk (inv : Inventory) (node : Node) (state : DatacenterState) (path : String) :
    Except BackendError Unit × List Event × Inventory :=
  match state.handle? node.name path with
  | some _ =>
    (.ok (), [.deviceRemoved path node.name],
      inv.modify node.datacenter (·.removeDevice node.name path))
  | none => (.error (.notFound "VirtualDevice" path), [], inv)

/-- Answers a call that meets no fault. -/
def answer (inv : Inventory) : (c : Call) → c.Reply × List Event × Inventory
  | .apiVersion server =>
    (match inv.centers.find? (·.server = server) with
      | some center => .ok center.apiVersion
      | none => .error (.notFound "VirtualCenter" server), [], inv)
  | .resolveZone query => (inv.resolveZone query.zone query.region, [], inv)
  | .listSites => (.ok inv.sites, [], inv)
  | .findByName dc pool name =>
    (match inv.state? dc with
      | some state => .ok (state.findByName pool name)
      | none => .error (missing dc), [], inv)
  | .findById dc id =>
    (match inv.state? dc with
      | some state => .ok (state.findById id)
      | none => .error (missing dc), [], inv)
  | .createDisk dc pool name sizeMb =>
    match inv.state? dc with
    | some state => inv.createDisk dc state pool name sizeMb
    | none => (.error (missing dc), [], inv)
  | .deleteDisk dc pool id =>
    match inv.state? dc with
    | some state => inv.deleteDisk dc state pool id
    | none => (.error (missing dc), [], inv)
  | .listDisks dc =>
    (match inv.state? dc with
      | some state => .ok state.disks
      | none => .error (missing dc), [], inv)
  | .findNode dc dnsName =>
    (match inv.state? dc with
      | some state =>
        if (state.nodes.get? dnsName).isSome then .ok ⟨dnsName, dc⟩
        else .error (.notFound "VirtualMachine" dnsName)
      | none => .error (missing dc), [], inv)
  | .attachDisk node path controller =>
    match inv.state? node.datacenter with
    | some state => inv.attachDisk node state path controller
    | none => (.error (missing node.datacenter), [], inv)
  | .detachDisk node path =>
    match inv.state? node.datacenter with
    | some state => inv.detachDisk node state path
    | none => (.error (missing node.datacenter), [], inv)

/-- A started call is counted and takes the latency of its place. When it is finished it fails if there
is a fault for it by then; else it takes effect. -/
instance : Platform Inventory where
  Ticket := Unit
  centers inv := inv.centers.map (·.server)
  datacenter? := datacenter?
  start c inv :=
    ((), (inv.faultsOf c).latency.getD 0, inv.modifyFaults c.datacenter? (·.enter c.kind))
  finish c _ inv :=
    match (inv.faultsOf c).failure? c.kind with
    | some failure => (.error failure, [], inv)
    | none => inv.answer c

end Inventory

end VolumeController
