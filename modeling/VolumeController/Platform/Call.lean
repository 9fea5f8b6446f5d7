import VolumeController.Disk
import VolumeController.Error
import VolumeController.Json.Codec
/-!
Calls: the requests that the controller puts to the virtualization platform, each with the type of its
answer.
-/

namespace VolumeController

/-- A datacenter as the platform hands it out: its name, and its place in the order of enumeration,
which tells datacenters of one name apart. -/
structure Datacenter where
  name : String
  place : Nat
  deriving DecidableEq, Repr

/-- A datacenter together with the endpoint that it was found at. -/
structure Site where
  endpoint : String
  datacenter : Datacenter
  deriving DecidableEq, Repr

/-- A virtual machine that disks are attached to. -/
structure Node where
  name : String
  datacenter : Datacenter
  deriving DecidableEq, Repr

/-- The search for the datacenter of a zone and region, tagged in the given categories. -/
structure ZoneQuery where
  zoneCategory : String
  regionCategory : String
  zone : String
  region : String
  deriving DecidableEq, Repr

/-- The bus controller that a disk is attached through. -/
inductive ScsiController where
  | paraVirtual
  deriving DecidableEq, Repr

namespace ScsiController

/-- The platform's name of a bus controller. -/
def text : ScsiController → String
  | .paraVirtual => "pvscsi"

/-- A bus controller is written by its kind. -/
def codec : Codec ScsiController :=
  .oneOf (fun | .paraVirtual => "ParaVirtual") [.paraVirtual]

end ScsiController

/-- A request to the platform. -/
inductive Call where
  | apiVersion (center : String)
  | resolveZone (query : ZoneQuery)
  | listSites
  /-- The first disk of a name in a pool. -/
  | findByName (datacenter : Datacenter) (pool : Pool) (name : String)
  /-- The first disk of an id anywhere in the datacenter. -/
  | findById (datacenter : Datacenter) (id : String)
  | createDisk (datacenter : Datacenter) (pool : Pool) (name : String) (sizeMb : UInt64)
  | deleteDisk (datacenter : Datacenter) (pool : Pool) (id : String)
  | listDisks (datacenter : Datacenter)
  | findNode (datacenter : Datacenter) (dnsName : String)
  | attachDisk (node : Node) (path : String) (controller : ScsiController)
  | detachDisk (node : Node) (path : String)
  deriving DecidableEq

namespace Call

/-- What a call is answered with when it succeeds. -/
abbrev Answer : Call → Type
  | .apiVersion _ => String
  | .resolveZone _ => Site
  | .listSites => List Site
  | .findByName _ _ _ => Option Disk
  | .findById _ _ => Option Disk
  | .createDisk _ _ _ _ => Unit
  | .deleteDisk _ _ _ => Unit
  | .listDisks _ => List Disk
  | .findNode _ _ => Node
  | .attachDisk _ _ _ => String
  | .detachDisk _ _ => Unit

/-- What a call is answered with. -/
abbrev Reply (c : Call) : Type := Except BackendError c.Answer

end Call

end VolumeController
