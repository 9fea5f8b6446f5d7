import VolumeController.Dict
import VolumeController.Endpoint
/-!
Disks as the virtualization platform describes them, the pools they lie in, and the attributes under
which a disk is reported.
-/

namespace VolumeController

/-- The kind of container that a disk is created in. -/
inductive PoolKind where
  | datastore
  | datastoreCluster
  deriving DecidableEq, Repr

namespace PoolKind

/-- The name of a kind. -/
def text : PoolKind → String
  | .datastore => "Datastore"
  | .datastoreCluster => "DatastoreCluster"

/-- The kind that a request parameter asks for. Only the exact name of a datastore selects one; every
other value selects a cluster. -/
def ofParameter (value : String) : PoolKind :=
  if value = "Datastore" then .datastore else .datastoreCluster

@[simp] theorem ofParameter_text (kind : PoolKind) : ofParameter kind.text = kind := by
  cases kind <;> rfl

end PoolKind

/-- A named pool together with its kind. -/
structure Pool where
  kind : PoolKind
  name : String
  deriving DecidableEq, Repr

/-- A pool as it is shown: its kind and its name. -/
def Pool.display (pool : Pool) : String :=
  s!"{pool.kind.text} {pool.name}"

/-- What a disk's content is kept in. -/
inductive Backing where
  | file (path : String)
  /-- Any kind that this library does not attach, such as a raw device. -/
  | other (kind : String)
  deriving DecidableEq, Repr

/-- Where the content of a disk lies. -/
inductive Parent where
  | datastore (datastore : String)
  | cluster (cluster datastore : String)
  deriving DecidableEq, Repr

namespace Parent

/-- The kind of the pool that a disk with this parent lies in. -/
def kind : Parent → PoolKind
  | .datastore _ => .datastore
  | .cluster _ _ => .datastoreCluster

/-- The pool that addresses a disk with this parent. -/
def pool : Parent → Pool
  | .datastore name => ⟨.datastore, name⟩
  | .cluster name _ => ⟨.datastoreCluster, name⟩

/-- The datastore that holds the content. -/
def owner : Parent → String
  | .datastore name => name
  | .cluster _ member => member

end Parent

/-- A first class disk: a virtual disk that exists on its own, addressed by its id. -/
structure Disk where
  id : String
  name : String
  capacityMb : UInt64
  parent : Parent
  backing : Backing
  deriving DecidableEq, Repr

namespace Attribute

/-- The value of the type attribute of every volume. -/
def diskType : String := "First Class Disk"

/-! The keys of the attributes. -/

def type : String := "type"
def name : String := "name"
def parentType : String := "parent_type"
def parentName : String := "parent_name"
def owningDatastore : String := "owning_datastore"
def vcenter : String := "vcenter"
def datacenter : String := "datacenter"
def page83Data : String := "page83data"
def zone : String := "zone"
def region : String := "region"

end Attribute

namespace Disk

/-- The path of the backing file, if the disk is backed by a file. -/
def filePath? (disk : Disk) : Option String :=
  match disk.backing with
  | .file path => some path
  | .other _ => none

/-- Whether the disk lies in a pool: the kinds agree, and so do the names. -/
def isIn (disk : Disk) (pool : Pool) : Bool :=
  match disk.parent, pool.kind with
  | .datastore name, .datastore => name = pool.name
  | .cluster name _, .datastoreCluster => name = pool.name
  | _, _ => false

/-- A disk lies in the pool of its datastore or of its cluster, and in no other. -/
theorem isIn_iff (disk : Disk) (pool : Pool) : disk.isIn pool = true ↔
    (∃ name, disk.parent = .datastore name ∧ pool = ⟨.datastore, name⟩) ∨
      ∃ name member, disk.parent = .cluster name member ∧ pool = ⟨.datastoreCluster, name⟩ := by
  obtain ⟨kind, name⟩ := pool
  unfold isIn
  cases disk.parent with
  | datastore datastore => cases kind <;> simp [eq_comm]
  | cluster cluster member => cases kind <;> simp [eq_comm]

/-- The pool that a disk lies in is the one that addresses it. -/
theorem isIn_eq_decide (disk : Disk) (pool : Pool) : disk.isIn pool = decide (disk.parent.pool = pool) := by
  rw [Bool.eq_iff_iff, isIn_iff, decide_eq_true_eq]
  cases disk.parent with
  | datastore name => simp [Parent.pool, eq_comm]
  | cluster name member => simp [Parent.pool, eq_comm]

@[simp] theorem isIn_pool (disk : Disk) : disk.isIn disk.parent.pool = true := by
  rw [isIn_eq_decide, decide_eq_true_eq]

/-- The attributes under which a disk found at an endpoint and datacenter is reported. The datastore
that holds the content is told apart from the pool only for a cluster. -/
def attributes (disk : Disk) (endpoint datacenter : String) : Dict String :=
  let common := (Dict.empty : Dict String)
    |>.insert Attribute.type Attribute.diskType
    |>.insert Attribute.vcenter (Endpoint.host endpoint)
    |>.insert Attribute.datacenter datacenter
    |>.insert Attribute.name disk.name
    |>.insert Attribute.parentType disk.parent.kind.text
  match disk.parent with
  | .datastore name => common.insert Attribute.parentName name
  | .cluster name member =>
    common
      |>.insert Attribute.parentName name
      |>.insert Attribute.owningDatastore member

/-- What each key of the attributes tells. -/
theorem get?_attributes (disk : Disk) (endpoint datacenter key : String) :
    (disk.attributes endpoint datacenter).get? key =
      if key = Attribute.owningDatastore then
        match disk.parent with
        | .datastore _ => none
        | .cluster _ member => some member
      else if key = Attribute.parentName then
        match disk.parent with
        | .datastore name => some name
        | .cluster name _ => some name
      else if key = Attribute.parentType then some disk.parent.kind.text
      else if key = Attribute.name then some disk.name
      else if key = Attribute.datacenter then some datacenter
      else if key = Attribute.vcenter then some (Endpoint.host endpoint)
      else if key = Attribute.type then some Attribute.diskType
      else none := by
  unfold attributes
  cases disk.parent with
  | datastore name =>
    by_cases hOwning : key = Attribute.owningDatastore
    · subst hOwning
      rfl
    · simp only [if_neg hOwning, Dict.get?_insert, Dict.get?_empty]
  | cluster name member => simp only [Dict.get?_insert, Dict.get?_empty]

end Disk

end VolumeController
