import VolumeController.Disk
import VolumeController.Json.Record
/-!
The JSON form of disks and pools. A disk is read from a text of its own, where every record may be an
array, or from a value that is at hand, where what is kept under the name of a case must be an object.
-/

namespace VolumeController

/-- A kind of pool is written by its name. -/
def PoolKind.codec : Codec PoolKind :=
  .oneOf PoolKind.text [.datastore, .datastoreCluster]

/-- A pool is a record of its kind and name. -/
def Pool.codec : Codec Pool :=
  .record (.cons (.required "parent_type" PoolKind.codec) (.cons (.required "name" .text) .nil))
    (fun (kind, name, _) => ⟨kind, name⟩) (fun pool => (pool.kind, pool.name, ()))

/-- What is kept under the name of a backing by a file. -/
def Backing.fileCodec : Codec String :=
  .record (.cons (.required "file_path" .text) .nil) (fun (path, _) => path) (fun path => (path, ()))

/-- What is kept under the name of any other backing. -/
def Backing.otherCodec : Codec String :=
  .record (.cons (.required "kind" .text) .nil) (fun (kind, _) => kind) (fun kind => (kind, ()))

/-- A backing is an object with its case as the only key. -/
def Backing.codecOver (file other : Codec String) : Codec Backing where
  encode
    | .file path => .object [("File", file.encode path)]
    | .other kind => .object [("Other", other.encode kind)]
  decode := Codec.decodeCase fun name d =>
    if name = "File" then (file.decode d).map .file
    else if name = "Other" then (other.decode d).map .other
    else .error .mismatch

/-- A backing in a text. -/
def Backing.codec : Codec Backing := codecOver fileCodec otherCodec

/-- What is kept under the name of a datastore. -/
def Parent.datastoreCodec : Codec String :=
  .record (.cons (.required "datastore" .text) .nil) (fun (name, _) => name) (fun name => (name, ()))

/-- What is kept under the name of a cluster: the cluster and the member that holds the content. -/
def Parent.clusterCodec : Codec (String × String) :=
  .record (.cons (.required "cluster" .text) (.cons (.required "datastore" .text) .nil))
    (fun (name, member, _) => (name, member)) (fun (name, member) => (name, member, ()))

/-- A parent is an object with its case as the only key. -/
def Parent.codecOver (datastore : Codec String) (cluster : Codec (String × String)) : Codec Parent where
  encode
    | .datastore name => .object [("Datastore", datastore.encode name)]
    | .cluster name member => .object [("DatastoreCluster", cluster.encode (name, member))]
  decode := Codec.decodeCase fun name d =>
    if name = "Datastore" then (datastore.decode d).map .datastore
    else if name = "DatastoreCluster" then
      (cluster.decode d).map fun (name, member) => .cluster name member
    else .error .mismatch

/-- A parent in a text. -/
def Parent.codec : Codec Parent := codecOver datastoreCodec clusterCodec

/-- A disk is a record. -/
def Disk.codecOver (parent : Codec Parent) (backing : Codec Backing) : Codec Disk :=
  .record
    (.cons (.required "id" .text) <| .cons (.required "name" .text) <|
      .cons (.required "capacity_mb" .uint64) <| .cons (.required "parent" parent) <|
      .cons (.required "backing" backing) .nil)
    (fun (id, name, capacityMb, parent, backing, _) => ⟨id, name, capacityMb, parent, backing⟩)
    (fun d => (d.id, d.name, d.capacityMb, d.parent, d.backing, ()))

/-- A disk in a text. -/
def Disk.codec : Codec Disk := codecOver Parent.codec Backing.codec

/-- A disk in a value that is at hand. -/
def Disk.valueCodec : Codec Disk :=
  codecOver (Parent.codecOver Parent.datastoreCodec.named Parent.clusterCodec.named)
    (Backing.codecOver Backing.fileCodec.named Backing.otherCodec.named)

end VolumeController
