import VolumeController.Cause
import VolumeController.Dict
import VolumeController.Json.Record
/-!
The configuration: tag categories, the controller's settings, and the inventory of every virtual
center. Every part has a value of its own when it is left out.
-/

namespace VolumeController

/-- The tag categories of zones and regions. -/
structure LabelsConfig where
  zone : String := "k8s-zone"
  region : String := "k8s-region"
  deriving DecidableEq

/-- How the controller behaves. -/
structure ControllerSettings where
  /-- Whether creates of one name wait for each other. -/
  serializeCreates : Bool := false
  /-- The time that a request over HTTP may take. -/
  requestTimeoutSecs : UInt64 := 30
  deriving DecidableEq

/-- A cluster of datastores. -/
structure ClusterConfig where
  name : String := ""
  datastores : List String := []
  deriving DecidableEq

/-- The inventory of one datacenter. -/
structure DatacenterConfig where
  name : String := ""
  zone : Option String := none
  region : Option String := none
  datastores : List String := []
  datastoreClusters : List ClusterConfig := []
  /-- The DNS names of the nodes. -/
  nodes : List String := []
  deriving DecidableEq

/-- One virtual center. -/
structure CenterConfig where
  port : UInt16 := 443
  apiVersion : String := "6.7.0"
  datacenters : List DatacenterConfig := []
  deriving DecidableEq

/-- The whole configuration; virtual centers are keyed by their server. -/
structure Config where
  labels : LabelsConfig := {}
  controller : ControllerSettings := {}
  virtualCenters : Dict CenterConfig := .empty
  deriving DecidableEq

instance : Inhabited Config := ⟨{}⟩

/-- What is wrong with a datacenter: it has no name, or one of its clusters has no members. -/
def DatacenterConfig.objection? (server : String) (dc : DatacenterConfig) : Option Cause :=
  if dc.name.isEmpty then some (.datacenterUnnamed server)
  else (dc.datastoreClusters.find? (·.datastores.isEmpty)).map fun cluster =>
    .clusterEmpty cluster.name server dc.name

namespace Config

/-- The first thing that is wrong with a configuration, in the order of servers and datacenters. -/
def objection? (config : Config) : Option Cause :=
  if config.labels.zone.isEmpty || config.labels.region.isEmpty then some .labelsEmpty
  else config.virtualCenters.toList.findSome? fun (server, center) =>
    center.datacenters.findSome? (·.objection? server)

/-- Accepts a configuration with nothing wrong in it. -/
def validate (config : Config) : Except Cause Config :=
  match config.objection? with
  | some cause => .error cause
  | none => .ok config

end Config

/-- The tag categories as a JSON record. -/
def LabelsConfig.codec : Codec LabelsConfig :=
  .record
    (.cons (.defaulted "zone" .text "k8s-zone") <|
      .cons (.defaulted "region" .text "k8s-region") .nil)
    (fun (zone, region, _) => ⟨zone, region⟩) (fun l => (l.zone, l.region, ()))

/-- The settings of the controller as a JSON record. -/
def ControllerSettings.codec : Codec ControllerSettings :=
  .record
    (.cons (.defaulted "serializeCreates" .bool false) <|
      .cons (.defaulted "requestTimeoutSecs" .uint64 30) .nil)
    (fun (serializeCreates, requestTimeoutSecs, _) => ⟨serializeCreates, requestTimeoutSecs⟩)
    (fun s => (s.serializeCreates, s.requestTimeoutSecs, ()))

/-- A cluster of datastores as a JSON record. -/
def ClusterConfig.codec : Codec ClusterConfig :=
  .record
    (.cons (.defaulted "name" .text "") <| .cons (.defaulted "datastores" (.list .text) []) .nil)
    (fun (name, datastores, _) => ⟨name, datastores⟩) (fun c => (c.name, c.datastores, ()))

/-- A datacenter as a JSON record. -/
def DatacenterConfig.codec : Codec DatacenterConfig :=
  .record
    (.cons (.defaulted "name" .text "") <| .cons (.optional "zone" .text) <|
      .cons (.optional "region" .text) <| .cons (.defaulted "datastores" (.list .text) []) <|
      .cons (.defaulted "datastoreClusters" (.list ClusterConfig.codec) []) <|
      .cons (.defaulted "nodes" (.list .text) []) .nil)
    (fun (name, zone, region, datastores, datastoreClusters, nodes, _) =>
      ⟨name, zone, region, datastores, datastoreClusters, nodes⟩)
    (fun d => (d.name, d.zone, d.region, d.datastores, d.datastoreClusters, d.nodes, ()))

/-- A virtual center as a JSON record. -/
def CenterConfig.codec : Codec CenterConfig :=
  .record
    (.cons (.defaulted "port" .uint16 443) <| .cons (.defaulted "apiVersion" .text "6.7.0") <|
      .cons (.defaulted "datacenters" (.list DatacenterConfig.codec) []) .nil)
    (fun (port, apiVersion, datacenters, _) => ⟨port, apiVersion, datacenters⟩)
    (fun c => (c.port, c.apiVersion, c.datacenters, ()))

/-- A configuration as a JSON record. -/
def Config.codec : Codec Config :=
  .record
    (.cons (.defaulted "labels" LabelsConfig.codec {}) <|
      .cons (.defaulted "controller" ControllerSettings.codec {}) <|
      .cons (.defaulted "virtualCenters" (.dict CenterConfig.codec) .empty) .nil)
    (fun (labels, controller, virtualCenters, _) => ⟨labels, controller, virtualCenters⟩)
    (fun c => (c.labels, c.controller, c.virtualCenters, ()))

end VolumeController
