import VolumeController.Config
import VolumeController.Text.WhiteSpace
import VolumeController.Yaml.Reader
/-!
The configuration as a YAML text. Everything may be left out; what is there is checked.
-/

namespace VolumeController

open Yaml Yaml.Reader

/-- The tag categories in a YAML document. -/
def LabelsConfig.reader : Reader LabelsConfig := record {} [
  setting "zone" text fun zone l => { l with zone },
  setting "region" text fun region l => { l with region }]

/-- The settings of the controller in a YAML document. -/
def ControllerSettings.reader : Reader ControllerSettings := record {} [
  setting "serializeCreates" bool fun serializeCreates s => { s with serializeCreates },
  setting "requestTimeoutSecs" uint64 fun requestTimeoutSecs s => { s with requestTimeoutSecs }]

/-- A cluster of datastores in a YAML document. -/
def ClusterConfig.reader : Reader ClusterConfig := record {} [
  setting "name" text fun name c => { c with name },
  setting "datastores" (list text) fun datastores c => { c with datastores }]

/-- A datacenter in a YAML document. -/
def DatacenterConfig.reader : Reader DatacenterConfig := record {} [
  setting "name" text fun name d => { d with name },
  setting "zone" (option text) fun zone d => { d with zone },
  setting "region" (option text) fun region d => { d with region },
  setting "datastores" (list text) fun datastores d => { d with datastores },
  setting "datastoreClusters" (list ClusterConfig.reader) fun datastoreClusters d =>
    { d with datastoreClusters },
  setting "nodes" (list text) fun nodes d => { d with nodes }]

/-- A virtual center in a YAML document. -/
def CenterConfig.reader : Reader CenterConfig := record {} [
  setting "port" uint16 fun port c => { c with port },
  setting "apiVersion" text fun apiVersion c => { c with apiVersion },
  setting "datacenters" (list DatacenterConfig.reader) fun datacenters c => { c with datacenters }]

namespace Config

/-- A configuration in a YAML document. -/
def reader : Reader Config := record {} [
  setting "labels" LabelsConfig.reader fun labels c => { c with labels },
  setting "controller" ControllerSettings.reader fun controller c => { c with controller },
  setting "virtualCenters" (dict CenterConfig.reader) fun virtualCenters c => { c with virtualCenters }]

/-- The configuration that a YAML text says. A text without a document says nothing. -/
def ofYaml? (text : String) : Option Config := do
  match ← Node.ofText text with
  | none => return {}
  | some root => reader.run root

/-- Reads a configuration and checks it. White space alone is not looked at as YAML. -/
def read (text : String) : Except Error Config :=
  if text.toList.all Text.isWhiteSpace then .ok {}
  else match ofYaml? text with
    | none => .error (.yamlParse "the text is no configuration")
    | some config => config.validate.mapError Cause.toError

/-- Reads the configuration in a file, given its contents if there is such a file. -/
def load (path : String) : (contents : Option String) → Except Error Config
  | none => .error (Cause.fileMissing path).toError
  | some text => read text

end Config

end VolumeController
