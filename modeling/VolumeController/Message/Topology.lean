import VolumeController.Json.Record
/-!
Topology: where a volume may be reached from, as segments of labelled values.
-/

namespace VolumeController

/-- The label of the region in a topology segment. -/
def regionLabel : String := "failure-domain.beta.kubernetes.io/region"

/-- The label of the zone in a topology segment. -/
def zoneLabel : String := "failure-domain.beta.kubernetes.io/zone"

/-- One topology segment: a value for each of some labels. -/
structure Topology where
  segments : Dict String
  deriving DecidableEq

/-- The value of a label, empty if the segment has none. -/
def Topology.segment (topology : Topology) (label : String) : String :=
  (topology.segments.get? label).getD ""

/-- A place without segments may be written as an empty record. -/
def Topology.codec : Codec Topology :=
  .record (.cons (.defaulted "segments" (.dict .text) .empty) .nil)
    (fun (segments, _) => ⟨segments⟩) (fun t => (t.segments, ()))

/-- Where a new volume must be accessible, and where it should be. -/
structure TopologyRequirement where
  requisite : List Topology
  preferred : List Topology
  deriving DecidableEq

/-- Either list of places may be left out. -/
def TopologyRequirement.codec : Codec TopologyRequirement :=
  .record
    (.cons (.defaulted "requisite" (.list Topology.codec) []) <|
      .cons (.defaulted "preferred" (.list Topology.codec) []) .nil)
    (fun (requisite, preferred, _) => ⟨requisite, preferred⟩)
    (fun r => (r.requisite, r.preferred, ()))

end VolumeController
