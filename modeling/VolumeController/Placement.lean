import VolumeController.Message.Topology
/-!
Placements: where a create request wants its volume.
-/

namespace VolumeController

/-- The placement of a new volume: by topology, or by one zone and region given as parameters. -/
inductive Placement where
  | topology (requirement : TopologyRequirement)
  | legacy (zone region : String)
  deriving DecidableEq

namespace Placement

/-- A topology requirement counts if it names at least one segment. -/
def of (requirement : Option TopologyRequirement) (zone region : String) : Placement :=
  match requirement with
  | some r => if r.requisite.isEmpty && r.preferred.isEmpty then .legacy zone region else .topology r
  | none => .legacy zone region

end Placement

/-- The segments of a requirement that are tried: the requisite ones if there are any. -/
def TopologyRequirement.candidates (r : TopologyRequirement) : String × List Topology :=
  if r.requisite.isEmpty then ("preferred", r.preferred) else ("requisite", r.requisite)

end VolumeController
