import VolumeController.Config
import VolumeController.Placement
import VolumeController.Procedure
/-!
Resolution of placements: the first candidate segment that some site matches decides where a volume
goes. An aborted request does not move on to the next segment.
-/

namespace VolumeController.Placement

/-- Ends a failed resolution: an abort stays what it is, all else is an internal failure that names the
zone tried last. -/
def exhausted {α : Type} (zone : String) (cause : Error) : Operation α :=
  if cause.isAborted then do
    Operation.note (.zoneAborted zone cause)
    throw cause
  else Operation.reject (.zoneUnresolved zone cause)

/-- Asks the platform for the site of a zone and region. -/
def lookup (labels : LabelsConfig) (zone region : String) : Operation Site := do
  match ← Operation.call "ResolveZone" (.resolveZone ⟨labels.zone, labels.region, zone, region⟩) with
  | .ok site => return site
  | .error failure => throw (.backend failure)

/-- Tries segments in order, remembering the zone and the failure of the last one. -/
def searchSegments (labels : LabelsConfig) : String × Error → List Topology → Operation Site
  | (zone, cause), [] => exhausted zone cause
  | _, segment :: segments => do
    let zone := segment.segment zoneLabel
    let region := segment.segment regionLabel
    match ← Operation.attempt (lookup labels zone region) with
    | .ok site =>
      Operation.note (.zoneResolved zone region site.endpoint site.datacenter.name)
      return site
    | .error e =>
      if e.isAborted then exhausted zone e else searchSegments labels (zone, e) segments

/-- Finds the site of a placement. -/
def resolve (labels : LabelsConfig) : Placement → Operation Site
  | .topology requirement => do
    let (kind, segments) := requirement.candidates
    Operation.note (.resolvingTopology kind segments.length)
    searchSegments labels ("", .notFound "no topology segments") segments
  | .legacy zone region => do
    Operation.note (.resolvingLegacy zone region)
    match ← Operation.attempt (lookup labels zone region) with
    | .ok site => return site
    | .error e => exhausted zone e

end VolumeController.Placement
