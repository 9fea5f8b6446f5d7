import VolumeController.Listing.Page
import VolumeController.Message.Listing
import VolumeController.Procedure
/-!
The listing: every disk of every site that can answer, in order of enumeration, cut into pages. Nothing
is kept between pages; each is cut from a listing of its own.
-/

namespace VolumeController

/-- A disk together with the endpoint and the datacenter that it lies at. -/
structure LocatedDisk where
  endpoint : String
  datacenter : String
  disk : Disk
  deriving DecidableEq

/-- The report of a located disk. -/
def LocatedDisk.volume (d : LocatedDisk) : Except Cause Volume :=
  Volume.ofDisk d.disk d.endpoint d.datacenter

namespace Listing

/-- The disks of the sites that answered, each with its site; the others are noted and passed over. -/
def collect : List Site → List (Except BackendError (List Disk)) → Operation (List LocatedDisk)
  | site :: sites, .ok disks :: answers => do
    let rest ← collect sites answers
    return disks.map (⟨site.endpoint, site.datacenter.name, ·⟩) ++ rest
  | site :: sites, .error failure :: answers => do
    Operation.note (.listingSkipped site.endpoint site.datacenter.name failure)
    collect sites answers
  | _, _ => return []

/-- Every disk of every site that can answer. -/
def allDisks : Operation (List LocatedDisk) := do
  match ← Operation.call "ListBackendInstances" .listSites with
  | .error failure => Operation.reject (.sitesUnlisted failure)
  | .ok sites =>
    let answers ← Operation.wait "ListFirstClassDisks" (.listings (sites.map Site.datacenter))
    collect sites answers

/-- The entries of a page; the first disk that cannot be reported fails all of them. -/
def entries : List LocatedDisk → Except Cause (List ListVolumesEntry)
  | [] => .ok []
  | disk :: disks => do
    let volume ← disk.volume
    let rest ← entries disks
    return ⟨volume⟩ :: rest

/-- Reads a page limit: zero sets none. -/
def limit (maxEntries : Int32) : Except Cause Nat :=
  if maxEntries.toInt < 0 then .error (.limitNegative maxEntries.toInt)
  else .ok maxEntries.toInt.toNat

/-- One page of the listing. -/
def page (request : ListVolumesRequest) : Operation ListVolumesResponse := do
  let limit ← Operation.ofCause (limit request.maxEntries)
  let start ← Operation.ofCause (offsetOfToken request.startingToken)
  let disks ← allDisks
  let bounds ← Operation.ofCause (PageBounds.compute start limit disks.length)
  Operation.note (.pageSelected bounds.start bounds.stop bounds.total)
  let entries ← Operation.ofCause (entries (bounds.slice disks))
  if bounds.nextToken ≠ "" then Operation.note (.pageContinues bounds.nextToken)
  return ⟨entries, bounds.nextToken⟩

end Listing

end VolumeController
