import VolumeController.Message.Volume
/-!
Messages that list volumes in pages.
-/

namespace VolumeController

/-- The wish for a page of volumes. -/
structure ListVolumesRequest where
  maxEntries : Int32
  startingToken : String
  deriving DecidableEq

/-- Everything may be left out. -/
def ListVolumesRequest.codec : Codec ListVolumesRequest :=
  .record
    (.cons (.defaulted "maxEntries" .int32 0) <| .cons (.defaulted "startingToken" .text "") .nil)
    (fun (maxEntries, startingToken, _) => ⟨maxEntries, startingToken⟩)
    (fun r => (r.maxEntries, r.startingToken, ()))

/-- One volume of a page. -/
structure ListVolumesEntry where
  volume : Volume
  deriving DecidableEq

/-- The volume must be there. -/
def ListVolumesEntry.codec : Codec ListVolumesEntry :=
  .record (.cons (.required "volume" Volume.codec) .nil) (fun (volume, _) => ⟨volume⟩)
    (fun r => (r.volume, ()))

/-- One page of the listing. The next token is empty when the listing is complete. -/
structure ListVolumesResponse where
  entries : List ListVolumesEntry
  nextToken : String
  deriving DecidableEq

/-- The entries must be there. -/
def ListVolumesResponse.codec : Codec ListVolumesResponse :=
  .record
    (.cons (.required "entries" (.list ListVolumesEntry.codec)) <|
      .cons (.defaulted "nextToken" .text "") .nil)
    (fun (entries, nextToken, _) => ⟨entries, nextToken⟩)
    (fun r => (r.entries, r.nextToken, ()))

end VolumeController
