import VolumeController.Http.Router
import VolumeController.VolumeStore
/-!
Answers: what the steps of a scenario show.
-/

namespace VolumeController

/-- What a node shows of an attachment: how many there are, and the handle of one path. -/
structure NodeView where
  name : String
  attached : Nat
  handle : Option String
  deriving DecidableEq

/-- What a step shows when it succeeds. -/
inductive Answer where
  | nothing
  | flag (value : Bool)
  | count (value : Nat)
  | text (value : String)
  | texts (values : List String)
  | site (site : Site)
  | sites (sites : List Site)
  | disk (disk : Option Disk)
  | disks (disks : List Disk)
  | located (disks : List LocatedDisk)
  | owned (site : Site) (disk : Disk)
  | outcome (outcome : CreateOutcome)
  | node (view : Option NodeView)
  /-- The message that an operation of the service gave. -/
  | message (value : Json)
  | response (response : Http.Response)
  | exposition (mediaType : String) (lines : List String)

/-- What a step ends with. -/
abbrev StepResult := Except Error Answer

end VolumeController
