import VolumeController.Error
import VolumeController.Json.Record
/-!
The report of a failed request.
-/

namespace VolumeController

/-- What a client is told about a failed request: the name of the status code and the wording. -/
structure ErrorReport where
  error : String
  message : String
  details : Option String
  deriving DecidableEq

namespace ErrorReport

/-- The report of an error. -/
def ofError (e : Error) : ErrorReport :=
  ⟨e.code.wireName, e.message, none⟩

/-- Details must be stated in an array, since only an object can leave them out. -/
def codec : Codec ErrorReport :=
  .record
    (.cons (.required "error" .text) <| .cons (.required "message" .text) <|
      .cons { Field.omittable "details" .text with trailing := false } .nil)
    (fun (error, message, details, _) => ⟨error, message, details⟩)
    (fun r => (r.error, r.message, r.details, ()))

end ErrorReport

end VolumeController
