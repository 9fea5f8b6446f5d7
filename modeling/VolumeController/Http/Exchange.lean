import VolumeController.Http.Router
/-!
Requests and responses as JSON values, one of each to a line.
-/

namespace VolumeController.Http

/-- A request as a record; only its method and path must be there. -/
def Request.codec : Codec Request :=
  .record
    (.cons (.required "method" .text) <| .cons (.required "path" .text) <|
      .cons (.optional "contentType" .text) <| .cons (.defaulted "body" .text "") .nil)
    (fun (method, path, contentType, body, _) => ⟨method, path, contentType, body⟩)
    (fun r => (r.method, r.path, r.contentType, r.body, ()))

namespace Response

/-- The content of a response as a value; a refusal has none. -/
def content : Body → Json
  | .json value => value
  | .text value => .string value
  | .refusal => .null

/-- A response as a record. -/
def toJson (r : Response) : Json :=
  .object [
    ("status", .int r.status), ("contentType", .ofText? r.contentType), ("allow", .ofText? r.allow),
    ("body", content r.body)]

end Response

end VolumeController.Http
