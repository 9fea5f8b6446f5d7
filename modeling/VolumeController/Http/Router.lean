import VolumeController.Context
import VolumeController.Http.MediaType
import VolumeController.Http.Target
import VolumeController.Message.ErrorReport
import VolumeController.Service
/-!
The service over HTTP: one route for each operation, and one that tells that the service is up. What is
wrong with a request is found in this order: target, path, method, media type, body.
-/

namespace VolumeController.Http

/-- A request. -/
structure Request where
  method : String
  path : String
  contentType : Option String
  body : String
  deriving DecidableEq

/-- The content of a response. -/
inductive Body where
  | json (value : Json)
  | text (value : String)
  /-- A refusal in words of the HTTP layer. -/
  | refusal

/-- A response. -/
structure Response where
  status : Nat
  contentType : Option String
  allow : Option String
  body : Body

namespace Response

/-- A response with a JSON value. -/
def json (status : Nat) (value : Json) : Response :=
  ⟨status, some "application/json", none, .json value⟩

/-- A response with a text. -/
def text (status : Nat) (value : String) : Response :=
  ⟨status, some "text/plain; charset=utf-8", none, .text value⟩

/-- The refusal of a request that has a route. -/
def refuse (status : Nat) : Response :=
  ⟨status, some "text/plain; charset=utf-8", none, .refusal⟩

/-- The refusal of a target that is not well formed. -/
def badTarget : Response := ⟨400, none, none, .refusal⟩

/-- The refusal of a path. -/
def notFound : Response := ⟨404, none, none, .refusal⟩

/-- The refusal of a method, with the methods that are taken. -/
def methodNotAllowed (allowed : String) : Response := ⟨405, none, some allowed, .refusal⟩

/-- The response that carries the result of an operation. -/
def ofResult {α : Type} (codec : Codec α) : Except Error α → Response
  | .ok a => json 200 (codec.encode a)
  | .error e => json e.code.httpStatus (ErrorReport.codec.encode (.ofError e))

end Response

/-- The path of an operation. -/
def rpcPath (name : String) : String := "/csi.v1.Controller/" ++ name

/-- The path that tells whether the service is up. -/
def healthPath : String := "/health"

/-- Takes the message of a request, if the operation takes one. -/
def message (m : Method) (r : Request) : Except Response m.Request :=
  if m.takesMessage then
    if r.contentType.any MediaType.isJson then
      match m.request.read r.body.toList with
      | .ok message => .ok message
      | .error .malformed => .error (.refuse 400)
      | .error .mismatch => .error (.refuse 422)
    else .error (.refuse 415)
  else
    match m.request.decode .null with
    | .ok message => .ok message
    | .error _ => .error (.refuse 422)

/-- Carries out an operation for a request. -/
def invoke (c : Controller) (m : Method) (r : Request) : Procedure Response :=
  if r.method = "POST" then
    match message m r with
    | .error response => return response
    | .ok message => return .ofResult m.response (← (m.handle c message).run)
  else return .methodNotAllowed "POST"

/-- Tells that the service is up. -/
def health (r : Request) : Response :=
  if r.method = "GET" then .text 200 "ok"
  else if r.method = "HEAD" then .text 200 ""
  else .methodNotAllowed "GET,HEAD"

/-- Answers a request. -/
def respond (c : Controller) (r : Request) : Procedure Response :=
  match Target.path? r.path with
  | none => return .badTarget
  | some path =>
    if path = healthPath then return health r
    else
      match Service.methods.find? fun m => rpcPath m.name = path with
      | some m => invoke c m r
      | none => return .notFound

/-- The context of a request that arrives at a given time: it ends with the service, or when its time
is up. -/
def requestContext (shutdown : Nat) (timeoutSecs : UInt64) (now : Nat) : Context :=
  ⟨[shutdown], some (now + timeoutSecs.toNat * 1000)⟩

end VolumeController.Http
