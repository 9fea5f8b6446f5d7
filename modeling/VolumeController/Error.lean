import VolumeController.Status
/-!
Errors: what the virtualization platform reports, and what a request can end with.
-/

namespace VolumeController

/-- A failure reported by the virtualization platform. -/
inductive BackendError where
  | notFound (kind name : String)
  | api (operation reason : String)
  | connection (server reason : String)
  | noZoneMatch (zone region : String)
  deriving DecidableEq, Repr

namespace BackendError

/-- The wording of a platform failure. -/
def message : BackendError → String
  | .notFound kind name => s!"{kind} not found: {name}"
  | .api operation reason => s!"{operation} failed: {reason}"
  | .connection server reason => s!"connection to {server} failed: {reason}"
  | .noZoneMatch zone region => s!"no datacenter matches zone={zone} region={region}"

/-- The status code of a platform failure that is passed through. -/
def code : BackendError → StatusCode
  | .notFound _ _ => .notFound
  | .noZoneMatch _ _ => .notFound
  | .connection _ _ => .unavailable
  | .api _ _ => .unknown

end BackendError

/-- How a request, a start-up check or the reading of a configuration ends when it fails. -/
inductive Error where
  | invalidArgument (text : String)
  | alreadyExists (text : String)
  | notFound (text : String)
  /-- No site has a disk of this id. -/
  | diskNotFound (id : String)
  | unimplemented (operation : String)
  /-- The request was cancelled while the operation was due. -/
  | cancelled (operation : String)
  /-- The request's deadline was reached while the operation was due. -/
  | deadlineExceeded (operation : String)
  | internal (text : String)
  /-- A platform failure passed through as it is. -/
  | backend (failure : BackendError)
  /-- A disk that no caller may hand to the operation. -/
  | contractViolation (text : String)
  | configuration (text : String)
  | yamlParse (text : String)
  | jsonParse (text : String)
  | metrics (text : String)
  | io (text : String)
  deriving DecidableEq, Repr

namespace Error

/-- The wording of an error. -/
def message : Error → String
  | .invalidArgument text => text
  | .alreadyExists text => text
  | .notFound text => text
  | .diskNotFound id => s!"no first class disk found with id {id}"
  | .unimplemented operation => s!"{operation} is not implemented"
  | .cancelled operation => s!"{operation} cancelled"
  | .deadlineExceeded operation => s!"{operation} exceeded its deadline"
  | .internal text => text
  | .backend failure => failure.message
  | .contractViolation text => s!"contract violation: {text}"
  | .configuration text => s!"Configuration error: {text}"
  | .yamlParse text => s!"YAML parse error: {text}"
  | .jsonParse text => s!"JSON parse error: {text}"
  | .metrics text => s!"Metrics error: Error: {text}"
  | .io text => s!"IO error: {text}"

/-- The status code of an error. -/
def code : Error → StatusCode
  | .invalidArgument _ => .invalidArgument
  | .alreadyExists _ => .alreadyExists
  | .notFound _ => .notFound
  | .diskNotFound _ => .notFound
  | .unimplemented _ => .unimplemented
  | .cancelled _ => .cancelled
  | .deadlineExceeded _ => .deadlineExceeded
  | .backend failure => failure.code
  | _ => .internal

/-- Whether the request's own context ended it. -/
def isAborted : Error → Bool
  | .cancelled _ => true
  | .deadlineExceeded _ => true
  | _ => false

end Error

end VolumeController
