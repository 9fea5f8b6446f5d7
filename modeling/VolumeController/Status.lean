/-!
Status codes: the coarse outcome of a request that the orchestrator's retry policy depends on.
-/

namespace VolumeController

/-- How a request failed, as the orchestrator sees it. -/
inductive StatusCode where
  | invalidArgument
  | alreadyExists
  | notFound
  | internal
  | unimplemented
  | cancelled
  | deadlineExceeded
  | unavailable
  | unknown
  deriving DecidableEq, Repr

namespace StatusCode

/-- The name of a code on the wire. -/
def wireName : StatusCode → String
  | .invalidArgument => "INVALID_ARGUMENT"
  | .alreadyExists => "ALREADY_EXISTS"
  | .notFound => "NOT_FOUND"
  | .internal => "INTERNAL"
  | .unimplemented => "UNIMPLEMENTED"
  | .cancelled => "CANCELLED"
  | .deadlineExceeded => "DEADLINE_EXCEEDED"
  | .unavailable => "UNAVAILABLE"
  | .unknown => "UNKNOWN"

/-- The HTTP status that carries a code. -/
def httpStatus : StatusCode → Nat
  | .invalidArgument => 400
  | .alreadyExists => 409
  | .notFound => 404
  | .internal => 500
  | .unknown => 500
  | .unimplemented => 501
  | .cancelled => 499
  | .deadlineExceeded => 504
  | .unavailable => 503

/-- All codes. -/
def all : List StatusCode :=
  [.invalidArgument, .alreadyExists, .notFound, .internal, .unimplemented, .cancelled,
    .deadlineExceeded, .unavailable, .unknown]

theorem mem_all (c : StatusCode) : c ∈ all := by cases c <;> decide

end StatusCode

end VolumeController
