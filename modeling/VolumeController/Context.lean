import VolumeController.Procedure
/-!
Contexts: the cancellation tokens that a request listens to and the time it must be done by.
-/

namespace VolumeController

/-- The context of a request. Times are in milliseconds of the platform's clock. -/
structure Context where
  /-- The tokens of which any one cancels the request. -/
  tokens : List Nat := []
  deadline : Option Nat := none
  deriving DecidableEq, Repr

namespace Context

/-- A context that nothing ends. -/
def background : Context := {}

/-- Whether one of the context's tokens is among the cancelled ones. -/
def isCancelled (ctx : Context) (cancelled : List Nat) : Bool :=
  ctx.tokens.any cancelled.contains

/-- Whether the deadline has been reached. -/
def isExpired (ctx : Context) (now : Nat) : Bool :=
  ctx.deadline.any (· ≤ now)

/-- How the context ends a wait at a given time. Cancellation comes before the deadline. -/
def abort? (ctx : Context) (cancelled : List Nat) (now : Nat) : Option Abort :=
  if ctx.isCancelled cancelled then some .cancelled
  else if ctx.isExpired now then some .deadlineExceeded
  else none

end Context

end VolumeController
