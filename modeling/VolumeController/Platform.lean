import VolumeController.Event
import VolumeController.Platform.Call
/-!
Platforms: what answers the calls of the controller. A call is started, which may note that it came,
and after some time finished, which is when it takes effect; a call that is never finished has none.
-/

namespace VolumeController

/-- A state that answers calls. -/
class Platform (σ : Type) where
  /-- What is remembered of a started call. -/
  Ticket : Type
  /-- The configured virtual centers. -/
  centers : σ → List String
  /-- The datacenter of a name at a virtual center. -/
  datacenter? : σ → (center name : String) → Option Datacenter
  /-- Starts a call: what is remembered of it, and how long it takes in milliseconds. -/
  start : Call → σ → Ticket × Nat × σ
  /-- Finishes a call: the reply, and what the platform notes. -/
  finish : (c : Call) → Ticket → σ → c.Reply × List Event × σ

end VolumeController
