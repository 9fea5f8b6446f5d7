import VolumeController.Proofs.Attachments.Requests
import VolumeController.Proofs.Interleaving.Chronicles
/-! The history of a volume and a node: the publishes and unpublishes of the two that took effect. Each volume and
node are a state machine of their own, in which turns of other requests leave everything as it is. Main results: what
is left is the handle of the last publish, unless an unpublish followed it. -/

namespace VolumeController

/-- A request with what it was answered with. -/
abbrev Answered : Type := (request : VolumeRequest) × Except Error request.Response

/-- The volume and the node that a request is about, if it is about both. -/
def VolumeRequest.target? : VolumeRequest → Option (String × String)
  | .publish request => some (request.volumeId, request.nodeId)
  | .unpublish request => some (request.volumeId, request.nodeId)
  | _ => none

namespace Turn

/-- A publish of a volume and a node takes effect: a file is attached for it, under a handle. -/
def Publishes (requests : List (Context × VolumeRequest)) (id node handle : String) (turn : Turn) : Prop :=
  (∃ ctx request, requests[turn.number]? = some (ctx, .publish request) ∧
    request.volumeId = id ∧ request.nodeId = node) ∧
  ∃ vm path bus, turn.heard = some (.attached vm path bus handle)

/-- An unpublish of a volume and a node takes effect: a file is detached for it. -/
def Unpublishes (requests : List (Context × VolumeRequest)) (id node : String) (turn : Turn) : Prop :=
  (∃ ctx request, requests[turn.number]? = some (ctx, .unpublish request) ∧
    request.volumeId = id ∧ request.nodeId = node) ∧
  ∃ vm path, turn.heard = some (.detached vm path)

/-- A publish or an unpublish of a volume and a node takes effect. -/
def Concerns (requests : List (Context × VolumeRequest)) (id node : String) (turn : Turn) : Prop :=
  (∃ handle, turn.Publishes requests id node handle) ∨ turn.Unpublishes requests id node

/-- Nothing is attached or detached. -/
def Idle (turn : Turn) : Prop :=
  ∀ call answer, turn.heard = some ⟨.call call, .ok (.ok answer)⟩ → ¬ call.TouchesNodes

variable {requests : List (Context × VolumeRequest)} {id id' node node' handle handle' : String} {turn : Turn}

theorem Publishes.handle_eq (h : turn.Publishes requests id node handle)
    (h' : turn.Publishes requests id' node' handle') : handle = handle' := by
  obtain ⟨-, vm, path, bus, hHeard⟩ := h
  obtain ⟨-, vm', path', bus', hHeard'⟩ := h'
  cases hHeard.symm.trans hHeard'
  rfl

theorem Publishes.not_unpublishes (h : turn.Publishes requests id node handle) :
    ¬ turn.Unpublishes requests id' node' := by
  rintro ⟨⟨ctx', request', hRequest', -⟩, -⟩
  obtain ⟨⟨ctx, request, hRequest, -⟩, -⟩ := h
  cases hRequest.symm.trans hRequest'

/-- The request of a turn that concerns a volume and a node is about the two. -/
theorem Concerns.target (h : turn.Concerns requests id node) {ctx : Context} {request : VolumeRequest}
    (hRequest : requests[turn.number]? = some (ctx, request)) : request.target? = some (id, node) := by
  rcases h with ⟨_, ⟨ctx', request', hRequest', rfl, rfl⟩, -⟩ | ⟨⟨ctx', request', hRequest', rfl, rfl⟩, -⟩
  · cases hRequest.symm.trans hRequest'
    rfl
  · cases hRequest.symm.trans hRequest'
    rfl

theorem Idle.of_unanswered (h : ∀ call answer, turn.heard ≠ some ⟨.call call, .ok (.ok answer)⟩) : turn.Idle :=
  fun call answer hHeard => absurd hHeard (h call answer)

theorem Idle.not_concerns (h : turn.Idle) : ¬ turn.Concerns requests id node := by
  rintro (⟨handle, -, vm, path, bus, hHeard⟩ | ⟨-, vm, path, hHeard⟩)
  · exact h (.attachDisk vm path bus) handle hHeard trivial
  · exact h (.detachDisk vm path) () hHeard trivial

end Turn

/-- The handle that a volume and a node are left with by turns, if any. A publish finds the volume unattached, or
attached under the handle that it is told. -/
inductive Standing (requests : List (Context × VolumeRequest)) (id node : String) :
    List Turn → Option String → Prop where
  | start : Standing requests id node [] none
  | publish {turn : Turn} {turns : List Turn} {before : Option String} {handle : String}
      (h : Standing requests id node turns before) (hTurn : turn.Publishes requests id node handle)
      (hBefore : before = none ∨ before = some handle) : Standing requests id node (turn :: turns) (some handle)
  | unpublish {turn : Turn} {turns : List Turn} {before : Option String}
      (h : Standing requests id node turns before) (hTurn : turn.Unpublishes requests id node) :
      Standing requests id node (turn :: turns) none
  | other {turn : Turn} {turns : List Turn} {before : Option String}
      (h : Standing requests id node turns before) (hTurn : ¬ turn.Concerns requests id node) :
      Standing requests id node (turn :: turns) before

namespace Standing

variable {requests : List (Context × VolumeRequest)} {id node handle : String} {turn : Turn}
  {turns later between earlier : List Turn} {state : Option String}

/-- A handle comes from a publish that no unpublish has followed. -/
theorem exists_publishes (h : Standing requests id node turns (some handle)) :
    ∃ later turn earlier, turns = later ++ turn :: earlier ∧ turn.Publishes requests id node handle ∧
      ∀ t ∈ later, ¬ t.Unpublishes requests id node := by
  generalize hState : some handle = state at h
  induction h with
  | start => cases hState
  | @publish turn turns before handle' h hTurn hBefore =>
      cases hState
      exact ⟨[], turn, turns, rfl, hTurn, List.forall_mem_nil _⟩
  | unpublish => cases hState
  | @other turn turns before h hTurn ih =>
      obtain ⟨later, turn', earlier, rfl, hPublishes, hLater⟩ := ih hState
      refine ⟨turn :: later, turn', earlier, rfl, hPublishes, List.forall_mem_cons.2 ⟨?_, hLater⟩⟩
      exact fun hUnpublishes => hTurn (.inr hUnpublishes)

/-- A publish leaves the handle that it was told until an unpublish follows. -/
theorem eq_of_publishes (h : Standing requests id node (later ++ turn :: earlier) state)
    (hTurn : turn.Publishes requests id node handle) (hLater : ∀ t ∈ later, ¬ t.Unpublishes requests id node) :
    state = some handle := by
  induction later generalizing state with
  | nil =>
      cases h with
      | publish _ hTurn' _ => rw [hTurn'.handle_eq hTurn]
      | unpublish _ hTurn' => exact absurd hTurn' hTurn.not_unpublishes
      | other _ hTurn' => exact absurd (.inl ⟨handle, hTurn⟩) hTurn'
  | cons t later ih =>
      obtain ⟨hFirst, hRest⟩ := List.forall_mem_cons.1 hLater
      cases h with
      | publish h _ hBefore =>
          obtain hNone | hSame := hBefore
          · cases hNone.symm.trans (ih h hRest)
          · exact hSame.symm.trans (ih h hRest)
      | unpublish _ hTurn' => exact absurd hTurn' hFirst
      | other h _ => exact ih h hRest

/-- What is left at the end was left by what went before. -/
theorem of_append (h : Standing requests id node (later ++ earlier) state) :
    ∃ before, Standing requests id node earlier before := by
  induction later generalizing state with
  | nil => exact ⟨state, h⟩
  | cons t later ih =>
      cases h with
      | publish h => exact ih h
      | unpublish h => exact ih h
      | other h => exact ih h

/-- Two publishes without an unpublish between them are told the same handle. -/
theorem handle_eq {turn' : Turn} {handle' : String}
    (h : Standing requests id node (later ++ turn :: (between ++ turn' :: earlier)) state)
    (hTurn : turn.Publishes requests id node handle) (hTurn' : turn'.Publishes requests id node handle')
    (hBetween : ∀ t ∈ between, ¬ t.Unpublishes requests id node) : handle = handle' := by
  obtain ⟨left, hLeft⟩ := h.of_append
  have hFirst : Standing requests id node ([] ++ turn :: (between ++ turn' :: earlier)) left := hLeft
  have hSecond : Standing requests id node ((turn :: between) ++ turn' :: earlier) left := hLeft
  have hUnbroken : ∀ t ∈ turn :: between, ¬ t.Unpublishes requests id node :=
    List.forall_mem_cons.2 ⟨hTurn.not_unpublishes, hBetween⟩
  have hHandle := hFirst.eq_of_publishes hTurn (List.forall_mem_nil _)
  exact Option.some.inj (hHandle.symm.trans (hSecond.eq_of_publishes hTurn' hUnbroken))

/-- Without a publish there is no handle. -/
theorem of_unpublished (h : ∀ turn ∈ turns, ∀ handle, ¬ turn.Publishes requests id node handle) :
    Standing requests id node turns none := by
  induction turns with
  | nil => exact .start
  | cons turn turns ih =>
      obtain ⟨hFirst, hRest⟩ := List.forall_mem_cons.1 h
      by_cases hTurn : turn.Unpublishes requests id node
      · exact .unpublish (ih hRest) hTurn
      · refine .other (ih hRest) ?_
        rintro (⟨handle, hPublishes⟩ | hUnpublishes)
        · exact hFirst handle hPublishes
        · exact hTurn hUnpublishes

end Standing

end VolumeController
