import Mathlib.Algebra.Group.Int.Defs
import VolumeController.Proofs.Listings.Parameters
import VolumeController.Proofs.Promptness
import VolumeController.Proofs.Uncounted
import VolumeController.Proofs.WellFormed.Requests
/-! Malformed requests: those that lack a name or an id, or whose numbers are out of range. Main result: whatever the
platform answers and whatever contexts do, a request is called invalid exactly if it is malformed, and then nothing
is asked of the platform. -/

namespace VolumeController

variable {σ α : Type}

/-- Whether a parameter is missing or empty. -/
def Controller.Lacks (parameters : Dict String) (key : String) : Prop :=
  ∀ value, parameters.get? key = some value → value = ""

/-- Whether a request is malformed. The largest size that can be asked for is one gibibyte less than the first byte
count that cannot be reported. -/
def VolumeRequest.Malformed : VolumeRequest → Prop
  | .create request => request.parameters = .empty ∨ request.name = "" ∨
    Controller.Lacks request.parameters "parent_type" ∨ Controller.Lacks request.parameters "parent_name" ∨
    request.required.toInt < 0 ∨ 2 ^ 63 - 2 ^ 30 < request.required.toInt
  | .delete request => request.volumeId = ""
  | .publish request => request.volumeId = "" ∨ request.nodeId = ""
  | .unpublish request => request.volumeId = "" ∨ request.nodeId = ""
  | .list request => request.maxEntries.toInt < 0 ∨ ∀ offset, ¬ StartsAt request.startingToken offset

/-! Creates. -/

namespace Controller

theorem parameter_eq_empty_iff (parameters : Dict String) (key : String) :
    parameter parameters key = "" ↔ Lacks parameters key := by
  unfold parameter Lacks
  cases parameters.get? key with
  | none => exact ⟨fun _ => nofun, fun _ => rfl⟩
  | some value => exact ⟨fun hEmpty _ hSame => Option.some.inj hSame ▸ hEmpty, fun h => h value rfl⟩

theorem exists_requiredParameter_iff (parameters : Dict String) (key : String) :
    (∃ value, requiredParameter parameters key = .ok value) ↔ ¬ Lacks parameters key := by
  rw [← parameter_eq_empty_iff, requiredParameter]
  split
  · rename_i hEmpty
    refine ⟨?_, fun h => absurd hEmpty h⟩
    rintro ⟨_, ⟨⟩⟩
  · rename_i hSome
    exact ⟨fun _ => hSome, fun _ => ⟨_, rfl⟩⟩

theorem exists_refusal_of_ids {volumeId nodeId : String} (h : volumeId = "" ∨ nodeId = "") :
    ∃ cause : Cause, cause.Refuses ∧ requireIds volumeId nodeId = Operation.reject cause := by
  unfold requireIds
  split
  · exact ⟨.volumeIdMissing, rfl, rfl⟩
  · rename_i hVolume
    exact ⟨.nodeIdMissing, rfl, if_pos (h.resolve_left hVolume)⟩

/-- A create is accepted exactly if it is well formed. -/
theorem exists_order_iff (request : CreateVolumeRequest) :
    (∃ order, Controller.order request = .ok order) ↔ ¬ (VolumeRequest.create request).Malformed := by
  unfold Controller.order VolumeRequest.Malformed
  simp only [not_or]
  split
  · rename_i hEmpty
    refine ⟨?_, fun h => absurd (Dict.ext (List.isEmpty_iff.1 hEmpty)) h.1⟩
    rintro ⟨_, ⟨⟩⟩
  · rename_i hParameters
    have hSome : request.parameters ≠ .empty := fun hNone => hParameters (hNone ▸ rfl)
    split
    · rename_i hName
      refine ⟨?_, fun h => absurd hName h.2.1⟩
      rintro ⟨_, ⟨⟩⟩
    · rename_i hName
      rw [and_iff_right hSome, and_iff_right hName, ← exists_requiredParameter_iff, ← exists_requiredParameter_iff,
        Int.not_lt, Int.not_lt, ← Capacity.exists_requestedMb_iff]
      constructor
      · rintro ⟨order, hOrder⟩
        obtain ⟨kind, hKind, hOrder⟩ := bind_eq_ok hOrder
        obtain ⟨name, hName, hOrder⟩ := bind_eq_ok hOrder
        obtain ⟨sizeMb, hSize, -⟩ := bind_eq_ok hOrder
        exact ⟨⟨kind, hKind⟩, ⟨name, hName⟩, sizeMb, hSize⟩
      · rintro ⟨⟨kind, hKind⟩, ⟨name, hName⟩, sizeMb, hSize⟩
        have hRequired : Capacity.requestedMb ((request.capacityRange.map (·.requiredBytes)).getD 0) = .ok sizeMb :=
          hSize
        rw [Attribute.parentType, Attribute.parentName, hKind, hName, hRequired]
        exact ⟨_, rfl⟩

/-! What becomes of malformed requests, and of others. -/

/-- A malformed request is refused at once. -/
theorem exists_refusal_of_malformed (c : Controller) {request : VolumeRequest} (h : request.Malformed) :
    ∃ cause : Cause, cause.Refuses ∧ c.handleUncounted request = Operation.reject cause := by
  cases request with
  | create request =>
      cases hOrder : Controller.order request with
      | ok order => exact absurd h ((exists_order_iff request).1 ⟨order, hOrder⟩)
      | error cause =>
          refine ⟨cause, Cause.refuses_of_order hOrder, ?_⟩
          rw [handleUncounted, createVolumeUncounted, hOrder]
          rfl
  | delete request =>
      refine ⟨.volumeIdMissing, rfl, ?_⟩
      have hId : request.volumeId = "" := h
      rw [handleUncounted, deleteVolumeUncounted, if_pos hId]
      rfl
  | publish request =>
      obtain ⟨cause, hRefuses, hIds⟩ := exists_refusal_of_ids h
      refine ⟨cause, hRefuses, ?_⟩
      rw [handleUncounted, publishVolumeUncounted, hIds]
      rfl
  | unpublish request =>
      obtain ⟨cause, hRefuses, hIds⟩ := exists_refusal_of_ids h
      refine ⟨cause, hRefuses, ?_⟩
      rw [handleUncounted, unpublishVolumeUncounted, hIds]
      rfl
  | list request =>
      rw [handleUncounted, Listing.page]
      cases hLimit : Listing.limit request.maxEntries with
      | error cause => exact ⟨cause, Cause.refuses_of_limit hLimit, rfl⟩
      | ok limit =>
          cases hStart : offsetOfToken request.startingToken with
          | error cause => exact ⟨cause, Cause.refuses_of_offsetOfToken hStart, rfl⟩
          | ok start =>
              rw [Listing.limit_eq_ok_iff] at hLimit
              rw [offsetOfToken_eq_ok_iff] at hStart
              rcases h with hNegative | hUnreadable
              · omega
              · exact absurd hStart (hUnreadable start)

/-- A request that is not malformed is not called invalid, whatever else becomes of it. -/
theorem accepts_of_not_malformed (c : Controller) {request : VolumeRequest} (h : ¬ request.Malformed) :
    (c.handleUncounted request).run.Uncounted Accepts := by
  cases request with
  | create request =>
      obtain ⟨order, hOrder⟩ := (exists_order_iff request).2 h
      exact Accepts.createVolume c hOrder
  | delete request => exact Accepts.deleteVolume h
  | publish request => exact Accepts.publishVolume (not_or.1 h).1 (not_or.1 h).2
  | unpublish request => exact Accepts.unpublishVolume (not_or.1 h).1 (not_or.1 h).2
  | list request =>
      obtain ⟨hSign, hReadable⟩ := not_or.1 h
      obtain ⟨start, hStart⟩ := not_forall_not.1 hReadable
      have hLimit : Listing.limit request.maxEntries = .ok request.maxEntries.toInt.toNat :=
        (Listing.limit_eq_ok_iff _ _).2 (by omega)
      exact Accepts.listVolumes hLimit ((offsetOfToken_eq_ok_iff _ _).2 hStart)

end Controller

theorem Procedure.Uncounted.meets {p : Procedure α} {goal : α → Prop} (h : p.Uncounted goal) {C : Contract}
    (hAsks : ∀ wait, C.asks wait) : p.Meets C goal := by
  induction p with
  | done a => exact h
  | act action next ih => exact fun answer => ih answer (h.2 answer)
  | await wait next ih => exact ⟨hAsks wait, fun answer _ => ih answer (h answer)⟩

/-- Whoever answers a request that is not malformed, it is not called invalid. -/
theorem Controller.answer_meets (c : Controller) {request : VolumeRequest} (h : ¬ request.Malformed) {C : Contract}
    (hAsks : ∀ wait, C.asks wait) : (c.answer request).Meets C fun answered => Accepts answered.2 := by
  apply Procedure.Meets.bind
  rw [handle_eq_instrumented]
  exact .instrumented ((c.accepts_of_not_malformed h).meets hAsks)

/-- A malformed request is answered without a wait. -/
theorem Controller.exists_answer_quits (c : Controller) {request : VolumeRequest} (h : request.Malformed) :
    ∃ e : Error, e.code = .invalidArgument ∧ (c.answer request).Quits ⟨request, .error e⟩ := by
  obtain ⟨cause, hRefuses, hRefusal⟩ := c.exists_refusal_of_malformed h
  refine ⟨cause.toError, hRefuses, ?_⟩
  rw [answer, handle_eq_instrumented, hRefusal]
  exact fun _ _ => rfl

/-! Threads that wait for nothing. -/

theorem Procedure.Path.quits {p q : Procedure α} {path : List Exchange} {a : α} (h : p.Path path q)
    (hQuits : p.Quits a) : q.Quits a := by
  induction h with
  | refl p => exact hQuits
  | act answer _ ih => exact ih (hQuits answer)
  | await answer _ ih => exact hQuits.elim

/-- A thread that quits leaves the platform alone. -/
theorem Thread.Step.quiet_of_quits [Platform σ] {aborts : Prop} {number : Nat} {t t' : Thread σ α} {w w' : World σ}
    {a : α} (h : t.Step aborts number w t' w') (hQuits : t.progress.rest.Quits a) :
    w'.platform = w.platform ∧ w'.calls = w.calls := by
  cases h with
  | act action next => cases action <;> exact ⟨rfl, rfl⟩
  | refuse => exact hQuits.elim
  | enter => exact hQuits.elim
  | abandon => exact hQuits.elim
  | answer => exact hQuits.elim
  | linger => exact hQuits.elim

namespace System

variable [Bench σ] {number : Nat} {ctx : Context}

/-- A thread that quits can be carried to its end, whatever its context does, and leaves the platform alone. -/
theorem exists_done_of_quits (env : Surroundings σ) {s : System σ α} {p : Procedure α} {a : α} (hQuits : p.Quits a)
    (hThread : s.threads[number]? = some ⟨ctx, .running p⟩) :
    ∃ s', Runs env s s' ∧ s'.result? number = some a ∧ s'.world.platform = s.world.platform ∧
      s'.world.calls = s.world.calls := by
  induction p generalizing s with
  | done b =>
      obtain rfl : b = a := hQuits
      exact ⟨s, .refl, result?_of_thread hThread, rfl, rfl⟩
  | await wait next ih => exact hQuits.elim
  | act action next ih =>
      have hAct : (⟨ctx, .running (.act action next)⟩ : Thread σ α).Step env.aborts number s.world
          ⟨ctx, .running (next (s.world.perform action).1)⟩ (s.world.perform action).2 := .act action next
      have hQuiet := hAct.quiet_of_quits hQuits
      obtain ⟨s', hRuns, hResult, hPlatform, hCalls⟩ := ih _ (hQuits _)
        (s := ⟨(s.world.perform action).2, s.threads.set number _⟩)
        (List.getElem?_set_self (List.getElem?_eq_some_iff.1 hThread).1)
      exact ⟨s', .head (.thread hThread hAct) hRuns, hResult, hPlatform.trans hQuiet.1, hCalls.trans hQuiet.2⟩

/-- What becomes of a job that quits: it ends in no other way, its steps leave the platform alone, and at every moment
such steps alone can carry it to its end. -/
theorem Runs.of_quits {env : Surroundings σ} {w : World σ} {jobs : List (Context × Procedure α)} {s : System σ α}
    (h : Runs env (System.start w jobs) s) {job : Context × Procedure α} (hJob : jobs[number]? = some job) {a : α}
    (hQuits : job.2.Quits a) :
    (∀ b, s.result? number = some b → b = a) ∧
    (∀ t t' w', s.threads[number]? = some t → t.Step env.aborts number s.world t' w' →
      w'.platform = s.world.platform ∧ w'.calls = s.world.calls) ∧
    ∃ s', Runs env s s' ∧ s'.result? number = some a ∧ s'.world.platform = s.world.platform ∧
      s'.world.calls = s.world.calls := by
  obtain ⟨⟨ctx, progress⟩, path, hThread, hPath⟩ := h.exists_thread_path hJob
  have hRest := hPath.quits hQuits
  refine ⟨fun b hResult => ?_, fun t t' w' hThread' hStep => ?_, ?_⟩
  · obtain ⟨path, hPath⟩ := h.exists_path_of_result hJob hResult
    exact hPath.quits hQuits
  · obtain rfl := Option.some.inj (hThread.symm.trans hThread')
    exact hStep.quiet_of_quits hRest
  · cases progress with
    | waiting suspended => exact hRest.elim
    | running p => exact exists_done_of_quits env hRest hThread

end System

/-- Whether a request was answered with the error of an invalid request. -/
def VolumeRequest.IsCalledInvalid (answered : (request : VolumeRequest) × Except Error request.Response) : Prop :=
  ∃ e, answered.2 = .error e ∧ e.code = .invalidArgument

/-- Any requests at once, over any platform in any state, under any contexts, be they cancelled or out of time before
they begin. A request is called invalid exactly if it is malformed. No step of a malformed request calls the platform
or changes it, and at every moment the request can be carried to its answer by such steps alone. -/
theorem invalid_iff_malformed [Bench σ] {env : Surroundings σ} {w : World σ} (controller : Controller)
    {requests : List (Context × VolumeRequest)}
    {s : System σ ((request : VolumeRequest) × Except Error request.Response)}
    (hRuns : System.Runs env (.start w (controller.answers requests)) s) {number : Nat} {ctx : Context}
    {request : VolumeRequest} (hRequest : requests[number]? = some (ctx, request)) :
    (∀ answered, s.result? number = some answered → (VolumeRequest.IsCalledInvalid answered ↔ request.Malformed)) ∧
    (request.Malformed →
      (∀ t t' w', s.threads[number]? = some t → t.Step env.aborts number s.world t' w' →
        w'.platform = s.world.platform ∧ w'.calls = s.world.calls) ∧
      ∃ s' answered, System.Runs env s s' ∧ s'.result? number = some answered ∧
        VolumeRequest.IsCalledInvalid answered ∧ s'.world.platform = s.world.platform ∧
        s'.world.calls = s.world.calls) := by
  have hJob := controller.getElem?_answers hRequest
  refine ⟨fun answered hResult => ⟨?_, fun hMalformed => ?_⟩, fun hMalformed => ?_⟩
  · rintro ⟨e, hError, hCode⟩
    by_contra hWellFormed
    obtain ⟨path, hPath⟩ := System.Runs.exists_path_of_result hRuns hJob hResult
    have hAccepts : Accepts answered.2 := hPath.meets
      (controller.answer_meets (C := ⟨fun _ => True, fun _ _ => True⟩) hWellFormed fun _ => trivial)
      fun _ _ => trivial
    exact hAccepts e hError hCode
  · obtain ⟨e, hCode, hQuits⟩ := controller.exists_answer_quits hMalformed
    obtain rfl := (System.Runs.of_quits hRuns hJob hQuits).1 answered hResult
    exact ⟨e, rfl, hCode⟩
  · obtain ⟨e, hCode, hQuits⟩ := controller.exists_answer_quits hMalformed
    obtain ⟨-, hQuiet, s', hMore, hResult, hLeft⟩ := System.Runs.of_quits hRuns hJob hQuits
    exact ⟨hQuiet, s', _, hMore, hResult, ⟨e, rfl, hCode⟩, hLeft⟩

/-- A create of one byte more than can be asked for. -/
def CreateVolumeRequest.excessive : CreateVolumeRequest :=
  { CreateVolumeRequest.single 1 with capacityRange := some ⟨9223372035781033985, 0⟩ }

/-- Such a create is called invalid under a context that was cancelled and out of time before; nothing is called. -/
theorem invalid_iff_malformed_excessive :
    ∃ (s : System Inventory ((request : VolumeRequest) × Except Error request.Response)) (answered : _),
      System.Runs Inventory.rough (.start { platform := .ofConfig .single, cancelled := [0] }
        (Controller.answers ⟨{}, ⟨false, 0⟩⟩ [(⟨[0], some 0⟩, .create .excessive)])) s ∧
      s.result? 0 = some answered ∧ VolumeRequest.IsCalledInvalid answered ∧ s.world.calls = [] := by
  have hMalformed : (VolumeRequest.create .excessive).Malformed := by
    refine .inr (.inr (.inr (.inr (.inr ?_))))
    decide
  let requests : List (Context × VolumeRequest) := [(⟨[0], some 0⟩, .create .excessive)]
  have hRuns : System.Runs Inventory.rough
      (.start { platform := .ofConfig .single, cancelled := [0] } (Controller.answers ⟨{}, ⟨false, 0⟩⟩ requests)) _ :=
    .refl
  have hRequest : requests[0]? = some (⟨[0], some 0⟩, .create .excessive) := rfl
  obtain ⟨-, hRefused⟩ := invalid_iff_malformed ⟨{}, ⟨false, 0⟩⟩ hRuns hRequest
  obtain ⟨-, s, answered, hRefusal, hResult, hInvalid, -, hCalls⟩ := hRefused hMalformed
  exact ⟨s, answered, hRefusal, hResult, hInvalid, hCalls⟩

end VolumeController
