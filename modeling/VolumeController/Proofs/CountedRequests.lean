import VolumeController.Proofs.Counting
import VolumeController.Proofs.Http
import VolumeController.Proofs.Interleaving.Chronicles
import VolumeController.Proofs.MalformedRequests
/-! Requests that are counted, whichever way they come: straight to an operation, or over HTTP. Main result: whatever
the platform answers and however contexts end, at every moment each counter tells how many requests of its operation
have ended with its code, and nothing else is counted. -/

namespace VolumeController

variable {σ α : Type}

/-- The code that a result is counted under; none stands for success. -/
def codeOf : Except Error α → Option StatusCode
  | .ok _ => none
  | .error e => some e.code

namespace Controller

/-- The operations that are counted. -/
def countedOperations : List String :=
  ["CreateVolume", "DeleteVolume", "ControllerPublishVolume", "ControllerUnpublishVolume", "ListVolumes"]

theorem separate_countedOperations : Metrics.Separate countedOperations := by
  decide

/-- The label of a result, if its operation is counted. -/
def counted? (operation : String) (result : Except Error α) : Option Label :=
  (some (operation, Metrics.outcomeName (codeOf result))).filter fun label => label.1 ∈ countedOperations

theorem uncounted_handleUncounted (c : Controller) (request : VolumeRequest) :
    (c.handleUncounted request).run.Uncounted fun _ => True := by
  by_cases hMalformed : request.Malformed
  · obtain ⟨cause, -, hRefusal⟩ := c.exists_refusal_of_malformed hMalformed
    rw [hRefusal]
    exact .reject trivial
  · exact (c.accepts_of_not_malformed hMalformed).mono fun _ _ => trivial

/-- A request about volumes is counted once, with its result. -/
theorem accounts_handle (c : Controller) (request : VolumeRequest) :
    (c.handle request).run.Accounts (counted? request.operation) none := by
  have hCounted : request.operation ∈ countedOperations := by
    cases request <;> simp [VolumeRequest.operation, countedOperations]
  rw [handle_eq_instrumented]
  refine (c.uncounted_handleUncounted request).accounts_bind fun result _ => ⟨rfl, fun _ => ?_⟩
  refine (if_pos (decide_eq_true hCounted)).trans ?_
  cases result <;> rfl

/-- An operation that is not about volumes is not counted. -/
theorem accounts_done {operation : String} (h : operation ∉ countedOperations) (result : Except Error α) :
    (Procedure.done result).Accounts (counted? operation) none :=
  if_neg (decide_eq_true_iff.not.2 h)

/-- Every operation of the service counts its own results, or nothing. -/
theorem accounts_method (c : Controller) {m : Method} (hMethod : m ∈ Service.methods) (request : m.Request) :
    (m.handle c request).run.Accounts (counted? m.name) none := by
  simp only [Service.methods, List.mem_cons, List.not_mem_nil, or_false] at hMethod
  rcases hMethod with rfl | rfl | rfl | rfl | rfl | rfl | rfl | rfl | rfl | rfl | rfl
  · exact c.accounts_handle (.create request)
  · exact c.accounts_handle (.delete request)
  · exact c.accounts_handle (.publish request)
  · exact c.accounts_handle (.unpublish request)
  · exact accounts_done (by decide) _
  · exact c.accounts_handle (.list request)
  all_goals exact accounts_done (by decide) _

end Controller

/-! Requests over HTTP. -/

namespace Http

/-- The operation that a request gets to, with its message: none if it is answered on the way. -/
def reached? (r : Request) : Option ((m : Method) × m.Request) :=
  match Target.path? r.path with
  | none => none
  | some path =>
    if path = healthPath then none
    else
      match Service.methods.find? fun m => rpcPath m.name = path with
      | none => none
      | some m =>
        if r.method = "POST" then
          match message m r with
          | .ok message => some ⟨m, message⟩
          | .error _ => none
        else none

/-- A request is answered at once, or with the result of the operation that it gets to. -/
theorem reached_cases (r : Request) (c : Controller) :
    (reached? r = none ∧ ∃ response, respond c r = .done response) ∨
    ∃ m message, reached? r = some ⟨m, message⟩ ∧ m ∈ Service.methods ∧
      respond c r = Response.ofResult m.response <$> (m.handle c message).run := by
  unfold reached? respond
  cases Target.path? r.path with
  | none => exact .inl ⟨rfl, _, rfl⟩
  | some path =>
      by_cases hHealth : path = healthPath
      · simp only [if_pos hHealth]
        exact .inl ⟨trivial, _, rfl⟩
      simp only [if_neg hHealth]
      cases hFind : Service.methods.find? fun m => rpcPath m.name = path with
      | none => exact .inl ⟨rfl, _, rfl⟩
      | some m =>
          by_cases hPost : r.method = "POST"
          · simp only [invoke, if_pos hPost]
            cases Http.message m r with
            | error response => exact .inl ⟨rfl, _, rfl⟩
            | ok message => exact .inr ⟨m, message, rfl, List.mem_of_find?_eq_some hFind, rfl⟩
          · simp only [invoke, if_neg hPost]
            exact .inl ⟨trivial, _, rfl⟩

/-- The name of the outcome that a response carries: that of success by its status, any other by its error report, and
no name without a report. -/
def Response.outcomeName (r : Response) : String :=
  if r.status = 200 then "OK"
  else
    match r.body with
    | .json value => ((ErrorReport.codec.readWhole value.render.toList).toOption.map (·.error)).getD ""
    | _ => ""

theorem outcomeName_ofResult (codec : Codec α) (result : Except Error α) :
    (Response.ofResult codec result).outcomeName = Metrics.outcomeName (codeOf result) := by
  cases result with
  | ok a => rfl
  | error e =>
      have hRead : ErrorReport.codec.readWhole (ErrorReport.codec.encode (.ofError e)).render.toList
          = .ok (.ofError e) := ErrorReport.codec_lawful.restores _
      simp only [Response.outcomeName, Response.ofResult, Response.json, hRead, httpStatus_ne_ok, if_false]
      rfl

end Http

/-! Requests by either way. -/

/-- A request to the service: straight to an operation, known by its place in the table, or over HTTP. -/
inductive Arrival where
  | call (place : Fin Service.methods.length) (message : Service.methods[place].Request)
  | http (request : Http.Request)

namespace Arrival

/-- What a request is answered with. -/
abbrev Outcome : Arrival → Type
  | .call place _ => Except Error Service.methods[place].Response
  | .http _ => Http.Response

/-- The operation that a request gets to, by its name. -/
def operation? : Arrival → Option String
  | .call place _ => some Service.methods[place].name
  | .http request => (Http.reached? request).map (·.1.name)

/-- The name of the outcome that an answer carries. -/
def outcomeName : (arrival : Arrival) → arrival.Outcome → String
  | .call _ _, result => Metrics.outcomeName (codeOf result)
  | .http _, response => response.outcomeName

end Arrival

/-- A request with its answer. -/
abbrev Served := (arrival : Arrival) × arrival.Outcome

/-- The operation that an answered request got to, and the name of its outcome. -/
def Served.label? (served : Served) : Option Label :=
  served.1.operation?.map fun operation => (operation, served.1.outcomeName served.2)

/-- The label of an answered request, if its operation is counted. -/
def Served.counted? (served : Served) : Option Label :=
  served.label?.filter fun label => label.1 ∈ Controller.countedOperations

namespace Controller

/-- Serves a request. -/
def serve (c : Controller) : Arrival → Procedure Served
  | .call place message =>
    (fun result => ⟨.call place message, result⟩) <$> (Service.methods[place].handle c message).run
  | .http request => (fun response => ⟨.http request, response⟩) <$> Http.respond c request

/-- Serves requests, each under its own context. -/
def serves (c : Controller) (arrivals : List (Context × Arrival)) : List (Context × Procedure Served) :=
  arrivals.map fun (ctx, arrival) => (ctx, c.serve arrival)

/-- Every request is counted with its answer, or not at all. -/
theorem accounts_serve (c : Controller) (arrival : Arrival) : (c.serve arrival).Accounts Served.counted? none := by
  cases arrival with
  | call place message => exact .map (c.accounts_method (List.getElem_mem place.isLt) message)
  | http request =>
      apply Procedure.Accounts.map
      rcases Http.reached_cases request c with ⟨hNone, response, hDone⟩ | ⟨m, message, hReached, hMethod, hRespond⟩
      · rw [hDone, Procedure.Accounts, Served.counted?, Served.label?, Arrival.operation?, hNone]
        rfl
      · rw [hRespond]
        apply Procedure.Accounts.map
        have hLabel (result : Except Error m.Response) :
            Served.counted? ⟨.http request, .ofResult m.response result⟩ = counted? m.name result := by
          rw [Served.counted?, Served.label?, Arrival.operation?, Arrival.outcomeName, hReached,
            Http.outcomeName_ofResult]
          rfl
        simp only [hLabel]
        exact c.accounts_method hMethod message

/-- What gets to no operation is over before it begins. -/
theorem exists_serve_eq_done (c : Controller) {arrival : Arrival} (h : arrival.operation? = none) :
    ∃ outcome, c.serve arrival = .done ⟨arrival, outcome⟩ := by
  cases arrival with
  | call place message => cases h
  | http request =>
      rcases Http.reached_cases request c with ⟨-, response, hDone⟩ | ⟨m, message, hReached, -, -⟩
      · exact ⟨response, by rw [serve, hDone]; rfl⟩
      · rw [Arrival.operation?, hReached] at h
        cases h

end Controller

theorem Served.counted?_eq_some_iff (served : Served) (label : Label) :
    served.counted? = some label ↔ served.label? = some label ∧ label.1 ∈ Controller.countedOperations := by
  rw [counted?, Option.filter_eq_some_iff, decide_eq_true_iff]

theorem Served.exists_counted?_iff (served : Served) {operation : String}
    (hOperation : operation ∈ Controller.countedOperations) :
    (∃ label, served.counted? = some label ∧ label.1 = operation) ↔ served.1.operation? = some operation := by
  constructor
  · rintro ⟨label, hCounted, rfl⟩
    obtain ⟨operation, hReached, rfl⟩ := Option.map_eq_some_iff.1 ((served.counted?_eq_some_iff label).1 hCounted).1
    exact hReached
  · intro hReached
    refine ⟨(operation, served.1.outcomeName served.2), (served.counted?_eq_some_iff _).2 ⟨?_, hOperation⟩, rfl⟩
    rw [label?, hReached, Option.map_some]

/-- Any requests at once, over any platform and under any contexts, with metrics that are new. At every moment the
counter of an operation and a code is the number of requests of this operation that have ended with this code, and the
samples of the operation are the sum of its counters, and the number of all its requests that have ended; no other
operation has a series. Metrics change only by the step that ends a request, which is counted once. A request that gets
to no operation is answered before its first step. -/
theorem metrics_conserve_requests [Bench σ] {env : Surroundings σ} {w : World σ} (controller : Controller)
    {arrivals : List (Context × Arrival)} {s : System σ Served} (hNew : w.metrics = {})
    (hRuns : System.Runs env (.start w (controller.serves arrivals)) s) :
    (∀ operation ∈ Controller.countedOperations,
      (∀ code, s.world.metrics.count operation code =
        s.results.countP fun served => served.label? = some (operation, code)) ∧
      s.world.metrics.samples operation = (Metrics.outcomeNames.map (s.world.metrics.count operation)).sum ∧
      s.world.metrics.samples operation = s.results.countP fun served => served.1.operation? = some operation) ∧
    (∀ series ∈ s.world.metrics.outcomes,
      series.operation ∈ Controller.countedOperations ∧ series.code ∈ Metrics.outcomeNames) ∧
    (∀ series ∈ s.world.metrics.durations, series.operation ∈ Controller.countedOperations) ∧
    (∀ (number : Nat) t t' w', s.threads[number]? = some t → t.Step env.aborts number s.world t' w' →
      w'.metrics = s.world.metrics ∨ ∃ served operation code, t'.result? = some served ∧
        operation ∈ Controller.countedOperations ∧ served.label? = some (operation, Metrics.outcomeName code) ∧
        w'.metrics = s.world.metrics.observe operation code) ∧
    ∀ (number : Nat) ctx arrival, arrivals[number]? = some (ctx, arrival) → arrival.operation? = none →
      ∃ served, s.result? number = some served ∧ served.1 = arrival ∧ served.label? = none := by
  have hAccounts : s.Accounts Served.counted? := by
    refine hRuns.accounts (.start hNew fun job hJob => ?_)
    obtain ⟨⟨ctx, arrival⟩, -, rfl⟩ := List.mem_map.1 hJob
    exact controller.accounts_serve arrival
  have hRecords := hAccounts.metrics
  have hLabels : ∀ label ∈ s.results.filterMap Served.counted?, label.1 ∈ Controller.countedOperations := by
    intro label hLabel
    obtain ⟨served, -, hCounted⟩ := List.mem_filterMap.1 hLabel
    exact ((served.counted?_eq_some_iff label).1 hCounted).2
  refine ⟨fun operation hOperation => ⟨fun code => ?_, ?_, ?_⟩, fun series hSeries => ?_, fun series hSeries => ?_,
    fun number t t' w' hThread hStep => ?_, fun number ctx arrival hArrival hNone => ?_⟩
  · rw [hRecords.count_eq Controller.separate_countedOperations hLabels hOperation, List.count_filterMap]
    refine List.countP_congr fun served _ => ?_
    rw [beq_iff_eq, decide_eq_true_iff, served.counted?_eq_some_iff]
    exact and_iff_left hOperation
  · exact hRecords.samples_eq_sum Controller.separate_countedOperations hLabels hOperation
  · rw [hRecords.samples, List.countP_filterMap]
    refine List.countP_congr fun served _ => ?_
    rw [decide_eq_true_iff, ← served.exists_counted?_iff hOperation]
    cases served.counted? <;> simp
  · have hLabel := hRecords.outcomes series hSeries
    exact ⟨hLabels _ hLabel, hRecords.named _ hLabel⟩
  · obtain ⟨code, hLabel⟩ := hRecords.durations series hSeries
    exact hLabels _ hLabel
  · obtain ⟨-, -, ⟨-, hSame⟩ | ⟨operation, code, hLabel, hMore⟩⟩ :=
      hStep.accounts (hAccounts.threads t (List.mem_of_getElem? hThread))
    · exact .inl hSame
    · obtain ⟨served, hResult, hCounted⟩ := Option.bind_eq_some_iff.1 hLabel
      obtain ⟨hServed, hOperation⟩ := (served.counted?_eq_some_iff _).1 hCounted
      exact .inr ⟨served, operation, code, hResult, hOperation, hServed, hMore⟩
  · obtain ⟨outcome, hDone⟩ := controller.exists_serve_eq_done hNone
    have hJob : (controller.serves arrivals)[number]? = some (ctx, .done ⟨arrival, outcome⟩) := by
      rw [Controller.serves, List.getElem?_map, hArrival, ← hDone]
      rfl
    exact ⟨_, hRuns.result?_of_done hJob, rfl, by rw [Served.label?, hNone, Option.map_none]⟩

/-- Deletes that name no volume, one straight and one over HTTP, and a request with a method that is not taken. -/
def Arrival.nameless : List (Context × Arrival) :=
  [.call ⟨1, by decide⟩ (show DeleteVolumeRequest from ⟨""⟩),
    .http (Http.post "/csi.v1.Controller/DeleteVolume" "\x7b\"volumeId\":\"\"\x7d"),
    .http ⟨"GET", "/csi.v1.Controller/DeleteVolume", none, ""⟩].map (Context.background, ·)

/-- All three are answered, and both deletes are counted under the code that they end with. -/
theorem metrics_conserve_requests_nameless :
    ∃ s : System Inventory Served,
      System.Runs Inventory.rough
        (.start { platform := .ofConfig .single } (Controller.serves ⟨{}, ⟨false, 0⟩⟩ Arrival.nameless)) s ∧
      s.results.length = 3 ∧
      (s.results.countP fun served => served.label? = some ("DeleteVolume", "INVALID_ARGUMENT")) = 2 := by
  let jobs := Controller.serves ⟨{}, ⟨false, 0⟩⟩ Arrival.nameless
  let answered := [0, 1, 2].foldl System.advance (System.start { platform := Inventory.ofConfig .single } jobs)
  obtain ⟨turns, hRuns⟩ : ∃ turns, Chronicle.Runs Inventory.rough (fun _ _ => True)
      (.start { platform := .ofConfig .single } jobs) ⟨answered, turns⟩ :=
    Chronicle.exists_advances (fun _ _ _ _ _ => trivial) [0, 1, 2] _ []
  have hLength : answered.results.length = 3 := by
    decide +kernel
  have hCount : answered.world.metrics.count "DeleteVolume" "INVALID_ARGUMENT" = 2 := by
    decide +kernel
  clear_value answered
  have hNew : ({ platform := Inventory.ofConfig .single } : World Inventory).metrics = {} := rfl
  obtain ⟨hCounters, -⟩ := metrics_conserve_requests _ hNew hRuns.system
  obtain ⟨hCounter, -⟩ := hCounters "DeleteVolume" (by decide)
  exact ⟨answered, hRuns.system, hLength, (hCounter _).symm.trans hCount⟩

end VolumeController
