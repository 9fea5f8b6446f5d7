import VolumeController.Proofs.Interleaving.Results
import VolumeController.Proofs.Messages
import VolumeController.Simulation.Scenario
/-! The service over HTTP against the service itself. A client posts a message to the path of an operation and reads
the answer; beside it stands the operation, called with the message under the context of the request. Main result: on
every path the two run through the same worlds, and the client reads what the operation ended with. -/

namespace VolumeController

namespace Http

variable {α β : Type}

/-- A message that is posted to a path. -/
def post (path : String) (body : String) : Request :=
  ⟨"POST", path, some "application/json", body⟩

/-- What a client reads from an answer: the message of an answer with the status of success, or the code and the
wording of any other; nothing, if the answer does not have the form of its status. -/
def Response.outcome? (response : Codec β) (r : Response) : Option (Except (String × String) β) :=
  match r.body with
  | .json value =>
    if r.status = 200 then (response.readWhole value.render.toList).toOption.map .ok
    else (ErrorReport.codec.readWhole value.render.toList).toOption.map fun report =>
      .error (report.error, report.message)
  | _ => none

/-- Whether an answer says how an operation ended: by its status, and by what a client reads from it. -/
structure Carries (response : Codec β) (result : Except Error β) (r : Response) : Prop where
  status : r.status = match result with
    | .ok _ => 200
    | .error e => e.code.httpStatus
  outcome : r.outcome? response = some (result.mapError fun e => (e.code.wireName, e.message))

theorem httpStatus_ne_ok (code : StatusCode) : code.httpStatus ≠ 200 := by
  cases code <;> decide

theorem carries_ofResult {response : Codec β} (hResponse : response.Lawful) (result : Except Error β) :
    Carries response result (.ofResult response result) := by
  cases result with
  | ok b =>
      refine ⟨rfl, ?_⟩
      have hRead : response.readWhole (response.encode b).render.toList = .ok b := hResponse.restores b
      simp only [Response.outcome?, Response.ofResult, Response.json, hRead, if_true]
      rfl
  | error e =>
      refine ⟨rfl, ?_⟩
      have hRead : ErrorReport.codec.readWhole (ErrorReport.codec.encode (.ofError e)).render.toList
          = .ok (.ofError e) := ErrorReport.codec_lawful.restores _
      simp only [Response.outcome?, Response.ofResult, Response.json, hRead, httpStatus_ne_ok, if_false]
      rfl

/-! Requests on their way to an operation. -/

/-- A message in the body of its request is what the operation is called with. -/
theorem message_post {name path : String} {request : Codec α} {response : Codec β}
    {handle : Controller → α → Operation β} (hRequest : request.Lawful) (a : α) :
    message (Service.method name request response handle) (post path (request.write a)) = .ok a := by
  have hMedia : (some "application/json").any MediaType.isJson = true := by decide +kernel
  simp only [message, post, Service.method, hMedia, Codec.read_write hRequest, if_true]

theorem respond_post {m : Method} {path body : String} {a : m.Request} (hPath : Target.path? path = some path)
    (hHealth : path ≠ healthPath) (hMethod : (Service.methods.find? fun m => rpcPath m.name = path) = some m)
    (hMessage : message m (post path body) = .ok a) (c : Controller) :
    respond c (post path body) = (fun result => .ofResult m.response result) <$> (m.handle c a).run := by
  have hRoute : respond c (post path body) = invoke c m (post path body) := by
    rw [respond, show Target.path? (post path body).path = some path from hPath]
    simp only [if_neg hHealth, hMethod]
  have hPost : (post path body).method = "POST" := rfl
  rw [hRoute, invoke, if_pos hPost, hMessage]
  rfl

/-- Whether posting to a path is calling an operation. The request runs under a context that ends with the service or
when the time of a request is up, and it leaves the lab alone until it runs. From there on it can go through the worlds
that the call under this context can go through, and no others; when the one has ended, so has the other, and the
answer carries the result. -/
def Binds (path : String) (request : Codec α) (response : Codec β) (call : Controller → α → Operation β) : Prop :=
  ∀ (σ : Type) [Bench σ] (env : Surroundings σ) (setup : Setup) (ctx : Context) (lab : Lab σ) (a : α),
    let timeout := setup.config.controller.requestTimeoutSecs.toNat * 1000
    let child : Context := ⟨[Setup.shutdownToken], some (lab.world.now + timeout)⟩
    let begun := (Step.http (post path (request.write a))).begin setup ctx lab
    let direct := System.start lab.world [(child, (call setup.controller a).run)]
    let posted := System.start lab.world [begun.1]
    let same (s : System σ (Except Error β)) (s' : System σ StepResult) : Prop :=
      s'.world = s.world ∧ Option.Rel
        (fun result answer => ∃ r, answer = .ok (.response r) ∧ Carries response result r)
        (s.result? 0) (s'.result? 0)
    begun.1.1 = child ∧ begun.2 = lab ∧
    (∀ s', System.Runs env posted s' → ∃ s, System.Runs env direct s ∧ same s s') ∧
    (∀ s, System.Runs env direct s → ∃ s', System.Runs env posted s' ∧ same s s')

theorem binds_of_respond {path : String} {request : Codec α} {response : Codec β}
    {call : Controller → α → Operation β} (hResponse : response.Lawful)
    (hRespond : ∀ c a, respond c (post path (request.write a)) = Response.ofResult response <$> (call c a).run) :
    Binds path request response call := by
  intro σ _ env setup ctx lab a timeout child begun direct posted same
  let answer (result : Except Error β) : StepResult := .ok (.response (.ofResult response result))
  have hPosted : posted = direct.map answer := by
    have hProcedure : begun.1.2 = answer <$> (call setup.controller a).run := by
      simp only [begun, Step.begin, hRespond, map_eq_pure_bind, bind_assoc, pure_bind]
      rfl
    simp only [posted, direct, System.start, System.map, List.map_cons, List.map_nil, Thread.start, Thread.map]
    rw [hProcedure]
    rfl
  have hSame (s : System σ (Except Error β)) : same s (s.map answer) := by
    refine ⟨rfl, ?_⟩
    rw [System.result?_map]
    cases s.result? 0 with
    | none => exact .none
    | some result => exact .some ⟨_, rfl, carries_ofResult hResponse result⟩
  refine ⟨rfl, rfl, fun s' hRuns => ?_, fun s hRuns => ?_⟩
  · rw [hPosted] at hRuns
    obtain ⟨s, hDirect, rfl⟩ := hRuns.exists_of_map
    exact ⟨s, hDirect, hSame s⟩
  · rw [hPosted]
    exact ⟨s.map answer, hRuns.map answer, hSame s⟩

/-- An operation that takes a message is bound to the path that the table of operations finds it by. -/
theorem binds_of_find {name path : String} {request : Codec α} {response : Codec β}
    {call : Controller → α → Operation β} (hRequest : request.Lawful) (hResponse : response.Lawful)
    (hPath : Target.path? path = some path) (hHealth : path ≠ healthPath)
    (hMethod : (Service.methods.find? fun m => rpcPath m.name = path)
      = some (Service.method name request response call)) : Binds path request response call :=
  binds_of_respond hResponse fun c a => respond_post hPath hHealth hMethod (message_post hRequest a) c

theorem noMessage_lawful : Service.noMessage.Lawful :=
  fun _ => rfl

/-- Every operation is bound to its path. What an operation answers is what is read from the answer, what it does is
done, and nothing else is. -/
theorem paths_bind_operations :
    Binds "/csi.v1.Controller/CreateVolume" CreateVolumeRequest.codec CreateVolumeResponse.codec
      Controller.createVolume ∧
    Binds "/csi.v1.Controller/DeleteVolume" DeleteVolumeRequest.codec DeleteVolumeResponse.codec
      (fun _ => Controller.deleteVolume) ∧
    Binds "/csi.v1.Controller/ControllerPublishVolume" PublishVolumeRequest.codec PublishVolumeResponse.codec
      (fun _ => Controller.publishVolume) ∧
    Binds "/csi.v1.Controller/ControllerUnpublishVolume" UnpublishVolumeRequest.codec UnpublishVolumeResponse.codec
      (fun _ => Controller.unpublishVolume) ∧
    Binds "/csi.v1.Controller/ValidateVolumeCapabilities" ValidateCapabilitiesRequest.codec
      ValidateCapabilitiesResponse.codec (fun _ => Controller.validateCapabilities) ∧
    Binds "/csi.v1.Controller/ListVolumes" ListVolumesRequest.codec ListVolumesResponse.codec
      (fun _ => Controller.listVolumes) ∧
    Binds "/csi.v1.Controller/GetCapacity" GetCapacityRequest.codec GetCapacityResponse.codec
      (fun _ => Controller.getCapacity) ∧
    Binds "/csi.v1.Controller/ControllerGetCapabilities" Service.noMessage GetCapabilitiesResponse.codec
      (fun _ _ => return Controller.capabilities) ∧
    Binds "/csi.v1.Controller/CreateSnapshot" CreateSnapshotRequest.codec Service.noMessage
      (fun _ => Controller.createSnapshot) ∧
    Binds "/csi.v1.Controller/DeleteSnapshot" DeleteSnapshotRequest.codec Service.noMessage
      (fun _ => Controller.deleteSnapshot) ∧
    Binds "/csi.v1.Controller/ListSnapshots" ListSnapshotsRequest.codec Service.noMessage
      (fun _ => Controller.listSnapshots) := by
  refine ⟨?_, ?_, ?_, ?_, ?_, ?_, ?_, ?_, ?_, ?_, ?_⟩
  · exact binds_of_find CreateVolumeRequest.codec_lawful CreateVolumeResponse.codec_lawful (by decide +kernel)
      (by decide) rfl
  · exact binds_of_find DeleteVolumeRequest.codec_lawful DeleteVolumeResponse.codec_lawful (by decide +kernel)
      (by decide) rfl
  · exact binds_of_find PublishVolumeRequest.codec_lawful PublishVolumeResponse.codec_lawful (by decide +kernel)
      (by decide) rfl
  · exact binds_of_find UnpublishVolumeRequest.codec_lawful UnpublishVolumeResponse.codec_lawful (by decide +kernel)
      (by decide) rfl
  · exact binds_of_find ValidateCapabilitiesRequest.codec_lawful ValidateCapabilitiesResponse.codec_lawful
      (by decide +kernel) (by decide) rfl
  · exact binds_of_find ListVolumesRequest.codec_lawful ListVolumesResponse.codec_lawful (by decide +kernel)
      (by decide) rfl
  · exact binds_of_find GetCapacityRequest.codec_lawful GetCapacityResponse.codec_lawful (by decide +kernel)
      (by decide) rfl
  · refine binds_of_respond GetCapabilitiesResponse.codec_lawful fun c _ => ?_
    have hMethod : (Service.methods.find? fun m => rpcPath m.name = "/csi.v1.Controller/ControllerGetCapabilities")
        = some { Service.method "ControllerGetCapabilities" Service.noMessage GetCapabilitiesResponse.codec
            fun _ _ => return Controller.capabilities with takesMessage := false } := rfl
    exact respond_post (by decide +kernel) (by decide) hMethod rfl c
  · exact binds_of_find CreateSnapshotRequest.codec_lawful noMessage_lawful (by decide +kernel) (by decide) rfl
  · exact binds_of_find DeleteSnapshotRequest.codec_lawful noMessage_lawful (by decide +kernel) (by decide) rfl
  · exact binds_of_find ListSnapshotsRequest.codec_lawful noMessage_lawful (by decide +kernel) (by decide) rfl

end Http

end VolumeController
