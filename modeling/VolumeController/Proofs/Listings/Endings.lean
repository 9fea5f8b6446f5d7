import VolumeController.Proofs.ErrorCodes
import VolumeController.Proofs.PageWalk
/-! How a listing ends, by what it was told. It is refused before it asks for anything, or it gathers the disks of all
sites and cuts its page from them. Main result: a listing that nobody aborts ends with the page of what the sites
answered, and every entry of a page is the report of a disk that was gathered. -/

namespace VolumeController

variable {α : Type}

/-- The answers of sites that are asked for their disks at once. -/
abbrev Exchange.listings (sites : List Site) (replies : List (Except BackendError (List Disk))) : Exchange :=
  ⟨.listings (sites.map Site.datacenter), .ok replies⟩

/-- What procedures keep to that wait for nothing. -/
def Contract.silent : Contract where
  asks _ := False
  told _ _ := True

/-- Such procedures are told nothing more. -/
theorem Procedure.Meets.converses_silent {p : Procedure α} {goal : α → Prop} (h : p.Meets .silent goal)
    (D : Dialogue) (told : List Exchange) : p.Converses D (fun told' a => told' = told ∧ goal a) told := by
  induction p with
  | done a => exact ⟨rfl, h⟩
  | act action next ih => exact fun answer => ih answer (h answer)
  | await wait next ih => exact h.1.elim

namespace Listing

/-- One page of the disks that were gathered. -/
def pageOf (request : ListVolumesRequest) (disks : List LocatedDisk) : Except Cause ListVolumesResponse := do
  let limit ← limit request.maxEntries
  let start ← offsetOfToken request.startingToken
  let bounds ← PageBounds.compute start limit disks.length
  let entries ← entries (bounds.slice disks)
  return ⟨entries, bounds.nextToken⟩

/-- How the disks of all sites may be gathered. -/
inductive Gathers : List Exchange → Except Error (List LocatedDisk) → Prop where
  | aborted {told : List Exchange} {x : Exchange} {abort : Abort} (hTold : x ∈ told) (hAbort : x.answer = .error abort)
      (e : Error) : Gathers told (.error e)
  | unlisted (failure : BackendError) :
      Gathers [.sites (.error failure)] (.error (Cause.sitesUnlisted failure).toError)
  | listed (sites : List Site) (replies : List (Except BackendError (List Disk))) :
      Gathers [.sites (.ok sites), .listings sites replies] (.ok (PageCall.seen ⟨0, sites, replies⟩))

/-- How a listing may end. -/
inductive Ends (request : ListVolumesRequest) (told : List Exchange) : Except Error ListVolumesResponse → Prop where
  | refused {cause : Cause} (h : ∀ disks, pageOf request disks = .error cause) :
      Ends request told (.error cause.toError)
  | gathered {result : Except Error (List LocatedDisk)} (h : Gathers told result) :
      Ends request told (do
        let disks ← result
        (pageOf request disks).mapError Cause.toError)

open Procedure in
theorem allDisks_converses : allDisks.run.Converses .free Gathers [] := by
  have hAborted {told : List Exchange} {wait : Wait} (abort : Abort) (e : Error) :
      Gathers (told ++ [⟨wait, .error abort⟩]) (.error e) :=
    .aborted (List.mem_append_right _ List.mem_cons_self) rfl e
  refine .callThen trivial (fun abort _ => hAborted abort _) ?_
  rintro (failure | sites) -
  · exact .reject (.unlisted failure)
  · refine .bindOperation ⟨trivial, fun answer _ => ?_⟩
    cases answer with
    | error abort => exact hAborted abort _
    | ok replies =>
        refine ((Meets.collect .silent sites replies).converses_silent .free _).mono ?_
        rintro _ _ ⟨rfl, rfl⟩
        exact .listed sites replies

theorem page_converses (request : ListVolumesRequest) : (page request).run.Converses .free (Ends request) [] := by
  refine .bindCause (fun cause hLimit => .refused fun disks => ?_) fun limit hLimit => ?_
  · simp only [pageOf, hLimit]
    rfl
  refine .bindCause (fun cause hStart => .refused fun disks => ?_) fun start hStart => ?_
  · simp only [pageOf, hLimit, hStart]
    rfl
  refine .bindOperation (allDisks_converses.mono ?_)
  rintro told (e | disks) hGathers
  · exact .gathered hGathers
  have hEnds (result : Except Error ListVolumesResponse)
      (hResult : (pageOf request disks).mapError Cause.toError = result) : Ends request told result :=
    hResult ▸ .gathered hGathers
  refine .bindCause (fun cause hBounds => hEnds _ ?_) fun bounds hBounds => .afterNote ?_
  · simp only [pageOf, hLimit, hStart, bind, Except.bind, hBounds]
    rfl
  refine .bindCause (fun cause hEntries => hEnds _ ?_) fun entries hEntries => ?_
  · simp only [pageOf, hLimit, hStart, bind, Except.bind, hBounds, hEntries]
    rfl
  have hPage : Ends request told (.ok ⟨entries, bounds.nextToken⟩) := by
    refine hEnds _ ?_
    simp only [pageOf, hLimit, hStart, bind, Except.bind, hBounds, hEntries]
    rfl
  simp only
  split
  · exact .afterNote hPage
  · exact hPage

/-! Pages. -/

variable {request : ListVolumesRequest} {disks : List LocatedDisk}

theorem pageOf_of_lt {limit start : Nat} (hLimit : Listing.limit request.maxEntries = .ok limit)
    (hStart : offsetOfToken request.startingToken = .ok start) (h : disks.length < start) :
    pageOf request disks = .error (.startBeyondEnd start disks.length) := by
  simp only [pageOf, hLimit, hStart, bind, Except.bind, PageBounds.compute_of_lt h]

/-- A page that begins inside the listing has the reports of its slice, and its token. -/
theorem pageOf_of_le {limit start : Nat} (hLimit : Listing.limit request.maxEntries = .ok limit)
    (hStart : offsetOfToken request.startingToken = .ok start) (h : start ≤ disks.length) :
    pageOf request disks =
      (entries (slice limit start disks)).map (⟨·, tokenAfter limit start disks.length⟩) := by
  obtain ⟨b, hBounds, hSlice, hToken⟩ := PageBounds.exists_compute limit h
  simp only [pageOf, hLimit, hStart, bind, Except.bind, hBounds, hSlice, hToken]
  cases entries (slice limit start disks) <;> rfl

/-- A page without a limit, from the beginning, has all disks if they can all be reported. -/
theorem pageOf_whole (h : ∀ d ∈ disks, d.Reportable) :
    pageOf ⟨0, ""⟩ disks = .ok ⟨disks.map fun d => ⟨d.report⟩, ""⟩ := by
  have hWhole : ¬ Continues 0 0 disks.length := fun hMore => Nat.lt_irrefl 0 hMore.1
  have hLimit : limit (ListVolumesRequest.mk 0 "").maxEntries = .ok 0 := rfl
  have hStart : offsetOfToken (ListVolumesRequest.mk 0 "").startingToken = .ok 0 := rfl
  rw [pageOf_of_le hLimit hStart (Nat.zero_le _), slice_of_not_continues hWhole,
    tokenAfter_of_not_continues hWhole, List.drop_zero, entries_eq_ok h]
  rfl

theorem exists_of_mem_entries {reported : List ListVolumesEntry} (h : entries disks = .ok reported)
    {entry : ListVolumesEntry} (hEntry : entry ∈ reported) : ∃ d ∈ disks, d.volume = .ok entry.volume := by
  induction disks generalizing reported with
  | nil =>
      cases h
      exact (List.not_mem_nil hEntry).elim
  | cons d disks ih =>
      obtain ⟨volume, hVolume, h⟩ := bind_eq_ok h
      obtain ⟨rest, hRest, ⟨⟩⟩ := bind_eq_ok h
      rcases List.mem_cons.1 hEntry with rfl | hOld
      · exact ⟨d, List.mem_cons_self, hVolume⟩
      · obtain ⟨d', hDisk, hVolume'⟩ := ih hRest hOld
        exact ⟨d', List.mem_cons_of_mem _ hDisk, hVolume'⟩

/-- What a page has are the reports of disks that were gathered. -/
theorem exists_of_pageOf {response : ListVolumesResponse} (h : pageOf request disks = .ok response)
    {entry : ListVolumesEntry} (hEntry : entry ∈ response.entries) : ∃ d ∈ disks, d.volume = .ok entry.volume := by
  obtain ⟨limit, -, h⟩ := bind_eq_ok h
  obtain ⟨start, -, h⟩ := bind_eq_ok h
  obtain ⟨bounds, -, h⟩ := bind_eq_ok h
  obtain ⟨reported, hEntries, ⟨⟩⟩ := bind_eq_ok h
  obtain ⟨d, hDisk, hVolume⟩ := exists_of_mem_entries hEntries hEntry
  exact ⟨d, PageBounds.mem_of_mem_slice hDisk, hVolume⟩

/-- A listing that succeeds cut its page from what the sites answered. -/
theorem Ends.exists_of_ok {told : List Exchange} {response : ListVolumesResponse} (h : Ends request told (.ok response)) :
    ∃ sites replies, told = [.sites (.ok sites), .listings sites replies] ∧
      pageOf request (PageCall.seen ⟨0, sites, replies⟩) = .ok response := by
  generalize hResult : Except.ok response = result at h
  cases h with
  | refused => cases hResult
  | gathered hGathers =>
      obtain ⟨disks, rfl, hPage⟩ := bind_eq_ok hResult.symm
      cases hGathers with
      | listed sites replies =>
          refine ⟨sites, replies, rfl, ?_⟩
          cases hCut : pageOf request (PageCall.seen ⟨0, sites, replies⟩) <;> rw [hCut] at hPage <;> cases hPage
          rfl

/-- What was gathered was answered by some site. -/
theorem exists_of_mem_seen {call : PageCall} {d : LocatedDisk} (h : d ∈ call.seen) :
    ∃ site disks disk, (site, .ok disks) ∈ call.sites.zip call.answers ∧ disk ∈ disks ∧
      d = ⟨site.endpoint, site.datacenter.name, disk⟩ := by
  obtain ⟨⟨site, failure | disks⟩, hAnswer, hDisk⟩ := List.mem_flatMap.1 h
  · exact (List.not_mem_nil hDisk).elim
  · obtain ⟨disk, hThere, rfl⟩ := List.mem_map.1 hDisk
    exact ⟨site, disks, disk, hAnswer, hThere, rfl⟩

/-! The end. -/

theorem onlyAsks_collect (sites : List Site) (answers : List (Except BackendError (List Disk))) :
    Procedure.OnlyAsks (collect sites answers).run := by
  induction sites generalizing answers with
  | nil => exact .done _
  | cons site sites ih =>
      rcases answers with - | ⟨failure | disks, answers⟩
      · exact .done _
      · exact .bindOperation (Procedure.OnlyCalls.note _).onlyAsks fun _ => ih answers
      · exact .bindOperation (ih answers) fun _ => .done _

/-- A listing waits for nothing but the platform. -/
theorem onlyAsks_page (request : ListVolumesRequest) : Procedure.OnlyAsks (page request).run := by
  have hCaused {β : Type} (result : Except Cause β) : Procedure.OnlyAsks (Operation.ofCause result).run := by
    cases result with
    | error cause => exact (Procedure.OnlyCalls.reject cause).onlyAsks
    | ok b => exact .done _
  have hNoted (event : Event) : Procedure.OnlyAsks (Operation.note event).run :=
    (Procedure.OnlyCalls.note event).onlyAsks
  have hDisks : Procedure.OnlyAsks allDisks.run := by
    refine .bindOperation (.waitOperation _ trivial) ?_
    rintro (failure | sites)
    · exact (Procedure.OnlyCalls.reject _).onlyAsks
    · exact .bindOperation (.waitOperation _ trivial) (onlyAsks_collect sites)
  refine .bindOperation (hCaused _) fun limit => .bindOperation (hCaused _) fun start => ?_
  refine .bindOperation hDisks fun disks => .bindOperation (hCaused _) fun bounds => ?_
  refine .bindOperation (hNoted _) fun _ => .bindOperation (hCaused _) fun entries => ?_
  simp only
  split
  · exact .bindOperation (hNoted _) fun _ => .done _
  · exact .done _

end Listing

theorem Controller.listVolumes_converses (request : ListVolumesRequest) :
    (Controller.listVolumes request).run.Converses .free (Listing.Ends request) [] :=
  .instrumented (Listing.page_converses request)

theorem Controller.answer_list_converses (controller : Controller) (request : ListVolumesRequest) :
    (controller.answer (.list request)).Converses .free
      (fun told answered => ∃ result, answered = ⟨.list request, result⟩ ∧ Listing.Ends request told result) [] :=
  .bind ((Controller.listVolumes_converses request).mono fun _ result hEnds => ⟨result, rfl, hEnds⟩)

/-- A listing waits for nothing but the platform. -/
theorem Controller.answer_list_onlyAsks (controller : Controller) (request : ListVolumesRequest) :
    (controller.answer (.list request)).OnlyAsks :=
  .bind (.bind (Listing.onlyAsks_page request) fun _ => .act fun _ => .done _) fun _ => .done _

/-! Successes. -/

/-- The ids of the volumes that a success is about. -/
def VolumeRequest.volumeIds : Answered → List String
  | ⟨.create _, .ok response⟩ => [response.volume.volumeId]
  | ⟨.list _, .ok response⟩ => response.entries.map (·.volume.volumeId)
  | ⟨.publish request, .ok _⟩ => [request.volumeId]
  | _ => []

/-- A request that is about a volume in the end has succeeded. -/
theorem Chronicle.Runs.exists_response {σ : Type} [Bench σ] {env : Surroundings σ}
    {kind : Chronicle σ Answered → Chronicle σ Answered → Prop} {w : World σ} {controller : Controller}
    {requests : List (Context × VolumeRequest)} {c : Chronicle σ Answered}
    (hRuns : Runs env kind (.start w (controller.answers requests)) c) {number : Nat} {ctx : Context}
    {request : VolumeRequest} (hRequest : requests[number]? = some (ctx, request)) {id : String}
    (hIds : (c.result? number).map VolumeRequest.volumeIds = some [id]) :
    ∃ response, c.result? number = some ⟨request, .ok response⟩ ∧
      VolumeRequest.volumeIds ⟨request, .ok response⟩ = [id] := by
  obtain ⟨⟨request', result⟩, hResult, hId⟩ := Option.map_eq_some_iff.1 hIds
  obtain ⟨ctx', hRequest'⟩ := hRuns.exists_request hResult
  obtain rfl : request = request' := (Prod.mk.inj (Option.some.inj (hRequest.symm.trans hRequest'))).2
  cases result with
  | ok response => exact ⟨response, hResult, hId⟩
  | error e => cases request <;> cases hId

end VolumeController
