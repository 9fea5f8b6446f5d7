import VolumeController.Proofs.Listings.Endings
import VolumeController.Proofs.Listings.Parameters
import VolumeController.Proofs.Listings.Replies
/-! The pages of listings, over any platform and beside any other requests. Main results: the entries of a page are the
slice of the disks that the sites showed, without the sites that failed, and only disks on the page can fail it; the
next token is empty where the listing is complete, and the offset after the page elsewhere, but for one case. -/

namespace VolumeController

variable {σ α : Type}

namespace Listing

/-- The disks of the sites that answered, in the order of the sites, each with its own site. -/
def surviving (parts : List (Site × Except BackendError (List Disk))) : List LocatedDisk :=
  parts.flatMap fun
    | (site, .ok disks) => disks.map (⟨site.endpoint, site.datacenter.name, ·⟩)
    | (_, .error _) => []

/-- How a listing of some disks ends: with an internal failure if it starts beyond the end or if some disk on the page
cannot be reported, and otherwise with the reports of the disks on the page. -/
structure Delivers (limit start : Nat) (disks : List LocatedDisk) (result : Except Error ListVolumesResponse) :
    Prop where
  fails : disks.length < start ∨ (∃ d ∈ slice limit start disks, 2 ^ 43 ≤ d.disk.capacityMb.toNat) →
    ∃ e, result = .error e ∧ e.code = .internal
  succeeds : start ≤ disks.length → (∀ d ∈ slice limit start disks, d.disk.capacityMb.toNat < 2 ^ 43) →
    ∃ token, result = .ok ⟨(slice limit start disks).map fun d => ⟨d.report⟩, token⟩

end Listing

theorem LocatedDisk.reportable_iff (d : LocatedDisk) : d.Reportable ↔ d.disk.capacityMb.toNat < 2 ^ 43 := by
  have hMebibyte : Capacity.mebibyte = 2 ^ 20 := rfl
  have hReportable : Capacity.reportable = 2 ^ 63 := rfl
  rw [Reportable, hMebibyte, hReportable]
  omega

namespace Listing

variable {request : ListVolumesRequest} {limit start : Nat}

theorem seen_eq_surviving (parts : List (Site × Except BackendError (List Disk))) :
    PageCall.seen ⟨0, parts.map Prod.fst, parts.map Prod.snd⟩ = surviving parts := by
  simp only [PageCall.seen, List.zip_map', List.map_id']
  rfl

/-- A request with a limit and an offset has a page of some disks. -/
theorem exists_pageOf_eq_ok (hLimit : Listing.limit request.maxEntries = .ok limit)
    (hStart : offsetOfToken request.startingToken = .ok start) :
    ∃ disks response, pageOf request disks = .ok response := by
  let disks := List.replicate start (⟨"", "", ⟨"", "", 0, .datastore "", .other ""⟩⟩ : LocatedDisk)
  have hLength : disks.length = start := List.length_replicate
  have hPage : pageOf request disks = _ := pageOf_of_le hLimit hStart (Nat.le_of_eq hLength.symm)
  have hSlice : slice limit start disks = [] := by
    refine List.drop_eq_nil_of_le ?_
    rw [List.length_take, hLength]
    exact Nat.min_le_right _ _
  rw [hSlice] at hPage
  exact ⟨disks, _, hPage⟩

theorem delivers_pageOf (disks : List LocatedDisk) (hLimit : Listing.limit request.maxEntries = .ok limit)
    (hStart : offsetOfToken request.startingToken = .ok start) :
    Delivers limit start disks ((pageOf request disks).mapError Cause.toError) where
  fails := by
    rintro (hBeyond | ⟨d, hd, hLarge⟩)
    · rw [pageOf_of_lt hLimit hStart hBeyond]
      exact ⟨_, rfl, rfl⟩
    · rcases Nat.lt_or_ge disks.length start with hBeyond | hInside
      · rw [pageOf_of_lt hLimit hStart hBeyond]
        exact ⟨_, rfl, rfl⟩
      · have hNot : ¬ d.Reportable := fun hReportable => Nat.not_lt.2 hLarge (d.reportable_iff.1 hReportable)
        obtain ⟨cause, hCause⟩ := exists_entries_eq_error hd hNot
        obtain ⟨d', -, hVolume⟩ := exists_of_entries_eq_error hCause
        rw [pageOf_of_le hLimit hStart hInside, hCause]
        refine ⟨cause.toError, rfl, ?_⟩
        rw [LocatedDisk.cause_of_volume hVolume]
        rfl
  succeeds hInside hSmall := by
    rw [pageOf_of_le hLimit hStart hInside, entries_eq_ok fun d hd => d.reportable_iff.2 (hSmall d hd)]
    exact ⟨_, rfl⟩

end Listing

/-! Runs. -/

section

variable [Bench σ] {env : Surroundings σ} {w : World σ} {controller : Controller}
  {requests : List (Context × VolumeRequest)} {c : Chronicle σ Answered} {number : Nat} {ctx : Context}
  {request : ListVolumesRequest} {limit start : Nat}

/-- Sites and their replies as they were heard: one reply for each site, and each from the site's own datacenter. -/
theorem Chronicle.Runs.exists_parts (hRuns : Runs env (fun _ _ => True) (.start w (controller.answers requests)) c)
    {sites : List Site} {replies : List (Except BackendError (List Disk))}
    (hHeard : .listings sites replies ∈ c.heardBy number) :
    ∃ parts : List (Site × Except BackendError (List Disk)), sites = parts.map Prod.fst ∧
      replies = parts.map Prod.snd ∧
      ∀ part ∈ parts, (Call.listDisks part.1.datacenter).GivenBy σ part.2 := by
  have hWhole : List.Forall₂ (fun reply dc => (Call.listDisks dc).GivenBy σ reply) replies
    (sites.map Site.datacenter) := (hRuns.isWhole number).2 _ hHeard
  have hPaired := (List.forall₂_map_right_iff.1 hWhole).flip
  have hLength : sites.length = replies.length := hPaired.length_eq
  refine ⟨sites.zip replies, (List.map_fst_zip (Nat.le_of_eq hLength)).symm,
    (List.map_snd_zip (Nat.le_of_eq hLength.symm)).symm, ?_⟩
  rintro ⟨site, reply⟩ hPart
  exact List.forall₂_zip hPaired hPart

/-- Any requests at once over any platform. A listing with a limit and an offset that nobody aborted ended, if it has
ended, with an internal failure because the sites could not be listed, or with the page of the disks of just the sites
that answered, each with its own site. If it has not ended, it can be carried to its end while no time ends its
waits. -/
theorem pages_are_slices (hRuns : Chronicle.Runs env (fun _ _ => True) (.start w (controller.answers requests)) c)
    (hRequest : requests[number]? = some (ctx, .list request)) (hLimit : request.maxEntries.toInt = limit)
    (hStart : StartsAt request.startingToken start)
    (hUnaborted : ∀ x ∈ c.heardBy number, ∀ abort, x.answer ≠ .error abort) :
    (∀ answered, c.result? number = some answered → ∃ result, answered = ⟨.list request, result⟩ ∧
      ((∃ failure e, c.heardBy number = [.sites (.error failure)] ∧ result = .error e ∧ e.code = .internal) ∨
        ∃ parts : List (Site × Except BackendError (List Disk)),
          c.heardBy number = [.sites (.ok (parts.map Prod.fst)),
            .listings (parts.map Prod.fst) (parts.map Prod.snd)] ∧
          (∀ part ∈ parts, (Call.listDisks part.1.datacenter).GivenBy σ part.2) ∧
          Listing.Delivers limit start (Listing.surviving parts) result)) ∧
    (ctx.Unhurried c.system.world.cancelled → ∃ c' answered, Chronicle.Runs env (fun _ _ => True) c c' ∧
      (∀ x ∈ c'.heardBy number, ∀ abort, x.answer ≠ .error abort) ∧ c'.result? number = some answered) := by
  have hJob := controller.getElem?_answers hRequest
  have hLimit := (Listing.limit_eq_ok_iff _ _).2 hLimit
  have hStart := (offsetOfToken_eq_ok_iff _ _).2 hStart
  refine ⟨fun answered hResult => ?_, fun hUnhurried => ?_⟩
  · obtain ⟨result, rfl, hEnds⟩ := hRuns.goal_of_result hJob (controller.answer_list_converses _)
      (fun _ _ => trivial) hResult
    refine ⟨result, rfl, ?_⟩
    have hParts (sites : List Site) (replies : List (Except BackendError (List Disk)))
        (hHeard : .listings sites replies ∈ c.heardBy number) := hRuns.exists_parts hHeard
    generalize c.heardBy number = heard at hEnds hUnaborted hParts
    cases hEnds with
    | refused hRefused =>
        obtain ⟨disks, response, hPage⟩ := Listing.exists_pageOf_eq_ok hLimit hStart
        cases (hRefused disks).symm.trans hPage
    | gathered hGathers =>
        cases hGathers with
        | aborted hAborted hAbort => exact absurd hAbort (hUnaborted _ hAborted _)
        | unlisted failure => exact .inl ⟨failure, _, rfl, rfl, rfl⟩
        | listed sites replies =>
            obtain ⟨parts, rfl, rfl, hGiven⟩ := hParts _ _ (List.mem_cons_of_mem _ List.mem_cons_self)
            refine .inr ⟨parts, rfl, hGiven, ?_⟩
            rw [Listing.seen_eq_surviving]
            exact Listing.delivers_pageOf _ hLimit hStart
  · obtain ⟨c', answered, hMore, hResult⟩ := hRuns.exists_end hJob (controller.answer_list_onlyAsks _) hUnhurried
    exact ⟨c', answered, hMore.mono fun _ _ _ => trivial,
      hRuns.forall_answer_ne_error hJob hUnhurried hMore hUnaborted, hResult⟩

end

set_option maxRecDepth 10000 in
/-- One of two datacenters fails to list its disks, and the other one has a volume: the page shows that volume. -/
theorem pages_are_slices_outage :
    let config : Config := { virtualCenters := .ofList [("vc", { datacenters :=
      [{ name := "east", datastores := ["ds"] }, { name := "west", datastores := ["ds"] }] })] }
    let stocked := ((Inventory.ofConfig config).answer (.createDisk ⟨"west", 1⟩ ⟨.datastore, "ds"⟩ "volume" 1024)).2.2
    let inventory := (Inventory.obey (.fail (some ⟨"east", 0⟩) .listDisks (.connection "vc" "timeout")) stocked).2
    let requests := [(Context.background, VolumeRequest.list ⟨1, "+0"⟩)]
    ∃ (c : Chronicle Inventory Answered) (response : ListVolumesResponse)
      (parts : List (Site × Except BackendError (List Disk))),
      Chronicle.Runs Inventory.rough (fun _ _ => True)
        (.start { platform := inventory } (Controller.answers ⟨{}, ⟨false, 0⟩⟩ requests)) c ∧
      c.result? 0 = some ⟨.list ⟨1, "+0"⟩, .ok response⟩ ∧
      response.entries.map (·.volume.volumeId) = [Inventory.idText 1] ∧
      Listing.Delivers 1 0 (Listing.surviving parts) (.ok response) := by
  intro config stocked inventory requests
  let jobs := Controller.answers ⟨{}, ⟨false, 0⟩⟩ requests
  let listed := [0].foldl System.advance (System.start { platform := inventory } jobs)
  obtain ⟨turns, hRuns⟩ : ∃ turns, Chronicle.Runs Inventory.rough (fun _ _ => True)
      (.start { platform := inventory } jobs) ⟨listed, turns⟩ :=
    Chronicle.exists_advances (fun _ _ _ _ _ => trivial) [0] _ []
  have hIds : (listed.result? 0).map VolumeRequest.volumeIds = some [Inventory.idText 1] := by
    decide +kernel
  clear_value listed
  obtain ⟨response, hResult, hId⟩ := Chronicle.Runs.exists_response hRuns rfl hIds
  have hEndless : Context.background.Endless := Context.abort?_background
  have hUnaborted : ∀ x ∈ Chronicle.heardBy ⟨listed, turns⟩ 0, ∀ abort, x.answer ≠ .error abort := fun x hx abort =>
    hRuns.answer_ne_error rfl hEndless hx abort
  have hLimit : (1 : Int32).toInt = (1 : Nat) := rfl
  have hStart : StartsAt "+0" 0 := (offsetOfToken_eq_ok_iff _ _).1 rfl
  obtain ⟨hPages, -⟩ := pages_are_slices hRuns rfl hLimit hStart hUnaborted
  obtain ⟨result, hAnswered, ⟨_, _, _, rfl, _⟩ | ⟨parts, -, -, hDelivers⟩⟩ := hPages _ hResult
  · cases hAnswered
  · cases hAnswered
    exact ⟨⟨listed, turns⟩, response, parts, hRuns, hResult, hId, hDelivers⟩

/-! Next tokens. -/

/-- Whether a token tells if the page is the last one: it is empty just where the page reaches the end of the listing,
and elsewhere it is the offset after the page. -/
structure Listing.TellsEnd (limit start total : Nat) (token : String) : Prop where
  empty : token = "" ↔ Listing.pageEnd limit start total = total
  next : Listing.pageEnd limit start total < total → token = Text.natText (Listing.pageEnd limit start total)

/-- The token after a page tells the end unless just as many items as a limit below the length of the listing are
left. -/
theorem Listing.tellsEnd_iff (limit start total : Nat) :
    TellsEnd limit start total (tokenAfter limit start total) ↔
      ¬ (0 < limit ∧ limit < total ∧ start + limit = total) := by
  by_cases hContinues : Continues limit start total
  · obtain ⟨hPositive, hLess, -⟩ := id hContinues
    have hEnd := pageEnd_of_continues hContinues
    have hSome : tokenAfter limit start total ≠ "" := by
      rw [tokenAfter, if_pos hContinues]
      exact natText_ne_empty _
    constructor
    · rintro ⟨hEmpty, -⟩ ⟨-, -, hExact⟩
      exact hSome (hEmpty.2 (hEnd.trans hExact))
    · intro hNot
      refine ⟨⟨fun hNone => absurd hNone hSome, fun hWhole => ?_⟩, fun _ => if_pos hContinues⟩
      exact absurd ⟨hPositive, hLess, hEnd.symm.trans hWhole⟩ hNot
  · have hEnd := pageEnd_of_not_continues hContinues
    have hToken := tokenAfter_of_not_continues hContinues
    constructor
    · rintro - ⟨hPositive, hLess, hExact⟩
      exact hContinues ⟨hPositive, hLess, Nat.le_of_eq hExact⟩
    · intro _
      exact ⟨⟨fun _ => hEnd, fun _ => hToken⟩, fun hShort => absurd hEnd (Nat.ne_of_lt hShort)⟩

/-- Any requests at once over any platform. The next token of a listing that succeeded tells whether its page was the
last one, unless the page ends just at the end of the listing and a limit below the length of the listing was set. -/
theorem next_tokens_tell_end_iff [Bench σ] {env : Surroundings σ} {w : World σ} {controller : Controller}
    {requests : List (Context × VolumeRequest)} {c : Chronicle σ Answered}
    (hRuns : Chronicle.Runs env (fun _ _ => True) (.start w (controller.answers requests)) c) {number : Nat}
    {request : ListVolumesRequest} {limit start : Nat} (hLimit : request.maxEntries.toInt = limit)
    (hStart : StartsAt request.startingToken start) {response : ListVolumesResponse}
    (hResult : c.result? number = some ⟨.list request, .ok response⟩) :
    ∃ parts : List (Site × Except BackendError (List Disk)),
      c.heardBy number = [.sites (.ok (parts.map Prod.fst)), .listings (parts.map Prod.fst) (parts.map Prod.snd)] ∧
      let total := (Listing.surviving parts).length
      start ≤ total ∧ (Listing.TellsEnd limit start total response.nextToken ↔
        ¬ (0 < limit ∧ limit < total ∧ start + limit = total)) := by
  obtain ⟨ctx, hRequest⟩ := hRuns.exists_request hResult
  obtain ⟨result, hAnswered, hEnds⟩ := hRuns.goal_of_result (controller.getElem?_answers hRequest)
    (controller.answer_list_converses _) (fun _ _ => trivial) hResult
  cases hAnswered
  obtain ⟨sites, replies, hHeard, hPage⟩ := hEnds.exists_of_ok
  obtain ⟨parts, rfl, rfl, -⟩ := hRuns.exists_parts (hHeard ▸ List.mem_cons_of_mem _ List.mem_cons_self)
  refine ⟨parts, hHeard, ?_⟩
  intro total
  rw [Listing.seen_eq_surviving] at hPage
  have hLimit := (Listing.limit_eq_ok_iff _ _).2 hLimit
  have hStart := (offsetOfToken_eq_ok_iff _ _).2 hStart
  have hInside : start ≤ total := by
    by_contra hBeyond
    rw [Listing.pageOf_of_lt hLimit hStart (Nat.lt_of_not_le hBeyond)] at hPage
    cases hPage
  have hToken : response.nextToken = Listing.tokenAfter limit start total := by
    have hCut := Listing.pageOf_of_le hLimit hStart hInside
    rw [hPage] at hCut
    cases hEntries : Listing.entries (Listing.slice limit start (Listing.surviving parts)) <;> rw [hEntries] at hCut <;>
      cases hCut
    rfl
  rw [hToken]
  exact ⟨hInside, Listing.tellsEnd_iff limit start total⟩

/-- Two volumes are created, and then listed one by one. -/
def VolumeRequest.onePerPage : List (Context × VolumeRequest) :=
  [.create (.single 1), .create { CreateVolumeRequest.single 1 with name := "other" }, .list ⟨1, ""⟩,
    .list ⟨1, "1"⟩].map (Context.background, ·)

/-- The token that a listing goes on with. -/
def VolumeRequest.nextToken? : Answered → Option String
  | ⟨.list _, .ok response⟩ => some response.nextToken
  | _ => none

theorem Chronicle.Runs.exists_of_nextToken? [Bench σ] {env : Surroundings σ} {w : World σ} {controller : Controller}
    {requests : List (Context × VolumeRequest)} {c : Chronicle σ Answered}
    (hRuns : Runs env (fun _ _ => True) (.start w (controller.answers requests)) c) {number : Nat} {ctx : Context}
    {request : ListVolumesRequest} (hRequest : requests[number]? = some (ctx, .list request)) {token : String}
    (hToken : (c.result? number).bind VolumeRequest.nextToken? = some token) :
    ∃ response, c.result? number = some ⟨.list request, .ok response⟩ ∧ response.nextToken = token := by
  obtain ⟨answered, hResult, hNext⟩ := Option.bind_eq_some_iff.1 hToken
  obtain ⟨request', result⟩ := answered
  obtain ⟨ctx', hRequest'⟩ := hRuns.exists_request hResult
  obtain rfl : VolumeRequest.list request = request' :=
    (Prod.mk.inj (Option.some.inj (hRequest.symm.trans hRequest'))).2
  cases result with
  | error e => cases hNext
  | ok response => exact ⟨response, hResult, Option.some.inj hNext⟩

set_option maxRecDepth 10000 in
/-- The first page tells that another one follows. -/
theorem next_tokens_tell_end_first :
    ∃ (c : Chronicle Inventory Answered) (response : ListVolumesResponse) (total : Nat),
      Chronicle.Runs Inventory.rough (fun _ _ => True)
        (.start { platform := .ofConfig .single } (Controller.answers ⟨{}, ⟨false, 0⟩⟩ VolumeRequest.onePerPage)) c ∧
      c.result? 2 = some ⟨.list ⟨1, ""⟩, .ok response⟩ ∧ response.nextToken = "1" ∧
      Listing.TellsEnd 1 0 total response.nextToken := by
  let jobs := Controller.answers ⟨{}, ⟨false, 0⟩⟩ VolumeRequest.onePerPage
  let listed := [0, 1, 2].foldl System.advance (System.start { platform := Inventory.ofConfig .single } jobs)
  obtain ⟨turns, hRuns⟩ : ∃ turns, Chronicle.Runs Inventory.rough (fun _ _ => True)
      (.start { platform := .ofConfig .single } jobs) ⟨listed, turns⟩ :=
    Chronicle.exists_advances (fun _ _ _ _ _ => trivial) [0, 1, 2] _ []
  have hNext : (listed.result? 2).bind VolumeRequest.nextToken? = some "1" := by
    decide +kernel
  clear_value listed
  obtain ⟨response, hResult, hToken⟩ := hRuns.exists_of_nextToken? rfl hNext
  have hLimit : (1 : Int32).toInt = (1 : Nat) := rfl
  have hStart : StartsAt "" 0 := .inl ⟨rfl, rfl⟩
  obtain ⟨parts, -, -, hTells⟩ := next_tokens_tell_end_iff hRuns hLimit hStart hResult
  exact ⟨⟨listed, turns⟩, response, _, hRuns, hResult, hToken, hTells.2 (by omega)⟩

set_option maxRecDepth 10000 in
/-- The page with the last of the two volumes is continued all the same. -/
theorem next_tokens_tell_end_fails_for_last :
    ∃ (c : Chronicle Inventory Answered) (response : ListVolumesResponse),
      Chronicle.Runs Inventory.rough (fun _ _ => True)
        (.start { platform := .ofConfig .single } (Controller.answers ⟨{}, ⟨false, 0⟩⟩ VolumeRequest.onePerPage)) c ∧
      c.platform.sites.flatMap (fun site => (c.platform.disksAt site.datacenter.place).map (·.id)) =
        [Inventory.idText 1, Inventory.idText 2] ∧
      c.result? 3 = some ⟨.list ⟨1, "1"⟩, .ok response⟩ ∧
      response.entries.map (·.volume.volumeId) = [Inventory.idText 2] ∧ response.nextToken = "2" := by
  let jobs := Controller.answers ⟨{}, ⟨false, 0⟩⟩ VolumeRequest.onePerPage
  let listed := [0, 1, 2, 3].foldl System.advance (System.start { platform := Inventory.ofConfig .single } jobs)
  obtain ⟨turns, hRuns⟩ : ∃ turns, Chronicle.Runs Inventory.rough (fun _ _ => True)
      (.start { platform := .ofConfig .single } jobs) ⟨listed, turns⟩ :=
    Chronicle.exists_advances (fun _ _ _ _ _ => trivial) [0, 1, 2, 3] _ []
  have hNext : (listed.result? 3).bind VolumeRequest.nextToken? = some "2" := by
    decide +kernel
  have hIds : (listed.result? 3).map VolumeRequest.volumeIds = some [Inventory.idText 2] := by
    decide +kernel
  have hDisks : listed.world.platform.sites.flatMap (fun site =>
      (listed.world.platform.disksAt site.datacenter.place).map (·.id)) = [Inventory.idText 1, Inventory.idText 2] := by
    decide +kernel
  clear_value listed
  obtain ⟨response, hResult, hToken⟩ := hRuns.exists_of_nextToken? rfl hNext
  refine ⟨⟨listed, turns⟩, response, hRuns, hDisks, hResult, ?_, hToken⟩
  have hSame : listed.result? 3 = some ⟨.list ⟨1, "1"⟩, .ok response⟩ := hResult
  rw [hSame] at hIds
  exact Option.some.inj hIds

end VolumeController
