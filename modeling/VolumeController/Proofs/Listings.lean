import VolumeController.Proofs.Inventory.Seen
import VolumeController.Proofs.Listings.Endings
import VolumeController.Proofs.Listings.Steady
/-! Listings beside other requests. Each datacenter answers at a moment of its own, so a listing is no picture of one
moment. Main result: it shows every disk that was there all the time, and none that was not there at some time, once
each, in the order of the datacenters and within each in the order in which the disks came. -/

namespace VolumeController

/-- The response that has the reports of disks at their sites, all on one page. -/
def ListVolumesResponse.showing (shown : List (Site × Disk)) : ListVolumesResponse :=
  ⟨shown.map fun (site, disk) => ⟨LocatedDisk.report ⟨site.endpoint, site.datacenter.name, disk⟩⟩, ""⟩

/-- What may be relied on in the disks that a listing shows, each with its site, over all moments so far. -/
structure Consistent (base : Inventory) (history : List (Chronicle Inventory Answered)) (number : Nat)
    (shown : List (Site × Disk)) : Prop where
  /-- No id is shown twice. -/
  ids : (shown.map fun (_, disk) => disk.id).Nodup
  /-- What is shown was there at some moment of the request. -/
  sound : ∀ site disk, (site, disk) ∈ shown → site ∈ base.sites ∧
    ∃ m ∈ history, m.UnderWay number ∧ disk ∈ m.platform.disksAt site.datacenter.place
  /-- What was there at every moment of the request is shown. -/
  complete : ∀ place disk, (∀ m ∈ history, m.UnderWay number → disk ∈ m.platform.disksAt place) →
    ∃ site, site.datacenter.place = place ∧ (site, disk) ∈ shown
  /-- Datacenters come in the order of enumeration, and the disks of each in the order in which they came. -/
  ordered : shown.Pairwise fun (site, disk) (site', disk') =>
    site.datacenter.place < site'.datacenter.place ∨
      site = site' ∧ CreatedBefore history site.datacenter.place disk disk'

namespace Listing

/-- What sites show that are listed each in a state of its own. -/
def shown (parts : List (Site × Inventory)) : List (Site × Disk) :=
  parts.flatMap fun (site, inv) => (inv.disksAt site.datacenter.place).map (site, ·)

variable {parts : List (Site × Inventory)} {site : Site} {disk : Disk}

theorem mem_shown : (site, disk) ∈ shown parts ↔ ∃ inv, (site, inv) ∈ parts ∧ disk ∈ inv.disksAt site.datacenter.place := by
  simp only [shown, List.mem_flatMap, List.mem_map, Prod.exists, Prod.mk.injEq]
  constructor
  · rintro ⟨site', inv, hPart, disk', hDisk, rfl, rfl⟩
    exact ⟨inv, hPart, hDisk⟩
  · rintro ⟨inv, hPart, hDisk⟩
    exact ⟨site, inv, hPart, disk, hDisk, rfl, rfl⟩

/-- What was gathered is what the sites show. -/
theorem seen_eq (parts : List (Site × Inventory)) :
    PageCall.seen ⟨0, parts.map Prod.fst, parts.map fun part => .ok (part.2.disksAt part.1.datacenter.place)⟩ =
      (shown parts).map fun (site, disk) => ⟨site.endpoint, site.datacenter.name, disk⟩ := by
  simp only [PageCall.seen, shown, List.zip_map', List.flatMap_map, List.map_flatMap, List.map_map, Function.comp_def]

/-- Replies that come from the states of some moments, each with its site and state. -/
theorem exists_parts {moments : Inventory → Prop} {sites : List Site}
    {replies : List (Except BackendError (List Disk))}
    (h : List.Forall₂ (fun reply dc => ∃ inv, moments inv ∧ reply = inv.reply (.listDisks dc)) replies
      (sites.map Site.datacenter)) :
    ∃ parts : List (Site × Inventory), sites = parts.map Prod.fst ∧
      replies = parts.map (fun part => part.2.reply (.listDisks part.1.datacenter)) ∧
      ∀ site inv, (site, inv) ∈ parts → moments inv := by
  induction sites generalizing replies with
  | nil =>
      cases h
      exact ⟨[], rfl, rfl, nofun⟩
  | cons site sites ih =>
      cases h with
      | cons hReply hRest =>
          obtain ⟨inv, hInv, rfl⟩ := hReply
          obtain ⟨parts, rfl, rfl, hParts⟩ := ih hRest
          refine ⟨(site, inv) :: parts, rfl, rfl, fun site' inv' hPart => ?_⟩
          rcases List.mem_cons.1 hPart with hFirst | hOld
          · cases hFirst
            exact hInv
          · exact hParts site' inv' hOld

end Listing

/-- Sites are in the order of their places. -/
theorem Inventory.pairwise_sites (inv : Inventory) :
    inv.sites.Pairwise fun site site' => site.datacenter.place < site'.datacenter.place := by
  rw [List.pairwise_iff_getElem]
  intro i j hi hj hLess
  rwa [(place_of_sites (List.getElem?_eq_getElem hi)).1, (place_of_sites (List.getElem?_eq_getElem hj)).1]

section

variable {controller : Controller} {config : Config} {w : World Inventory} {requests : List (Context × VolumeRequest)}
  {number : Nat} {history : List (Chronicle Inventory Answered)} {m : Chronicle Inventory Answered}

/-- What is shown was there at some moment of the request. -/
theorem Listing.sound_of_shown {parts : List (Site × Inventory)} {site : Site} {disk : Disk}
    (hSites : parts.map Prod.fst = (Inventory.ofConfig config).sites)
    (hParts : ∀ site inv, (site, inv) ∈ parts → ∃ m ∈ history, m.UnderWay number ∧ m.platform = inv)
    (hShown : (site, disk) ∈ Listing.shown parts) : site ∈ (Inventory.ofConfig config).sites ∧
      ∃ m ∈ history, m.UnderWay number ∧ disk ∈ m.platform.disksAt site.datacenter.place := by
  obtain ⟨inv, hPart, hDisk⟩ := Listing.mem_shown.1 hShown
  obtain ⟨m, hMoment, hDuring, rfl⟩ := hParts site inv hPart
  exact ⟨hSites ▸ List.mem_map_of_mem hPart, m, hMoment, hDuring, hDisk⟩

/-- What is shown comes in the order of the datacenters, and within each in the order of creation. -/
theorem Course.pairwise_shown (hPlatform : w.platform = .ofConfig config)
    (h : Course Inventory.rough (.start w (controller.answers requests)) history)
    {parts : List (Site × Inventory)} (hSites : parts.map Prod.fst = (Inventory.ofConfig config).sites)
    (hParts : ∀ site inv, (site, inv) ∈ parts → ∃ m ∈ history, m.UnderWay number ∧ m.platform = inv) :
    (Listing.shown parts).Pairwise fun (site, disk) (site', disk') =>
      site.datacenter.place < site'.datacenter.place ∨
        site = site' ∧ CreatedBefore history site.datacenter.place disk disk' := by
  have hFirst : (Chronicle.start w (controller.answers requests)).platform = .ofConfig config := hPlatform
  refine List.pairwise_flatMap.2 ⟨fun (site, inv) hPart => List.pairwise_map.2 ?_, ?_⟩
  · obtain ⟨m, hMoment, -, rfl⟩ := hParts site inv hPart
    exact (h.pairwise_createdBefore hFirst hMoment site.datacenter.place).imp fun hBefore => .inr ⟨rfl, hBefore⟩
  · have hPlaces := (Inventory.ofConfig config).pairwise_sites
    rw [← hSites, List.pairwise_map] at hPlaces
    refine hPlaces.imp fun hLess entry hEntry entry' hEntry' => ?_
    obtain ⟨disk, -, rfl⟩ := List.mem_map.1 hEntry
    obtain ⟨disk', -, rfl⟩ := List.mem_map.1 hEntry'
    exact .inl hLess

/-- What sites show that are listed at moments of a request, each site once and in the order of enumeration. -/
theorem Course.consistent (hPlatform : w.platform = .ofConfig config)
    (h : Course Inventory.rough (.start w (controller.answers requests)) history)
    {parts : List (Site × Inventory)} (hSites : parts.map Prod.fst = (Inventory.ofConfig config).sites)
    (hParts : ∀ site inv, (site, inv) ∈ parts → ∃ m ∈ history, m.UnderWay number ∧ m.platform = inv)
    (hUnderWay : ∃ m ∈ history, m.UnderWay number) :
    Consistent (.ofConfig config) history number (Listing.shown parts) := by
  have hFirst : (Chronicle.start w (controller.answers requests)).platform = .ofConfig config := hPlatform
  have hOrdered := h.pairwise_shown hPlatform hSites hParts
  refine ⟨?_, fun site disk => Listing.sound_of_shown hSites hParts, fun place disk hThroughout => ?_, hOrdered⟩
  · -- Two entries of one id would be one disk at one site, which nothing comes before.
    refine List.pairwise_map.2 (hOrdered.imp_of_mem fun {entry entry'} hEntry hEntry' hBefore hId => ?_)
    obtain ⟨site, disk⟩ := entry
    obtain ⟨site', disk'⟩ := entry'
    obtain ⟨-, m, hMoment, -, hDisk⟩ := Listing.sound_of_shown hSites hParts hEntry
    obtain ⟨-, m', hMoment', -, hDisk'⟩ := Listing.sound_of_shown hSites hParts hEntry'
    obtain ⟨hPlace, rfl⟩ := h.eq_of_id hFirst ⟨m, hMoment, hDisk⟩ ⟨m', hMoment', hDisk'⟩ hId
    rcases hBefore with hLess | ⟨-, later, earlier, -, hSeen, hUnseen⟩
    · exact absurd hPlace (Nat.ne_of_lt hLess)
    · exact hUnseen hSeen
  · obtain ⟨m, hMoment, hDuring⟩ := hUnderWay
    obtain ⟨site, hSite, rfl⟩ := Inventory.exists_site_of_mem_disksAt (hThroughout m hMoment hDuring)
    rw [(h.regular hPlatform hMoment).sites_eq, ← hSites] at hSite
    obtain ⟨⟨_, inv⟩, hPart, rfl⟩ := List.mem_map.1 hSite
    obtain ⟨m', hMoment', hDuring', rfl⟩ := hParts _ inv hPart
    exact ⟨_, rfl, Listing.mem_shown.2 ⟨_, hPart, hThroughout m' hMoment' hDuring'⟩⟩

/-- At every moment listings succeed. -/
theorem Course.listsFreely (hPlatform : w.platform = .ofConfig config)
    (h : Course Inventory.steady (.start w (controller.answers requests)) history) (hMoment : m ∈ history) :
    m.platform.ListsFreely := by
  have hFirst : w.platform.Regular (Inventory.ofConfig config).layout ∧ w.platform.ListsFreely := by
    rw [hPlatform]
    exact ⟨Inventory.regular_ofConfig config, Inventory.listsFreely_of_faultless (Inventory.faultless_ofConfig config)⟩
  exact ((h.runs hMoment).states (Inventory.upheld_steady _) hFirst).2

/-- Where listings succeed, the page of what the sites answer is what they show. -/
theorem Course.pageOf_parts (hPlatform : w.platform = .ofConfig config)
    (h : Course Inventory.steady (.start w (controller.answers requests)) history)
    {parts : List (Site × Inventory)} (hSites : parts.map Prod.fst = (Inventory.ofConfig config).sites)
    (hParts : ∀ site inv, (site, inv) ∈ parts → ∃ m ∈ history, m.platform = inv) :
    Listing.pageOf ⟨0, ""⟩ (PageCall.seen ⟨0, parts.map Prod.fst,
      parts.map fun part => part.2.reply (.listDisks part.1.datacenter)⟩) = .ok (.showing (Listing.shown parts)) := by
  have hRough := h.mono Inventory.steady_within
  have hAnswered : (parts.map fun part => (part.2.reply (.listDisks part.1.datacenter) : Except BackendError (List Disk))) =
      parts.map fun part => .ok (part.2.disksAt part.1.datacenter.place) := by
    refine List.map_congr_left fun (site, inv) hPart => ?_
    obtain ⟨m, hMoment, rfl⟩ := hParts site inv hPart
    refine (h.listsFreely hPlatform hMoment).reply_listDisks ?_
    rw [(hRough.regular hPlatform hMoment).sites_eq, ← hSites]
    exact List.mem_map_of_mem hPart
  have hReportable : ∀ d ∈ (Listing.shown parts).map fun (site, disk) =>
      (⟨site.endpoint, site.datacenter.name, disk⟩ : LocatedDisk), d.Reportable := by
    refine List.forall_mem_map.2 fun (site, disk) hShown => ?_
    obtain ⟨inv, hPart, hDisk⟩ := Listing.mem_shown.1 hShown
    obtain ⟨m, hMoment, rfl⟩ := hParts site inv hPart
    exact ((hRough.regular hPlatform hMoment).disks _ disk hDisk).usable.size
  rw [hAnswered, Listing.seen_eq, Listing.pageOf_whole hReportable, List.map_map]
  rfl

/-- A thread that has heard something and has not ended is under way. -/
theorem ShownAt.underWay {x : Exchange} {told : List Exchange} {inv : Inventory}
    (h : ShownAt history number (x :: told) inv) : ∃ m ∈ history, m.UnderWay number ∧ m.platform = inv := by
  obtain ⟨m, hMoment, hTold, hUnfinished, hInv⟩ := h
  have hHeard : x ∈ m.heardBy number := hTold ▸ List.mem_cons_self
  exact ⟨m, hMoment, ⟨Chronicle.hasBegun_of_mem_heardBy hHeard, hUnfinished⟩, hInv⟩

variable {ctx : Context} {c : Chronicle Inventory Answered} {earlier : List (Chronicle Inventory Answered)}

/-- A request that first asks for the sites is told of those of the configuration. -/
theorem Course.sites_of_heard (hPlatform : w.platform = .ofConfig config)
    (h : Course Inventory.steady (.start w (controller.answers requests)) (c :: earlier))
    {reply : Except BackendError (List Site)} (hHeard : [.sites reply] <+: c.heardBy number) :
    reply = .ok (Inventory.ofConfig config).sites := by
  obtain ⟨-, inv, ⟨m, hMoment, -, -, rfl⟩, hReply⟩ := (h.informed number).heard [] (.sites reply) hHeard
  rw [← ((h.mono Inventory.steady_within).regular hPlatform hMoment).sites_eq]
  exact hReply.trans (h.listsFreely hPlatform hMoment).reply_listSites

/-- A listing that nobody aborts succeeds where listings do not fail, and shows what can be relied on. -/
theorem Course.exists_shown (hPlatform : w.platform = .ofConfig config)
    (h : Course Inventory.steady (.start w (controller.answers requests)) (c :: earlier))
    (hRequest : requests[number]? = some (ctx, .list ⟨0, ""⟩))
    (hUnaborted : ∀ x ∈ c.heardBy number, ∀ abort, x.answer ≠ .error abort) {answered : Answered}
    (hResult : c.result? number = some answered) :
    ∃ shown, answered = ⟨.list ⟨0, ""⟩, .ok (.showing shown)⟩ ∧
      Consistent (.ofConfig config) (c :: earlier) number shown := by
  have hJob := controller.getElem?_answers hRequest
  obtain ⟨result, rfl, hEnds⟩ := (h.runs List.mem_cons_self).goal_of_result hJob
    (controller.answer_list_converses _) (fun _ _ => trivial) hResult
  have hComes := (h.informed number).heard
  have hTold (reply : Except BackendError (List Site)) :
      [.sites reply] <+: c.heardBy number → reply = .ok (Inventory.ofConfig config).sites := h.sites_of_heard hPlatform
  generalize c.heardBy number = heard at hEnds hUnaborted hComes hTold
  cases hEnds with
  | refused hRefused => cases (hRefused []).symm.trans (Listing.pageOf_whole (List.forall_mem_nil _))
  | gathered hGathers =>
      cases hGathers with
      | aborted hAborted hAbort => exact absurd hAbort (hUnaborted _ hAborted _)
      | unlisted failure => cases hTold _ (List.prefix_refl _)
      | listed sites replies =>
          obtain rfl := Except.ok.inj (hTold _ (List.prefix_append _ _))
          obtain ⟨⟨_, hSome⟩, hReplies⟩ := hComes [_] (.listings _ replies) (List.prefix_refl _)
          obtain ⟨parts, hParts, rfl, hMoments⟩ := Listing.exists_parts hReplies
          have hDuring (site : Site) (inv : Inventory) (hPart : (site, inv) ∈ parts) :
              ∃ m ∈ c :: earlier, m.UnderWay number ∧ m.platform = inv := (hMoments site inv hPart).underWay
          have hPage := h.pageOf_parts hPlatform hParts.symm fun site inv hPart =>
            (hDuring site inv hPart).imp fun _ hMoment => ⟨hMoment.1, hMoment.2.2⟩
          obtain ⟨m, hMoment, hUnderWay, -⟩ := hSome.underWay
          refine ⟨Listing.shown parts, ?_, (h.mono Inventory.steady_within).consistent hPlatform hParts.symm hDuring
            ⟨m, hMoment, hUnderWay⟩⟩
          rw [hParts]
          simp only [bind, Except.bind, hPage]
          rfl

end

/-- A listing of everything beside any other requests, whatever fails, is delayed, is cancelled or runs out of time
but the listing itself. The inventory had no disks to begin with. If the listing has ended, it succeeded and its page
is consistent; if it has not, and nothing ends its waits, it can still be carried to a success. -/
theorem listings_are_consistent (controller : Controller) {config : Config} {w : World Inventory}
    (hPlatform : w.platform = .ofConfig config) {requests : List (Context × VolumeRequest)} {number : Nat}
    {ctx : Context} (hRequest : requests[number]? = some (ctx, .list ⟨0, ""⟩)) {c : Chronicle Inventory Answered}
    {earlier : List (Chronicle Inventory Answered)}
    (hCourse : Course Inventory.steady (.start w (controller.answers requests)) (c :: earlier))
    (hUnaborted : ∀ x ∈ c.heardBy number, ∀ abort, x.answer ≠ .error abort) :
    (∀ answered, c.result? number = some answered → ∃ shown, answered = ⟨.list ⟨0, ""⟩, .ok (.showing shown)⟩ ∧
      Consistent (.ofConfig config) (c :: earlier) number shown) ∧
    (ctx.Unhurried c.system.world.cancelled → ∃ c' shown, Chronicle.Runs Inventory.steady (fun _ _ => True) c c' ∧
      c'.result? number = some ⟨.list ⟨0, ""⟩, .ok (.showing shown)⟩) := by
  refine ⟨fun answered hResult => hCourse.exists_shown hPlatform hRequest hUnaborted hResult, fun hUnhurried => ?_⟩
  have hRuns := hCourse.runs List.mem_cons_self
  have hJob := controller.getElem?_answers hRequest
  obtain ⟨c', answered, hMore, hResult⟩ := hRuns.exists_end hJob (controller.answer_list_onlyAsks _) hUnhurried
  have hStill := hRuns.forall_answer_ne_error hJob hUnhurried hMore hUnaborted
  have hMore := Chronicle.Runs.mono hMore fun _ _ _ => trivial
  obtain ⟨earlier', hCourse'⟩ := Chronicle.Runs.exists_course (hRuns.trans hMore)
  obtain ⟨shown, rfl, -⟩ := hCourse'.exists_shown hPlatform hRequest hStill hResult
  exact ⟨c', shown, hMore, hResult⟩

set_option maxRecDepth 10000 in
/-- A volume is created, and then everything is listed: the listing shows the volume. -/
theorem listings_are_consistent_created :
    let requests := [.create (.single 1), .list ⟨0, ""⟩].map (Context.background, ·)
    ∃ (c : Chronicle Inventory Answered) (earlier : List (Chronicle Inventory Answered)) (shown : List (Site × Disk)),
      Course Inventory.steady
        (.start { platform := .ofConfig .single } (Controller.answers ⟨{}, ⟨false, 0⟩⟩ requests)) (c :: earlier) ∧
      c.result? 1 = some ⟨.list ⟨0, ""⟩, .ok (.showing shown)⟩ ∧
      shown.map (fun (_, disk) => disk.id) = [Inventory.idText 1] ∧
      Consistent (.ofConfig .single) (c :: earlier) 1 shown := by
  intro requests
  let jobs := Controller.answers ⟨{}, ⟨false, 0⟩⟩ requests
  let listed := [0, 1].foldl System.advance (System.start { platform := Inventory.ofConfig .single } jobs)
  obtain ⟨turns, hRuns⟩ : ∃ turns, Chronicle.Runs Inventory.steady (fun _ _ => True)
      (.start { platform := .ofConfig .single } jobs) ⟨listed, turns⟩ :=
    Chronicle.exists_advances (fun _ _ _ _ _ => trivial) [0, 1] _ []
  have hIds : (listed.result? 1).map VolumeRequest.volumeIds = some [Inventory.idText 1] := by
    decide +kernel
  clear_value listed
  obtain ⟨response, hResult, hId⟩ := Chronicle.Runs.exists_response hRuns rfl hIds
  obtain ⟨earlier, hCourse⟩ := hRuns.exists_course
  have hEndless : Context.background.Endless := Context.abort?_background
  have hUnaborted : ∀ x ∈ Chronicle.heardBy ⟨listed, turns⟩ 1, ∀ abort, x.answer ≠ .error abort := fun x hx abort =>
    hRuns.answer_ne_error rfl hEndless hx abort
  obtain ⟨hConsistent, -⟩ := listings_are_consistent ⟨{}, ⟨false, 0⟩⟩ rfl rfl hCourse hUnaborted
  obtain ⟨shown, hAnswered, hShown⟩ := hConsistent _ hResult
  cases hAnswered
  refine ⟨⟨listed, turns⟩, earlier, shown, hCourse, hResult, ?_, hShown⟩
  simpa [VolumeRequest.volumeIds, ListVolumesResponse.showing, LocatedDisk.report, Function.comp_def] using hId

end VolumeController
