import Mathlib.Data.List.Induction
import VolumeController.Proofs.Interleaving.Waits
import VolumeController.Proofs.Listings
import VolumeController.Proofs.Reports
import VolumeController.Proofs.Topology.Searches
/-! Placement honours topology. Where nothing fails and nothing is aborted, what a platform tells of its zones never
changes. Main result: what a create request returns lies at the place of the first candidate that has one, no other
datacenter is ever called, and without such a candidate the request fails by the last of them, whatever other requests
do meanwhile. -/

namespace VolumeController

/-! Calm platforms. -/

namespace Inventory

/-- Whatever is asked of a calm inventory, it stays without faults, and stays as it is configured. -/
theorem upheld_calm (layout : Inventory) :
    Contract.Upheld ⟨fun _ => True, fun _ _ => True⟩ calm fun inv => inv.Faultless ∧ inv.layout = layout where
  start c inv _ h := ⟨h.1.start c, (layout_start inv c).trans h.2⟩
  finish c ticket inv _ h := ⟨trivial, h.1.finish c ticket, (layout_finish inv c ticket).trans h.2⟩
  command c inv hCommand h := ⟨h.1.obey hCommand.2, (layout_obey inv c).trans h.2⟩
  abort hAborts := hAborts.elim
  asksListings _ _ _ _ := trivial
  listings _ _ _ := trivial
  lock _ := trivial
  work _ := trivial

theorem calm_within : calm.Within rough where
  aborts := False.elim
  commands _ hCommand := hCommand.1

/-- Without faults a zone is told of as the layout says. -/
theorem Faultless.reply_resolveZone {inv base : Inventory} (h : inv.Faultless) (hLayout : inv.layout = base.layout)
    (query : ZoneQuery) : inv.reply (.resolveZone query) = base.resolveZone query.zone query.region := by
  unfold reply
  rw [h.failure?_faultsOf]
  change inv.resolveZone query.zone query.region = base.resolveZone query.zone query.region
  rw [← inv.resolveZone_layout, hLayout, base.resolveZone_layout]

end Inventory

section

variable {α : Type} {w : World Inventory} {jobs : List (Context × Procedure α)} {number : Nat}
  {c : Chronicle Inventory α} {kind : Chronicle Inventory α → Chronicle Inventory α → Prop}

theorem Chronicle.Runs.calm (h : Chronicle.Runs Inventory.calm kind (.start w jobs) c)
    (hFaultless : w.platform.Faultless) : c.platform.Faultless ∧ c.platform.layout = w.platform.layout :=
  ((Inventory.upheld_calm w.platform.layout).runs ⟨hFaultless, rfl⟩
    (fun _ job _ => job.2.meets_freely) h.system).1

/-- In calm a thread hears of no abort, and of zones what the configuration says. -/
theorem Chronicle.Runs.told_placing (h : Chronicle.Runs Inventory.calm kind (.start w jobs) c)
    (hFaultless : w.platform.Faultless) {config : Config}
    (hLayout : w.platform.layout = (Inventory.ofConfig config).layout) (labels : LabelsConfig)
    (candidates : List (String × String)) : ∀ x ∈ c.heardBy number, (config.placing labels candidates).told x := by
  intro x hHeard
  have hAnswered := h.answer_ne_error_of_calm id number x hHeard
  obtain ⟨earlier, hCourse⟩ := h.exists_course
  have hFrom := (hCourse.informed number).comesFrom hHeard
  obtain ⟨wait, abort | answer⟩ := x
  · exact hAnswered abort rfl
  · cases wait with
    | call c =>
        cases c with
        | resolveZone query =>
            obtain ⟨inv, ⟨m, hMoment, rfl⟩, hReply⟩ := hFrom
            obtain ⟨hCalm, hSame⟩ := (hCourse.runs hMoment).calm hFaultless
            exact hReply.trans (hCalm.reply_resolveZone (hSame.trans hLayout) query)
        | _ => trivial
    | _ => trivial

/-- Whether no thread has deleted a disk. -/
def Chronicle.DeletesNothing (c : Chronicle Inventory α) : Prop :=
  ∀ number dc pool id reply, ⟨.call (.deleteDisk dc pool id), .ok reply⟩ ∉ c.heardBy number

/-- Where nothing is deleted, whatever disk was there is there. -/
theorem Course.mem_disksAt {first m : Chronicle Inventory α} {earlier : List (Chronicle Inventory α)}
    (h : Course Inventory.rough first (c :: earlier)) (hKept : c.DeletesNothing) (hMoment : m ∈ c :: earlier)
    {place : Nat} {disk : Disk} (hDisk : disk ∈ m.platform.disksAt place) : disk ∈ c.platform.disksAt place := by
  generalize hHistory : c :: earlier = history at h
  induction h generalizing c earlier with
  | begin =>
      cases hHistory
      obtain rfl := List.mem_singleton.1 hMoment
      exact hDisk
  | @step before after earlier _ hStep ih =>
      cases hHistory
      rcases List.mem_cons.1 hMoment with rfl | hEarlier
      · exact hDisk
      · have hBefore : before.DeletesNothing := fun number dc pool id reply hHeard => by
          refine hKept number dc pool id reply ?_
          rcases hStep.heardBy_cases number with hSame | ⟨x, -, hMore⟩
          · exact hSame ▸ hHeard
          · exact hMore ▸ List.mem_append_left _ hHeard
        refine (hStep.keepsDisks (fun number dc pool id reply hTurn => ?_) place).subset (ih hBefore hEarlier rfl)
        refine hKept number dc pool id reply (Turn.mem_heardBy.2 ?_)
        exact hTurn ▸ List.mem_cons_self

end

/-! Create requests. -/

/-- What may be relied on in the placement of a create request, over all moments so far. -/
structure HonoursTopology (config : Config) (labels : LabelsConfig) (request : CreateVolumeRequest) (number : Nat)
    (c : Chronicle Inventory Answered) (earlier : List (Chronicle Inventory Answered)) : Prop where
  /-- Candidates are looked up in order, and none after the first that has a place. -/
  searches : (c.asked number).filterMap Wait.zone? <+: config.queries labels request.candidates
  searched : ∀ answered, c.result? number = some answered →
    (c.asked number).filterMap Wait.zone? = config.queries labels request.candidates
  /-- Besides searches the request waits for nothing if there is no place, and calls no datacenter but that at the first
  place if there is one. -/
  calls : ∀ wait ∈ c.asked number, wait.zone? = none →
    ∃ place, config.firstPlace? request.candidates = some place ∧ ∀ dc ∈ wait.datacenters, dc.place = place
  /-- The disk that a success reports was there while the request was under way, and it is there if nothing was
  deleted. -/
  success : ∀ response, c.result? number = some ⟨.create request, .ok response⟩ → ∃ place site disk,
    config.firstPlace? request.candidates = some place ∧ (Inventory.ofConfig config).sites[place]? = some site ∧
      Controller.report site disk = .ok response ∧
      (∃ m ∈ c :: earlier, m.UnderWay number ∧ disk ∈ m.platform.disksAt place) ∧
      (c.DeletesNothing → disk ∈ c.platform.disksAt place)
  /-- Without a place for any candidate the failure is that of the last one. -/
  failure : config.firstPlace? request.candidates = none → ∀ answered, c.result? number = some answered →
    ∃ zone region, request.candidates.getLast? = some (zone, region) ∧
      answered = ⟨.create request, .error (Placement.unplaced zone region)⟩

/-- Waits that keep to the placing of a request search for candidates in order. -/
theorem Config.searches_of_asks {config : Config} {labels : LabelsConfig} {candidates : List (String × String)}
    {asked : List Wait} (h : ∀ before wait, before ++ [wait] <+: asked →
      ∃ told, told.map (·.wait) = before ∧ (config.placing labels candidates).asks told wait) :
    asked.filterMap Wait.zone? <+: config.queries labels candidates := by
  induction asked using List.reverseRecOn with
  | nil => exact List.nil_prefix
  | append_singleton asked wait ih =>
      obtain ⟨told, rfl, hAsks⟩ := h asked wait List.prefix_rfl
      rw [List.filterMap_append]
      cases hZone : wait.zone? with
      | some query =>
          simp only [placing, hZone] at hAsks
          rw [List.filterMap_map, List.filterMap_cons_some hZone]
          exact hAsks
      | none =>
          rw [List.filterMap_cons_none hZone, List.filterMap_nil, List.append_nil]
          exact ih fun before wait' hPrefix => h before wait' (hPrefix.trans (List.prefix_append _ _))

/-- Candidates are looked up until one has a place, so the first always is. -/
theorem Config.queries_ne_nil (config : Config) (labels : LabelsConfig) {candidates : List (String × String)}
    (hSome : candidates ≠ []) : config.queries labels candidates ≠ [] := by
  obtain ⟨candidate, rest, rfl⟩ := List.exists_cons_of_ne_nil hSome
  exact List.cons_ne_nil _ _

/-- A request that has no place waits for nothing but searches. -/
theorem Config.isAsked_of_placing {config : Config} {labels : LabelsConfig} {candidates : List (String × String)}
    (hNone : config.firstPlace? candidates = none) {told : List Exchange} {wait : Wait}
    (h : (config.placing labels candidates).asks told wait) : wait.IsAsked := by
  cases hZone : wait.zone? with
  | none =>
      simp only [placing, hZone, hNone, reduceCtorEq, false_and, exists_false, and_false] at h
  | some query =>
      cases wait with
      | call c => trivial
      | _ => cases hZone

/-- A search shows no disk. -/
theorem Exchange.Shows.zone?_eq_none {x : Exchange} {dc : Datacenter} {disk : Disk} (h : x.Shows dc disk) :
    x.wait.zone? = none := by
  cases h <;> rfl

section

variable {controller : Controller} {config : Config} {w : World Inventory} {requests : List (Context × VolumeRequest)}
  {number : Nat} {ctx : Context} {request : CreateVolumeRequest} {order : Controller.CreateOrder}
  {c : Chronicle Inventory Answered} {earlier : List (Chronicle Inventory Answered)}

theorem Controller.answer_create_converses (controller : Controller) (hOrder : Controller.order request = .ok order) :
    (controller.answer (.create request)).Converses (config.placing controller.labels request.candidates)
      (fun told answered => ∃ result, answered = ⟨.create request, result⟩ ∧
        config.Searched controller.labels request.candidates told ∧ config.Places request.candidates told result) [] :=
  .bind ((Config.createVolume_converses controller hOrder).mono fun _ result hPlaces => ⟨result, rfl, hPlaces⟩)

/-- What a create request waits for in calm is as its placing allows. -/
theorem Course.asks_placing (hLayout : w.platform.layout = (Inventory.ofConfig config).layout)
    (hFaultless : w.platform.Faultless) (hRequest : requests[number]? = some (ctx, .create request))
    (hOrder : Controller.order request = .ok order)
    (h : Course Inventory.calm (.start w (controller.answers requests)) (c :: earlier)) {before : List Wait}
    {wait : Wait} (hPrefix : before ++ [wait] <+: c.asked number) : ∃ told, told.map (·.wait) = before ∧
      (config.placing controller.labels request.candidates).asks told wait := by
  have hRuns := h.runs List.mem_cons_self
  exact hRuns.asks_of_asked (controller.getElem?_answers hRequest) (controller.answer_create_converses hOrder)
    (hRuns.told_placing hFaultless hLayout _ _) hPrefix

/-- A create request ends in calm as its placing says. -/
theorem Chronicle.Runs.places_of_result (hLayout : w.platform.layout = (Inventory.ofConfig config).layout)
    (hFaultless : w.platform.Faultless) (hRequest : requests[number]? = some (ctx, .create request))
    (hOrder : Controller.order request = .ok order)
    (h : Chronicle.Runs Inventory.calm (fun _ _ => True) (.start w (controller.answers requests)) c)
    {answered : Answered} (hResult : c.result? number = some answered) :
    ∃ result, answered = ⟨.create request, result⟩ ∧
      config.Searched controller.labels request.candidates (c.heardBy number) ∧
      config.Places request.candidates (c.heardBy number) result :=
  h.goal_of_result (controller.getElem?_answers hRequest) (controller.answer_create_converses hOrder)
    (h.told_placing hFaultless hLayout _ _) hResult

theorem Chronicle.Runs.unplaced_of_result (hLayout : w.platform.layout = (Inventory.ofConfig config).layout)
    (hFaultless : w.platform.Faultless) (hRequest : requests[number]? = some (ctx, .create request))
    (hOrder : Controller.order request = .ok order) (hNone : config.firstPlace? request.candidates = none)
    (h : Chronicle.Runs Inventory.calm (fun _ _ => True) (.start w (controller.answers requests)) c)
    {answered : Answered} (hResult : c.result? number = some answered) :
    ∃ zone region, request.candidates.getLast? = some (zone, region) ∧
      answered = ⟨.create request, .error (Placement.unplaced zone region)⟩ := by
  obtain ⟨result, rfl, -, hPlaces⟩ := h.places_of_result hLayout hFaultless hRequest hOrder hResult
  rw [Config.Places, hNone] at hPlaces
  obtain ⟨zone, region, hLast, rfl⟩ := hPlaces
  exact ⟨zone, region, hLast, rfl⟩

/-- A success reports a disk that the request was shown at the first place. -/
theorem Chronicle.Runs.placed_of_ok (hLayout : w.platform.layout = (Inventory.ofConfig config).layout)
    (hFaultless : w.platform.Faultless) (hRequest : requests[number]? = some (ctx, .create request))
    (hOrder : Controller.order request = .ok order)
    (h : Chronicle.Runs Inventory.calm (fun _ _ => True) (.start w (controller.answers requests)) c)
    {response : CreateVolumeResponse} (hResult : c.result? number = some ⟨.create request, .ok response⟩) :
    ∃ place site disk, config.firstPlace? request.candidates = some place ∧
      (Inventory.ofConfig config).sites[place]? = some site ∧
      (∃ x ∈ c.heardBy number, x.Shows site.datacenter disk) ∧ Controller.report site disk = .ok response := by
  obtain ⟨result, hAnswered, -, hPlaces⟩ := h.places_of_result hLayout hFaultless hRequest hOrder hResult
  cases hAnswered
  cases hPlace : config.firstPlace? request.candidates with
  | none =>
      rw [Config.Places, hPlace] at hPlaces
      obtain ⟨_, _, -, hFailed⟩ := hPlaces
      cases hFailed
  | some place =>
      rw [Config.Places, hPlace] at hPlaces
      obtain ⟨site, disk, hSite, hShown, hReport⟩ := hPlaces response rfl
      exact ⟨place, site, disk, rfl, hSite, hShown, hReport⟩

/-- A disk that a create request is shown is there at that moment, after the request was told of a zone. -/
theorem Course.exists_underWay_of_shown (hLayout : w.platform.layout = (Inventory.ofConfig config).layout)
    (hFaultless : w.platform.Faultless) (hRequest : requests[number]? = some (ctx, .create request))
    (hOrder : Controller.order request = .ok order)
    (h : Course Inventory.calm (.start w (controller.answers requests)) (c :: earlier)) {dc : Datacenter} {disk : Disk}
    {x : Exchange} (hHeard : x ∈ c.heardBy number) (hShows : x.Shows dc disk) :
    ∃ m ∈ c :: earlier, m.UnderWay number ∧ disk ∈ m.platform.disksAt dc.place := by
  obtain ⟨before, after, hSplit⟩ := List.append_of_mem hHeard
  have hPrefix : before ++ [x] <+: c.heardBy number := ⟨after, by rw [hSplit, List.append_assoc]; rfl⟩
  have hAsked : before.map (·.wait) ++ [x.wait] <+: c.asked number := by
    have hMapped := hPrefix.map (·.wait)
    rw [List.map_append, List.map_singleton] at hMapped
    exact hMapped.trans (List.prefix_append _ _)
  obtain ⟨told, hSame, hAsks⟩ := h.asks_placing hLayout hFaultless hRequest hOrder hAsked
  simp only [Config.placing, hShows.zone?_eq_none] at hAsks
  obtain ⟨hCandidates, hSome⟩ := CreateVolumeRequest.candidates_eq hOrder
  cases before with
  | nil =>
      obtain rfl := List.map_eq_nil_iff.1 hSame
      exact absurd hAsks.1.symm (config.queries_ne_nil controller.labels (hCandidates ▸ hSome))
  | cons y before =>
      obtain ⟨-, hFrom⟩ := (h.informed number).heard _ x hPrefix
      obtain ⟨inv, hShown, hDisk⟩ := Inventory.exists_of_shows hShows hFrom
      obtain ⟨m, hMoment, hUnderWay, rfl⟩ := ShownAt.underWay hShown
      exact ⟨m, hMoment, hUnderWay, hDisk⟩

end

/-- A create request with valid parameters beside any other requests, over any disks, where nothing fails and nothing is
aborted: the datacenters are those of the configuration. At every moment of the run its placement honours topology. If
no candidate has a place and nothing ends its waits, the request can be carried to its failure. -/
theorem placement_honours_topology (controller : Controller) {config : Config} {w : World Inventory}
    (hLayout : w.platform.layout = (Inventory.ofConfig config).layout) (hFaultless : w.platform.Faultless)
    {requests : List (Context × VolumeRequest)} {number : Nat} {ctx : Context} {request : CreateVolumeRequest}
    (hRequest : requests[number]? = some (ctx, .create request)) {order : Controller.CreateOrder}
    (hOrder : Controller.order request = .ok order) {c : Chronicle Inventory Answered}
    {earlier : List (Chronicle Inventory Answered)}
    (hCourse : Course Inventory.calm (.start w (controller.answers requests)) (c :: earlier)) :
    HonoursTopology config controller.labels request number c earlier ∧
    (config.firstPlace? request.candidates = none → ctx.Endless → ∃ c' zone region,
      Chronicle.Runs Inventory.calm (fun _ _ => True) c c' ∧ request.candidates.getLast? = some (zone, region) ∧
        c'.result? number = some ⟨.create request, .error (Placement.unplaced zone region)⟩) := by
  have hRuns := hCourse.runs List.mem_cons_self
  refine ⟨⟨?searches, ?searched, ?calls, ?success, ?failure⟩, ?ends⟩
  case searches =>
    exact Config.searches_of_asks fun before wait hPrefix =>
      hCourse.asks_placing hLayout hFaultless hRequest hOrder hPrefix
  case searched =>
    intro answered hResult
    obtain ⟨-, -, hSearched, -⟩ := hRuns.places_of_result hLayout hFaultless hRequest hOrder hResult
    rw [Chronicle.asked_of_result hResult, List.filterMap_map]
    exact hSearched
  case calls =>
    intro wait hWait hZone
    obtain ⟨before, after, hSplit⟩ := List.append_of_mem hWait
    have hPrefix : before ++ [wait] <+: c.asked number := ⟨after, by rw [hSplit, List.append_assoc]; rfl⟩
    obtain ⟨told, -, hAsks⟩ := hCourse.asks_placing hLayout hFaultless hRequest hOrder hPrefix
    simp only [Config.placing, hZone] at hAsks
    exact hAsks.2
  case success =>
    intro response hResult
    obtain ⟨place, site, disk, hPlace, hSite, ⟨x, hHeard, hShows⟩, hReport⟩ :=
      hRuns.placed_of_ok hLayout hFaultless hRequest hOrder hResult
    obtain ⟨m, hMoment, hUnderWay, hDisk⟩ :=
      hCourse.exists_underWay_of_shown hLayout hFaultless hRequest hOrder hHeard hShows
    rw [(Inventory.place_of_sites hSite).1] at hDisk
    exact ⟨place, site, disk, hPlace, hSite, hReport, ⟨m, hMoment, hUnderWay, hDisk⟩, fun hKept =>
      (hCourse.mono Inventory.calm_within).mem_disksAt hKept hMoment hDisk⟩
  case failure =>
    intro hNone answered hResult
    exact hRuns.unplaced_of_result hLayout hFaultless hRequest hOrder hNone hResult
  case ends =>
    intro hNone hEndless
    obtain ⟨c', answered, hMore, hResult⟩ := hRuns.exists_end_of_converses (controller.getElem?_answers hRequest)
      hEndless (controller.answer_create_converses hOrder) (fun _ _ => Config.isAsked_of_placing hNone)
      fun c' hRuns' => hRuns'.told_placing hFaultless hLayout _ _
    obtain ⟨zone, region, hLast, rfl⟩ :=
      Chronicle.Runs.unplaced_of_result hLayout hFaultless hRequest hOrder hNone (hRuns.trans hMore) hResult
    exact ⟨c', zone, region, hMore, hLast, hResult⟩

/-- A configuration to show things on: two virtual centers, each with a datacenter in a zone of its own. -/
def Config.zoned : Config :=
  { virtualCenters := .ofList [
    ("east", { datacenters := [{ name := "dc", zone := some "east", datastores := ["ds"] }] }),
    ("west", { datacenters := [{ name := "dc", zone := some "west", datastores := ["ds"] }] })] }

/-- A request that may be placed in a zone that there is not, or else in the west. -/
def CreateVolumeRequest.westward : CreateVolumeRequest :=
  { CreateVolumeRequest.single 1 with
    accessibilityRequirements := some ⟨[⟨.ofList [(zoneLabel, "north")]⟩, ⟨.ofList [(zoneLabel, "west")]⟩],
      [⟨.ofList [(zoneLabel, "east")]⟩]⟩ }

set_option maxRecDepth 10000 in
/-- Its volume is created in the west; nobody asks for the east. -/
theorem placement_honours_topology_westward :
    let requests := [(Context.background, VolumeRequest.create .westward)]
    ∃ (c : Chronicle Inventory Answered) (earlier : List (Chronicle Inventory Answered))
      (response : CreateVolumeResponse) (disk : Disk),
      Course Inventory.calm
        (.start { platform := .ofConfig .zoned } (Controller.answers ⟨{}, ⟨false, 0⟩⟩ requests)) (c :: earlier) ∧
      c.result? 0 = some ⟨.create .westward, .ok response⟩ ∧
      (∃ m ∈ c :: earlier, disk ∈ m.platform.disksAt 1) ∧
      ((c.asked 0).filterMap Wait.zone?).map (·.zone) = ["north", "west"] := by
  intro requests
  let w : World Inventory := { platform := .ofConfig .zoned }
  let jobs := Controller.answers ⟨{}, ⟨false, 0⟩⟩ requests
  have hAdmits : ∀ job ∈ jobs, Inventory.calm.Admits job.1 := by
    simp [jobs, requests, Controller.answers, Surroundings.admits_background]
  obtain ⟨s, hRuns, -, hResults⟩ := Lab.exists_runs 100 w jobs hAdmits
  let lab := Lab.run 100 (Lab.start w jobs).1 (Lab.start w jobs).2
  have hLab : (lab.1[0]?.bind Task.result?).map VolumeRequest.volumeIds = some [Inventory.idText 1] := by
    decide +kernel
  have hEnded (answered : Answered) : lab.1[0]?.bind Task.result? = some answered → s.result? 0 = some answered :=
    hResults 0 answered
  clear_value lab
  obtain ⟨answered, hAnswered, hIds⟩ := Option.map_eq_some_iff.1 hLab
  obtain ⟨turns, hChronicle⟩ : ∃ turns, Chronicle.Runs Inventory.calm (fun _ _ => True) (.start w jobs) ⟨s, turns⟩ :=
    Chronicle.exists_runs (Relation.ReflTransGen.mono (fun _ _ hStep => ⟨hStep, trivial⟩) _ _ hRuns) []
  have hResultIds : (Chronicle.result? ⟨s, turns⟩ 0).map VolumeRequest.volumeIds = some [Inventory.idText 1] := by
    rw [Chronicle.result?, hEnded answered hAnswered, Option.map_some, hIds]
  obtain ⟨response, hResult, -⟩ := Chronicle.Runs.exists_response hChronicle rfl hResultIds
  obtain ⟨earlier, hCourse⟩ := hChronicle.exists_course
  obtain ⟨order, hOrder⟩ : ∃ order, Controller.order .westward = .ok order := ⟨_, rfl⟩
  have hRequest : requests[0]? = some (.background, .create .westward) := rfl
  obtain ⟨hHonours, -⟩ := placement_honours_topology ⟨{}, ⟨false, 0⟩⟩ rfl (Inventory.faultless_ofConfig .zoned) hRequest
    hOrder hCourse
  obtain ⟨place, site, disk, hPlace, -, -, ⟨m, hMoment, -, hDisk⟩, -⟩ := hHonours.success response hResult
  have hWest : Config.firstPlace? .zoned CreateVolumeRequest.westward.candidates = some 1 := by decide +kernel
  obtain rfl : place = 1 := Option.some.inj (hPlace.symm.trans hWest)
  refine ⟨⟨s, turns⟩, earlier, response, disk, hCourse, hResult, ⟨m, hMoment, hDisk⟩, ?_⟩
  rw [hHonours.searched _ hResult]
  decide +kernel

end VolumeController
