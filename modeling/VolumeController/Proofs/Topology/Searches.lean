import VolumeController.Proofs.RacingCreates
import VolumeController.Proofs.Reports.Sources
import VolumeController.Proofs.Topology.Candidates
/-! How a create request looks for its place. Main result: it looks up its candidates one by one up to the first that
has a place, turns to the datacenter there and to no other, and returns what it was shown there; without such a
candidate it fails by the last of them. -/

namespace VolumeController

/-! What waits are for. -/

namespace Wait

/-- The zone that is looked up. -/
def zone? : Wait → Option ZoneQuery
  | .call (.resolveZone query) => some query
  | _ => none

/-- The datacenters that are called. -/
def datacenters : Wait → List Datacenter
  | .call c => c.datacenter?.toList
  | .listings dcs => dcs
  | _ => []

end Wait

/-- The zones that were looked up. -/
def searched (told : List Exchange) : List ZoneQuery :=
  told.filterMap (·.wait.zone?)

/-- The search for a candidate. -/
def LabelsConfig.query (labels : LabelsConfig) (candidate : String × String) : ZoneQuery :=
  ⟨labels.zone, labels.region, candidate.1, candidate.2⟩

/-! The dialogue of a create request. -/

namespace Config

variable (config : Config) (labels : LabelsConfig) (candidates : List (String × String))

/-- The searches that a create request with some candidates makes. -/
def queries : List ZoneQuery :=
  (config.tried candidates).map labels.query

/-- Whether all searches have been made. -/
def Searched (told : List Exchange) : Prop :=
  searched told = config.queries labels candidates

/-- A create request makes its searches in order, and after them it turns to no datacenter but that at the first place.
What it is told of zones is what the configuration says. -/
def placing : Dialogue where
  asks told wait :=
    match wait.zone? with
    | some query => searched told ++ [query] <+: config.queries labels candidates
    | none => config.Searched labels candidates told ∧
      ∃ place, config.firstPlace? candidates = some place ∧ ∀ dc ∈ wait.datacenters, dc.place = place
  told
    | ⟨_, .error _⟩ => False
    | ⟨.call (.resolveZone query), .ok reply⟩ => reply = (Inventory.ofConfig config).resolveZone query.zone query.region
    | _ => True

/-- What a create request may end with: a disk that was shown at the first place, or the failure of the last
candidate. -/
def Places (told : List Exchange) (result : Except Error CreateVolumeResponse) : Prop :=
  match config.firstPlace? candidates with
  | some place => ∀ response, result = .ok response → ∃ site disk,
      (Inventory.ofConfig config).sites[place]? = some site ∧ (∃ x ∈ told, x.Shows site.datacenter disk) ∧
        Controller.report site disk = .ok response
  | none => ∃ zone region, candidates.getLast? = some (zone, region) ∧ result = .error (Placement.unplaced zone region)

end Config

namespace Config

open Procedure.Converses

variable {config : Config} {labels : LabelsConfig} {candidates : List (String × String)} {told : List Exchange}
  {zone region : String}

theorem Searched.concat (h : config.Searched labels candidates told) {x : Exchange} (hZone : x.wait.zone? = none) :
    config.Searched labels candidates (told ++ [x]) := by
  rw [Searched, searched, List.filterMap_append, ← searched, h]
  simp [hZone]

/-- After the searches a request may turn to the datacenter that was found. -/
theorem Searched.asks (h : config.Searched labels candidates told) {wait : Wait} (hZone : wait.zone? = none)
    {place : Nat} (hPlace : config.firstPlace? candidates = some place)
    (hDatacenters : ∀ dc ∈ wait.datacenters, dc.place = place) :
    (config.placing labels candidates).asks told wait := by
  simp only [placing, hZone]
  exact ⟨h, place, hPlace, hDatacenters⟩

theorem isSome_place?_iff : (config.place? (zone, region)).isSome ↔
    ∃ site, (Inventory.ofConfig config).resolveZone zone region = .ok site := by
  cases hPlace : config.place? (zone, region) with
  | some place =>
      obtain ⟨site, -, hFound⟩ := Inventory.resolveZone_of_place hPlace
      exact iff_of_true rfl ⟨site, hFound⟩
  | none =>
      rw [Inventory.resolveZone_of_no_place hPlace]
      exact iff_of_false nofun nofun

/-- A search for the next candidate, and what follows its reply. -/
theorem lookupThen {α : Type} {rest : List ZoneQuery} {f : Except Error Site → Operation α}
    {goal : List Exchange → Except Error α → Prop}
    (hNext : searched told ++ labels.query (zone, region) :: rest = config.queries labels candidates)
    (h : ∀ told', searched told' ++ rest = config.queries labels candidates →
      (f (((Inventory.ofConfig config).resolveZone zone region).mapError .backend)).run.Converses
        (config.placing labels candidates) goal told') :
    (Operation.attempt (Placement.lookup labels zone region) >>= f).run.Converses (config.placing labels candidates)
      goal told := by
  have hAsks : (config.placing labels candidates).asks told (.call (.resolveZone (labels.query (zone, region)))) := by
    change searched told ++ [labels.query (zone, region)] <+: config.queries labels candidates
    rw [← hNext]
    exact (List.prefix_append_right_inj _).2 ⟨rest, rfl⟩
  refine bindOperation (attempt (callThen hAsks (fun abort hTold => hTold.elim) fun reply hTold => ?_))
  let heard : Exchange := ⟨.call (.resolveZone (labels.query (zone, region))), .ok reply⟩
  have hDone : searched (told ++ [heard]) ++ rest = config.queries labels candidates := by
    rw [searched, List.filterMap_append, List.append_assoc]
    exact hNext
  have hReply : (Inventory.ofConfig config).resolveZone zone region = reply := hTold.symm
  have hThen := h (told ++ [heard]) hDone
  rw [hReply] at hThen
  cases reply with
  | ok site => exact hThen
  | error failure => exact hThen

/-- When no candidate is left a request fails, or it was aborted before. -/
theorem exhausted_converses (h : config.Searched labels candidates told) (zone : String) (cause : Error) :
    (Placement.exhausted zone cause : Operation Site).run.Converses (config.placing labels candidates)
      (fun told' result => config.Searched labels candidates told' ∧ result = .error (Inventory.unresolved zone cause))
      told := by
  unfold Placement.exhausted Inventory.unresolved
  split
  · exact afterNote ⟨h, rfl⟩
  · exact reject ⟨h, rfl⟩

theorem searchSegments_converses (segments : List Topology) (last : String × Error)
    (hRest : searched told ++ config.queries labels (segments.map Topology.candidate) =
      config.queries labels candidates) :
    (Placement.searchSegments labels last segments).run.Converses (config.placing labels candidates)
      (fun told' result => config.Searched labels candidates told' ∧
        result = (Inventory.ofConfig config).locateSegments last segments) told := by
  induction segments generalizing last told with
  | nil =>
      rw [List.map_nil, queries, tried, List.map_nil, List.append_nil] at hRest
      exact exhausted_converses hRest last.1 last.2
  | cons segment segments ih =>
      rw [Placement.searchSegments, Inventory.locateSegments]
      refine lookupThen hRest fun told' hDone => ?_
      cases hFound : (Inventory.ofConfig config).resolveZone (segment.segment zoneLabel)
          (segment.segment regionLabel) with
      | ok site =>
          have hPlace : (config.place? segment.candidate).isSome := isSome_place?_iff.2 ⟨site, hFound⟩
          rw [if_pos hPlace, List.map_nil, List.append_nil] at hDone
          exact afterNote ⟨hDone, rfl⟩
      | error failure =>
          have hPlace : ¬ (config.place? segment.candidate).isSome := fun hSome => by
            obtain ⟨site, hSite⟩ := isSome_place?_iff.1 hSome
            cases hFound.symm.trans hSite
          rw [if_neg hPlace] at hDone
          exact ih _ hDone

/-- A placement is resolved by its candidates. -/
theorem resolve_converses (placement : Placement) :
    (placement.resolve labels).run.Converses (config.placing labels placement.candidates)
      (fun told result => config.Searched labels placement.candidates told ∧
        result = (Inventory.ofConfig config).locate placement) [] := by
  cases placement with
  | topology requirement => exact afterNote (searchSegments_converses _ _ rfl)
  | legacy zone region =>
      have hQueries : config.queries labels [(zone, region)] = [labels.query (zone, region)] := by
        rw [queries, tried]
        split <;> rfl
      refine afterNote (lookupThen hQueries.symm fun told hDone => ?_)
      rw [List.append_nil] at hDone
      rw [Inventory.locate]
      cases (Inventory.ofConfig config).resolveZone zone region with
      | ok site => exact ⟨hDone, rfl⟩
      | error failure => exact exhausted_converses hDone zone _

/-- The datacenter that was found is the only one that is called. -/
theorem createOrGet_converses (store : VolumeStore) (h : config.Searched labels candidates told) {dc : Datacenter}
    (hPlace : config.firstPlace? candidates = some dc.place) (pool : Pool) (name : String) (sizeMb : UInt64) :
    (store.createOrGet dc pool name sizeMb).run.Converses (config.placing labels candidates)
      (fun told' result => config.Searched labels candidates told' ∧ VolumeStore.Shown dc pool name told' result)
      told := by
  have hHere : ∀ dc' ∈ [dc], dc'.place = dc.place := by simp
  have hUnlocked (told : List Exchange) (h : config.Searched labels candidates told) :
      (VolumeStore.createUnlocked dc pool name sizeMb).run.Converses (config.placing labels candidates)
        (fun told result => config.Searched labels candidates told ∧ VolumeStore.Shown dc pool name told result)
        told := by
    refine callThen (h.asks rfl hPlace hHere) (fun _ hTold => hTold.elim) ?_
    rintro (failure | _ | disk) -
    · exact reject ⟨h.concat rfl, nofun⟩
    · refine callThen ((h.concat rfl).asks rfl hPlace hHere) (fun _ hTold => hTold.elim) ?_
      rintro (failure | created) -
      · exact reject ⟨(h.concat rfl).concat rfl, nofun⟩
      · refine callThen (((h.concat rfl).concat rfl).asks rfl hPlace hHere) (fun _ hTold => hTold.elim) ?_
        rintro (failure | _ | disk) -
        · exact reject ⟨((h.concat rfl).concat rfl).concat rfl, nofun⟩
        · exact reject ⟨((h.concat rfl).concat rfl).concat rfl, nofun⟩
        · refine afterNote ⟨((h.concat rfl).concat rfl).concat rfl, ?_⟩
          rintro _ ⟨⟩
          exact List.mem_append_right _ List.mem_cons_self
    · refine afterNote ?_
      split
      · exact reject ⟨h.concat rfl, nofun⟩
      · refine ⟨h.concat rfl, ?_⟩
        rintro _ ⟨⟩
        exact List.mem_append_right _ List.mem_cons_self
  unfold VolumeStore.createOrGet
  split
  · exact locked (fun lock => h.asks rfl hPlace (List.forall_mem_nil _))
      (fun lock abort => ⟨h.concat rfl, nofun⟩) fun lock => hUnlocked _ (h.concat rfl)
  · exact hUnlocked told h

/-- A create request looks up its candidates, and then turns to the datacenter that was found. -/
theorem createVolume_converses (controller : Controller) {request : CreateVolumeRequest}
    {order : Controller.CreateOrder} (hOrder : Controller.order request = .ok order) :
    (controller.createVolume request).run.Converses (config.placing controller.labels request.candidates)
      (fun told result => config.Searched controller.labels request.candidates told ∧
        config.Places request.candidates told result) [] := by
  refine instrumented (bindCause (fun cause hCause => by cases hOrder.symm.trans hCause) fun order' hOrder' => ?_)
  obtain rfl : order = order' := Except.ok.inj (hOrder.symm.trans hOrder')
  obtain ⟨hCandidates, hSome⟩ := CreateVolumeRequest.candidates_eq hOrder
  have hLocates := Inventory.locates_placement config hSome
  rw [← hCandidates] at hLocates
  refine afterNote (bindOperation ((hCandidates ▸ resolve_converses (request.placement order)).mono ?_))
  rintro told _ ⟨hSearched, rfl⟩
  unfold Inventory.Locates at hLocates
  split at hLocates
  · rename_i place hPlace
    obtain ⟨site, hSite, hFound⟩ := hLocates
    rw [hFound]
    have hHere : config.firstPlace? request.candidates = some site.datacenter.place := by
      rw [hPlace, (Inventory.place_of_sites hSite).1]
    have hPlaces {told : List Exchange} {result : Except Error CreateVolumeResponse}
        (h : ∀ response, result = .ok response → ∃ disk,
          (∃ x ∈ told, x.Shows site.datacenter disk) ∧ Controller.report site disk = .ok response) :
        config.Places request.candidates told result := by
      rw [Places, hPlace]
      intro response hResult
      obtain ⟨disk, hShown, hReport⟩ := h response hResult
      exact ⟨site, disk, hSite, hShown, hReport⟩
    refine bindOperation ((createOrGet_converses controller.store hSearched hHere _ _ _).mono ?_)
    rintro told' (e | outcome) ⟨hSearched, hShown⟩
    · exact ⟨hSearched, hPlaces nofun⟩
    · have hReported : (do
          let volume ← Operation.ofCause (Volume.ofDisk outcome.disk site.endpoint site.datacenter.name)
          return ⟨volume⟩ : Operation CreateVolumeResponse).run.Converses
            (config.placing controller.labels request.candidates) (fun told result =>
              config.Searched controller.labels request.candidates told ∧
                config.Places request.candidates told result) told' := by
        refine bindCause (fun cause _ => ⟨hSearched, hPlaces nofun⟩) fun volume hVolume => ⟨hSearched, hPlaces ?_⟩
        rintro _ ⟨⟩
        refine ⟨outcome.disk, ⟨_, hShown outcome rfl, .named _ _ _ _⟩, ?_⟩
        rw [Controller.report, hVolume]
        rfl
      cases outcome with
      | existing disk => exact afterNote hReported
      | created disk => exact hReported
  · rename_i hNone
    obtain ⟨zone, region, hLast, hFailed⟩ := hLocates
    rw [hFailed]
    refine ⟨hSearched, ?_⟩
    rw [Places, hNone]
    exact ⟨zone, region, hLast, rfl⟩

end Config

end VolumeController
