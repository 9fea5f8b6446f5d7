import VolumeController.Proofs.WellFormed
/-! Where a create request may be placed. A request names candidates, each a zone and a region, and a configuration has
at most one place for each of them. Main result: the site that a request is placed at is the one at the place of the
first candidate that has a place, and a request of which no candidate has a place fails by the last of them. -/

namespace VolumeController

/-- The zone and the region of a segment. -/
def Topology.candidate (t : Topology) : String × String :=
  (t.segment zoneLabel, t.segment regionLabel)

/-- The zones and regions that a create request may be placed in, in the order of preference: the requisite segments if
there are any, else the preferred ones if there are any, else what the parameters name. -/
def CreateVolumeRequest.candidates (request : CreateVolumeRequest) : List (String × String) :=
  let requirement := request.accessibilityRequirements.getD ⟨[], []⟩
  if requirement.requisite ≠ [] then requirement.requisite.map Topology.candidate
  else if requirement.preferred ≠ [] then requirement.preferred.map Topology.candidate
  else [(Controller.parameter request.parameters Attribute.zone,
    Controller.parameter request.parameters Attribute.region)]

namespace Config

/-- Whether a datacenter is a place for a candidate. Every part that is not empty must be its tag; if both are empty, it
must be the only datacenter. -/
def suits (config : Config) (candidate : String × String) (dc : DatacenterConfig) : Bool :=
  if candidate = ("", "") then config.datacenters.length = 1
  else (candidate.1 = "" || dc.zone = some candidate.1) && (candidate.2 = "" || dc.region = some candidate.2)

/-- The place of a candidate: the first datacenter that suits it. -/
def place? (config : Config) (candidate : String × String) : Option Nat :=
  config.datacenters.findIdx? (config.suits candidate)

/-- The place of the first candidate that has one. -/
def firstPlace? (config : Config) (candidates : List (String × String)) : Option Nat :=
  candidates.findSome? config.place?

/-- The candidates up to the first that has a place. -/
def tried (config : Config) : List (String × String) → List (String × String)
  | [] => []
  | candidate :: candidates => candidate :: if (config.place? candidate).isSome then [] else config.tried candidates

end Config

/-- The zones and regions that a placement names. -/
def Placement.candidates : Placement → List (String × String)
  | .topology requirement => requirement.candidates.2.map Topology.candidate
  | .legacy zone region => [(zone, region)]

/-- What an accepted request names is what its placement names. -/
theorem CreateVolumeRequest.candidates_eq {request : CreateVolumeRequest} {order : Controller.CreateOrder}
    (hOrder : Controller.order request = .ok order) :
    request.candidates = (request.placement order).candidates ∧ (request.placement order).candidates ≠ [] := by
  have hParameters : (Controller.parameter request.parameters Attribute.zone,
      Controller.parameter request.parameters Attribute.region) = (order.zone, order.region) := by
    unfold Controller.order at hOrder
    simp only at hOrder
    split at hOrder
    · cases hOrder
    · split at hOrder
      · cases hOrder
      · obtain ⟨kind, -, hOrder⟩ := bind_eq_ok hOrder
        obtain ⟨name, -, hOrder⟩ := bind_eq_ok hOrder
        obtain ⟨sizeMb, -, hOrder⟩ := bind_eq_ok hOrder
        cases hOrder
        rfl
  rw [candidates, placement, hParameters]
  match request.accessibilityRequirements with
  | none => exact ⟨rfl, List.cons_ne_nil _ _⟩
  | some ⟨[], []⟩ => exact ⟨rfl, List.cons_ne_nil _ _⟩
  | some ⟨[], segment :: segments⟩ => exact ⟨rfl, List.cons_ne_nil _ _⟩
  | some ⟨segment :: segments, _⟩ => exact ⟨rfl, List.cons_ne_nil _ _⟩

/-- What a request fails with when no candidate has a place: it names the last one. -/
def Placement.unplaced (zone region : String) : Error :=
  .internal s!"Failed to retrieve VC/DC based on zone {zone}. Err: {(BackendError.noZoneMatch zone region).message}"

namespace Inventory

variable {config : Config} {zone region : String} {place : Nat}

/-! Zones of a configured inventory. -/

theorem map_tags_ofConfig (config : Config) :
    (ofConfig config).datacenters.map (fun s => (s.zone, s.region)) =
      config.datacenters.map fun dc => (dc.zone, dc.region) := by
  simp only [ofConfig, Config.datacenters, List.map_flatMap, List.map_map]
  rfl

theorem length_ofConfig (config : Config) : (ofConfig config).datacenters.length = config.datacenters.length := by
  simpa only [List.length_map] using congrArg List.length (map_tags_ofConfig config)

theorem findIdx?_ofConfig (hNamed : (zone, region) ≠ ("", "")) :
    (ofConfig config).datacenters.findIdx? (·.matchesZone zone region) = config.place? (zone, region) := by
  let matching (tags : Option String × Option String) : Bool :=
    (zone = "" || tags.1 = some zone) && (region = "" || tags.2 = some region)
  have hSuits : config.suits (zone, region) = matching ∘ fun dc => (dc.zone, dc.region) := by
    funext dc
    rw [Config.suits, if_neg hNamed]
    rfl
  rw [Config.place?, hSuits, ← List.findIdx?_map, ← map_tags_ofConfig, List.findIdx?_map]
  rfl

theorem resolveZone_open (inv : Inventory) :
    inv.resolveZone "" "" = match inv.sites with
      | [site] => .ok site
      | _ => .error (.noZoneMatch "" "") :=
  if_pos rfl

/-- A search by zone and region finds the site at the first place that matches. -/
theorem resolveZone_eq (inv : Inventory) (hNamed : (zone, region) ≠ ("", "")) :
    inv.resolveZone zone region =
      match (inv.datacenters.findIdx? (·.matchesZone zone region)).bind (inv.sites[·]?) with
      | some site => .ok site
      | none => .error (.noZoneMatch zone region) := by
  have hParts : ¬ (zone = "" && region = "") = true := by
    simpa [Prod.mk.injEq] using hNamed
  unfold resolveZone
  rw [if_neg hParts]
  have hLength : inv.datacenters.length = inv.sites.length := by simp [sites]
  generalize inv.sites = sites at hLength
  generalize inv.datacenters = datacenters at hLength
  induction datacenters generalizing sites with
  | nil => rfl
  | cons dc datacenters ih =>
      obtain ⟨site, sites, rfl⟩ := List.exists_cons_of_length_eq_add_one hLength.symm
      rw [List.zip_cons_cons, List.find?_cons, List.findIdx?_cons]
      cases hMatches : dc.matchesZone zone region with
      | true =>
          simp only [hMatches, if_true]
          rfl
      | false =>
          simp only [hMatches, Bool.false_eq_true, if_false, Option.bind_map]
          exact ih sites (Nat.succ.inj hLength)

theorem resolveZone_of_place (h : config.place? (zone, region) = some place) :
    ∃ site, (ofConfig config).sites[place]? = some site ∧ (ofConfig config).resolveZone zone region = .ok site := by
  have hPlace : place < (ofConfig config).sites.length := by
    simpa [sites, length_ofConfig] using (List.findIdx?_eq_some_iff_getElem.1 h).1
  refine ⟨_, List.getElem?_eq_getElem hPlace, ?_⟩
  by_cases hOpen : (zone, region) = ("", "")
  · cases hOpen
    have hOne : config.datacenters.length = 1 := by
      obtain ⟨_, hSuits, -⟩ := List.findIdx?_eq_some_iff_getElem.1 h
      simpa [Config.suits] using hSuits
    obtain ⟨site, hSite⟩ : ∃ site, (ofConfig config).sites = [site] :=
      List.length_eq_one_iff.1 (by simpa [sites, length_ofConfig] using hOne)
    obtain rfl : place = 0 := by simpa [hSite] using hPlace
    simp [resolveZone_open, hSite]
  · rw [resolveZone_eq _ hOpen, findIdx?_ofConfig hOpen, h, Option.bind_some, List.getElem?_eq_getElem hPlace]

theorem resolveZone_of_no_place (h : config.place? (zone, region) = none) :
    (ofConfig config).resolveZone zone region = .error (.noZoneMatch zone region) := by
  by_cases hOpen : (zone, region) = ("", "")
  · cases hOpen
    have hMany : (ofConfig config).sites.length ≠ 1 := by
      rw [Config.place?, List.findIdx?_eq_none_iff] at h
      intro hOne
      replace hOne : config.datacenters.length = 1 := by simpa [sites, length_ofConfig] using hOne
      obtain ⟨dc, hOnly⟩ := List.length_eq_one_iff.1 hOne
      have hUnsuited := h dc (hOnly ▸ List.mem_cons_self)
      simp [Config.suits, hOne] at hUnsuited
    rw [resolveZone_open]
    split
    · rename_i site hSite
      exact absurd (congrArg List.length hSite) hMany
    · rfl
  · rw [resolveZone_eq _ hOpen, findIdx?_ofConfig hOpen, h]
    rfl

/-! Placements. -/

/-- Whether a search for the candidates ends as the configuration wants: with the site at the first place, or with the
failure of the last candidate. -/
def Locates (config : Config) (candidates : List (String × String)) (result : Except Error Site) : Prop :=
  match config.firstPlace? candidates with
  | some place => ∃ site, (ofConfig config).sites[place]? = some site ∧ result = .ok site
  | none => ∃ zone region, candidates.getLast? = some (zone, region) ∧ result = .error (Placement.unplaced zone region)

/-- A candidate that has no place leaves it to those after it, or to its own failure if it is the last. -/
theorem locates_cons {candidates : List (String × String)} {rest : BackendError → Except Error Site}
    (hRest : candidates ≠ [] → ∀ failure, Locates config candidates (rest failure))
    (hLast : candidates = [] → ∀ failure, rest failure = .error (unresolved zone (.backend failure))) :
    Locates config ((zone, region) :: candidates) (match (ofConfig config).resolveZone zone region with
      | .ok site => .ok site
      | .error failure => rest failure) := by
  rw [Locates, Config.firstPlace?, List.findSome?_cons]
  cases hPlace : config.place? (zone, region) with
  | some place =>
      obtain ⟨site, hSite, hFound⟩ := resolveZone_of_place hPlace
      simp only [hFound]
      exact ⟨site, hSite, rfl⟩
  | none =>
      simp only [resolveZone_of_no_place hPlace]
      cases candidates with
      | nil => exact ⟨zone, region, rfl, hLast rfl _⟩
      | cons next candidates =>
          have hFound := hRest (List.cons_ne_nil next candidates) (.noZoneMatch zone region)
          rwa [Locates, ← List.getLast?_cons_cons] at hFound

theorem locates_segments (config : Config) (segments : List Topology) (hSome : segments.map Topology.candidate ≠ [])
    (last : String × Error) :
    Locates config (segments.map Topology.candidate) ((ofConfig config).locateSegments last segments) := by
  induction segments generalizing last with
  | nil => exact absurd rfl hSome
  | cons segment segments ih =>
      refine locates_cons (fun hMore failure => ih hMore _) fun hLast failure => ?_
      obtain rfl := List.map_eq_nil_iff.1 hLast
      rfl

theorem locates_placement (config : Config) {placement : Placement} (hSome : placement.candidates ≠ []) :
    Locates config placement.candidates ((ofConfig config).locate placement) := by
  cases placement with
  | topology requirement => exact locates_segments config _ hSome _
  | legacy zone region => exact locates_cons (fun hMore => absurd rfl hMore) fun _ failure => rfl

end Inventory

end VolumeController
