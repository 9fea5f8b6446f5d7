import VolumeController.Proofs.CreateRequest
import VolumeController.Proofs.Identifiers
import VolumeController.Proofs.Pages
/-! An abstract store of volumes. For each datacenter it has the volumes in the order of their creation, and
for each node the handles of the volumes that are attached to it, by the ids of the volumes. The rest, such
as sites, pools and nodes, is configured and never changes. Main result: whatever is asked of it, the store
has at most one volume of a name in a pool, and one of an id. -/

namespace VolumeController

/-- A request about volumes. -/
inductive VolumeRequest where
  | create (request : CreateVolumeRequest)
  | delete (request : DeleteVolumeRequest)
  | publish (request : PublishVolumeRequest)
  | unpublish (request : UnpublishVolumeRequest)
  | list (request : ListVolumesRequest)
  deriving DecidableEq

/-- What a request is answered with when it succeeds. -/
abbrev VolumeRequest.Response : VolumeRequest → Type
  | .create _ => CreateVolumeResponse
  | .delete _ => DeleteVolumeResponse
  | .publish _ => PublishVolumeResponse
  | .unpublish _ => UnpublishVolumeResponse
  | .list _ => ListVolumesResponse

/-- Carries out a request about volumes. -/
def Controller.handle (c : Controller) : (request : VolumeRequest) → Operation request.Response
  | .create request => c.createVolume request
  | .delete request => deleteVolume request
  | .publish request => publishVolume request
  | .unpublish request => unpublishVolume request
  | .list request => listVolumes request

/-- Where a new volume of a pool lies in a datacenter. -/
def Inventory.poolAt (base : Inventory) (dc : Datacenter) (pool : Pool) : Except BackendError Parent :=
  match base.state? dc with
  | some s => s.placement pool
  | none => .error (missing dc)

theorem Inventory.pool_of_poolAt {base : Inventory} {dc : Datacenter} {pool : Pool} {parent : Parent}
    (h : base.poolAt dc pool = .ok parent) : parent.pool = pool := by
  unfold poolAt at h
  split at h
  · exact DatacenterState.pool_of_placement h
  · cases h

/-- Whether a datacenter has a node. -/
def Inventory.hasNode (base : Inventory) (dc : Datacenter) (node : String) : Bool :=
  ((base.state? dc).bind (·.nodes.get? node)).isSome

/-- A list in which all keys are different, and a last element with a key of its own. -/
theorem nodup_map_append {α β : Type} {key : α → β} {l : List α} {a : α} (h : (l.map key).Nodup)
    (hFresh : ∀ b ∈ l, key b ≠ key a) : ((l ++ [a]).map key).Nodup := by
  rw [List.map_append, List.nodup_append]
  refine ⟨h, by simp, ?_⟩
  rintro _ hOld _ hNew rfl
  obtain ⟨b, hb, hSame⟩ := List.mem_map.1 hOld
  exact hFresh b hb (hSame.trans (List.mem_singleton.1 hNew))

/-- A volume of a catalogue. -/
structure Entry where
  id : String
  name : String
  sizeMb : UInt64
  parent : Parent
  deriving DecidableEq

namespace Entry

/-- The disk of a volume. -/
def disk (v : Entry) : Disk :=
  ⟨v.id, v.name, v.sizeMb, v.parent, .file (Inventory.backingPath v.parent.owner v.id)⟩

/-- The report of a volume. -/
def report (v : Entry) (site : Site) : Volume :=
  ⟨v.id, .ofNat (v.sizeMb.toNat * Capacity.mebibyte), v.disk.attributes site.endpoint site.datacenter.name⟩

end Entry

/-- An abstract store of volumes: the volumes of each place, the handle of a volume on a node of a place, and
the number of the next id that is drawn. -/
structure Catalogue where
  volumes : Nat → List Entry
  handles : Nat → String → String → Option String
  next : Nat

namespace Catalogue

/-- A store without volumes. -/
def empty : Catalogue :=
  ⟨fun _ => [], fun _ _ _ => none, 1⟩

/-- The volume of a name in a pool. -/
def named (k : Catalogue) (place : Nat) (pool : Pool) (name : String) : Option Entry :=
  (k.volumes place).find? fun v => v.name = name && v.parent.pool = pool

/-- The site that has the volume of an id, and the volume. -/
def owner (k : Catalogue) (base : Inventory) (id : String) : Option (Site × Entry) :=
  base.sites.findSome? fun site =>
    ((k.volumes site.datacenter.place).find? fun v => v.id = id).map (site, ·)

/-- All volumes as they are reported, site by site. -/
def reports (k : Catalogue) (base : Inventory) : List Volume :=
  base.sites.flatMap fun site => (k.volumes site.datacenter.place).map (·.report site)

/-- Puts a volume after all others of a place. -/
def append (k : Catalogue) (place : Nat) (v : Entry) : Catalogue :=
  { k with
    volumes := fun p => if p = place then k.volumes p ++ [v] else k.volumes p
    next := k.next + 1 }

/-- Takes out the volume of an id. -/
def remove (k : Catalogue) (id : String) : Catalogue :=
  { k with volumes := fun p => (k.volumes p).filter fun v => v.id ≠ id }

/-- Stores a handle, or removes one. -/
def setHandle (k : Catalogue) (place : Nat) (node id : String) (handle : Option String) : Catalogue :=
  { k with
    handles := fun p n i => if p = place ∧ n = node ∧ i = id then handle else k.handles p n i }

/-- Creates a volume at a site unless there is one of the name in the pool, which must have the wanted
size. -/
def createAt (k : Catalogue) (base : Inventory) (site : Site) (pool : Pool) (name : String)
    (sizeMb : UInt64) : Except Error CreateVolumeResponse × Catalogue :=
  match k.named site.datacenter.place pool name with
  | some v =>
    if v.sizeMb = sizeMb then (.ok ⟨v.report site⟩, k)
    else (.error (Cause.sizeDiffers v.sizeMb.toNat sizeMb.toNat).toError, k)
  | none =>
    match base.poolAt site.datacenter pool with
    | .error failure => (.error (Cause.creationFailed failure).toError, k)
    | .ok parent =>
      let v : Entry := ⟨Inventory.idText k.next, name, sizeMb, parent⟩
      (.ok ⟨v.report site⟩, k.append site.datacenter.place v)

/-- Creates a volume where the placement of a well-formed request resolves to. -/
def create (k : Catalogue) (base : Inventory) (request : CreateVolumeRequest) :
    Except Error CreateVolumeResponse × Catalogue :=
  match Controller.order request with
  | .error cause => (.error cause.toError, k)
  | .ok order =>
    match base.locate (request.placement order) with
    | .error e => (.error e, k)
    | .ok site => k.createAt base site order.pool request.name order.sizeMb

/-- Removes a volume, be it there or not. -/
def delete (k : Catalogue) (request : DeleteVolumeRequest) :
    Except Error DeleteVolumeResponse × Catalogue :=
  if request.volumeId = "" then (.error Cause.volumeIdMissing.toError, k)
  else (.ok ⟨⟩, k.remove request.volumeId)

/-- The volume and the node of a request, if both are there and at one site. -/
def meet (k : Catalogue) (base : Inventory) (volumeId nodeId : String) : Except Error (Site × Entry) :=
  if volumeId = "" then .error Cause.volumeIdMissing.toError
  else if nodeId = "" then .error Cause.nodeIdMissing.toError
  else
    match k.owner base volumeId with
    | none => .error (Cause.ownerUnresolved volumeId (.diskNotFound volumeId)).toError
    | some (site, v) =>
      if base.hasNode site.datacenter nodeId then .ok (site, v)
      else .error (.backend (.notFound "VirtualMachine" nodeId))

/-- Attaches a volume to a node of its datacenter, under the handle that is stored or a new one. -/
def publish (k : Catalogue) (base : Inventory) (request : PublishVolumeRequest) :
    Except Error PublishVolumeResponse × Catalogue :=
  match k.meet base request.volumeId request.nodeId with
  | .error e => (.error e, k)
  | .ok (site, v) =>
    let context := v.disk.attributes site.endpoint site.datacenter.name
    match k.handles site.datacenter.place request.nodeId v.id with
    | some handle => (.ok ⟨context.insert Attribute.page83Data handle⟩, k)
    | none =>
      let handle := Inventory.idText k.next
      (.ok ⟨context.insert Attribute.page83Data handle⟩,
        { k.setHandle site.datacenter.place request.nodeId v.id (some handle) with next := k.next + 1 })

/-- Detaches a volume from a node that it is attached to. -/
def unpublish (k : Catalogue) (base : Inventory) (request : UnpublishVolumeRequest) :
    Except Error UnpublishVolumeResponse × Catalogue :=
  match k.meet base request.volumeId request.nodeId with
  | .error e => (.error e, k)
  | .ok (site, v) =>
    match k.handles site.datacenter.place request.nodeId v.id with
    | some _ => (.ok ⟨⟩, k.setHandle site.datacenter.place request.nodeId v.id none)
    | none => (.error (.backend (.notFound "VirtualDevice"
        (Inventory.backingPath v.parent.owner v.id))), k)

/-- One page of the volumes. -/
def list (k : Catalogue) (base : Inventory) (request : ListVolumesRequest) :
    Except Error ListVolumesResponse :=
  (Listing.cut request (k.reports base)).mapError Cause.toError

/-- Answers a request. -/
def serve (k : Catalogue) (base : Inventory) :
    (request : VolumeRequest) → Except Error request.Response × Catalogue
  | .create request => k.create base request
  | .delete request => k.delete request
  | .publish request => k.publish base request
  | .unpublish request => k.unpublish base request
  | .list request => (k.list base request, k)

/-- Answers requests one after the other. -/
def serveAll (base : Inventory) :
    Catalogue → List VolumeRequest →
      List ((request : VolumeRequest) × Except Error request.Response) × Catalogue
  | k, [] => ([], k)
  | k, request :: requests =>
    let rest := serveAll base (k.serve base request).2 requests
    (⟨request, (k.serve base request).1⟩ :: rest.1, rest.2)

/-- What a store never loses: there is at most one volume of a name in a pool and one of an id, sizes can be
reported, and all ids and handles were drawn. -/
structure Sound (k : Catalogue) : Prop where
  names : ∀ place, ((k.volumes place).map fun v => (v.parent.pool, v.name)).Nodup
  within : ∀ place, ((k.volumes place).map (·.id)).Nodup
  across : ∀ place place' v v', v ∈ k.volumes place → v' ∈ k.volumes place' → v.id = v'.id →
    place = place'
  sizes : ∀ place, ∀ v ∈ k.volumes place, v.sizeMb.toNat * Capacity.mebibyte < Capacity.reportable
  ids : ∀ place, ∀ v ∈ k.volumes place, ∃ n < k.next, v.id = Inventory.idText n
  handles : ∀ place node id handle, k.handles place node id = some handle →
    (∃ n < k.next, id = Inventory.idText n) ∧ ∃ n < k.next, handle = Inventory.idText n

variable {k : Catalogue} {base : Inventory} {place : Nat} {node id : String}

theorem mem_append {v w : Entry} {place' : Nat} (h : w ∈ (k.append place v).volumes place') :
    w ∈ k.volumes place' ∨ place' = place ∧ w = v := by
  simp only [append] at h
  split at h
  · rename_i hPlace
    rcases List.mem_append.1 h with hOld | hNew
    · exact .inl hOld
    · exact .inr ⟨hPlace, List.mem_singleton.1 hNew⟩
  · exact .inl h

/-- A volume of a free name that takes the next id. -/
theorem Sound.append (h : k.Sound) {v : Entry} (hId : v.id = Inventory.idText k.next)
    (hName : k.named place v.parent.pool v.name = none)
    (hSize : v.sizeMb.toNat * Capacity.mebibyte < Capacity.reportable) : (k.append place v).Sound := by
  have hFresh : ∀ place', ∀ w ∈ k.volumes place', w.id ≠ v.id := by
    intro place' w hw hSame
    obtain ⟨n, hn, hDrawn⟩ := h.ids place' w hw
    have hNumber := Inventory.idText_injective (hDrawn.symm.trans (hSame.trans hId))
    omega
  refine ⟨fun place' => ?_, fun place' => ?_, fun place₁ place₂ v₁ v₂ h₁ h₂ hSame => ?_,
    fun place' w hw => ?_, fun place' w hw => ?_, fun place' node id handle hHandle => ?_⟩
  · simp only [Catalogue.append]
    split
    · rename_i hPlace
      subst hPlace
      refine nodup_map_append (h.names _) fun w hw hPair => ?_
      have hTaken := List.find?_eq_none.1 hName w hw
      simp [(Prod.mk.inj hPair).1, (Prod.mk.inj hPair).2] at hTaken
    · exact h.names place'
  · simp only [Catalogue.append]
    split
    · exact nodup_map_append (h.within _) (hFresh place')
    · exact h.within place'
  · rcases mem_append h₁ with hOld₁ | ⟨hPlace₁, rfl⟩
    · rcases mem_append h₂ with hOld₂ | ⟨hPlace₂, rfl⟩
      · exact h.across _ _ v₁ v₂ hOld₁ hOld₂ hSame
      · exact absurd hSame (hFresh place₁ v₁ hOld₁)
    · rcases mem_append h₂ with hOld₂ | ⟨hPlace₂, rfl⟩
      · exact absurd hSame.symm (hFresh place₂ v₂ hOld₂)
      · rw [hPlace₁, hPlace₂]
  · rcases mem_append hw with hOld | ⟨-, rfl⟩
    · exact h.sizes place' w hOld
    · exact hSize
  · rcases mem_append hw with hOld | ⟨-, rfl⟩
    · obtain ⟨n, hn, hDrawn⟩ := h.ids place' w hOld
      exact ⟨n, Nat.lt_succ_of_lt hn, hDrawn⟩
    · exact ⟨k.next, Nat.lt_succ_self _, hId⟩
  · obtain ⟨⟨n, hn, hDrawn⟩, m, hm, hDrawn'⟩ := h.handles place' node id handle hHandle
    exact ⟨⟨n, Nat.lt_succ_of_lt hn, hDrawn⟩, m, Nat.lt_succ_of_lt hm, hDrawn'⟩

theorem Sound.remove (h : k.Sound) (id : String) : (k.remove id).Sound := by
  have hLess : ∀ place, ((k.remove id).volumes place).Sublist (k.volumes place) :=
    fun place => List.filter_sublist
  exact ⟨fun place => (h.names place).sublist ((hLess place).map _),
    fun place => (h.within place).sublist ((hLess place).map _),
    fun place place' v v' hv hv' => h.across place place' v v' ((hLess place).mem hv) ((hLess place').mem hv'),
    fun place v hv => h.sizes place v ((hLess place).mem hv),
    fun place v hv => h.ids place v ((hLess place).mem hv), h.handles⟩

/-- Handles that are drawn for volumes that are there. -/
theorem Sound.setHandle (h : k.Sound) {handle : Option String} {next : Nat} (hNext : k.next ≤ next)
    (hId : ∃ n < k.next, id = Inventory.idText n)
    (hHandle : ∀ text, handle = some text → ∃ n < next, text = Inventory.idText n) :
    ({ k.setHandle place node id handle with next } : Catalogue).Sound := by
  refine ⟨h.names, h.within, h.across, h.sizes, fun place' v hv => ?_,
    fun place' node' id' handle' hStored => ?_⟩
  · obtain ⟨n, hn, hDrawn⟩ := h.ids place' v hv
    exact ⟨n, Nat.lt_of_lt_of_le hn hNext, hDrawn⟩
  · simp only [Catalogue.setHandle] at hStored
    split at hStored
    · rename_i hThis
      obtain ⟨n, hn, hDrawn⟩ := hId
      exact ⟨⟨n, Nat.lt_of_lt_of_le hn hNext, hThis.2.2.trans hDrawn⟩, hHandle handle' hStored⟩
    · obtain ⟨⟨n, hn, hDrawn⟩, m, hm, hDrawn'⟩ := h.handles place' node' id' handle' hStored
      exact ⟨⟨n, Nat.lt_of_lt_of_le hn hNext, hDrawn⟩, m, Nat.lt_of_lt_of_le hm hNext, hDrawn'⟩

/-- The volume that a site has is one of its volumes. -/
theorem of_owner {site : Site} {v : Entry} (h : k.owner base id = some (site, v)) :
    site ∈ base.sites ∧ v ∈ k.volumes site.datacenter.place ∧ v.id = id := by
  obtain ⟨site', hSite, hFound⟩ := List.exists_of_findSome?_eq_some h
  obtain ⟨v', hFind, hPair⟩ := Option.map_eq_some_iff.1 hFound
  cases hPair
  exact ⟨hSite, List.mem_of_find?_eq_some hFind, by simpa using List.find?_some hFind⟩

theorem of_meet {nodeId : String} {site : Site} {v : Entry} (h : k.meet base id nodeId = .ok (site, v)) :
    k.owner base id = some (site, v) ∧ base.hasNode site.datacenter nodeId = true := by
  unfold meet at h
  split at h
  · cases h
  · split at h
    · cases h
    · split at h
      · cases h
      · rename_i site' v' hOwner
        split at h
        · rename_i hNode
          cases h
          exact ⟨hOwner, hNode⟩
        · cases h

theorem Sound.createAt (h : k.Sound) (base : Inventory) (site : Site) {pool : Pool} {name : String}
    {sizeMb : UInt64} (hSize : sizeMb.toNat * Capacity.mebibyte < Capacity.reportable) :
    (k.createAt base site pool name sizeMb).2.Sound := by
  unfold Catalogue.createAt
  split
  · split <;> exact h
  · rename_i hFree
    split
    · exact h
    · rename_i parent hParent
      refine h.append rfl ?_ hSize
      rwa [Inventory.pool_of_poolAt hParent]

/-- Every request keeps a store sound. -/
theorem Sound.serve (h : k.Sound) (base : Inventory) (request : VolumeRequest) :
    (k.serve base request).2.Sound := by
  cases request with
  | create request =>
      simp only [Catalogue.serve, create]
      split
      · exact h
      · rename_i order hOrder
        split
        · exact h
        · exact h.createAt base _ (Capacity.requestedMb_eq_ok (Controller.requestedMb_of_order hOrder)).2
  | delete request =>
      simp only [Catalogue.serve, delete]
      split
      · exact h
      · exact h.remove _
  | publish request =>
      simp only [Catalogue.serve, publish]
      cases hMeet : k.meet base request.volumeId request.nodeId with
      | error e => exact h
      | ok found =>
          obtain ⟨-, hVolume, -⟩ := of_owner (of_meet hMeet).1
          simp only
          split
          · exact h
          · refine h.setHandle (Nat.le_succ _) (h.ids _ _ hVolume) ?_
            rintro text ⟨⟩
            exact ⟨k.next, Nat.lt_succ_self _, rfl⟩
  | unpublish request =>
      simp only [Catalogue.serve, unpublish]
      cases hMeet : k.meet base request.volumeId request.nodeId with
      | error e => exact h
      | ok found =>
          obtain ⟨-, hVolume, -⟩ := of_owner (of_meet hMeet).1
          simp only
          split
          · exact h.setHandle (Nat.le_refl _) (h.ids _ _ hVolume) (by simp)
          · exact h
  | list request => exact h

end Catalogue

end VolumeController
