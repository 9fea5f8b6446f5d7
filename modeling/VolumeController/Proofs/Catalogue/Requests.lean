import VolumeController.Proofs.Catalogue.Creation
import VolumeController.Proofs.DeleteRequest
/-! The other requests alone do to the inventory what they do to the catalogue that it represents: an id is
looked for at all sites, an attachment under the path of a backing file, and a page is cut from the
listings of all sites. -/

namespace VolumeController

variable {k : Catalogue} {base inv : Inventory}

/-! What the inventory answers. -/

namespace Inventory

variable {dc : Datacenter} {state : DatacenterState}

theorem answer_listDisks (hState : inv.state? dc = some state) :
    (inv.answer (.listDisks dc)).1 = .ok (inv.disksAt dc.place) := by
  simp only [answer, hState]
  rw [disksAt_of_state? hState]

theorem answer_findNode (hState : inv.state? dc = some state) (name : String) :
    (inv.answer (.findNode dc name)).1 =
      if inv.hasNode dc name then .ok ⟨name, dc⟩ else .error (.notFound "VirtualMachine" name) := by
  simp only [answer, hasNode, hState]
  rfl

theorem answer_attachDisk_some (hState : inv.state? dc = some state) {node path handle : String}
    (hHandle : state.handle? node path = some handle) (bus : ScsiController) :
    (inv.answer (.attachDisk ⟨node, dc⟩ path bus)).1 = .ok handle ∧
      (inv.answer (.attachDisk ⟨node, dc⟩ path bus)).2.2 = inv := by
  simp only [answer, hState, attachDisk, hHandle]
  exact ⟨trivial, trivial⟩

theorem answer_attachDisk_none (hState : inv.state? dc = some state) {node path : String}
    (hHandle : state.handle? node path = none) (bus : ScsiController) :
    (inv.answer (.attachDisk ⟨node, dc⟩ path bus)).1 = .ok (idText inv.nextId) ∧
      (inv.answer (.attachDisk ⟨node, dc⟩ path bus)).2.2 =
        { inv.modify dc (·.addDevice node path (idText inv.nextId)) with nextId := inv.nextId + 1 } := by
  simp only [answer, hState, attachDisk, hHandle]
  exact ⟨trivial, trivial⟩

theorem answer_detachDisk_some (hState : inv.state? dc = some state) {node path handle : String}
    (hHandle : state.handle? node path = some handle) :
    (inv.answer (.detachDisk ⟨node, dc⟩ path)).1 = .ok () ∧
      (inv.answer (.detachDisk ⟨node, dc⟩ path)).2.2 = inv.modify dc (·.removeDevice node path) := by
  simp only [answer, hState, detachDisk, hHandle]
  exact ⟨trivial, trivial⟩

theorem answer_detachDisk_none (hState : inv.state? dc = some state) {node path : String}
    (hHandle : state.handle? node path = none) :
    (inv.answer (.detachDisk ⟨node, dc⟩ path)).1 = .error (.notFound "VirtualDevice" path) ∧
      (inv.answer (.detachDisk ⟨node, dc⟩ path)).2.2 = inv := by
  simp only [answer, hState, detachDisk, hHandle]
  exact ⟨trivial, trivial⟩

end Inventory

/-! Delete requests. -/

namespace Catalogue.IsHeldBy

theorem locateDisk (h : k.IsHeldBy base inv) (id : String) :
    inv.locateDisk id = (k.owner base id).map fun found => (found.1, found.2.disk) := by
  rw [Inventory.locateDisk, Catalogue.owner, List.map_findSome?, h.sites]
  refine congrArg (List.findSome? · base.sites) (funext fun site => ?_)
  rw [h.disks, List.find?_map, Function.comp_apply, Option.map_map, Option.map_map]
  rfl

/-- Nothing is removed under an id that nobody has. -/
theorem remove_absent (h : k.IsHeldBy base inv) {id : String} (hAbsent : inv.locateDisk id = none) :
    (k.remove id).IsHeldBy base inv := by
  refine h.remove (fun place => ?_) rfl (fun _ _ => rfl) (fun _ s hState => ⟨s, hState, fun _ _ => rfl⟩) rfl
  refine (List.filter_eq_self.2 fun disk hDisk => ?_).symm
  exact decide_eq_true (Inventory.locateDisk_eq_none_iff.1 hAbsent place disk hDisk)

theorem remove_found (h : k.IsHeldBy base inv) (hSound : k.Sound) {id : String} {site : Site} {disk : Disk}
    (hFound : inv.locateDisk id = some (site, disk)) :
    (k.remove id).IsHeldBy base (inv.answer (.deleteDisk site.datacenter disk.parent.pool id)).2.2 := by
  obtain ⟨hSite, hDisk, hId⟩ := Inventory.of_locateDisk hFound
  obtain ⟨state, hState⟩ := Inventory.state?_of_mem_sites hSite
  have hThere : ∃ d ∈ inv.disksAt site.datacenter.place, d.id = id ∧ d.isIn disk.parent.pool = true :=
    ⟨disk, hDisk, hId, disk.isIn_pool⟩
  obtain ⟨-, hAfter⟩ := Inventory.answer_deleteDisk_of_mem hState hDisk hId
  rw [hAfter]
  refine h.remove (fun place => (h.distinctIds hSound).disksAt_dropDisk hThere place) ?_ ?_ ?_ rfl
  · exact Inventory.layout_modify inv site.datacenter fun _ => rfl
  · exact Inventory.hasNode_modify hState fun _ => rfl
  · intro dc s' hState'
    rw [Inventory.state?_modify] at hState'
    split at hState'
    · obtain ⟨s, hBefore, rfl⟩ := Option.map_eq_some_iff.1 hState'
      exact ⟨s, hBefore, fun _ _ => rfl⟩
    · exact ⟨s', hState', fun _ _ => rfl⟩

end Catalogue.IsHeldBy

namespace Scene.Holds

variable {s : Scene}

theorem deleteVolume (h : s.Holds base k) (hSound : k.Sound) (request : DeleteVolumeRequest) :
    s.Answers base (Controller.deleteVolume request) (k.delete request) := by
  obtain ⟨id⟩ := request
  unfold Catalogue.delete
  by_cases hId : id = ""
  · subst hId
    exact ⟨s, Solo.deleteVolume_unnamed, h⟩
  · rw [if_neg hId]
    cases hFound : s.inventory.locateDisk id with
    | none => exact ⟨s, Solo.deleteVolume_absent hId hFound, h.catalogue.remove_absent hFound, h.unlocked⟩
    | some found =>
        exact ⟨_, Solo.deleteVolume hId hFound, h.catalogue.remove_found hSound hFound, h.unlocked⟩

end Scene.Holds

/-! Requests for a volume and a node. -/

/-- What a request for a volume and a node begins with. -/
def Controller.meet (operation volumeId nodeId : String) : Operation (Site × Disk × Node) := do
  requireIds volumeId nodeId
  let (site, disk) ← resolveVolume operation volumeId
  let node ← Attachment.resolveNode site.datacenter nodeId
  return (site, disk, node)

/-- Nodes that are there stay, and no others come. -/
theorem DatacenterState.isSome_nodes_insert {state : DatacenterState} {node : String}
    (h : (state.nodes.get? node).isSome = true) (devices : Dict String) (n : String) :
    ((state.nodes.insert node devices).get? n).isSome = (state.nodes.get? n).isSome := by
  rw [Dict.get?_insert]
  split
  · rename_i hSame
    rw [hSame, h]
    rfl
  · rfl

namespace Solo

variable {number : Nat} {s : Scene} {node : Node} {disk : Disk} {path : String}

theorem attach {handle : String} {bus : ScsiController} (hPath : disk.filePath? = some path)
    (hReply : (s.inventory.answer (.attachDisk node path bus)).1 = .ok handle) :
    Solo number (Attachment.attach node disk bus).run s (.done (.ok handle))
      (s.after (.attachDisk node path bus)) := by
  have hCall : Solo number (Operation.call "AttachDisk" (.attachDisk node path bus)).run s (.done (.ok _)) _ :=
    .callOperation _ _
  rw [hReply] at hCall
  unfold Attachment.attach Attachment.backingFile
  rw [hPath]
  exact .bindOperation (.refl _ s) (.bindOperation hCall (.afterNote (.refl _ _)))

theorem detach (hPath : disk.filePath? = some path) :
    Solo number (Attachment.detach node disk).run s
      (.done ((s.inventory.answer (.detachDisk node path)).1.mapError Error.backend))
      (s.after (.detachDisk node path)) := by
  have hCall : Solo number (Operation.call "DetachDisk" (.detachDisk node path)).run s (.done (.ok _)) _ :=
    .callOperation _ _
  unfold Attachment.detach Attachment.backingFile
  rw [hPath]
  refine .bindOperation (.refl _ s) (.bindOperation hCall ?_)
  cases (s.inventory.answer (.detachDisk node path)).1 with
  | ok done => exact .note _
  | error failure => exact .afterNote (.refl _ _)

end Solo

theorem Controller.publishVolumeUncounted_eq (request : PublishVolumeRequest) :
    publishVolumeUncounted request = do
      let (site, disk, node) ← meet "ControllerPublishVolume" request.volumeId request.nodeId
      let handle ← Attachment.attach node disk Attachment.defaultController
      return ⟨(disk.attributes site.endpoint site.datacenter.name).insert Attribute.page83Data handle⟩ := by
  simp only [publishVolumeUncounted, meet, bind_assoc, pure_bind]

theorem Controller.unpublishVolumeUncounted_eq (request : UnpublishVolumeRequest) :
    unpublishVolumeUncounted request = do
      let (_, disk, node) ← meet "ControllerUnpublishVolume" request.volumeId request.nodeId
      Attachment.detach node disk
      return ⟨⟩ := by
  simp only [unpublishVolumeUncounted, meet, bind_assoc, pure_bind]

namespace Scene.Holds

variable {s : Scene}

/-- The volume is looked for before the node. -/
theorem meet (h : s.Holds base k) (operation volumeId nodeId : String) :
    Solo 0 (Controller.meet operation volumeId nodeId).run s
      (.done ((k.meet base volumeId nodeId).map fun found =>
        (found.1, found.2.disk, ⟨nodeId, found.1.datacenter⟩))) s := by
  unfold Catalogue.meet Controller.meet Controller.requireIds
  by_cases hVolume : volumeId = ""
  · rw [if_pos hVolume, if_pos hVolume]
    exact .bindError (.reject _)
  · rw [if_neg hVolume, if_neg hVolume]
    by_cases hNode : nodeId = ""
    · rw [if_pos hNode, if_pos hNode]
      exact .bindError (.reject _)
    · rw [if_neg hNode, if_neg hNode]
      have hResolve : Solo 0 (VolumeStore.resolve volumeId).run s _ s := .resolve volumeId
      rw [h.catalogue.locateDisk] at hResolve
      refine .bindOperation (.refl _ s) ?_
      unfold Controller.resolveVolume
      cases hOwner : k.owner base volumeId with
      | none =>
          rw [hOwner] at hResolve
          exact .bindError (.bindOperation (.attempt hResolve) (.reject _))
      | some found =>
          obtain ⟨site, v⟩ := found
          rw [hOwner] at hResolve
          obtain ⟨hSite, -, -⟩ := Catalogue.of_owner hOwner
          rw [← h.catalogue.sites] at hSite
          obtain ⟨state, hState⟩ := Inventory.state?_of_mem_sites hSite
          have hFind : Solo 0 (Operation.call "GetVMByDNSName" (.findNode site.datacenter nodeId)).run s
              (.done (.ok _)) s := .callOperation _ _
          rw [Inventory.answer_findNode hState, h.catalogue.nodes] at hFind
          refine .bindOperation (.bindOperation (.attempt hResolve) (.refl _ s)) ?_
          simp only
          split
          · rename_i hThere
            rw [if_pos hThere] at hFind
            exact .bindOperation (.bindOperation hFind (.refl _ s)) (.refl _ s)
          · rename_i hAbsent
            rw [if_neg hAbsent] at hFind
            exact .bindError (.bindOperation hFind (.afterNote (.refl _ s)))

/-- A volume and a node that are met at a site that is there. -/
theorem exists_state (h : s.Holds base k) {volumeId nodeId : String} {site : Site} {v : Entry}
    (hMeet : k.meet base volumeId nodeId = .ok (site, v)) :
    v ∈ k.volumes site.datacenter.place ∧ ∃ state, s.inventory.state? site.datacenter = some state ∧
      (state.nodes.get? nodeId).isSome = true := by
  obtain ⟨hOwner, hNode⟩ := Catalogue.of_meet hMeet
  obtain ⟨hSite, hVolume, -⟩ := Catalogue.of_owner hOwner
  rw [← h.catalogue.sites] at hSite
  obtain ⟨state, hState⟩ := Inventory.state?_of_mem_sites hSite
  rw [← h.catalogue.nodes, Inventory.hasNode, hState] at hNode
  exact ⟨hVolume, state, hState, hNode⟩

theorem publishVolume (h : s.Holds base k) (hSound : k.Sound) (request : PublishVolumeRequest) :
    s.Answers base (Controller.publishVolume request) (k.publish base request) := by
  have hStart := h.meet "ControllerPublishVolume" request.volumeId request.nodeId
  unfold Catalogue.publish Controller.publishVolume
  rw [Controller.publishVolumeUncounted_eq]
  cases hMeet : k.meet base request.volumeId request.nodeId with
  | error e =>
      rw [hMeet] at hStart
      exact ⟨s, .instrumented (.bindError hStart), h⟩
  | ok found =>
      obtain ⟨site, v⟩ := found
      rw [hMeet] at hStart
      obtain ⟨hVolume, state, hState, hNode⟩ := h.exists_state hMeet
      have hHandle := h.catalogue.handle?_eq hSound hState hVolume request.nodeId
      let node : Node := ⟨request.nodeId, site.datacenter⟩
      let bus := Attachment.defaultController
      have hPath : v.disk.filePath? = some (Inventory.backingPath v.parent.owner v.id) := rfl
      simp only
      cases hStored : k.handles site.datacenter.place request.nodeId v.id with
      | some handle =>
          rw [hStored] at hHandle
          obtain ⟨hReply, hAfter⟩ := Inventory.answer_attachDisk_some hState hHandle bus
          have hAttach : Solo 0 (Attachment.attach node v.disk bus).run s _ _ := .attach hPath hReply
          rw [Scene.after, hAfter] at hAttach
          exact ⟨s, .instrumented (.bindOperation hStart (.bindOperation hAttach (.refl _ s))), h⟩
      | none =>
          rw [hStored] at hHandle
          obtain ⟨hReply, hAfter⟩ := Inventory.answer_attachDisk_none hState hHandle bus
          have hAttach : Solo 0 (Attachment.attach node v.disk bus).run s _ _ := .attach hPath hReply
          rw [Scene.after, hAfter, h.catalogue.next] at hAttach
          refine ⟨_, .instrumented (.bindOperation hStart (.bindOperation hAttach (.refl _ _))), ?_, h.unlocked⟩
          refine h.catalogue.setHandle hSound hState hVolume
            (f := (·.addDevice request.nodeId _ (Inventory.idText k.next))) (fun _ => rfl) (fun _ => rfl) ?_ ?_
          · exact DatacenterState.isSome_nodes_insert hNode _
          · exact fun state' n p => state'.handle?_addDevice _ _ _ n p

theorem unpublishVolume (h : s.Holds base k) (hSound : k.Sound) (request : UnpublishVolumeRequest) :
    s.Answers base (Controller.unpublishVolume request) (k.unpublish base request) := by
  have hStart := h.meet "ControllerUnpublishVolume" request.volumeId request.nodeId
  unfold Catalogue.unpublish Controller.unpublishVolume
  rw [Controller.unpublishVolumeUncounted_eq]
  cases hMeet : k.meet base request.volumeId request.nodeId with
  | error e =>
      rw [hMeet] at hStart
      exact ⟨s, .instrumented (.bindError hStart), h⟩
  | ok found =>
      obtain ⟨site, v⟩ := found
      rw [hMeet] at hStart
      obtain ⟨hVolume, state, hState, hNode⟩ := h.exists_state hMeet
      have hHandle := h.catalogue.handle?_eq hSound hState hVolume request.nodeId
      have hDetach : Solo 0 (Attachment.detach ⟨request.nodeId, site.datacenter⟩ v.disk).run s _ _ :=
        .detach rfl
      simp only
      cases hStored : k.handles site.datacenter.place request.nodeId v.id with
      | some handle =>
          rw [hStored] at hHandle
          obtain ⟨hReply, hAfter⟩ := Inventory.answer_detachDisk_some hState hHandle
          rw [hReply, Scene.after, hAfter] at hDetach
          refine ⟨_, .instrumented (.bindOperation hStart (.bindOperation hDetach (.refl _ _))), ?_, h.unlocked⟩
          let path := Inventory.backingPath v.parent.owner v.id
          have hHeld : ({ k.setHandle site.datacenter.place request.nodeId v.id none with
              next := k.next } : Catalogue).IsHeldBy base
              { s.inventory.modify site.datacenter (·.removeDevice request.nodeId path) with
                nextId := k.next } :=
            h.catalogue.setHandle hSound hState hVolume (fun _ => rfl) (fun _ => rfl)
              (DatacenterState.isSome_nodes_insert hNode _)
              fun state' n p => state'.handle?_removeDevice _ _ n p
          exact ⟨hHeld.layout, hHeld.disks, hHeld.nodes, hHeld.handles, h.catalogue.next⟩
      | none =>
          rw [hStored] at hHandle
          obtain ⟨hReply, hAfter⟩ := Inventory.answer_detachDisk_none hState hHandle
          rw [hReply, Scene.after, hAfter] at hDetach
          exact ⟨s, .instrumented (.bindOperation hStart (.bindError hDetach)), h⟩

end Scene.Holds

/-! List requests. -/

/-- All disks, site by site. -/
def Inventory.located (inv : Inventory) : List LocatedDisk :=
  inv.sites.flatMap fun site =>
    (inv.disksAt site.datacenter.place).map (⟨site.endpoint, site.datacenter.name, ·⟩)

namespace Solo

variable {number : Nat} {s : Scene}

/-- Sites that all answered. -/
theorem collect (sites : List Site) (disks : Site → List Disk) :
    Solo number (Listing.collect sites (sites.map fun site => .ok (disks site))).run s
      (.done (.ok (sites.flatMap fun site =>
        (disks site).map (⟨site.endpoint, site.datacenter.name, ·⟩)))) s := by
  induction sites with
  | nil => exact .refl _ s
  | cons site sites ih => exact bindOperation ih (.refl _ s)

theorem listings_sites (s : Scene) :
    s.listings (s.inventory.sites.map Site.datacenter) =
      s.inventory.sites.map fun site => .ok (s.inventory.disksAt site.datacenter.place) := by
  rw [Scene.listings, List.map_map]
  refine List.map_congr_left fun site hSite => ?_
  obtain ⟨state, hState⟩ := Inventory.state?_of_mem_sites hSite
  exact Inventory.answer_listDisks hState

theorem allDisks : Solo number Listing.allDisks.run s (.done (.ok s.inventory.located)) s := by
  have hSites : Solo number (Operation.call "ListBackendInstances" .listSites).run s
      (.done (.ok (.ok s.inventory.sites))) s :=
    callOperation "ListBackendInstances" .listSites
  refine bindOperation hSites (.listings ?_)
  rw [listings_sites]
  exact collect _ _

/-- A computation that fails with a cause or goes on. -/
theorem bindCause {α β : Type} {result : Except Cause α} {f : α → Operation β} {g : α → Except Cause β}
    (h : ∀ a, Solo number (f a).run s (.done ((g a).mapError Cause.toError)) s) :
    Solo number (Operation.ofCause result >>= f).run s
      (.done ((result >>= g).mapError Cause.toError)) s := by
  have hResult : Solo number (Operation.ofCause result).run s _ s := ofCause result
  cases result with
  | error cause => exact bindError hResult
  | ok a => exact bindOperation hResult (h a)

theorem page (hSizes : ∀ d ∈ s.inventory.located, d.Reportable) (request : ListVolumesRequest) :
    Solo number (Listing.page request).run s
      (.done ((Listing.cut request (s.inventory.located.map LocatedDisk.report)).mapError Cause.toError)) s := by
  rw [Listing.cut_eq_compute]
  refine bindCause fun limit => bindCause fun start => bindOperation allDisks ?_
  rw [List.length_map]
  refine bindCause fun bounds => .afterNote ?_
  rw [Listing.entries_eq_ok fun d hd => hSizes d (PageBounds.mem_of_mem_slice hd), PageBounds.slice_map,
    List.map_map]
  refine bindOperation (.refl _ s) ?_
  split
  · exact .afterNote (.refl _ s)
  · exact .refl _ s

end Solo

namespace Scene.Holds

variable {s : Scene}

theorem map_report_located (h : s.Holds base k) :
    s.inventory.located.map LocatedDisk.report = k.reports base := by
  rw [Inventory.located, Catalogue.reports, List.map_flatMap, h.catalogue.sites]
  refine List.flatMap_congr fun site _ => ?_
  rw [h.catalogue.disks, List.map_map, List.map_map]
  rfl

theorem reportable (h : s.Holds base k) (hSound : k.Sound) : ∀ d ∈ s.inventory.located, d.Reportable := by
  intro d hd
  obtain ⟨site, -, hDisk⟩ := List.mem_flatMap.1 hd
  rw [h.catalogue.disks, List.map_map] at hDisk
  obtain ⟨v, hv, rfl⟩ := List.mem_map.1 hDisk
  exact hSound.sizes _ v hv

theorem listVolumes (h : s.Holds base k) (hSound : k.Sound) (request : ListVolumesRequest) :
    s.Answers base (Controller.listVolumes request) (k.list base request, k) := by
  refine ⟨s, .instrumented ?_, h⟩
  rw [Catalogue.list, ← h.map_report_located]
  exact .page (h.reportable hSound) request

end Scene.Holds

end VolumeController
