import VolumeController.Proofs.Catalogue
import VolumeController.Proofs.VolumeSearch
/-! Inventories that represent a catalogue. Volumes are kept as disks, and handles under the paths of the
backing files, which are never given to two volumes. One lemma for each change of a catalogue says which
change of the inventory represents it. -/

namespace VolumeController

namespace Inventory

theorem state?_modify (inv : Inventory) (dc dc' : Datacenter) (f : DatacenterState → DatacenterState) :
    (inv.modify dc f).state? dc' =
      if dc.place = dc'.place then (inv.state? dc').map f else inv.state? dc' := by
  rw [state?, modify, List.getElem?_modify]
  split <;> simp [state?, *]

theorem poolAt_layout (inv : Inventory) (dc : Datacenter) (pool : Pool) :
    inv.layout.poolAt dc pool = inv.poolAt dc pool := by
  simp only [poolAt, state?, layout, List.getElem?_map]
  cases inv.datacenters[dc.place]? <;> rfl

theorem hasNode_modify {inv : Inventory} {dc : Datacenter} {s : DatacenterState}
    {f : DatacenterState → DatacenterState} (hState : inv.state? dc = some s)
    (h : ∀ node, ((f s).nodes.get? node).isSome = (s.nodes.get? node).isSome) (dc' : Datacenter)
    (node : String) : (inv.modify dc f).hasNode dc' node = inv.hasNode dc' node := by
  simp only [hasNode, state?_modify]
  split
  · rename_i hPlace
    rw [state?, hPlace] at hState
    rw [state?, hState]
    exact h node
  · rfl

end Inventory

theorem DatacenterState.handle?_addDevice (s : DatacenterState) (node path handle n p : String) :
    (s.addDevice node path handle).handle? n p =
      if n = node ∧ p = path then some handle else s.handle? n p := by
  simp only [handle?, addDevice, Dict.get?_insert]
  by_cases hNode : n = node
  · subst hNode
    rw [if_pos rfl]
    cases s.nodes.get? n with
    | none => simp
    | some d => simp
  · simp [hNode]

theorem DatacenterState.handle?_removeDevice (s : DatacenterState) (node path n p : String) :
    (s.removeDevice node path).handle? n p =
      if n = node ∧ p = path then none else s.handle? n p := by
  simp only [handle?, removeDevice, Dict.get?_insert]
  by_cases hNode : n = node
  · subst hNode
    rw [if_pos rfl]
    cases s.nodes.get? n with
    | none => simp
    | some d => simp
  · simp [hNode]

namespace Catalogue

/-- An inventory that is configured like another one and holds the volumes and handles of a catalogue. -/
structure IsHeldBy (k : Catalogue) (base inv : Inventory) : Prop where
  layout : inv.layout = base.layout
  disks : ∀ place, inv.disksAt place = (k.volumes place).map (·.disk)
  nodes : ∀ dc node, inv.hasNode dc node = base.hasNode dc node
  handles : ∃ datastore : String → String, (∀ place, ∀ v ∈ k.volumes place, datastore v.id = v.parent.owner) ∧
    ∀ dc s, inv.state? dc = some s → ∀ node path handle, s.handle? node path = some handle ↔
      ∃ id, path = Inventory.backingPath (datastore id) id ∧ k.handles dc.place node id = some handle
  next : inv.nextId = k.next

variable {k : Catalogue} {base inv : Inventory} {dc : Datacenter} {s : DatacenterState}

/-- No other volume that was ever attached has the path of a volume. -/
theorem Sound.eq_of_path (h : k.Sound) {place place' : Nat} {v : Entry} (hVolume : v ∈ k.volumes place)
    {node id handle datastore datastore' : String} (hStored : k.handles place' node id = some handle)
    (hPath : Inventory.backingPath datastore id = Inventory.backingPath datastore' v.id) : id = v.id := by
  obtain ⟨n, -, hDrawn⟩ := h.ids place v hVolume
  obtain ⟨⟨m, -, rfl⟩, -⟩ := h.handles place' node id handle hStored
  rw [hDrawn] at hPath ⊢
  rw [Inventory.backingPath_injective hPath]

namespace IsHeldBy

theorem sites (h : k.IsHeldBy base inv) : inv.sites = base.sites := by
  rw [← Inventory.sites_layout, h.layout, Inventory.sites_layout]

theorem locate (h : k.IsHeldBy base inv) (placement : Placement) :
    inv.locate placement = base.locate placement := by
  rw [← Inventory.locate_layout, h.layout, Inventory.locate_layout]

theorem poolAt (h : k.IsHeldBy base inv) (dc : Datacenter) (pool : Pool) :
    inv.poolAt dc pool = base.poolAt dc pool := by
  rw [← Inventory.poolAt_layout, h.layout, Inventory.poolAt_layout]

/-- The handle of a volume is stored under the path of its backing file. -/
theorem handle?_eq (h : k.IsHeldBy base inv) (hSound : k.Sound) (hState : inv.state? dc = some s) {v : Entry}
    (hVolume : v ∈ k.volumes dc.place) (node : String) :
    s.handle? node (Inventory.backingPath v.parent.owner v.id) = k.handles dc.place node v.id := by
  obtain ⟨datastore, hOwner, hHandles⟩ := h.handles
  refine Option.ext fun handle => ?_
  rw [hHandles dc s hState, ← hOwner dc.place v hVolume]
  constructor
  · rintro ⟨id, hPath, hStored⟩
    rwa [← hSound.eq_of_path hVolume hStored hPath.symm]
  · exact fun hStored => ⟨v.id, rfl, hStored⟩

/-- A new disk. -/
theorem append (h : k.IsHeldBy base inv) (hSound : k.Sound) (hState : inv.state? dc = some s) {v : Entry}
    (hId : v.id = Inventory.idText k.next) :
    (k.append dc.place v).IsHeldBy base
      { inv.modify dc (·.addDisk v.disk) with nextId := inv.nextId + 1 } where
  layout := (Inventory.layout_modify inv dc (f := (·.addDisk v.disk)) fun _ => rfl).trans h.layout
  disks := by
    intro place
    refine (Inventory.disksAt_addDisk hState v.disk place).trans ?_
    simp only [Catalogue.append]
    split
    · rw [List.map_append, h.disks]
      rfl
    · rw [List.append_nil, h.disks]
  nodes := fun dc' node =>
    (Inventory.hasNode_modify (f := (·.addDisk v.disk)) hState (fun _ => rfl) dc' node).trans
      (h.nodes dc' node)
  handles := by
    obtain ⟨datastore, hOwner, hHandles⟩ := h.handles
    have hOld : ∀ n < k.next, Inventory.idText n ≠ v.id := by
      intro n hn hSame
      have hNumber := Inventory.idText_injective (hSame.trans hId)
      omega
    refine ⟨fun id => if id = v.id then v.parent.owner else datastore id, ?_, ?_⟩
    · intro place w hw
      rcases mem_append hw with hThere | ⟨-, rfl⟩
      · obtain ⟨n, hn, hDrawn⟩ := hSound.ids place w hThere
        exact (if_neg (hDrawn ▸ hOld n hn)).trans (hOwner place w hThere)
      · exact if_pos rfl
    · intro dc' s' hState' node path handle
      have hBefore : ∃ s'', inv.state? dc' = some s'' ∧ s'.handle? node path = s''.handle? node path := by
        change (inv.modify dc (·.addDisk v.disk)).state? dc' = some s' at hState'
        rw [Inventory.state?_modify] at hState'
        split at hState'
        · obtain ⟨s'', hThere, rfl⟩ := Option.map_eq_some_iff.1 hState'
          exact ⟨s'', hThere, rfl⟩
        · exact ⟨s', hState', rfl⟩
      obtain ⟨s'', hThere, hSame⟩ := hBefore
      rw [hSame, hHandles dc' s'' hThere]
      refine exists_congr fun id => and_congr_left fun hStored => ?_
      obtain ⟨⟨n, hn, rfl⟩, -⟩ := hSound.handles dc'.place node id handle hStored
      have hKeep : (if Inventory.idText n = v.id then v.parent.owner else
          datastore (Inventory.idText n)) = datastore (Inventory.idText n) := if_neg (hOld n hn)
      simp only [hKeep]
  next := congrArg (· + 1) h.next

theorem distinctIds (h : k.IsHeldBy base inv) (hSound : k.Sound) : inv.DistinctIds := by
  refine ⟨fun place => ?_, fun place place' disk disk' hDisk hDisk' hSame => ?_⟩
  · rw [h.disks, List.map_map]
    exact hSound.within place
  · rw [h.disks] at hDisk hDisk'
    obtain ⟨v, hv, rfl⟩ := List.mem_map.1 hDisk
    obtain ⟨v', hv', rfl⟩ := List.mem_map.1 hDisk'
    exact hSound.across place place' v v' hv hv' hSame

/-- Removing an id, where the inventory without it is known by its disks. -/
theorem remove (h : k.IsHeldBy base inv) {inv' : Inventory} {id : String}
    (hDisks : ∀ place, inv'.disksAt place = (inv.disksAt place).filter fun disk => disk.id ≠ id)
    (hLayout : inv'.layout = inv.layout) (hNodes : ∀ dc node, inv'.hasNode dc node = inv.hasNode dc node)
    (hHandles : ∀ dc s', inv'.state? dc = some s' →
      ∃ s, inv.state? dc = some s ∧ ∀ node path, s'.handle? node path = s.handle? node path)
    (hNext : inv'.nextId = inv.nextId) : (k.remove id).IsHeldBy base inv' where
  layout := hLayout.trans h.layout
  disks := by
    intro place
    rw [hDisks, h.disks, List.filter_map]
    rfl
  nodes := fun dc node => (hNodes dc node).trans (h.nodes dc node)
  handles := by
    obtain ⟨datastore, hOwner, hStored⟩ := h.handles
    refine ⟨datastore, fun place v hv => hOwner place v (List.mem_of_mem_filter hv), ?_⟩
    intro dc s' hState' node path handle
    obtain ⟨s, hState, hSame⟩ := hHandles dc s' hState'
    rw [hSame]
    exact hStored dc s hState node path handle
  next := hNext.trans h.next

/-- Storing or removing the handle of a volume. -/
theorem setHandle (h : k.IsHeldBy base inv) (hSound : k.Sound) (hState : inv.state? dc = some s) {v : Entry}
    (hVolume : v ∈ k.volumes dc.place) {node : String} {handle : Option String} {next : Nat}
    {f : DatacenterState → DatacenterState} (hLayout : ∀ s, (f s).layout = s.layout)
    (hDisks : ∀ s, (f s).disks = s.disks)
    (hNodes : ∀ n, ((f s).nodes.get? n).isSome = (s.nodes.get? n).isSome)
    (hHandles : ∀ s n p, (f s).handle? n p =
      if n = node ∧ p = Inventory.backingPath v.parent.owner v.id then handle else s.handle? n p) :
    ({ k.setHandle dc.place node v.id handle with next } : Catalogue).IsHeldBy base
      { inv.modify dc f with nextId := next } where
  layout := (Inventory.layout_modify inv dc hLayout).trans h.layout
  disks := fun place => (Inventory.disksAt_modify inv dc hDisks place).trans (h.disks place)
  nodes := fun dc' n => (Inventory.hasNode_modify hState hNodes dc' n).trans (h.nodes dc' n)
  handles := by
    obtain ⟨datastore, hOwner, hStored⟩ := h.handles
    refine ⟨datastore, hOwner, ?_⟩
    intro dc' s' hState' n p text
    change (inv.modify dc f).state? dc' = some s' at hState'
    rw [Inventory.state?_modify] at hState'
    simp only [Catalogue.setHandle]
    split at hState'
    · rename_i hPlace
      obtain ⟨s, hThere, rfl⟩ := Option.map_eq_some_iff.1 hState'
      have hPath := congrArg (Inventory.backingPath · v.id) (hOwner dc.place v hVolume)
      rw [hHandles]
      by_cases hThis : n = node ∧ p = Inventory.backingPath v.parent.owner v.id
      · rw [if_pos hThis]
        constructor
        · intro hText
          exact ⟨v.id, hThis.2.trans hPath.symm, (if_pos ⟨hPlace.symm, hThis.1, rfl⟩).trans hText⟩
        · rintro ⟨id, hOther, hText⟩
          split at hText
          · exact hText
          · rename_i hElse
            have hSame := hSound.eq_of_path hVolume hText (hOther.symm.trans hThis.2)
            exact absurd ⟨hPlace.symm, hThis.1, hSame⟩ hElse
      · rw [if_neg hThis, hStored dc' s hThere]
        refine exists_congr fun id => and_congr_right fun hOther => ?_
        rw [if_neg]
        rintro ⟨-, rfl, rfl⟩
        exact hThis ⟨rfl, hOther.trans hPath⟩
    · rename_i hPlace
      rw [hStored dc' s' hState']
      refine exists_congr fun id => and_congr_right fun _ => ?_
      rw [if_neg fun hThis => hPlace hThis.1.symm]
  next := rfl

end IsHeldBy

end Catalogue

/-- A scene that holds a catalogue, and in which no name is locked. -/
structure Scene.Holds (s : Scene) (base : Inventory) (k : Catalogue) : Prop where
  catalogue : k.IsHeldBy base s.inventory
  unlocked : s.locks.table = []

/-- An operation that answers, when it is alone, as a catalogue does, and leaves a scene that holds what the
catalogue becomes. -/
def Scene.Answers {α : Type} (s : Scene) (base : Inventory) (op : Operation α)
    (answer : Except Error α × Catalogue) : Prop :=
  ∃ s', Solo 0 op.run s (.done answer.1) s' ∧ s'.Holds base answer.2

end VolumeController
