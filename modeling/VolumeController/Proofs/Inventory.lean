import VolumeController.Simulation.Interleaving
/-! What calls and commands do to an inventory, seen through three views: its layout, which nothing
changes; its faults, which only commands set; and the disks at one place, which only creating, deleting
and inserting change. -/

namespace VolumeController

/-- What is configured of a datacenter. -/
def DatacenterState.layout (dc : DatacenterState) : DatacenterState :=
  { dc with disks := [], nodes := .empty, faults := {} }

/-- Whether calls to a datacenter succeed. -/
def DatacenterState.Faultless (dc : DatacenterState) : Prop :=
  dc.faults.failures = []

@[simp] theorem DatacenterState.placement_layout (dc : DatacenterState) (pool : Pool) :
    dc.layout.placement pool = dc.placement pool := rfl

/-- A disk is created in the pool that was asked for. -/
theorem DatacenterState.pool_of_placement {dc : DatacenterState} {pool : Pool} {parent : Parent}
    (h : dc.placement pool = .ok parent) : parent.pool = pool := by
  obtain ⟨kind, name⟩ := pool
  cases kind with
  | datastore =>
      simp only [placement] at h
      split at h
      · cases h
        rfl
      · cases h
  | datastoreCluster =>
      simp only [placement] at h
      split at h
      · cases h
        rfl
      · cases h

/-- The disks without the first one of an id in a pool, if there is one. -/
def DatacenterState.dropDisk (dc : DatacenterState) (pool : Pool) (id : String) : DatacenterState :=
  { dc with disks := dc.disks.eraseP fun disk => disk.id = id && disk.isIn pool }

/-- Whether a call creates a disk of a name in a pool at a place. -/
def Call.creates (place : Nat) (pool : Pool) (name : String) : Call → Bool
  | .createDisk dc pool' name' _ => dc.place = place && pool' = pool && name' = name
  | _ => false

/-- Whether a call leaves everything as it is. -/
def Call.reads : Call → Bool
  | .createDisk _ _ _ _ | .deleteDisk _ _ _ | .attachDisk _ _ _ | .detachDisk _ _ => false
  | _ => true

/-- Commands that make calls fail. -/
def InventoryCommand.Fails : InventoryCommand → Prop
  | .fail _ _ _ => True
  | _ => False

/-- Commands that put disks where no call asked for them. -/
def InventoryCommand.Inserts : InventoryCommand → Prop
  | .insertDisk _ _ => True
  | _ => False

namespace Inventory

/-- Everything may happen around the threads, except that disks appear. -/
def rough : Surroundings Inventory :=
  ⟨True, fun c => ¬ c.Inserts⟩

/-- No context ends a wait, and no command makes calls fail or puts disks. Calls may still be delayed. -/
def calm : Surroundings Inventory :=
  ⟨False, fun c => ¬ c.Inserts ∧ ¬ c.Fails⟩

/-- What is configured of an inventory. -/
def layout (inv : Inventory) : Inventory :=
  { inv with datacenters := inv.datacenters.map (·.layout), faults := {}, nextId := 0 }

/-- Whether every call succeeds that has something to do. -/
structure Faultless (inv : Inventory) : Prop where
  platform : inv.faults.failures = []
  datacenters : ∀ dc ∈ inv.datacenters, dc.Faultless

/-- The disks at a place in the order of enumeration. -/
def disksAt (inv : Inventory) (place : Nat) : List Disk :=
  (inv.datacenters[place]?.map (·.disks)).getD []

/-- The disks of a name in a pool at a place. -/
def named (inv : Inventory) (place : Nat) (pool : Pool) (name : String) : List Disk :=
  (inv.disksAt place).filter fun disk => disk.name = name && disk.isIn pool

variable {inv : Inventory} {dc : Datacenter}

theorem layout_modify (inv : Inventory) (dc : Datacenter) {f : DatacenterState → DatacenterState}
    (h : ∀ s, (f s).layout = s.layout) : (inv.modify dc f).layout = inv.layout := by
  have hMap : (inv.datacenters.modify dc.place f).map (·.layout) = inv.datacenters.map (·.layout) := by
    refine List.ext_getElem? fun i => ?_
    simp only [List.getElem?_map, List.getElem?_modify]
    cases inv.datacenters[i]? with
    | none => rfl
    | some s =>
        by_cases hPlace : dc.place = i
        · simp [hPlace, h]
        · simp [hPlace]
  simp [modify, layout, hMap]

/-- A state after a change was there before it, or it is the changed one. -/
theorem exists_of_mem_modify {f : DatacenterState → DatacenterState} {s : DatacenterState}
    (h : s ∈ (inv.modify dc f).datacenters) : ∃ s' ∈ inv.datacenters, s = s' ∨ s = f s' := by
  obtain ⟨i, hi⟩ := List.mem_iff_getElem?.1 h
  rw [Inventory.modify, List.getElem?_modify] at hi
  obtain ⟨s', hs', rfl⟩ := Option.map_eq_some_iff.1 hi
  refine ⟨s', List.mem_of_getElem? hs', ?_⟩
  split
  · exact .inr rfl
  · exact .inl rfl

theorem Faultless.modify (hInv : inv.Faultless) (dc : Datacenter)
    {f : DatacenterState → DatacenterState} (h : ∀ s, (f s).faults = s.faults) :
    (inv.modify dc f).Faultless := by
  refine ⟨hInv.platform, fun s hs => ?_⟩
  obtain ⟨s', hThere, rfl | rfl⟩ := exists_of_mem_modify hs
  · exact hInv.datacenters s hThere
  · rw [DatacenterState.Faultless, h]
    exact hInv.datacenters s' hThere

theorem disksAt_modify (inv : Inventory) (dc : Datacenter) {f : DatacenterState → DatacenterState}
    (h : ∀ s, (f s).disks = s.disks) (place : Nat) :
    (inv.modify dc f).disksAt place = inv.disksAt place := by
  unfold disksAt
  simp only [modify, List.getElem?_modify]
  cases inv.datacenters[place]? with
  | none => rfl
  | some s =>
      by_cases hPlace : dc.place = place
      · simp [hPlace, h]
      · simp [hPlace]

theorem disksAt_modify_of_ne {place : Nat} (h : dc.place ≠ place)
    (f : DatacenterState → DatacenterState) :
    (inv.modify dc f).disksAt place = inv.disksAt place := by
  unfold disksAt
  simp only [modify, List.getElem?_modify]
  cases inv.datacenters[place]? with
  | none => rfl
  | some s => simp [h]

theorem disksAt_modify_self {s : DatacenterState} (hState : inv.state? dc = some s)
    (f : DatacenterState → DatacenterState) :
    (inv.modify dc f).disksAt dc.place = (f s).disks := by
  unfold disksAt
  simp only [modify, List.getElem?_modify_eq]
  rw [show inv.datacenters[dc.place]? = some s from hState]
  rfl

theorem disksAt_of_state? {s : DatacenterState} (hState : inv.state? dc = some s) :
    inv.disksAt dc.place = s.disks := by
  unfold disksAt
  rw [show inv.datacenters[dc.place]? = some s from hState]
  rfl

theorem disksAt_addDisk {s : DatacenterState} (hState : inv.state? dc = some s) (disk : Disk) (place : Nat) :
    (inv.modify dc (·.addDisk disk)).disksAt place =
      inv.disksAt place ++ if place = dc.place then [disk] else [] := by
  by_cases hPlace : place = dc.place
  · rw [if_pos hPlace, hPlace, disksAt_of_state? hState]
    exact disksAt_modify_self hState (·.addDisk disk)
  · rw [if_neg hPlace, List.append_nil]
    exact disksAt_modify_of_ne (Ne.symm hPlace) (·.addDisk disk)

/-- Everything that a call may do when it is finished. -/
inductive Effect (inv : Inventory) : Call → Inventory → Prop where
  | keep (c : Call) : Effect inv c inv
  | create {dc : Datacenter} {pool : Pool} {name : String} {sizeMb : UInt64} {s : DatacenterState}
      {disk : Disk} (hState : inv.state? dc = some s) (hParent : s.placement pool = .ok disk.parent)
      (hName : disk.name = name) (hSize : disk.capacityMb = sizeMb) :
      Effect inv (.createDisk dc pool name sizeMb)
        { inv.modify dc (·.addDisk disk) with nextId := inv.nextId + 1 }
  | delete {dc : Datacenter} {pool : Pool} {id : String} {s s' : DatacenterState}
      (hState : inv.state? dc = some s) (hRemove : s.removeDisk? pool id = some s') :
      Effect inv (.deleteDisk dc pool id) (inv.modify dc fun _ => s')
  | attach {node : Node} {path : String} {controller : ScsiController} (handle : String) :
      Effect inv (.attachDisk node path controller)
        { inv.modify node.datacenter (·.addDevice node.name path handle) with
          nextId := inv.nextId + 1 }
  | detach {node : Node} {path : String} :
      Effect inv (.detachDisk node path)
        (inv.modify node.datacenter (·.removeDevice node.name path))

theorem effect_answer (inv : Inventory) (c : Call) : inv.Effect c (inv.answer c).2.2 := by
  cases c with
  | createDisk dc pool name sizeMb =>
      simp only [answer]
      split
      · rename_i s hState
        unfold createDisk
        split
        · exact .keep _
        · rename_i parent hParent
          exact .create hState hParent rfl rfl
      · exact .keep _
  | deleteDisk dc pool id =>
      simp only [answer]
      split
      · rename_i s hState
        unfold deleteDisk
        split
        · rename_i s' hRemove
          exact .delete hState hRemove
        · exact .keep _
      · exact .keep _
  | attachDisk node path controller =>
      simp only [answer]
      split
      · unfold attachDisk
        split
        · exact .keep _
        · exact .attach _
      · exact .keep _
  | detachDisk node path =>
      simp only [answer]
      split
      · unfold detachDisk
        split
        · exact .detach
        · exact .keep _
      · exact .keep _
  | _ => exact .keep _

theorem effect_finish (inv : Inventory) (c : Call) (ticket : Platform.Ticket Inventory) :
    inv.Effect c (Platform.finish c ticket inv).2.2 := by
  simp only [Platform.finish]
  split
  · exact .keep _
  · exact effect_answer inv c

theorem removeDisk?_eq_some {s s' : DatacenterState} {pool : Pool} {id : String}
    (h : s.removeDisk? pool id = some s') : s' = s.dropDisk pool id := by
  unfold DatacenterState.removeDisk? at h
  split at h
  · exact (Option.some.inj h).symm
  · cases h

/-- The state that a datacenter is changed to, as a change of whatever state it has. -/
theorem modify_eq_modify_of_state? {s : DatacenterState} (hState : inv.state? dc = some s)
    (g : DatacenterState → DatacenterState) : (inv.modify dc fun _ => g s) = inv.modify dc g := by
  have hList : inv.datacenters.modify dc.place (fun _ => g s) = inv.datacenters.modify dc.place g := by
    refine List.ext_getElem? fun i => ?_
    rw [List.getElem?_modify, List.getElem?_modify]
    by_cases hPlace : dc.place = i
    · subst hPlace
      simp [show inv.datacenters[dc.place]? = some s from hState]
    · simp [hPlace]
  simp [modify, hList]

namespace Effect

variable {c : Call} {inv' : Inventory}

theorem eq_of_reads (h : inv.Effect c inv') (hReads : c.reads = true) : inv' = inv := by
  cases h with
  | keep => rfl
  | create => cases hReads
  | delete => cases hReads
  | attach => cases hReads
  | detach => cases hReads

theorem layout (h : inv.Effect c inv') : inv'.layout = inv.layout := by
  cases h with
  | keep => rfl
  | @create dc _ _ _ _ disk _ _ _ _ => exact layout_modify inv dc (f := (·.addDisk disk)) fun _ => rfl
  | @delete dc pool id _ _ hState hRemove =>
      rw [removeDisk?_eq_some hRemove, modify_eq_modify_of_state? hState (·.dropDisk pool id)]
      exact layout_modify inv dc fun _ => rfl
  | @attach node path _ handle =>
      exact layout_modify inv node.datacenter (f := (·.addDevice node.name path handle)) fun _ => rfl
  | detach => exact layout_modify inv _ (f := (·.removeDevice _ _)) fun _ => rfl

theorem faultless (h : inv.Effect c inv') (hInv : inv.Faultless) : inv'.Faultless := by
  cases h with
  | keep => exact hInv
  | @create dc _ _ _ _ disk _ _ _ _ =>
      have hNew := hInv.modify dc (f := (·.addDisk disk)) fun _ => rfl
      exact ⟨hNew.platform, hNew.datacenters⟩
  | @delete dc pool id _ _ hState hRemove =>
      rw [removeDisk?_eq_some hRemove, modify_eq_modify_of_state? hState (·.dropDisk pool id)]
      exact hInv.modify dc fun _ => rfl
  | @attach node path _ handle =>
      have hNew := hInv.modify node.datacenter (f := (·.addDevice node.name path handle)) fun _ => rfl
      exact ⟨hNew.platform, hNew.datacenters⟩
  | detach => exact hInv.modify _ (f := (·.removeDevice _ _)) fun _ => rfl

/-- The disks at a place stay, or one is added at the end, or one is taken out. -/
theorem disksAt (h : inv.Effect c inv') (place : Nat) :
    inv'.disksAt place = inv.disksAt place ∨
    (∃ dc pool name sizeMb disk, c = .createDisk dc pool name sizeMb ∧ dc.place = place ∧
      disk.name = name ∧ disk.capacityMb = sizeMb ∧ disk.parent.pool = pool ∧
      inv'.disksAt place = inv.disksAt place ++ [disk]) ∨
    ∃ dc pool id, c = .deleteDisk dc pool id ∧ dc.place = place ∧
      inv'.disksAt place =
        (inv.disksAt place).eraseP fun disk => disk.id = id && disk.isIn pool := by
  cases h with
  | keep => exact .inl rfl
  | @create dc pool name sizeMb s disk hState hParent hName hSize =>
      have hDisks := disksAt_addDisk hState disk place
      by_cases hPlace : place = dc.place
      · rw [if_pos hPlace] at hDisks
        exact .inr (.inl ⟨dc, pool, name, sizeMb, disk, rfl, hPlace.symm, hName, hSize,
          DatacenterState.pool_of_placement hParent, hDisks⟩)
      · rw [if_neg hPlace, List.append_nil] at hDisks
        exact .inl hDisks
  | @delete dc pool id s s' hState hRemove =>
      by_cases hPlace : dc.place = place
      · subst hPlace
        refine .inr (.inr ⟨dc, pool, id, rfl, rfl, ?_⟩)
        rw [disksAt_of_state? hState, disksAt_modify_self hState, removeDisk?_eq_some hRemove]
        rfl
      · exact .inl (disksAt_modify_of_ne hPlace _)
  | @attach node path _ handle =>
      exact .inl (disksAt_modify inv node.datacenter (f := (·.addDevice node.name path handle))
        (fun _ => rfl) place)
  | detach => exact .inl (disksAt_modify inv _ (f := (·.removeDevice _ _)) (fun _ => rfl) place)

section

variable {place : Nat} {pool : Pool} {name : String}

/-- Another creation does not show among the disks of a name. -/
theorem filter_append_of_creates {dc : Datacenter} {pool' : Pool} {name' : String} {sizeMb : UInt64}
    {disk : Disk} {disks : List Disk} (hPlace : dc.place = place) (hName : disk.name = name')
    (hPool : disk.parent.pool = pool')
    (hCreates : (Call.createDisk dc pool' name' sizeMb).creates place pool name = false) :
    (disks ++ [disk]).filter (fun disk => disk.name = name && disk.isIn pool) =
      disks.filter fun disk => disk.name = name && disk.isIn pool := by
  have hOther : ¬ (disk.name = name ∧ disk.parent.pool = pool) := by
    rintro ⟨rfl, rfl⟩
    simp [Call.creates, hPlace, hName, hPool] at hCreates
  simpa [Disk.isIn_eq_decide] using hOther

/-- Only its own creation adds to the disks of a name. -/
theorem named_sublist (h : inv.Effect c inv') (hCreates : c.creates place pool name = false) :
    (inv'.named place pool name).Sublist (inv.named place pool name) := by
  unfold named
  rcases h.disksAt place with hKeep | ⟨dc, _, _, _, disk, rfl, hPlace, hName, -, hPool, hAdd⟩ |
      ⟨dc, _, id, -, -, hRemove⟩
  · simp only [hKeep, List.Sublist.refl]
  · simp only [hAdd, filter_append_of_creates hPlace hName hPool hCreates, List.Sublist.refl]
  · rw [hRemove]
    exact List.eraseP_sublist.filter _

/-- Only deletions take from the disks of a name. -/
theorem named_eq (h : inv.Effect c inv') (hCreates : c.creates place pool name = false)
    (hDelete : c.kind ≠ .deleteDisk) : inv'.named place pool name = inv.named place pool name := by
  unfold named
  rcases h.disksAt place with hKeep | ⟨dc, _, _, _, disk, rfl, hPlace, hName, -, hPool, hAdd⟩ |
      ⟨dc, _, id, rfl, -, -⟩
  · rw [hKeep]
  · rw [hAdd, filter_append_of_creates hPlace hName hPool hCreates]
  · exact absurd rfl hDelete

end

end Effect

/-- Whether disks can be created in a pool at a place. -/
def Offers (inv : Inventory) (place : Nat) (pool : Pool) : Prop :=
  ∃ s parent, inv.datacenters[place]? = some s ∧ s.placement pool = .ok parent

/-- Creating a disk fails and changes nothing, or it puts the new disk after all others. It fails only
where the pool is not offered. -/
theorem answer_createDisk (inv : Inventory) (dc : Datacenter) (pool : Pool) (name : String)
    (sizeMb : UInt64) :
    (¬ inv.Offers dc.place pool ∧
      ∃ failure, (inv.answer (.createDisk dc pool name sizeMb)).1 = .error failure ∧
        (inv.answer (.createDisk dc pool name sizeMb)).2.2 = inv) ∨
    inv.Offers dc.place pool ∧
      (inv.answer (.createDisk dc pool name sizeMb)).1 = .ok () ∧
      ∃ disk, disk.capacityMb = sizeMb ∧
        (inv.answer (.createDisk dc pool name sizeMb)).2.2.named dc.place pool name =
          inv.named dc.place pool name ++ [disk] := by
  simp only [answer]
  cases hState : inv.state? dc with
  | none =>
      refine .inl ⟨?_, _, rfl, rfl⟩
      rintro ⟨s, parent, hSome, -⟩
      cases hState.symm.trans hSome
  | some s =>
      simp only [createDisk]
      cases hParent : s.placement pool with
      | error failure =>
          refine .inl ⟨?_, _, rfl, rfl⟩
          rintro ⟨s', parent, hSome, hOk⟩
          obtain rfl := Option.some.inj (hState.symm.trans hSome)
          cases hParent.symm.trans hOk
      | ok parent =>
          let disk : Disk := ⟨idText inv.nextId, name, sizeMb, parent,
            .file (backingPath parent.owner (idText inv.nextId))⟩
          have hDisks := disksAt_modify_self hState (·.addDisk disk)
          refine .inr ⟨⟨s, parent, hState, hParent⟩, rfl, disk, rfl, ?_⟩
          rw [named, named, disksAt_of_state? hState]
          refine (congrArg _ hDisks).trans ?_
          simp [DatacenterState.addDisk, Disk.isIn_eq_decide, disk, DatacenterState.pool_of_placement hParent]

theorem finish_createDisk (inv : Inventory) (dc : Datacenter) (pool : Pool) (name : String)
    (sizeMb : UInt64) (ticket : Platform.Ticket Inventory) :
    (∃ failure, (Platform.finish (.createDisk dc pool name sizeMb) ticket inv).1 = .error failure ∧
      (Platform.finish (.createDisk dc pool name sizeMb) ticket inv).2.2 = inv) ∨
    inv.Offers dc.place pool ∧
      (Platform.finish (.createDisk dc pool name sizeMb) ticket inv).1 = .ok () ∧
      ∃ disk, disk.capacityMb = sizeMb ∧
        (Platform.finish (.createDisk dc pool name sizeMb) ticket inv).2.2.named dc.place pool name =
          inv.named dc.place pool name ++ [disk] := by
  simp only [Platform.finish]
  split
  · exact .inl ⟨_, rfl, rfl⟩
  · rcases answer_createDisk inv dc pool name sizeMb with ⟨-, hFailure⟩ | hCreated
    · exact .inl hFailure
    · exact .inr hCreated

theorem offers_layout (inv : Inventory) (place : Nat) (pool : Pool) :
    inv.layout.Offers place pool ↔ inv.Offers place pool := by
  simp only [Offers, layout, List.getElem?_map]
  cases inv.datacenters[place]? with
  | none => simp
  | some s => simp

/-- Where there is no datacenter, there are no disks and no pools. -/
theorem nothing_of_state?_eq_none (hState : inv.state? dc = none) :
    (∀ pool name, inv.named dc.place pool name = []) ∧ ∀ pool, ¬ inv.Offers dc.place pool := by
  have hNone : inv.datacenters[dc.place]? = none := hState
  refine ⟨fun pool name => ?_, fun pool => ?_⟩
  · simp [named, disksAt, hNone]
  · rintro ⟨s, parent, hSome, -⟩
    rw [hNone] at hSome
    cases hSome

/-! Changes of faults. -/

theorem layout_modifyFaults (inv : Inventory) (dc : Option Datacenter) (f : Faults → Faults) :
    (inv.modifyFaults dc f).layout = inv.layout := by
  cases dc with
  | none => rfl
  | some dc => exact layout_modify inv dc fun _ => rfl

theorem disksAt_modifyFaults (inv : Inventory) (dc : Option Datacenter) (f : Faults → Faults)
    (place : Nat) : (inv.modifyFaults dc f).disksAt place = inv.disksAt place := by
  cases dc with
  | none => rfl
  | some dc =>
      exact disksAt_modify inv dc (f := fun s => { s with faults := f s.faults }) (fun _ => rfl) place

theorem Faultless.modifyFaults (hInv : inv.Faultless) (dc : Option Datacenter)
    (f : Faults → Faults) (h : ∀ faults, faults.failures = [] → (f faults).failures = []) :
    (inv.modifyFaults dc f).Faultless := by
  cases dc with
  | none => exact ⟨h _ hInv.platform, hInv.datacenters⟩
  | some dc =>
      refine ⟨hInv.platform, fun s hs => ?_⟩
      obtain ⟨s', hThere, rfl | rfl⟩ := exists_of_mem_modify hs
      · exact hInv.datacenters s hThere
      · exact h _ (hInv.datacenters s' hThere)

/-! The beginning of a call. -/

theorem layout_start (inv : Inventory) (c : Call) :
    (Platform.start c inv).2.2.layout = inv.layout :=
  layout_modifyFaults inv _ _

theorem disksAt_start (inv : Inventory) (c : Call) (place : Nat) :
    (Platform.start c inv).2.2.disksAt place = inv.disksAt place :=
  disksAt_modifyFaults inv _ _ place

theorem Faultless.start (hInv : inv.Faultless) (c : Call) : (Platform.start c inv).2.2.Faultless :=
  hInv.modifyFaults _ (·.enter c.kind) fun _ h => h

/-! The end of a call. -/

theorem layout_finish (inv : Inventory) (c : Call) (ticket : Platform.Ticket Inventory) :
    (Platform.finish c ticket inv).2.2.layout = inv.layout :=
  (effect_finish inv c ticket).layout

theorem Faultless.finish (hInv : inv.Faultless) (c : Call) (ticket : Platform.Ticket Inventory) :
    (Platform.finish c ticket inv).2.2.Faultless :=
  (effect_finish inv c ticket).faultless hInv

theorem Faultless.failure?_faultsOf (hInv : inv.Faultless) (c : Call) (kind : CallKind) :
    (inv.faultsOf c).failure? kind = none := by
  have hFailures : (inv.faultsOf c).failures = [] := by
    unfold faultsOf
    split
    · exact hInv.platform
    · rename_i dc _
      cases hState : inv.state? dc with
      | none => rfl
      | some s => exact hInv.datacenters s (List.mem_of_getElem? hState)
  simp [Faults.failure?, hFailures]

/-- Without faults a call is answered by what it asks for. -/
theorem Faultless.finish_eq (hInv : inv.Faultless) (c : Call) (ticket : Platform.Ticket Inventory) :
    Platform.finish c ticket inv = inv.answer c := by
  simp [Platform.finish, hInv.failure?_faultsOf]

/-- Creating a disk in a pool that is offered succeeds. -/
theorem Faultless.finish_createDisk (hInv : inv.Faultless) {pool : Pool}
    (hOffers : inv.Offers dc.place pool) (name : String) (sizeMb : UInt64)
    (ticket : Platform.Ticket Inventory) :
    (Platform.finish (.createDisk dc pool name sizeMb) ticket inv).1 = .ok () := by
  rw [hInv.finish_eq]
  rcases answer_createDisk inv dc pool name sizeMb with ⟨hNot, -⟩ | ⟨-, hReply, -⟩
  · exact absurd hOffers hNot
  · exact hReply

/-- Without faults a disk is refused only where its pool is not offered. -/
theorem Faultless.not_offers_of_finish (hInv : inv.Faultless) {pool : Pool} {name : String} {sizeMb : UInt64}
    (ticket : Platform.Ticket Inventory) {failure : BackendError}
    (hReply : (Platform.finish (.createDisk dc pool name sizeMb) ticket inv).1 = .error failure) :
    ¬ inv.Offers dc.place pool := by
  intro hOffers
  rw [hInv.finish_createDisk hOffers] at hReply
  cases hReply

/-- Where a pool is offered, a search by name shows the first disk of the name in the pool. -/
theorem Offers.answer_findByName {pool : Pool} (hOffers : inv.Offers dc.place pool) (name : String) :
    (inv.answer (.findByName dc pool name)).1 = .ok (inv.named dc.place pool name).head? := by
  obtain ⟨s, parent, hState, -⟩ := hOffers
  have hSome : inv.state? dc = some s := hState
  simp only [answer, hSome]
  rw [named, disksAt_of_state? hSome, List.head?_filter]
  rfl

/-- Without faults only a datacenter that is not there keeps a search by name from being answered. -/
theorem Faultless.state?_eq_none_of_findByName (hInv : inv.Faultless) {pool : Pool} {name : String}
    (ticket : Platform.Ticket Inventory) {failure : BackendError}
    (h : (Platform.finish (.findByName dc pool name) ticket inv).1 = .error failure) :
    inv.state? dc = none := by
  rw [hInv.finish_eq] at h
  simp only [answer] at h
  split at h
  · cases h
  · assumption

/-- The disk that is found by name is the first one of the name in the pool. -/
theorem head?_named_of_finish {dc : Datacenter} {pool : Pool} {name : String}
    (ticket : Platform.Ticket Inventory) {found : Option Disk}
    (h : (Platform.finish (.findByName dc pool name) ticket inv).1 = .ok found) :
    found = (inv.named dc.place pool name).head? := by
  simp only [Platform.finish] at h
  split at h
  · cases h
  · simp only [answer] at h
    split at h
    · rename_i s hState
      cases h
      rw [named, disksAt_of_state? hState, List.head?_filter]
      rfl
    · cases h

/-! Commands. -/

theorem layout_obey (inv : Inventory) (c : InventoryCommand) :
    (Bench.obey c inv).2.layout = inv.layout := by
  cases c with
  | fail dc kind failure => exact layout_modifyFaults inv dc _
  | clear dc kind => exact layout_modifyFaults inv dc _
  | delay dc latency => exact layout_modifyFaults inv dc _
  | countCalls dc kind => cases dc <;> rfl
  | insertDisk dc d =>
      simp only [Bench.obey, obey]
      split
      · exact layout_modify inv dc fun _ => rfl
      · rfl
  | _ => rfl

theorem disksAt_obey (inv : Inventory) {c : InventoryCommand} (hCommand : ¬ c.Inserts) (place : Nat) :
    (Bench.obey c inv).2.disksAt place = inv.disksAt place := by
  cases c with
  | fail dc kind failure => exact disksAt_modifyFaults inv dc _ place
  | clear dc kind => exact disksAt_modifyFaults inv dc _ place
  | delay dc latency => exact disksAt_modifyFaults inv dc _ place
  | countCalls dc kind => cases dc <;> rfl
  | insertDisk dc d => exact absurd trivial hCommand
  | _ => rfl

theorem Faultless.obey (hInv : inv.Faultless) {c : InventoryCommand} (hCommand : ¬ c.Fails) :
    (Bench.obey c inv).2.Faultless := by
  cases c with
  | fail dc kind failure => exact absurd trivial hCommand
  | clear dc kind => exact hInv.modifyFaults dc (·.clear kind) fun faults h => by simp [Faults.clear, h]
  | delay dc latency => exact hInv.modifyFaults dc (fun f => { f with latency }) fun faults h => h
  | countCalls dc kind => cases dc <;> exact hInv
  | insertDisk dc d =>
      simp only [Bench.obey, Inventory.obey]
      split
      · exact hInv.modify dc fun _ => rfl
      · exact hInv
  | _ => exact hInv

/-! What depends on the layout alone. -/

section

variable {inv' : Inventory} (f : DatacenterState → DatacenterState)

theorem sites_eq_of_map (hMap : inv'.datacenters = inv.datacenters.map f)
    (hName : ∀ s, (f s).name = s.name) (hEndpoint : ∀ s, (f s).endpoint = s.endpoint) :
    inv'.sites = inv.sites := by
  simp [sites, hMap, List.zipIdx_map, Function.comp_def, hName, hEndpoint]

/-- A zone resolves in the same way where names, endpoints and tags are the same. -/
theorem resolveZone_eq_of_map (hMap : inv'.datacenters = inv.datacenters.map f)
    (hName : ∀ s, (f s).name = s.name) (hEndpoint : ∀ s, (f s).endpoint = s.endpoint)
    (hTags : ∀ s zone region, (f s).matchesZone zone region = s.matchesZone zone region)
    (zone region : String) : inv'.resolveZone zone region = inv.resolveZone zone region := by
  have hFind (g : DatacenterState × Site → Bool) (hg : ∀ p, g (Prod.map f id p) = g p) :
      (inv'.datacenters.zip inv.sites).find? g =
        ((inv.datacenters.zip inv.sites).find? g).map (Prod.map f id) := by
    rw [hMap, List.zip_map_left, List.find?_map, show g ∘ Prod.map f id = g from funext hg]
  unfold resolveZone
  rw [sites_eq_of_map f hMap hName hEndpoint, hFind _ fun p => hTags p.1 zone region]
  generalize List.find? _ (inv.datacenters.zip inv.sites) = found
  cases found <;> rfl

end

theorem sites_layout (inv : Inventory) : inv.layout.sites = inv.sites :=
  sites_eq_of_map (·.layout) rfl (fun _ => rfl) fun _ => rfl

theorem resolveZone_layout (inv : Inventory) (zone region : String) :
    inv.layout.resolveZone zone region = inv.resolveZone zone region :=
  resolveZone_eq_of_map (·.layout) rfl (fun _ => rfl) (fun _ => rfl) (fun _ _ _ => rfl) zone region

/-! Configured inventories. -/

theorem faultless_ofConfig (config : Config) : (ofConfig config).Faultless := by
  refine ⟨rfl, fun s hs => ?_⟩
  simp only [ofConfig, List.mem_flatMap, List.mem_map] at hs
  obtain ⟨center, -, dc, -, rfl⟩ := hs
  rfl

theorem disksAt_ofConfig (config : Config) (place : Nat) : (ofConfig config).disksAt place = [] := by
  rw [disksAt]
  cases hState : (ofConfig config).datacenters[place]? with
  | none => rfl
  | some s =>
      obtain ⟨center, -, hCenter⟩ := List.mem_flatMap.1 (List.mem_of_getElem? hState)
      obtain ⟨dc, -, rfl⟩ := List.mem_map.1 hCenter
      rfl

/-- An inventory to show things on: one datacenter that offers one datastore, where every call takes
some time. -/
def small : Inventory :=
  (obey (.delay (some ⟨"dc", 0⟩) (some 5)) (ofConfig { virtualCenters := .ofList [("vc",
    { datacenters := [{ name := "dc", datastores := ["ds"], nodes := ["node"] }] })] })).2

theorem faultless_small : small.Faultless :=
  (faultless_ofConfig _).obey id

theorem offers_small : small.Offers 0 ⟨.datastore, "ds"⟩ :=
  ⟨_, .datastore "ds", rfl, rfl⟩

end Inventory

/-- A configuration to show things on: one datacenter that offers one datastore and has one node. -/
def Config.single : Config :=
  { virtualCenters := .ofList [("vc",
    { datacenters := [{ name := "dc", datastores := ["ds"], nodes := ["node"] }] })] }

end VolumeController
