import VolumeController.Proofs.Catalogue.Requests
import VolumeController.Proofs.Inventory.Steps
import VolumeController.Proofs.WellFormed
/-! The attachments of an inventory: which files are attached to which nodes, and under which handles. Only two
calls touch them, and each touches the one file and node that it names. Main results: what the end of each of the
two calls does, and that all other calls leave attachments as they are. -/

namespace VolumeController

/-- Whether a call may attach or detach a file. -/
def Call.TouchesNodes : Call → Prop
  | .attachDisk _ _ _ | .detachDisk _ _ => True
  | _ => False

namespace Inventory

/-- The handle under which a file is attached to a node at a place. -/
def handleAt (inv : Inventory) (place : Nat) (node path : String) : Option String :=
  inv.datacenters[place]?.bind (·.handle? node path)

variable {inv inv' : Inventory} {dc : Datacenter} {place : Nat} {node path : String}

theorem handleAt_of_state? {s : DatacenterState} (hState : inv.state? dc = some s) (node path : String) :
    inv.handleAt dc.place node path = s.handle? node path := by
  rw [handleAt, show inv.datacenters[dc.place]? = some s from hState]
  rfl

theorem handleAt_cleared (inv : Inventory) (place : Nat) (node path : String) :
    inv.cleared.handleAt place node path = inv.handleAt place node path := by
  simp only [handleAt, cleared, List.getElem?_map]
  cases inv.datacenters[place]? <;> rfl

theorem handleAt_eq_of_cleared (h : inv'.cleared = inv.cleared) (place : Nat) (node path : String) :
    inv'.handleAt place node path = inv.handleAt place node path := by
  rw [← handleAt_cleared, h, handleAt_cleared]

theorem nextId_eq_of_cleared (h : inv'.cleared = inv.cleared) : inv'.nextId = inv.nextId :=
  congrArg (·.nextId) h

/-- Nothing is attached in a new inventory. -/
theorem handleAt_ofConfig (config : Config) (place : Nat) (node path : String) :
    (ofConfig config).handleAt place node path = none := by
  rw [handleAt]
  cases hState : (ofConfig config).datacenters[place]? with
  | none => rfl
  | some s =>
      obtain ⟨server, endpoint, dc, -, rfl⟩ := exists_datacenter hState
      show (DatacenterState.ofConfig server endpoint dc).handle? node path = none
      refine Option.bind_eq_none_iff.2 fun devices hDevices => ?_
      obtain ⟨name, -, hEmpty⟩ := List.mem_map.1 (Dict.mem_of_get?_ofList hDevices)
      cases hEmpty
      rfl

/-- What happens to the state of a datacenter happens to the handles there. -/
theorem handleAt_modify (inv : Inventory) (dc : Datacenter) (f : DatacenterState → DatacenterState) (place : Nat)
    (node path : String) : (inv.modify dc f).handleAt place node path =
      if place = dc.place then (inv.state? dc).bind fun s => (f s).handle? node path
      else inv.handleAt place node path := by
  rw [handleAt, modify, List.getElem?_modify]
  by_cases hPlace : place = dc.place
  · subst hPlace
    rw [if_pos rfl, state?]
    cases inv.datacenters[dc.place]? <;> simp
  · simp [handleAt, hPlace, Ne.symm hPlace]

/-- Handles do not depend on disks. -/
theorem handleAt_modify_of_nodes (inv : Inventory) (dc : Datacenter) {f : DatacenterState → DatacenterState}
    (h : ∀ s, (f s).nodes = s.nodes) (place : Nat) (node path : String) :
    (inv.modify dc f).handleAt place node path = inv.handleAt place node path := by
  have hHandle : ∀ s, (f s).handle? node path = s.handle? node path := fun s => by
    rw [DatacenterState.handle?, h, DatacenterState.handle?]
  rw [handleAt_modify]
  split
  · rename_i hPlace
    simp only [hHandle, hPlace, state?, handleAt]
  · rfl

/-- The handle of one file on one node is stored or removed, and all else about disks and attachments stays. -/
structure Sets (inv : Inventory) (node : Node) (path : String) (handle : Option String) (inv' : Inventory) : Prop where
  disks : ∀ place, inv'.disksAt place = inv.disksAt place
  handles : ∀ place n p, inv'.handleAt place n p =
    if place = node.datacenter.place ∧ n = node.name ∧ p = path then handle else inv.handleAt place n p

namespace Sets

theorem refl {node : Node} {handle : Option String}
    (h : inv.handleAt node.datacenter.place node.name path = handle) : inv.Sets node path handle inv where
  disks := fun _ => rfl
  handles := by
    intro place n p
    split
    · rename_i hThis
      obtain ⟨rfl, rfl, rfl⟩ := hThis
      exact h
    · rfl

theorem modify {node : Node} {handle : Option String} {s : DatacenterState}
    (hState : inv.state? node.datacenter = some s) (f : DatacenterState → DatacenterState)
    (hDisks : ∀ s, (f s).disks = s.disks)
    (hHandles : ∀ s n p, (f s).handle? n p = if n = node.name ∧ p = path then handle else s.handle? n p)
    (next : Nat) : inv.Sets node path handle { inv.modify node.datacenter f with nextId := next } where
  disks := inv.disksAt_modify node.datacenter hDisks
  handles := by
    intro place n p
    refine (inv.handleAt_modify node.datacenter f place n p).trans ?_
    by_cases hPlace : place = node.datacenter.place
    · subst hPlace
      simp [hState, hHandles, handleAt_of_state? hState]
    · simp [hPlace]

end Sets

/-- To attach a file fails and changes nothing, or it reports the handle under which the file is attached from
then on: the one that it has, or one that is new. -/
theorem finish_attachDisk (inv : Inventory) (node : Node) (path : String) (bus : ScsiController)
    (ticket : Platform.Ticket Inventory) :
    (∃ failure, (Platform.finish (.attachDisk node path bus) ticket inv).1 = .error failure ∧
      (Platform.finish (.attachDisk node path bus) ticket inv).2.2 = inv) ∨
    ∃ handle, (Platform.finish (.attachDisk node path bus) ticket inv).1 = .ok handle ∧
      inv.Sets node path (some handle) (Platform.finish (.attachDisk node path bus) ticket inv).2.2 ∧
      (inv.handleAt node.datacenter.place node.name path = some handle ∨
        inv.handleAt node.datacenter.place node.name path = none ∧ handle = idText inv.nextId ∧
        (Platform.finish (.attachDisk node path bus) ticket inv).2.2.nextId = inv.nextId + 1) := by
  obtain ⟨name, dc⟩ := node
  simp only [Platform.finish]
  split
  · exact .inl ⟨_, rfl, rfl⟩
  · cases hState : inv.state? dc with
    | none => exact .inl ⟨missing dc, by simp only [answer, hState], by simp only [answer, hState]⟩
    | some s =>
        right
        have hThere := handleAt_of_state? hState name path
        cases hHandle : s.handle? name path with
        | some handle =>
            obtain ⟨hReply, hAfter⟩ := answer_attachDisk_some hState hHandle bus
            rw [hHandle] at hThere
            refine ⟨handle, hReply, ?_, .inl hThere⟩
            rw [hAfter]
            exact .refl hThere
        | none =>
            obtain ⟨hReply, hAfter⟩ := answer_attachDisk_none hState hHandle bus
            rw [hHandle] at hThere
            refine ⟨_, hReply, ?_, .inr ⟨hThere, rfl, congrArg Inventory.nextId hAfter⟩⟩
            rw [hAfter]
            exact .modify hState (·.addDevice name path (idText inv.nextId)) (fun _ => rfl)
              (fun s n p => s.handle?_addDevice name path _ n p) _

/-- To detach a file fails and changes nothing, or the file is not attached any more. -/
theorem finish_detachDisk (inv : Inventory) (node : Node) (path : String) (ticket : Platform.Ticket Inventory) :
    (∃ failure, (Platform.finish (.detachDisk node path) ticket inv).1 = .error failure ∧
      (Platform.finish (.detachDisk node path) ticket inv).2.2 = inv) ∨
    (Platform.finish (.detachDisk node path) ticket inv).1 = .ok () ∧
      inv.Sets node path none (Platform.finish (.detachDisk node path) ticket inv).2.2 := by
  obtain ⟨name, dc⟩ := node
  simp only [Platform.finish]
  split
  · exact .inl ⟨_, rfl, rfl⟩
  · cases hState : inv.state? dc with
    | none => exact .inl ⟨missing dc, by simp only [answer, hState], by simp only [answer, hState]⟩
    | some s =>
        cases hHandle : s.handle? name path with
        | none =>
            obtain ⟨hReply, hAfter⟩ := answer_detachDisk_none hState hHandle
            exact .inl ⟨_, hReply, hAfter⟩
        | some handle =>
            obtain ⟨hReply, hAfter⟩ := answer_detachDisk_some hState hHandle
            refine .inr ⟨hReply, ?_⟩
            rw [hAfter]
            exact .modify hState (·.removeDevice name path) (fun _ => rfl)
              (fun s n p => s.handle?_removeDevice name path n p) inv.nextId

/-- All other calls leave attachments as they are. -/
theorem Effect.handleAt {c : Call} (h : inv.Effect c inv') (hCall : ¬ c.TouchesNodes) (place : Nat)
    (node path : String) : inv'.handleAt place node path = inv.handleAt place node path := by
  cases h with
  | keep => rfl
  | @create dc _ _ _ _ disk =>
      exact inv.handleAt_modify_of_nodes dc (f := (·.addDisk disk)) (fun _ => rfl) place node path
  | @delete dc pool id _ _ hState hRemove =>
      rw [removeDisk?_eq_some hRemove, modify_eq_modify_of_state? hState (·.dropDisk pool id)]
      exact inv.handleAt_modify_of_nodes dc (f := (·.dropDisk pool id)) (fun _ => rfl) place node path
  | attach => exact absurd trivial hCall
  | detach => exact absurd trivial hCall

/-- A disk that is shown under an id has the id, and lies where it was looked for. -/
theorem mem_disksAt_of_findById {id : String} {ticket : Platform.Ticket Inventory} {disk : Disk}
    (h : (Platform.finish (.findById dc id) ticket inv).1 = .ok (some disk)) :
    disk ∈ inv.disksAt dc.place ∧ disk.id = id := by
  simp only [Platform.finish] at h
  split at h
  · cases h
  · simp only [answer] at h
    split at h
    · rename_i s hState
      have hFind : s.disks.find? (fun disk => decide (disk.id = id)) = some disk := Except.ok.inj h
      rw [disksAt_of_state? hState]
      have hId := List.find?_some hFind
      exact ⟨List.mem_of_find?_eq_some hFind, of_decide_eq_true hId⟩
    · cases h

/-- A node that is shown has the name that was asked for, in the datacenter that was asked. -/
theorem eq_of_findNode {name : String} {ticket : Platform.Ticket Inventory} {found : Node}
    (h : (Platform.finish (.findNode dc name) ticket inv).1 = .ok found) : found = ⟨name, dc⟩ := by
  simp only [Platform.finish] at h
  split at h
  · cases h
  · simp only [answer] at h
    split at h
    · split at h <;> cases h
      rfl
    · cases h

end Inventory

end VolumeController
