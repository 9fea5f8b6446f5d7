import VolumeController.Proofs.Attachments.History
/-! What an inventory is left with by a run: the disks that were there at some time, and the attachments of their
files. Main result: each step keeps the attachments in line with the history of each volume and node. -/

namespace VolumeController

namespace Inventory

variable {inv inv' : Inventory} {known known' : Nat → Disk → Prop}

/-- Disks that were there at some time, each with an id and a file of its own. -/
structure Stock (inv : Inventory) (known : Nat → Disk → Prop) : Prop where
  present : ∀ place, ∀ disk ∈ inv.disksAt place, known place disk
  drawn : ∀ place disk, known place disk → ∃ n < inv.nextId, disk.id = idText n
  file : ∀ place disk, known place disk → disk.filePath? = some (backingPath disk.parent.owner disk.id)
  unique : ∀ place place' disk disk', known place disk → known place' disk' → disk.id = disk'.id →
    place = place' ∧ disk = disk'

namespace Stock

theorem ofConfig (config : Config) : (Inventory.ofConfig config).Stock fun _ _ => False where
  present := by
    intro place disk hDisk
    rw [disksAt_ofConfig] at hDisk
    exact List.not_mem_nil hDisk
  drawn := fun _ _ hDisk => hDisk.elim
  file := fun _ _ hDisk => hDisk.elim
  unique := fun _ _ _ _ hDisk => hDisk.elim

/-- No two of the disks share a file. -/
theorem eq_of_path (h : inv.Stock known) {place place' : Nat} {disk disk' : Disk} {path : String}
    (hDisk : known place disk) (hDisk' : known place' disk') (hPath : disk.filePath? = some path)
    (hPath' : disk'.filePath? = some path) : place = place' ∧ disk = disk' := by
  obtain ⟨n, -, hId⟩ := h.drawn place disk hDisk
  obtain ⟨n', -, hId'⟩ := h.drawn place' disk' hDisk'
  rw [h.file place disk hDisk, hId, Option.some.injEq] at hPath
  rw [h.file place' disk' hDisk', hId', Option.some.injEq] at hPath'
  refine h.unique place place' disk disk' hDisk hDisk' ?_
  rw [hId, hId', backingPath_injective (hPath.trans hPath'.symm)]

/-- Disks may go, and ids may be drawn for other things. -/
theorem keep (h : inv.Stock known) (hDisks : ∀ place, inv'.disksAt place ⊆ inv.disksAt place)
    (hNext : inv.nextId ≤ inv'.nextId) : inv'.Stock known where
  present := fun place disk hDisk => h.present place disk (hDisks place hDisk)
  drawn := by
    intro place disk hDisk
    obtain ⟨n, hn, hId⟩ := h.drawn place disk hDisk
    exact ⟨n, Nat.lt_of_lt_of_le hn hNext, hId⟩
  file := h.file
  unique := h.unique

/-- A disk with a fresh id comes to the others. -/
theorem add (h : inv.Stock known) {dc : Datacenter} {s : DatacenterState} (hState : inv.state? dc = some s)
    (v : Entry) (hId : v.id = idText inv.nextId) :
    ({ inv.modify dc (·.addDisk v.disk) with nextId := inv.nextId + 1 } : Inventory).Stock
      fun place disk => known place disk ∨ place = dc.place ∧ disk = v.disk where
  present := by
    intro place disk hDisk
    have hDisks : disk ∈ (inv.modify dc (·.addDisk v.disk)).disksAt place := hDisk
    rw [disksAt_addDisk hState] at hDisks
    rcases List.mem_append.1 hDisks with hOld | hNew
    · exact .inl (h.present place disk hOld)
    · split at hNew
      · rename_i hPlace
        exact .inr ⟨hPlace, List.mem_singleton.1 hNew⟩
      · cases hNew
  drawn := by
    rintro place disk (hOld | ⟨-, rfl⟩)
    · obtain ⟨n, hn, hDrawn⟩ := h.drawn place disk hOld
      exact ⟨n, Nat.lt_succ_of_lt hn, hDrawn⟩
    · exact ⟨inv.nextId, Nat.lt_succ_self _, hId⟩
  file := by
    rintro place disk (hOld | ⟨-, rfl⟩)
    · exact h.file place disk hOld
    · rfl
  unique := by
    have hFresh : ∀ place disk, known place disk → disk.id ≠ v.disk.id := by
      intro place disk hOld hSame
      obtain ⟨n, hn, hDrawn⟩ := h.drawn place disk hOld
      have hNumber : n = inv.nextId := idText_injective (hDrawn.symm.trans (hSame.trans hId))
      omega
    rintro place place' disk disk' (hOld | ⟨rfl, rfl⟩) (hOld' | ⟨rfl, rfl⟩) hSame
    · exact h.unique place place' disk disk' hOld hOld' hSame
    · exact absurd hSame (hFresh place disk hOld)
    · exact absurd hSame.symm (hFresh place' disk' hOld')
    · exact ⟨rfl, rfl⟩

theorem finish (h : inv.Stock known) (call : Call) (ticket : Platform.Ticket Inventory) :
    ∃ known' : Nat → Disk → Prop, (∀ place disk, known place disk → known' place disk) ∧
      (Platform.finish call ticket inv).2.2.Stock known' := by
  by_cases hCreate : ∃ dc pool name sizeMb, call = .createDisk dc pool name sizeMb
  · obtain ⟨dc, pool, name, sizeMb, rfl⟩ := hCreate
    rcases createDisk_cases inv dc pool name sizeMb ticket with hKeep | ⟨s, parent, hState, -, hNew⟩
    · rw [hKeep]
      exact ⟨known, fun _ _ hDisk => hDisk, h⟩
    · rw [hNew]
      exact ⟨_, fun _ _ => .inl, h.add hState _ rfl⟩
  · have hEffect := effect_finish inv call ticket
    refine ⟨known, fun _ _ hDisk => hDisk, h.keep (fun place => ?_) hEffect.nextId_le⟩
    rcases hEffect.disksAt place with hKeep | ⟨dc, pool, name, sizeMb, _, hIs, -⟩ | ⟨_, _, _, -, -, hRemove⟩
    · rw [hKeep]
      exact List.Subset.refl _
    · exact absurd ⟨dc, pool, name, sizeMb, hIs⟩ hCreate
    · rw [hRemove]
      exact List.eraseP_subset

end Stock

/-- Attachments, each under a drawn handle of its own, of files of disks that were there at their place. -/
structure Links (inv : Inventory) (known : Nat → Disk → Prop) : Prop where
  drawn : ∀ place node path handle, inv.handleAt place node path = some handle →
    ∃ n < inv.nextId, handle = idText n
  owned : ∀ place node path handle, inv.handleAt place node path = some handle →
    ∃ disk, known place disk ∧ disk.filePath? = some path
  distinct : ∀ place node path place' node' path' handle, inv.handleAt place node path = some handle →
    inv.handleAt place' node' path' = some handle → place = place' ∧ node = node' ∧ path = path'

namespace Links

theorem ofConfig (config : Config) : (Inventory.ofConfig config).Links known := by
  have hFree (place : Nat) (node path handle : String) :
      (Inventory.ofConfig config).handleAt place node path ≠ some handle := by
    rw [handleAt_ofConfig]
    exact Option.some_ne_none handle |>.symm
  exact ⟨fun _ _ _ _ h => absurd h (hFree _ _ _ _), fun _ _ _ _ h => absurd h (hFree _ _ _ _),
    fun _ _ _ _ _ _ _ h => absurd h (hFree _ _ _ _)⟩

/-- Attachments may go, ids may be drawn for other things, and disks may come. -/
theorem keep (h : inv.Links known) (hHandles : ∀ place node path handle,
      inv'.handleAt place node path = some handle → inv.handleAt place node path = some handle)
    (hNext : inv.nextId ≤ inv'.nextId) (hKnown : ∀ place disk, known place disk → known' place disk) :
    inv'.Links known' where
  drawn := by
    intro place node path handle hHandle
    obtain ⟨n, hn, hDrawn⟩ := h.drawn place node path handle (hHandles _ _ _ _ hHandle)
    exact ⟨n, Nat.lt_of_lt_of_le hn hNext, hDrawn⟩
  owned := by
    intro place node path handle hHandle
    obtain ⟨disk, hDisk, hPath⟩ := h.owned place node path handle (hHandles _ _ _ _ hHandle)
    exact ⟨disk, hKnown place disk hDisk, hPath⟩
  distinct := fun place node path place' node' path' handle hHandle hHandle' =>
    h.distinct place node path place' node' path' handle (hHandles _ _ _ _ hHandle) (hHandles _ _ _ _ hHandle')

/-- The file of a disk is attached under a fresh handle. -/
theorem add (h : inv.Links known) {vm : Node} {path : String} {disk : Disk}
    (hSets : inv.Sets vm path (some (idText inv.nextId)) inv') (hNext : inv'.nextId = inv.nextId + 1)
    (hDisk : known vm.datacenter.place disk) (hPath : disk.filePath? = some path) : inv'.Links known := by
  have hCases (place : Nat) (node p handle : String) (hHandle : inv'.handleAt place node p = some handle) :
      (place = vm.datacenter.place ∧ node = vm.name ∧ p = path) ∧ handle = idText inv.nextId ∨
        inv.handleAt place node p = some handle := by
    rw [hSets.handles] at hHandle
    split at hHandle
    · rename_i hThis
      exact .inl ⟨hThis, (Option.some.inj hHandle).symm⟩
    · exact .inr hHandle
  have hFresh (place : Nat) (node p : String) : inv.handleAt place node p ≠ some (idText inv.nextId) := by
    intro hHandle
    obtain ⟨n, hn, hDrawn⟩ := h.drawn place node p _ hHandle
    have hNumber : inv.nextId = n := idText_injective hDrawn
    omega
  refine ⟨fun place node p handle hHandle => ?_, fun place node p handle hHandle => ?_, ?_⟩
  · rcases hCases place node p handle hHandle with ⟨-, rfl⟩ | hOld
    · exact ⟨inv.nextId, by omega, rfl⟩
    · obtain ⟨n, hn, hDrawn⟩ := h.drawn place node p handle hOld
      exact ⟨n, by omega, hDrawn⟩
  · rcases hCases place node p handle hHandle with ⟨⟨rfl, rfl, rfl⟩, -⟩ | hOld
    · exact ⟨disk, hDisk, hPath⟩
    · exact h.owned place node p handle hOld
  · intro place node p place' node' p' handle hHandle hHandle'
    rcases hCases place node p handle hHandle with ⟨⟨rfl, rfl, rfl⟩, rfl⟩ | hOld
    · rcases hCases place' node' p' _ hHandle' with ⟨⟨rfl, rfl, rfl⟩, -⟩ | hOld'
      · exact ⟨rfl, rfl, rfl⟩
      · exact absurd hOld' (hFresh place' node' p')
    · rcases hCases place' node' p' handle hHandle' with ⟨-, rfl⟩ | hOld'
      · exact absurd hOld (hFresh place node p)
      · exact h.distinct place node p place' node' p' handle hOld hOld'

end Links

end Inventory

/-- What a turn says about disks and nodes, where some disks were there at some time. -/
structure Turn.Sound (requests : List (Context × VolumeRequest)) (known : Nat → Disk → Prop) (turn : Turn) : Prop where
  found : ∀ dc id disk, turn.heard = some (.found dc id disk) → known dc.place disk ∧ disk.id = id
  met : ∀ dc name vm, turn.heard = some (.met dc name vm) → vm = ⟨name, dc⟩
  published : ∀ id node handle, turn.Publishes requests id node handle →
    ∃ place disk, known place disk ∧ disk.id = id

namespace Turn.Sound

variable {requests : List (Context × VolumeRequest)} {known known' : Nat → Disk → Prop} {turn : Turn}

theorem mono (h : turn.Sound requests known) (hKnown : ∀ place disk, known place disk → known' place disk) :
    turn.Sound requests known' where
  found := fun dc id disk hHeard => ⟨hKnown _ _ (h.found dc id disk hHeard).1, (h.found dc id disk hHeard).2⟩
  met := h.met
  published := by
    intro id node handle hPublishes
    obtain ⟨place, disk, hDisk, hId⟩ := h.published id node handle hPublishes
    exact ⟨place, disk, hKnown place disk hDisk, hId⟩

/-- A turn in which no call succeeds says nothing. -/
theorem of_unanswered (h : ∀ call answer, turn.heard ≠ some ⟨.call call, .ok (.ok answer)⟩) :
    turn.Sound requests known where
  found := fun _ _ _ hHeard => absurd hHeard (h _ _)
  met := fun _ _ _ hHeard => absurd hHeard (h _ _)
  published := fun _ _ _ ⟨_, _, _, _, hHeard⟩ => absurd hHeard (h _ _)

/-- What is answered by a call that has nothing to do with nodes. -/
theorem of_finish {inv : Inventory} (h : inv.Stock known) {call : Call} (hCall : ¬ call.TouchesNodes)
    {number : Nat} {ticket : Platform.Ticket Inventory} :
    Turn.Sound requests known ⟨number, some ⟨.call call, .ok (Platform.finish call ticket inv).1⟩⟩ := by
  generalize hReply : (Platform.finish call ticket inv).1 = reply
  refine ⟨?_, ?_, ?_⟩
  · intro dc id disk hHeard
    cases hHeard
    obtain ⟨hThere, hId⟩ := Inventory.mem_disksAt_of_findById hReply
    exact ⟨h.present dc.place disk hThere, hId⟩
  · intro dc name vm hHeard
    cases hHeard
    exact Inventory.eq_of_findNode hReply
  · rintro id node handle ⟨-, vm, path, bus, hHeard⟩
    cases hHeard
    exact absurd trivial hCall

end Turn.Sound

/-- The disks that were there at some time, the attachments, and the turns that led to them. -/
structure Ledger (requests : List (Context × VolumeRequest)) (known : Nat → Disk → Prop)
    (c : Chronicle Inventory Answered) : Prop where
  stock : c.platform.Stock known
  links : c.platform.Links known
  sound : ∀ turn ∈ c.turns, turn.Sound requests known
  standing : ∀ place disk path node, known place disk → disk.filePath? = some path →
    Standing requests disk.id node c.turns (c.platform.handleAt place node path)

namespace Ledger

variable {requests : List (Context × VolumeRequest)} {known known' : Nat → Disk → Prop}
  {c c' : Chronicle Inventory Answered}

/-- A disk that comes is neither attached nor published yet. -/
theorem standing_of_new (h : Ledger requests known c) (hStock : c'.platform.Stock known')
    (hKnown : ∀ place disk, known place disk → known' place disk) {place : Nat} {disk : Disk} {path : String}
    (hDisk : known' place disk) (hNew : ¬ known place disk) (hPath : disk.filePath? = some path) (node : String) :
    Standing requests disk.id node c.turns (c.platform.handleAt place node path) := by
  have hFree : c.platform.handleAt place node path = none := by
    rw [Option.eq_none_iff_forall_ne_some]
    intro handle hHandle
    obtain ⟨disk', hDisk', hPath'⟩ := h.links.owned place node path handle hHandle
    obtain ⟨-, rfl⟩ := hStock.eq_of_path hDisk (hKnown place disk' hDisk') hPath hPath'
    exact hNew hDisk'
  rw [hFree]
  refine .of_unpublished fun turn hTurn handle hPublishes => ?_
  obtain ⟨place', disk', hDisk', hId⟩ := (h.sound turn hTurn).published disk.id node handle hPublishes
  obtain ⟨rfl, rfl⟩ := hStock.unique place' place disk' disk (hKnown place' disk' hDisk') hDisk hId
  exact hNew hDisk'

/-- A step that attaches and detaches nothing. -/
theorem keep (h : Ledger requests known c) (hKnown : ∀ place disk, known place disk → known' place disk)
    (hStock : c'.platform.Stock known') (hNext : c.platform.nextId ≤ c'.platform.nextId)
    (hHandles : ∀ place node path, c'.platform.handleAt place node path = c.platform.handleAt place node path)
    (hTurns : c'.turns = c.turns ∨
      ∃ turn, c'.turns = turn :: c.turns ∧ turn.Sound requests known' ∧ turn.Idle) : Ledger requests known' c' where
  stock := hStock
  links := h.links.keep (fun place node path handle hHandle => hHandles place node path ▸ hHandle) hNext hKnown
  sound := by
    have hOld : ∀ turn ∈ c.turns, turn.Sound requests known' := fun turn hTurn => (h.sound turn hTurn).mono hKnown
    rcases hTurns with hSame | ⟨turn, hMore, hSound, -⟩
    · rwa [hSame]
    · rw [hMore]
      exact List.forall_mem_cons.2 ⟨hSound, hOld⟩
  standing := by
    intro place disk path node hDisk hPath
    have hBefore : Standing requests disk.id node c.turns (c.platform.handleAt place node path) := by
      by_cases hOld : known place disk
      · exact h.standing place disk path node hOld hPath
      · exact h.standing_of_new hStock hKnown hDisk hOld hPath node
    rw [hHandles]
    rcases hTurns with hSame | ⟨turn, hMore, -, hIdle⟩
    · rwa [hSame]
    · rw [hMore]
      exact .other hBefore hIdle.not_concerns

/-- A call that fails and changes nothing. -/
theorem fail (h : Ledger requests known c) {number : Nat} {call : Call} {failure : BackendError}
    (hPlatform : c'.platform = c.platform)
    (hTurns : c'.turns = ⟨number, some ⟨.call call, .ok (.error failure)⟩⟩ :: c.turns) : Ledger requests known c' := by
  refine h.keep (fun _ _ hDisk => hDisk) ?_ ?_ ?_ (.inr ⟨_, hTurns, .of_unanswered nofun, .of_unanswered nofun⟩)
  · rw [hPlatform]
    exact h.stock
  · exact Nat.le_of_eq (congrArg Inventory.nextId hPlatform.symm)
  · rw [hPlatform]
    exact fun _ _ _ => rfl

/-- The file of a disk is attached or detached by a request that is about the disk and the node. -/
theorem set (h : Ledger requests known c) {number : Nat} {ctx : Context} {request : VolumeRequest} {x : Exchange}
    {vm : Node} {path : String} {handle : Option String} {disk : Disk}
    (hRequest : requests[number]? = some (ctx, request)) (hTarget : request.target? = some (disk.id, vm.name))
    (hDisk : known vm.datacenter.place disk) (hPath : disk.filePath? = some path)
    (hSets : c.platform.Sets vm path handle c'.platform) (hNext : c.platform.nextId ≤ c'.platform.nextId)
    (hLinks : c'.platform.Links known) (hTurns : c'.turns = ⟨number, some x⟩ :: c.turns)
    (hNotFound : ∀ dc id disk, some x ≠ some (.found dc id disk))
    (hNotMet : ∀ dc name vm, some x ≠ some (.met dc name vm))
    (hOwn : Standing requests disk.id vm.name (⟨number, some x⟩ :: c.turns) handle) : Ledger requests known c' := by
  have hSame {id node : String} (hConcerns : Turn.Concerns requests id node ⟨number, some x⟩) :
      disk.id = id ∧ vm.name = node :=
    Prod.mk.inj (Option.some.inj (hTarget.symm.trans (hConcerns.target hRequest)))
  have hSound : Turn.Sound requests known ⟨number, some x⟩ := by
    refine ⟨fun dc id disk h => absurd h (hNotFound dc id disk), fun dc name vm h => absurd h (hNotMet dc name vm), ?_⟩
    intro id node handle' hPublishes
    exact ⟨_, disk, hDisk, (hSame (.inl ⟨handle', hPublishes⟩)).1⟩
  refine ⟨h.stock.keep (fun place _ hDisk => hSets.disks place ▸ hDisk) hNext, hLinks, ?_, ?_⟩
  · rw [hTurns]
    exact List.forall_mem_cons.2 ⟨hSound, h.sound⟩
  · intro place disk' path' node hDisk' hPath'
    rw [hTurns, hSets.handles]
    split
    · rename_i hThis
      obtain ⟨rfl, rfl, rfl⟩ := hThis
      obtain ⟨-, rfl⟩ := h.stock.eq_of_path hDisk hDisk' hPath hPath'
      exact hOwn
    · rename_i hElse
      refine .other (h.standing place disk' path' node hDisk' hPath') fun hConcerns => hElse ?_
      obtain ⟨hId, rfl⟩ := hSame hConcerns
      obtain ⟨rfl, rfl⟩ := h.stock.unique _ _ _ _ hDisk hDisk' hId
      exact ⟨rfl, rfl, Option.some.inj (hPath'.symm.trans hPath)⟩

/-- What a request found for its volume and node. -/
theorem resolved (h : Ledger requests known c) {number : Nat} {volumeId nodeId path : String} {vm : Node}
    (hResolved : Resolved (c.heardBy number) volumeId nodeId vm path) :
    ∃ disk, known vm.datacenter.place disk ∧ disk.id = volumeId ∧ vm.name = nodeId ∧ disk.filePath? = some path := by
  obtain ⟨dc, disk, hFound, hMet, hPath⟩ := hResolved
  obtain ⟨hKnown, hId⟩ := (h.sound _ (Turn.mem_heardBy.1 hFound)).found dc volumeId disk rfl
  obtain rfl := (h.sound _ (Turn.mem_heardBy.1 hMet)).met dc nodeId vm rfl
  exact ⟨disk, hKnown, hId, rfl, hPath⟩

theorem attach (h : Ledger requests known c) {number : Nat} {ctx : Context} {request : PublishVolumeRequest}
    {vm : Node} {path : String} {bus : ScsiController} {ticket : Platform.Ticket Inventory}
    (hRequest : requests[number]? = some (ctx, .publish request))
    (hResolved : Resolved (c.heardBy number) request.volumeId request.nodeId vm path)
    (hPlatform : c'.platform = (Platform.finish (.attachDisk vm path bus) ticket c.platform).2.2)
    (hTurns : c'.turns = ⟨number, some ⟨.call (.attachDisk vm path bus),
      .ok (Platform.finish (.attachDisk vm path bus) ticket c.platform).1⟩⟩ :: c.turns) :
    Ledger requests known c' := by
  obtain ⟨disk, hDisk, hId, hNode, hPath⟩ := h.resolved hResolved
  have hNext := (Inventory.effect_finish c.platform (.attachDisk vm path bus) ticket).nextId_le
  rcases Inventory.finish_attachDisk c.platform vm path bus ticket with
    ⟨failure, hReply, hSame⟩ | ⟨handle, hReply, hSets, hHandle⟩
  · rw [hReply] at hTurns
    exact h.fail (hPlatform.trans hSame) hTurns
  · rw [hReply] at hTurns
    rw [← hPlatform] at hNext hSets hHandle
    have hLinks : c'.platform.Links known := by
      rcases hHandle with hThere | ⟨-, rfl, hFresh⟩
      · refine h.links.keep (fun place node p handle' hHandle' => ?_) hNext fun _ _ hDisk => hDisk
        rwa [(Inventory.Sets.refl hThere).handles, ← hSets.handles]
      · exact h.links.add hSets hFresh hDisk hPath
    have hBefore := h.standing vm.datacenter.place disk path vm.name hDisk hPath
    have hPublishes : Turn.Publishes requests disk.id vm.name handle ⟨number, some (.attached vm path bus handle)⟩ :=
      ⟨⟨ctx, request, hRequest, hId.symm, hNode.symm⟩, vm, path, bus, rfl⟩
    exact h.set hRequest (by rw [hId, hNode]; rfl) hDisk hPath hSets hNext hLinks hTurns nofun nofun
      (.publish hBefore hPublishes (hHandle.symm.imp_left And.left))

theorem detach (h : Ledger requests known c) {number : Nat} {ctx : Context} {request : UnpublishVolumeRequest}
    {vm : Node} {path : String} {ticket : Platform.Ticket Inventory}
    (hRequest : requests[number]? = some (ctx, .unpublish request))
    (hResolved : Resolved (c.heardBy number) request.volumeId request.nodeId vm path)
    (hPlatform : c'.platform = (Platform.finish (.detachDisk vm path) ticket c.platform).2.2)
    (hTurns : c'.turns = ⟨number, some ⟨.call (.detachDisk vm path),
      .ok (Platform.finish (.detachDisk vm path) ticket c.platform).1⟩⟩ :: c.turns) :
    Ledger requests known c' := by
  obtain ⟨disk, hDisk, hId, hNode, hPath⟩ := h.resolved hResolved
  have hNext := (Inventory.effect_finish c.platform (.detachDisk vm path) ticket).nextId_le
  rcases Inventory.finish_detachDisk c.platform vm path ticket with ⟨failure, hReply, hSame⟩ | ⟨hReply, hSets⟩
  · rw [hReply] at hTurns
    exact h.fail (hPlatform.trans hSame) hTurns
  · rw [hReply] at hTurns
    rw [← hPlatform] at hNext hSets
    have hLinks : c'.platform.Links known := by
      refine h.links.keep (fun place node p handle hHandle => ?_) hNext fun _ _ hDisk => hDisk
      rw [hSets.handles] at hHandle
      split at hHandle
      · cases hHandle
      · exact hHandle
    have hBefore := h.standing vm.datacenter.place disk path vm.name hDisk hPath
    have hUnpublishes : Turn.Unpublishes requests disk.id vm.name ⟨number, some (.detached vm path)⟩ :=
      ⟨⟨ctx, request, hRequest, hId.symm, hNode.symm⟩, vm, path, rfl⟩
    exact h.set hRequest (by rw [hId, hNode]; rfl) hDisk hPath hSets hNext hLinks hTurns nofun nofun
      (.unpublish hBefore hUnpublishes)

/-- A call that has nothing to do with nodes. -/
theorem answer (h : Ledger requests known c) {number : Nat} {call : Call} (hCall : ¬ call.TouchesNodes)
    {ticket : Platform.Ticket Inventory} (hPlatform : c'.platform = (Platform.finish call ticket c.platform).2.2)
    (hTurns : c'.turns = ⟨number, some ⟨.call call, .ok (Platform.finish call ticket c.platform).1⟩⟩ :: c.turns) :
    ∃ known' : Nat → Disk → Prop, (∀ place disk, known place disk → known' place disk) ∧
      Ledger requests known' c' := by
  obtain ⟨known', hKnown, hStock⟩ := h.stock.finish call ticket
  have hEffect := Inventory.effect_finish c.platform call ticket
  rw [← hPlatform] at hStock hEffect
  refine ⟨known', hKnown, h.keep hKnown hStock hEffect.nextId_le (hEffect.handleAt hCall) (.inr ⟨_, hTurns, ?_, ?_⟩)⟩
  · exact (Turn.Sound.of_finish h.stock hCall).mono hKnown
  · intro call' answer hHeard
    generalize (Platform.finish call ticket c.platform).1 = reply at hHeard
    cases hHeard
    exact hCall

theorem step (h : Ledger requests known c) {controller : Controller} {w : World Inventory}
    {kind : Chronicle Inventory Answered → Chronicle Inventory Answered → Prop}
    (hRuns : Chronicle.Runs Inventory.rough kind (.start w (controller.answers requests)) c)
    (hStep : Chronicle.Step Inventory.rough c c') :
    ∃ known' : Nat → Disk → Prop, (∀ place disk, known place disk → known' place disk) ∧
      Ledger requests known' c' := by
  rcases hStep.inventory_cases with ⟨hSame, hTurns⟩ | ⟨number, call, ticket, hTurns, hPlatform⟩
  · have hNext := Nat.le_of_eq (Inventory.nextId_eq_of_cleared hSame).symm
    have hStock := h.stock.keep (fun _ _ hDisk => Inventory.disksAt_eq_of_cleared hSame ▸ hDisk) hNext
    refine ⟨known, fun _ _ hDisk => hDisk, h.keep (fun _ _ hDisk => hDisk) hStock hNext
      (Inventory.handleAt_eq_of_cleared hSame) (hTurns.imp_right ?_)⟩
    rintro ⟨turn, hMore, hQuiet⟩
    exact ⟨turn, hMore, .of_unanswered fun _ _ => hQuiet _ _, .of_unanswered fun _ _ => hQuiet _ _⟩
  · by_cases hCall : call.TouchesNodes
    · refine ⟨known, fun _ _ hDisk => hDisk, ?_⟩
      obtain ⟨ctx, request, hRequest, hAsks⟩ :=
        Chronicle.Runs.asks_of_request controller.answer_converses (fun _ _ => trivial) hRuns hStep hTurns
      cases call with
      | attachDisk vm path bus =>
          obtain ⟨r, rfl, hResolved⟩ := hAsks
          exact h.attach hRequest hResolved hPlatform hTurns
      | detachDisk vm path =>
          obtain ⟨r, rfl, hResolved⟩ := hAsks
          exact h.detach hRequest hResolved hPlatform hTurns
      | _ => exact hCall.elim
    · exact h.answer hCall hPlatform hTurns

end Ledger

end VolumeController
