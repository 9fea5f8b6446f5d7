import VolumeController.Proofs.Attachments.Ledger
/-! Attachments over whole runs. Files are attached, not volumes, and nothing but their paths tells volumes apart;
still each volume and node are a state machine of their own. Main result: a volume is attached to a node exactly if
a publish of the two took effect after the last unpublish of the two that did, under the handle that all publishes
since then were told; it is attached in its own datacenter only; and no two attachments share a handle. -/

namespace VolumeController

/-- What a run leaves of a volume and a node, whatever happened to other volumes and on other nodes. -/
structure Independent (requests : List (Context × VolumeRequest)) (c : Chronicle Inventory Answered) (place : Nat)
    (path id node : String) : Prop where
  /-- The file is attached exactly if a publish took effect that no unpublish has followed. -/
  attached : (c.platform.handleAt place node path).isSome ↔ ∃ later turn earlier handle,
    c.turns = later ++ turn :: earlier ∧ turn.Publishes requests id node handle ∧
    ∀ t ∈ later, ¬ t.Unpublishes requests id node
  /-- Then it is attached under the handle that the publish was told. -/
  stored : ∀ later turn earlier handle, c.turns = later ++ turn :: earlier →
    turn.Publishes requests id node handle → (∀ t ∈ later, ¬ t.Unpublishes requests id node) →
    c.platform.handleAt place node path = some handle
  /-- Two publishes without an unpublish between them are told the same handle. -/
  agreed : ∀ later turn between turn' earlier handle handle',
    c.turns = later ++ turn :: (between ++ turn' :: earlier) → turn.Publishes requests id node handle →
    turn'.Publishes requests id node handle' → (∀ t ∈ between, ¬ t.Unpublishes requests id node) → handle = handle'
  /-- A publish that succeeded took effect, and returned the handle that it was told: the one that is stored, unless
  an unpublish has followed. -/
  returned : ∀ number request response, c.result? number = some ⟨.publish request, .ok response⟩ →
    request.volumeId = id → request.nodeId = node → ∃ later turn earlier handle,
      c.turns = later ++ turn :: earlier ∧ turn.number = number ∧ turn.Publishes requests id node handle ∧
      response.publishContext.get? Attribute.page83Data = some handle ∧
      ((∀ t ∈ later, ¬ t.Unpublishes requests id node) → c.platform.handleAt place node path = some handle)

section

variable {requests : List (Context × VolumeRequest)} {c : Chronicle Inventory Answered} {controller : Controller}
  {w : World Inventory} {kind : Chronicle Inventory Answered → Chronicle Inventory Answered → Prop}

theorem Ledger.start {config : Config} (hPlatform : w.platform = .ofConfig config) :
    Ledger requests (fun _ _ => False) (.start w (controller.answers requests)) where
  stock := by
    show w.platform.Stock _
    rw [hPlatform]
    exact .ofConfig config
  links := by
    show w.platform.Links _
    rw [hPlatform]
    exact .ofConfig config
  sound := fun _ hTurn => (List.not_mem_nil hTurn).elim
  standing := fun _ _ _ _ hDisk => hDisk.elim

theorem Ledger.runs {known : Nat → Disk → Prop} {c₀ : Chronicle Inventory Answered}
    (h : Ledger requests known c₀)
    (hBefore : Chronicle.Runs Inventory.rough (fun _ _ => True) (.start w (controller.answers requests)) c₀)
    (hAfter : Chronicle.Runs Inventory.rough (fun _ _ => True) c₀ c) :
    ∃ known' : Nat → Disk → Prop, (∀ place disk, known place disk → known' place disk) ∧
      Ledger requests known' c := by
  induction hAfter with
  | refl => exact ⟨known, fun _ _ hDisk => hDisk, h⟩
  | tail hRuns hLast ih =>
      obtain ⟨known₁, hKnown₁, h₁⟩ := ih
      obtain ⟨known₂, hKnown₂, h₂⟩ := h₁.step (hBefore.trans hRuns) hLast.1
      exact ⟨known₂, fun place disk hDisk => hKnown₂ place disk (hKnown₁ place disk hDisk), h₂⟩

/-- A publish that succeeded took effect, and returned the handle that it was told. -/
theorem Chronicle.Runs.exists_publishes
    (hRuns : Chronicle.Runs Inventory.rough kind (.start w (controller.answers requests)) c) {number : Nat}
    {request : PublishVolumeRequest} {response : PublishVolumeResponse}
    (hResult : c.result? number = some ⟨.publish request, .ok response⟩) :
    ∃ turn ∈ c.turns, turn.number = number ∧
      ∃ handle, turn.Publishes requests request.volumeId request.nodeId handle ∧
        response.publishContext.get? Attribute.page83Data = some handle := by
  obtain ⟨ctx, _, hRequest, rfl, hReports⟩ :=
    Chronicle.Runs.wanted_of_result controller.answer_converses (fun _ _ => trivial) hRuns hResult
  obtain ⟨vm, path, bus, handle, hTold, hPage⟩ := hReports request response rfl
  exact ⟨_, Turn.mem_heardBy.1 hTold, rfl, handle, ⟨⟨ctx, request, hRequest, rfl, rfl⟩, vm, path, bus, rfl⟩, hPage⟩

theorem Ledger.independent {known : Nat → Disk → Prop} (h : Ledger requests known c)
    (hRuns : Chronicle.Runs Inventory.rough kind (.start w (controller.answers requests)) c) {place : Nat}
    {disk : Disk} {path : String} (hDisk : known place disk) (hPath : disk.filePath? = some path) (node : String) :
    Independent requests c place path disk.id node := by
  have hStanding := h.standing place disk path node hDisk hPath
  have hStored (later : List Turn) (turn : Turn) (earlier : List Turn) (handle : String)
      (hTurns : c.turns = later ++ turn :: earlier) (hPublishes : turn.Publishes requests disk.id node handle)
      (hLater : ∀ t ∈ later, ¬ t.Unpublishes requests disk.id node) :
      c.platform.handleAt place node path = some handle := by
    rw [hTurns] at hStanding
    exact hStanding.eq_of_publishes hPublishes hLater
  refine ⟨⟨fun hSome => ?_, ?_⟩, hStored, ?_, ?_⟩
  · obtain ⟨handle, hHandle⟩ := Option.isSome_iff_exists.1 hSome
    rw [hHandle] at hStanding
    obtain ⟨later, turn, earlier, hTurns, hPublishes, hLater⟩ := hStanding.exists_publishes
    exact ⟨later, turn, earlier, handle, hTurns, hPublishes, hLater⟩
  · rintro ⟨later, turn, earlier, handle, hTurns, hPublishes, hLater⟩
    rw [hStored later turn earlier handle hTurns hPublishes hLater]
    rfl
  · intro later turn between turn' earlier handle handle' hTurns hPublishes hPublishes' hBetween
    rw [hTurns] at hStanding
    exact hStanding.handle_eq hPublishes hPublishes' hBetween
  · rintro number request response hResult hId rfl
    obtain ⟨turn, hTurn, hNumber, handle, hPublishes, hPage⟩ := hRuns.exists_publishes hResult
    rw [hId] at hPublishes
    obtain ⟨later, earlier, hTurns⟩ := List.append_of_mem hTurn
    exact ⟨later, turn, earlier, handle, hTurns, hNumber, hPublishes, hPage,
      hStored later turn earlier handle hTurns hPublishes⟩

end

/-- Any requests at once, while calls fail and succeed again, are slow, and requests are given up, from a new
inventory. Every volume that was created and every node name go by their own publishes and unpublishes alone, the
volume is attached nowhere but in its own datacenter, and no two attachments share a handle. -/
theorem attachments_are_independent (controller : Controller) {config : Config} {w : World Inventory}
    (hPlatform : w.platform = .ofConfig config) {requests : List (Context × VolumeRequest)}
    {c₀ c : Chronicle Inventory Answered}
    (hBefore : Chronicle.Runs Inventory.rough (fun _ _ => True) (.start w (controller.answers requests)) c₀)
    (hAfter : Chronicle.Runs Inventory.rough (fun _ _ => True) c₀ c) :
    (∀ place, ∀ disk ∈ c₀.platform.disksAt place, ∃ path, disk.filePath? = some path ∧
      (∀ node, Independent requests c place path disk.id node) ∧
      ∀ place' node, (c.platform.handleAt place' node path).isSome → place' = place) ∧
    ∀ place node path place' node' path' handle, c.platform.handleAt place node path = some handle →
      c.platform.handleAt place' node' path' = some handle → place = place' ∧ node = node' ∧ path = path' := by
  obtain ⟨known₀, -, h₀⟩ := (Ledger.start hPlatform).runs .refl hBefore
  obtain ⟨known, hKnown, h⟩ := h₀.runs hBefore hAfter
  refine ⟨fun place disk hThere => ?_, h.links.distinct⟩
  have hDisk : known place disk := hKnown place disk (h₀.stock.present place disk hThere)
  have hPath := h.stock.file place disk hDisk
  refine ⟨_, hPath, h.independent (hBefore.trans hAfter) hDisk hPath, fun place' node hSome => ?_⟩
  obtain ⟨handle, hHandle⟩ := Option.isSome_iff_exists.1 hSome
  obtain ⟨disk', hDisk', hPath'⟩ := h.links.owned place' node _ handle hHandle
  exact (h.stock.eq_of_path hDisk' hDisk hPath' hPath).1

set_option maxRecDepth 10000 in
/-- A volume is created, published, published again, unpublished and published a third time. It is then attached
under the handle that the last publish was told. -/
theorem attachments_are_independent_thrice :
    let publish := VolumeRequest.publish ⟨Inventory.idText 1, "node", none, false, .empty⟩
    let unpublish := VolumeRequest.unpublish ⟨Inventory.idText 1, "node"⟩
    let requests := [.create (.single 1), publish, publish, unpublish, publish].map (Context.background, ·)
    let path := Inventory.backingPath "ds" (Inventory.idText 1)
    ∃ c₀ c : Chronicle Inventory Answered,
      Chronicle.Runs Inventory.rough (fun _ _ => True)
        (.start { platform := .ofConfig .single } (Controller.answers ⟨{}, ⟨false, 0⟩⟩ requests)) c₀ ∧
      Chronicle.Runs Inventory.rough (fun _ _ => True) c₀ c ∧
      c₀.platform.disksAt 0 = [⟨Inventory.idText 1, "volume", 1024, .datastore "ds", .file path⟩] ∧
      c.platform.handleAt 0 "node" path = some (Inventory.idText 3) ∧
      Independent requests c 0 path (Inventory.idText 1) "node" := by
  intro publish unpublish requests path
  let jobs := Controller.answers ⟨{}, ⟨false, 0⟩⟩ requests
  let made := [0].foldl System.advance (System.start { platform := Inventory.ofConfig .single } jobs)
  let attached := [1, 2, 3, 4].foldl System.advance made
  have hAdmits : ∀ ctx, Inventory.rough.Admits ctx := fun _ _ _ _ _ => trivial
  obtain ⟨turns₀, hBefore⟩ : ∃ turns, Chronicle.Runs Inventory.rough (fun _ _ => True)
      (.start { platform := .ofConfig .single } jobs) ⟨made, turns⟩ :=
    Chronicle.exists_advances hAdmits [0] _ []
  obtain ⟨turns, hAfter⟩ : ∃ turns, Chronicle.Runs Inventory.rough (fun _ _ => True)
      ⟨made, turns₀⟩ ⟨attached, turns⟩ :=
    Chronicle.exists_advances hAdmits [1, 2, 3, 4] made turns₀
  have hDisks : made.world.platform.disksAt 0 =
      [⟨Inventory.idText 1, "volume", 1024, .datastore "ds", .file path⟩] := by
    decide +kernel
  have hHandle : attached.world.platform.handleAt 0 "node" path = some (Inventory.idText 3) := by
    decide +kernel
  clear_value attached made
  have hThere : ⟨Inventory.idText 1, "volume", 1024, .datastore "ds", .file path⟩ ∈
      made.world.platform.disksAt 0 := hDisks ▸ List.mem_cons_self
  obtain ⟨hVolumes, -⟩ := attachments_are_independent ⟨{}, ⟨false, 0⟩⟩ rfl hBefore hAfter
  obtain ⟨_, hPath, hIndependent, -⟩ := hVolumes 0 _ hThere
  cases hPath
  exact ⟨⟨made, turns₀⟩, ⟨attached, turns⟩, hBefore, hAfter, hDisks, hHandle, hIndependent "node"⟩

end VolumeController
