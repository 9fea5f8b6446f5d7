import VolumeController.Proofs.Failures.Creation
/-! Requests that fail leave the inventory intact. Whatever fails while a request runs alone, and whenever its
context ends it, an error means that nothing has changed. Only a create that was not able to read its disk back
leaves the disk, and finds it when it is repeated. -/

namespace VolumeController

open Rules

variable {α : Type}

/-! A create request that is repeated where nothing fails. -/

namespace Inventory

/-- What a contract promises of an inventory that is only read: it goes on to answer as it does now. -/
def still (inv : Inventory) : Contract where
  asks
    | .call c => c.reads
    | .lock _ => True
    | _ => False
  told
    | .call c, .ok reply => reply = (inv.answer c).1
    | .call _, .error _ => False
    | _, _ => True

theorem upheld_still (inv : Inventory) :
    inv.still.Upheld calm fun inv' => inv'.Faultless ∧ inv'.cleared = inv where
  start c inv' _ h := ⟨h.1.start c, (cleared_start inv' c).trans h.2⟩
  finish c ticket inv' hAsks h := by
    obtain ⟨hFaultless, rfl⟩ := h
    obtain ⟨hReply, hAfter⟩ := hFaultless.finish_cleared c ticket
    exact ⟨hReply, hFaultless.finish c ticket, hAfter.trans ((effect_answer _ c).eq_of_reads hAsks)⟩
  command c inv' hCommand h := ⟨h.1.obey hCommand.2, (cleared_obey inv' hCommand.1).trans h.2⟩
  abort := False.elim
  asksListings _ h := h.elim
  listings _ _ _ := trivial
  lock _ := trivial
  work _ := trivial

end Inventory

variable {inv : Inventory}

/-- Questions about the layout only read, and are answered by it. -/
theorem Consults.meets {p : Procedure α} {a : α} (h : Consults inv.layout p a) {goal : α → Prop} (hGoal : goal a) :
    p.Meets inv.still goal := by
  induction h with
  | done a => exact hGoal
  | note _ ih => exact fun _ => ih hGoal
  | @zone query next a _ ih =>
      refine ⟨rfl, ?_⟩
      rintro (abort | reply) hTold
      · exact hTold.elim
      · obtain rfl : reply = inv.resolveZone query.zone query.region := hTold
        rw [Inventory.resolveZone_layout] at ih
        exact ih hGoal
  | @sites next a _ ih =>
      refine ⟨rfl, ?_⟩
      rintro (abort | reply) hTold
      · exact hTold.elim
      · obtain rfl : reply = .ok inv.sites := hTold
        rw [Inventory.sites_layout] at ih
        exact ih hGoal

/-- The disk that a create request asks for is there. -/
structure Inventory.Has (inv : Inventory) (request : CreateVolumeRequest) (order : Controller.CreateOrder) (site : Site)
    (disk : Disk) : Prop where
  accepted : Controller.order request = .ok order
  located : inv.locate (request.placement order) = .ok site
  found : (inv.answer (.findByName site.datacenter order.pool request.name)).1 = .ok (some disk)
  size : disk.capacityMb = order.sizeMb

namespace Inventory.Has

variable {request : CreateVolumeRequest} {order : Controller.CreateOrder} {site : Site} {disk : Disk}

theorem meets_createUnlocked (h : inv.Has request order site disk) :
    (VolumeStore.createUnlocked site.datacenter order.pool request.name order.sizeMb).run.Meets inv.still
      fun _ => True := by
  refine .bindOperation (.call rfl (fun _ _ => trivial) fun reply hTold => ?_)
  obtain rfl : reply = .ok (some disk) := hTold.trans h.found
  refine .afterNote ?_
  rw [if_neg (not_not.2 h.size)]
  exact trivial

/-- Nothing is asked for that changes anything. -/
theorem meets_createVolume (h : inv.Has request order site disk) (c : Controller) :
    (c.createVolume request).run.Meets inv.still fun _ => True := by
  have hResolve : Consults inv.layout ((request.placement order).resolve c.labels).run _ :=
    .resolve c.labels (request.placement order)
  rw [Inventory.locate_layout, h.located] at hResolve
  have hCreate : (c.store.createOrGet site.datacenter order.pool request.name order.sizeMb).run.Meets inv.still
      fun _ => True := by
    unfold VolumeStore.createOrGet
    split
    · exact .locked (fun _ => trivial) (fun _ _ _ => trivial) h.meets_createUnlocked
    · exact h.meets_createUnlocked
  refine .instrumented ?_
  unfold Controller.createVolumeUncounted
  rw [h.accepted]
  refine .afterNote (.bindOperation (hResolve.meets ?_))
  refine .bindOperation (hCreate.mono ?_)
  rintro (e | outcome) -
  · trivial
  · have hReport : Procedure.Meets inv.still (fun _ => True)
        (do
          let volume ← Operation.ofCause (Volume.ofDisk outcome.disk site.endpoint site.datacenter.name)
          return ⟨volume⟩ : Operation CreateVolumeResponse).run := by
      refine .bindOperation (.ofCause ?_)
      cases Volume.ofDisk outcome.disk site.endpoint site.datacenter.name <;> exact trivial
    cases outcome with
    | existing disk => exact .afterNote hReport
    | created disk => exact hReport

/-- The disk that is there is what is reported. -/
theorem solo_createVolume {s : Scene} (h : s.inventory.Has request order site disk) (c : Controller)
    (hLocks : s.locks.table = []) :
    ∃ s', Solo 0 (c.createVolume request).run s (.done (Controller.report site disk)) s' := by
  have hFinds (locks : NameLocks) : Solo 0
      (VolumeStore.createUnlocked site.datacenter order.pool request.name order.sizeMb).run ⟨s.inventory, locks⟩
      (.done (.ok (.existing disk))) ⟨s.inventory, locks⟩ := by
    have hExisting : Solo 0 (VolumeStore.createUnlocked site.datacenter order.pool request.name order.sizeMb).run
        ⟨s.inventory, locks⟩ _ _ := .createUnlocked_existing h.found
    rwa [if_pos h.size] at hExisting
  have hStart : Solo 0 (c.createVolume request).run s _ s :=
    .createVolume c h.accepted (by rw [Inventory.locate_layout, h.located])
  have hCreate : ∃ s', Solo 0 (c.store.createOrGet site.datacenter order.pool request.name order.sizeMb).run s
      (.done (.ok (.existing disk))) s' := by
    unfold VolumeStore.createOrGet
    split
    · obtain ⟨locks, -, hLocked⟩ := Solo.locked hLocks hFinds
      exact ⟨_, hLocked⟩
    · exact ⟨_, hFinds s.locks⟩
  obtain ⟨s', hSolo⟩ := hCreate
  exact ⟨s', hStart.trans (.fromCreate_ok hSolo)⟩

end Inventory.Has

/-- What comes of a create request for a disk that is there: alone and in calm it can end, it ends with the report
of the disk, and no call that it begins changes anything. -/
structure Controller.Returns (c : Controller) (request : CreateVolumeRequest) (site : Site) (disk : Disk)
    (w : World Inventory) : Prop where
  ends : ∃ s result, System.Runs Inventory.calm (System.start w [(.background, (c.createVolume request).run)]) s ∧
    s.result? 0 = some result
  result : ∀ ctx s result, System.Runs Inventory.calm (System.start w [(ctx, (c.createVolume request).run)]) s →
    s.result? 0 = some result →
      ∃ volume, Volume.ofDisk disk site.endpoint site.datacenter.name = .ok volume ∧ result = .ok ⟨volume⟩
  calls : ∀ ctx s, System.Runs Inventory.calm (System.start w [(ctx, (c.createVolume request).run)]) s →
    ∃ begun, s.world.calls = begun ++ w.calls ∧ ∀ call ∈ begun, call.reads

theorem Inventory.Has.returns {request : CreateVolumeRequest} {order : Controller.CreateOrder} {site : Site}
    {disk : Disk} {scene : Scene} (h : scene.inventory.Has request order site disk) (c : Controller)
    (hLocks : scene.locks.table = []) {w : World Inventory} (hShows : w.Shows scene) :
    c.Returns request site disk w := by
  obtain ⟨scene', hSolo⟩ := h.solo_createVolume c hLocks
  have hGranted := Controller.requestedMb_of_order h.accepted
  rw [← h.size] at hGranted
  obtain ⟨bytes, hBytes, -⟩ := Capacity.bytes?_of_requestedMb hGranted
  have hVolume := Volume.ofDisk_of_bytes? hBytes site.endpoint site.datacenter.name
  refine ⟨?_, fun ctx s result hRuns hResult => ?_, fun ctx s hRuns => ?_⟩
  · have hThread : (System.start w [(.background, (c.createVolume request).run)]).threads[0]? =
        some ⟨.background, .running (c.createVolume request).run⟩ := rfl
    obtain ⟨w', -, hRuns⟩ := hSolo.runs_set hShows hThread
    exact ⟨_, _, hRuns, rfl⟩
  · obtain ⟨rfl, -⟩ := hSolo.eq_of_result hShows hRuns hResult
    refine ⟨_, hVolume, ?_⟩
    rw [Controller.report, hVolume]
    rfl
  · have hMeets : ∀ (number : Nat) job, [(ctx, (c.createVolume request).run)][number]? = some job →
        job.2.Meets scene.inventory.still fun _ => True := by
      intro number job hJob
      obtain rfl := List.mem_singleton.1 (List.mem_of_getElem? hJob)
      exact h.meets_createVolume c
    exact (Inventory.upheld_still _).hasBegun ⟨hShows.faultless, hShows.inventory⟩ hMeets hRuns

/-! What a request that failed leaves. -/

theorem NameLocks.Agrees.table_eq_nil {l : NameLocks} {grips : List Grip} (h : l.Agrees grips)
    (hAway : ∀ g ∈ grips, g = .away) : l.table = [] := by
  cases hTable : l.table with
  | nil => rfl
  | cons entry rest =>
      obtain ⟨name, lock⟩ := entry
      have hFind : l.find? name = some lock := by simp [find?, hTable]
      obtain ⟨i, g, hThread, hUse⟩ := h.used hFind
      rw [hAway g (List.mem_of_getElem? hThread)] at hUse
      simp [Grip.handle?] at hUse

namespace Inventory

theorem Creates.of_cleared {inv inv' : Inventory} {dc : Datacenter} {pool : Pool} {name : String} {sizeMb : UInt64}
    {disk : Disk} (h : inv.cleared.Creates dc pool name sizeMb disk inv'.cleared) :
    inv.Creates dc pool name sizeMb disk inv' := by
  refine ⟨?_, ?_, h.name, h.pool, h.size, fun place => ?_, fun place => ?_, ?_⟩
  · have hReply := h.reply
    rwa [answer_cleared] at hReply
  · have hFound := h.found
    rwa [answer_cleared] at hFound
  · have hDisks := h.disks place
    rwa [disksAt_cleared, disksAt_cleared] at hDisks
  · have hNodes := h.nodes place
    rwa [nodesAt_cleared, nodesAt_cleared] at hNodes
  · have hLayout := h.layout
    rwa [layout_cleared, layout_cleared] at hLayout

end Inventory

namespace Alone

variable {zone : Option BackendError} {number : Nat}

/-- What a request leaves if it fails. -/
def Leaves (inv : Inventory) : (request : VolumeRequest) → Except Error request.Response → Stage Inventory → Prop
  | .create request => CreateLeaves inv request
  | _ => Spares ⟨.away, inv⟩

theorem handle (c : Controller) (request : VolumeRequest) (inv : Inventory) :
    (rules zone).Follows number (Leaves inv request) (c.handle request).run ⟨.away, inv⟩ := by
  cases request with
  | create request => exact createVolume c request
  | delete request => exact spares_deleteVolume request _
  | publish request => exact spares_publishVolume request _
  | unpublish request => exact spares_unpublishVolume request _
  | list request => exact (Keeps.listVolumes request).spares _

/-- The inventory and the locks that an error leaves. -/
theorem of_error {c : Controller} {request : VolumeRequest} {ctx : Context} {w : World Inventory}
    (hLocks : w.locks.table = []) {s : System Inventory (Except Error request.Response)}
    (hRuns : System.Runs Inventory.unreliable (System.start w [(ctx, (c.handle request).run)]) s) {e : Error}
    (hResult : s.result? 0 = some (.error e)) :
    ∃ stage, Leaves w.platform.cleared request (.error e) stage ∧ s.world.platform.cleared = stage.known ∧
      (stage.grip = .away → s.world.locks.table = []) := by
  have hStart : (System.start w [(ctx, (c.handle request).run)]).Follows (rules w.platform.zoneFailure?)
      (fun _ => Leaves w.platform.cleared request)
      (List.replicate [(ctx, (c.handle request).run)].length ⟨.away, w.platform.cleared⟩) := by
    refine .startTogether ⟨.replicate hLocks _ _, _, rfl, rfl, rfl⟩ fun number job hJob => ?_
    obtain rfl := List.mem_singleton.1 (List.mem_of_getElem? hJob)
    exact handle c request _
  obtain ⟨stages, hFollows⟩ := hStart.runs covers hRuns
  obtain ⟨stage, hStage, hLeaves⟩ := hFollows.goal_of_result hResult
  obtain ⟨hAgrees, stage', rfl, hInventory, -⟩ := hFollows.invariant
  obtain rfl := Option.some.inj hStage
  refine ⟨stage', hLeaves, hInventory, fun hAway => hAgrees.table_eq_nil fun g hg => ?_⟩
  obtain rfl := List.mem_singleton.1 hg
  exact hAway

end Alone

/-- Failures leave the inventory intact. Let a request run alone, let calls fail and be delayed as they may, except
that searches for zones go on to fail or not to fail, and let its context end any wait. If the request ends with an
error then the inventory is what it was, its disks and attachments with it. Only a create that was not able to read
its disk back has added just the disk that it was asked for; the same request, once nothing fails any more, returns
that disk and creates none. -/
theorem failures_leave_inventory_intact (c : Controller) (request : VolumeRequest) {ctx : Context}
    {w : World Inventory} (hLocks : w.locks.table = []) {s : System Inventory (Except Error request.Response)}
    (hRuns : System.Runs Inventory.unreliable (System.start w [(ctx, (c.handle request).run)]) s) {e : Error}
    (hResult : s.result? 0 = some (.error e)) :
    s.world.platform.cleared = w.platform.cleared ∨
    ∃ create order site disk, request = .create create ∧
      Controller.order create = .ok order ∧ w.platform.locate (create.placement order) = .ok site ∧
      w.platform.Creates site.datacenter order.pool create.name order.sizeMb disk s.world.platform ∧
      e.OfReread create.name ∧
      ∀ w' : World Inventory, w'.Shows ⟨s.world.platform.cleared, s.world.locks⟩ → c.Returns create site disk w' := by
  obtain ⟨⟨grip, known⟩, hLeaves, hInventory, hAway⟩ := Alone.of_error hLocks hRuns hResult
  cases request with
  | create create =>
      rcases hLeaves with hSame | ⟨order, site, disk, hOrder, hSite, hGrip, hCreates, hReread⟩
      · exact .inl (hInventory.trans hSame)
      · refine .inr ⟨create, order, site, disk, rfl, hOrder, ?_, ?_, hReread, fun w' hShows => ?_⟩
        · rwa [← Inventory.locate_layout, Inventory.layout_cleared, Inventory.locate_layout] at hSite
        · rw [← hInventory] at hCreates
          exact hCreates.of_cleared
        · have hHas : s.world.platform.cleared.Has create order site disk := by
            rw [hInventory]
            refine ⟨hOrder, ?_, hCreates.found, hCreates.size⟩
            rw [← Inventory.locate_layout, hCreates.layout, Inventory.locate_layout]
            exact hSite
          exact Inventory.Has.returns hHas c (hAway hGrip) hShows
  | delete request => exact .inl (hInventory.trans (congrArg Stage.known hLeaves))
  | publish request => exact .inl (hInventory.trans (congrArg Stage.known hLeaves))
  | unpublish request => exact .inl (hInventory.trans (congrArg Stage.known hLeaves))
  | list request => exact .inl (hInventory.trans (congrArg Stage.known hLeaves))

set_option maxRecDepth 10000 in
/-- A create that has twelve milliseconds where every call takes five: its time is over while it reads its disk
back. The disk is there, and is what the request returns once it has more time. -/
theorem failures_leave_inventory_intact_hurried :
    ∃ s site disk, System.Runs Inventory.unreliable (System.start { platform := .small } [(⟨[], some 12⟩,
        ((⟨{}, ⟨true, 0⟩⟩ : Controller).handle (.create (.single 1))).run)]) s ∧
      s.result? 0 = some (.error (.deadlineExceeded "GetFirstClassDisk")) ∧
      s.world.platform.disksAt 0 = [disk] ∧
      (⟨{}, ⟨true, 0⟩⟩ : Controller).Returns (.single 1) site disk
        { s.world with platform := s.world.platform.cleared } := by
  let c : Controller := ⟨{}, ⟨true, 0⟩⟩
  let jobs : List (Context × Procedure (Except Error CreateVolumeResponse)) :=
    [(⟨[], some 12⟩, (c.handle (.create (.single 1))).run)]
  have hAdmits : ∀ job ∈ jobs, Inventory.unreliable.Admits job.1 := fun _ _ _ _ _ _ => trivial
  obtain ⟨s, hRuns, hWorld, hResults⟩ := Lab.exists_runs 100 { platform := .small } jobs hAdmits
  have hResult : s.result? 0 = some (.error (.deadlineExceeded "GetFirstClassDisk")) :=
    hResults 0 _ (by decide +kernel)
  have hOne : (s.world.platform.disksAt 0).length = 1 := by
    rw [hWorld]
    decide +kernel
  have hNone : Inventory.small.disksAt 0 = [] := by decide +kernel
  rcases failures_leave_inventory_intact c (.create (.single 1)) rfl hRuns hResult with
    hSame | ⟨create, order, site, disk, hRequest, -, -, hCreates, -, hReturns⟩
  · rw [← Inventory.disksAt_cleared, hSame, Inventory.disksAt_cleared, hNone] at hOne
    cases hOne
  · cases hRequest
    have hDisks := hCreates.disks 0
    rw [hNone, List.nil_append] at hDisks
    have hPlace : 0 = site.datacenter.place := by
      by_contra hOther
      rw [hDisks, if_neg hOther] at hOne
      cases hOne
    rw [if_pos hPlace] at hDisks
    refine ⟨s, site, disk, hRuns, hResult, hDisks, hReturns _ ⟨Inventory.faultless_cleared _, ?_, rfl⟩⟩
    exact Inventory.cleared_cleared _

end VolumeController
