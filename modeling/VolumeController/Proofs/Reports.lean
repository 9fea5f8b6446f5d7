import Mathlib.Data.List.Zip
import VolumeController.Proofs.Inventory.Replies
import VolumeController.Proofs.Inventory.Seen
import VolumeController.Proofs.Reports.Sources
/-! All reports of a volume agree. A disk never changes, its id is never given to another, and its site has one name on
every way that leads to it. Main result: creates and listings report one and the same volume under an id, over the
whole run, and a publish of it adds to its context nothing but the handle. -/

namespace VolumeController

variable {α : Type}

namespace Inventory

variable {inv : Inventory} {dc : Datacenter} {site : Site} {disk : Disk} {moments : Inventory → Prop} {x : Exchange}

/-- A call fails, or it is replied with what it asks for. -/
theorem reply_cases (inv : Inventory) (c : Call) :
    (∃ failure, inv.reply c = .error failure) ∨ inv.reply c = (inv.answer c).1 := by
  unfold reply
  cases (inv.faultsOf c).failure? c.kind with
  | some failure => exact .inl ⟨failure, rfl⟩
  | none => exact .inr rfl

theorem answer_eq_of_reply (c : Call) {answer : c.Answer} (h : .ok answer = inv.reply c) :
    (inv.answer c).1 = .ok answer := by
  rcases inv.reply_cases c with ⟨failure, hFailed⟩ | hSame
  · cases h.trans hFailed
  · exact hSame.symm.trans h.symm

/-- What a datacenter lists is what is there. -/
theorem disksAt_of_listDisks {disks : List Disk} (h : .ok disks = inv.reply (.listDisks dc)) :
    disks = inv.disksAt dc.place := by
  have hAnswer := answer_eq_of_reply (.listDisks dc) h
  simp only [answer] at hAnswer
  split at hAnswer
  · rename_i s hState
    rw [disksAt_of_state? hState]
    exact (Except.ok.inj hAnswer).symm
  · cases hAnswer

/-- A site that is told of was there. -/
theorem exists_of_names (h : x.Names site) (hFrom : x.ComesFrom moments) : ∃ inv, moments inv ∧ site ∈ inv.sites := by
  cases h with
  | zone query site =>
      obtain ⟨inv, hInv, hReply⟩ := hFrom
      exact ⟨inv, hInv, mem_sites_of_resolveZone (answer_eq_of_reply (.resolveZone query) hReply)⟩
  | listed hSite =>
      obtain ⟨inv, hInv, hReply⟩ := hFrom
      have hSites : .ok inv.sites = Except.ok _ := answer_eq_of_reply .listSites hReply
      exact ⟨inv, hInv, Except.ok.inj hSites ▸ hSite⟩

/-- A disk that is shown was there. -/
theorem exists_of_shows (h : x.Shows dc disk) (hFrom : x.ComesFrom moments) :
    ∃ inv, moments inv ∧ disk ∈ inv.disksAt dc.place := by
  cases h with
  | named dc pool name disk =>
      obtain ⟨inv, hInv, hReply⟩ := hFrom
      have hFirst := head?_named_of_finish () ((inv.fst_finish _ ()).trans hReply.symm)
      exact ⟨inv, hInv, (List.mem_filter.1 (List.mem_of_head? hFirst.symm)).1⟩
  | found dc id disk =>
      obtain ⟨inv, hInv, hReply⟩ := hFrom
      exact ⟨inv, hInv, (mem_disksAt_of_findById ((inv.fst_finish _ ()).trans hReply.symm)).1⟩
  | @listed sites replies site disks disk hReply hDisk =>
      have hSwapped : (.ok disks, site) ∈ replies.zip sites := by
        rw [← List.zip_swap]
        exact List.mem_map_of_mem hReply
      have hPair : (.ok disks, site.datacenter) ∈ replies.zip (sites.map Site.datacenter) := by
        rw [List.zip_map_right]
        exact List.mem_map_of_mem hSwapped
      obtain ⟨inv, hInv, hListed⟩ := List.forall₂_zip hFrom hPair
      exact ⟨inv, hInv, disksAt_of_listDisks hListed ▸ hDisk⟩

end Inventory

/-- What a thread has heard comes from the moments that there were. -/
theorem Informed.comesFrom {history : List (Chronicle Inventory α)} {number : Nat} {c : Chronicle Inventory α}
    (h : Informed history number c) {x : Exchange} (hHeard : x ∈ c.heardBy number) :
    x.ComesFrom fun inv => ∃ m ∈ history, m.platform = inv := by
  obtain ⟨before, after, hSplit⟩ := List.append_of_mem hHeard
  have hPrefix : before ++ [x] <+: c.heardBy number := ⟨after, by rw [hSplit, List.append_assoc]; rfl⟩
  exact (h.heard before x hPrefix).2.mono fun inv ⟨m, hMoment, _, _, hInv⟩ => ⟨m, hMoment, hInv⟩

theorem Volume.eq_of_ofDisk {volume : Volume} {disk : Disk} {endpoint datacenter : String}
    (h : Volume.ofDisk disk endpoint datacenter = .ok volume) :
    volume = ⟨disk.id, volume.capacityBytes, disk.attributes endpoint datacenter⟩ :=
  Except.ok.inj (h.symm.trans (Volume.ofDisk_of_bytes? (Volume.bytes?_of_ofDisk h) endpoint datacenter))

/-- The handle of an attachment is no attribute of a disk. -/
theorem Disk.get?_attributes_page83Data (disk : Disk) (endpoint datacenter : String) :
    (disk.attributes endpoint datacenter).get? Attribute.page83Data = none := by
  rw [Disk.get?_attributes]
  rfl

/-- Sites of one place are one site. -/
theorem Inventory.eq_of_place {inv : Inventory} {site site' : Site} (hSite : site ∈ inv.sites) (hSite' : site' ∈ inv.sites)
    (hPlace : site.datacenter.place = site'.datacenter.place) : site = site' := by
  obtain ⟨i, hi⟩ := List.mem_iff_getElem?.1 hSite
  obtain ⟨i', hi'⟩ := List.mem_iff_getElem?.1 hSite'
  obtain rfl : i = i' := (place_of_sites hi).1.symm.trans (hPlace.trans (place_of_sites hi').1)
  exact Option.some.inj (hi.symm.trans hi')

/-- Whether a disk was at a site at some moment. -/
def SeenAt (base : Inventory) (history : List (Chronicle Inventory α)) (site : Site) (disk : Disk) : Prop :=
  site ∈ base.sites ∧ Seen history site.datacenter.place disk

section

variable {controller : Controller} {config : Config} {w : World Inventory} {requests : List (Context × VolumeRequest)}
  {number : Nat} {history earlier : List (Chronicle Inventory Answered)} {c : Chronicle Inventory Answered}
  {site site' : Site} {disk disk' : Disk}

namespace Course

/-- An id tells a disk and its site. -/
theorem seenAt_unique (hPlatform : w.platform = .ofConfig config)
    (h : Course Inventory.rough (.start w (controller.answers requests)) history)
    (hSeen : SeenAt (.ofConfig config) history site disk) (hSeen' : SeenAt (.ofConfig config) history site' disk')
    (hId : disk.id = disk'.id) : site = site' ∧ disk = disk' := by
  have hFirst : (Chronicle.start w (controller.answers requests)).platform = .ofConfig config := hPlatform
  obtain ⟨hPlace, hDisk⟩ := h.eq_of_id hFirst hSeen.2 hSeen'.2 hId
  exact ⟨Inventory.eq_of_place hSeen.1 hSeen'.1 hPlace, hDisk⟩

/-- What a request was shown at a site that it was told of was there, whatever is done to the inventory meanwhile. -/
theorem seenAt_of_shown {env : Surroundings Inventory} (hPlatform : w.platform = .ofConfig config)
    (h : Course env (.start w (controller.answers requests)) (c :: earlier))
    (hNamed : Named (c.heardBy number) site) (hShown : ∃ x ∈ c.heardBy number, x.Shows site.datacenter disk) :
    SeenAt (.ofConfig config) (c :: earlier) site disk := by
  have hInformed := h.informed number
  obtain ⟨x, hHeard, hNames⟩ := hNamed
  obtain ⟨inv, ⟨m, hMoment, rfl⟩, hSite⟩ := Inventory.exists_of_names hNames (hInformed.comesFrom hHeard)
  obtain ⟨y, hHeard', hShows⟩ := hShown
  obtain ⟨inv', ⟨m', hMoment', rfl⟩, hDisk⟩ := Inventory.exists_of_shows hShows (hInformed.comesFrom hHeard')
  have hLayout : m.platform.layout = w.platform.layout :=
    ((Inventory.upheld_configured env w.platform.layout).runs rfl (fun _ job _ => job.2.meets_freely)
      (h.runs hMoment).system).1
  refine ⟨?_, m', hMoment', hDisk⟩
  rwa [← hPlatform, ← w.platform.sites_layout, ← hLayout, Inventory.sites_layout]

theorem seenAt_of_reportedFrom (hPlatform : w.platform = .ofConfig config)
    (h : Course Inventory.rough (.start w (controller.answers requests)) (c :: earlier)) {volume : Volume}
    (hReported : volume.ReportedFrom (c.heardBy number)) : ∃ site disk,
      SeenAt (.ofConfig config) (c :: earlier) site disk ∧
        Volume.ofDisk disk site.endpoint site.datacenter.name = .ok volume := by
  obtain ⟨site, disk, hNamed, hShown, hVolume⟩ := hReported
  exact ⟨site, disk, h.seenAt_of_shown hPlatform hNamed hShown, hVolume⟩

/-- Reports under one id are the same. -/
theorem eq_of_volumeId (hPlatform : w.platform = .ofConfig config)
    (h : Course Inventory.rough (.start w (controller.answers requests)) (c :: earlier)) {volume volume' : Volume}
    {number' : Nat} (hReported : volume.ReportedFrom (c.heardBy number))
    (hReported' : volume'.ReportedFrom (c.heardBy number')) (hId : volume.volumeId = volume'.volumeId) :
    volume = volume' := by
  obtain ⟨site, disk, hSeen, hVolume⟩ := h.seenAt_of_reportedFrom hPlatform hReported
  obtain ⟨site', disk', hSeen', hVolume'⟩ := h.seenAt_of_reportedFrom hPlatform hReported'
  rw [Volume.eq_of_ofDisk hVolume, Volume.eq_of_ofDisk hVolume'] at hId
  obtain ⟨rfl, rfl⟩ := h.seenAt_unique hPlatform hSeen hSeen' hId
  exact Except.ok.inj (hVolume.symm.trans hVolume')

/-- What a publish returns is the context that its volume is reported with, and the handle. -/
theorem exists_handle (hPlatform : w.platform = .ofConfig config)
    (h : Course Inventory.rough (.start w (controller.answers requests)) (c :: earlier)) {volume : Volume}
    {number' : Nat} {context : Dict String} (hReported : volume.ReportedFrom (c.heardBy number))
    (hPublished : PublishedFrom volume.volumeId (c.heardBy number') context) :
    volume.volumeContext.get? Attribute.page83Data = none ∧
      ∃ handle, context = volume.volumeContext.insert Attribute.page83Data handle := by
  obtain ⟨site, disk, hSeen, hVolume⟩ := h.seenAt_of_reportedFrom hPlatform hReported
  obtain ⟨site', disk', handle, ⟨hNamed', hFound⟩, rfl⟩ := hPublished
  have hSeen' := h.seenAt_of_shown hPlatform hNamed' ⟨_, hFound, .found _ _ _⟩
  have hId : disk'.id = volume.volumeId := by
    obtain ⟨inv, -, hReply⟩ := (h.informed number').comesFrom hFound
    exact (Inventory.mem_disksAt_of_findById ((inv.fst_finish _ ()).trans hReply.symm)).2
  rw [Volume.eq_of_ofDisk hVolume] at hId ⊢
  obtain ⟨rfl, rfl⟩ := h.seenAt_unique hPlatform hSeen' hSeen hId
  exact ⟨disk'.get?_attributes_page83Data _ _, handle, rfl⟩

end Course

end

/-- Any requests at once over an inventory that had no disks to begin with, whatever fails, is delayed, is cancelled or
runs out of time. All reports of a volume that was created agree over the whole run: every create and every listing
that reports its id reports the same volume, and what a publish of it returns is its context with the handle of the
attachment and nothing else. -/
theorem reports_agree (controller : Controller) {config : Config} {w : World Inventory}
    (hPlatform : w.platform = .ofConfig config) {requests : List (Context × VolumeRequest)}
    {c : Chronicle Inventory Answered}
    (hRuns : Chronicle.Runs Inventory.rough (fun _ _ => True) (.start w (controller.answers requests)) c)
    {number : Nat} {request : CreateVolumeRequest} {response : CreateVolumeResponse}
    (hResult : c.result? number = some ⟨.create request, .ok response⟩) :
    (∀ number' request' response', c.result? number' = some ⟨.create request', .ok response'⟩ →
      response'.volume.volumeId = response.volume.volumeId → response'.volume = response.volume) ∧
    (∀ number' request' response', c.result? number' = some ⟨.list request', .ok response'⟩ →
      ∀ entry ∈ response'.entries, entry.volume.volumeId = response.volume.volumeId →
        entry.volume = response.volume) ∧
    ∀ number' request' response', c.result? number' = some ⟨.publish request', .ok response'⟩ →
      request'.volumeId = response.volume.volumeId →
        response.volume.volumeContext.get? Attribute.page83Data = none ∧
          ∃ handle, response'.publishContext = response.volume.volumeContext.insert Attribute.page83Data handle := by
  obtain ⟨earlier, hCourse⟩ := hRuns.exists_course
  have hReporting (number : Nat) (answered : Answered) (hResult : c.result? number = some answered) :
      Reporting (c.heardBy number) answered := by
    obtain ⟨-, -, -, hWanted⟩ := hRuns.wanted_of_result (OnSuccess.answer controller) (fun _ _ => trivial) hResult
    exact hWanted
  have hReported : response.volume.ReportedFrom (c.heardBy number) := hReporting number _ hResult
  refine ⟨?_, ?_, ?_⟩
  · intro number' request' response' hResult' hId
    exact hCourse.eq_of_volumeId hPlatform (hReporting number' _ hResult') hReported hId
  · intro number' request' response' hResult' entry hEntry hId
    exact hCourse.eq_of_volumeId hPlatform (hReporting number' _ hResult' entry hEntry) hReported hId
  · intro number' request' response' hResult' hId
    have hPublished : PublishedFrom request'.volumeId (c.heardBy number') response'.publishContext :=
      hReporting number' _ hResult'
    exact hCourse.exists_handle hPlatform hReported (hId ▸ hPublished)

set_option maxRecDepth 10000 in
/-- A volume is created, listed and published: the entry of the listing is the volume that the create returned, and the
publish returned its context with a handle. -/
theorem reports_agree_published :
    let publish : PublishVolumeRequest := ⟨Inventory.idText 1, "node", none, false, .empty⟩
    let requests := [.create (.single 1), .list ⟨0, ""⟩, .publish publish].map (Context.background, ·)
    ∃ (c : Chronicle Inventory Answered) (created : CreateVolumeResponse) (listed : ListVolumesResponse)
      (published : PublishVolumeResponse) (handle : String),
      Chronicle.Runs Inventory.rough (fun _ _ => True)
        (.start { platform := .ofConfig .single } (Controller.answers ⟨{}, ⟨false, 0⟩⟩ requests)) c ∧
      c.result? 0 = some ⟨.create (.single 1), .ok created⟩ ∧ c.result? 1 = some ⟨.list ⟨0, ""⟩, .ok listed⟩ ∧
      c.result? 2 = some ⟨.publish publish, .ok published⟩ ∧ created.volume.volumeId = publish.volumeId ∧
      listed.entries = [⟨created.volume⟩] ∧
      published.publishContext = created.volume.volumeContext.insert Attribute.page83Data handle := by
  intro publish requests
  let jobs := Controller.answers ⟨{}, ⟨false, 0⟩⟩ requests
  let ended := [0, 1, 2].foldl System.advance (System.start { platform := Inventory.ofConfig .single } jobs)
  obtain ⟨turns, hRuns⟩ : ∃ turns, Chronicle.Runs Inventory.rough (fun _ _ => True)
      (.start { platform := .ofConfig .single } jobs) ⟨ended, turns⟩ :=
    Chronicle.exists_advances (fun _ _ _ _ _ => trivial) [0, 1, 2] _ []
  have hIds : ∀ number < 3, (ended.result? number).map VolumeRequest.volumeIds = some [publish.volumeId] := by
    decide +kernel
  clear_value ended
  obtain ⟨created, hCreated, hCreatedId⟩ := Chronicle.Runs.exists_response hRuns rfl (hIds 0 (by decide))
  obtain ⟨listed, hListed, hListedIds⟩ := Chronicle.Runs.exists_response hRuns rfl (hIds 1 (by decide))
  obtain ⟨published, hPublished, -⟩ := Chronicle.Runs.exists_response hRuns rfl (hIds 2 (by decide))
  have hId : created.volume.volumeId = publish.volumeId := (List.cons.inj hCreatedId).1
  obtain ⟨-, hEntries, hContext⟩ := reports_agree ⟨{}, ⟨false, 0⟩⟩ rfl hRuns hCreated
  obtain ⟨-, handle, hHandle⟩ := hContext 2 publish published hPublished hId.symm
  obtain ⟨entry, hEntry, hEntryId⟩ := List.map_eq_singleton_iff.1 hListedIds
  have hSame := hEntries 1 ⟨0, ""⟩ listed hListed entry (hEntry ▸ List.mem_cons_self) (hEntryId.trans hId.symm)
  refine ⟨⟨ended, turns⟩, created, listed, published, handle, hRuns, hCreated, hListed, hPublished, hId, ?_, hHandle⟩
  rw [hEntry, ← hSame]

end VolumeController
