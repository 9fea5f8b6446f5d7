import VolumeController.Proofs.CreateContest
/-! The sizes that create requests deliver. A request that meets no volume of its name creates one and
looks for the name again, without looking at the size: if another request was faster, it returns that
request's volume. Main result: exactly when no run can go wrong in this way. -/

namespace VolumeController

/-- Whether a request got what it is due at the end of a run: a success has the granted size, and where
the volume of the name has another size than the one asked for, the request was refused. -/
def CreateVolumeRequest.Honoured (request : CreateVolumeRequest) (placement : Placement) (pool : Pool)
    (name : String) (inv : Inventory) (result : Except Error CreateVolumeResponse) : Prop :=
  (∀ response, result = .ok response →
    response.volume.capacityBytes.toInt = (Capacity.granted request.required : Int)) ∧
  ∀ order site disk, Controller.order request = .ok order → inv.locate placement = .ok site →
    (inv.named site.datacenter.place pool name).head? = some disk → disk.capacityMb ≠ order.sizeMb →
    result = .error (Cause.sizeDiffers disk.capacityMb.toNat order.sizeMb.toNat).toError

/-- Whether every request gets what it is due, whatever else is asked for the name and in whatever order
things happen. -/
def Controller.DeliversSizes (c : Controller) (w : World Inventory) (placement : Placement) (pool : Pool)
    (name : String) (requests : List CreateVolumeRequest) : Prop :=
  ∀ jobs : List (Context × CreateVolumeRequest), jobs.map Prod.snd = requests →
    ∀ s, System.Runs Inventory.calm (System.start w (c.creates jobs)) s →
      ∀ (number : Nat) job result, jobs[number]? = some job → s.result? number = some result →
        job.2.Honoured placement pool name s.world.platform result

/-- What is reported has the size that was granted just if the disk has the size that was ordered. -/
theorem Controller.granted_iff {request : CreateVolumeRequest} {order : Controller.CreateOrder}
    {site : Site} {disk : Disk} {response : CreateVolumeResponse}
    (hOrder : Controller.order request = .ok order) (hReport : Controller.report site disk = .ok response) :
    response.volume.capacityBytes.toInt = (Capacity.granted request.required : Int) ↔
      disk.capacityMb = order.sizeMb := by
  have hGranted := (Capacity.requestedMb_eq_ok (Controller.requestedMb_of_order hOrder)).1
  have hReported : response.volume.capacityBytes.toInt = (disk.capacityMb.toNat * Capacity.mebibyte : Nat) := by
    cases hVolume : Volume.ofDisk disk site.endpoint site.datacenter.name with
    | error cause =>
        rw [Controller.report, hVolume] at hReport
        cases hReport
    | ok volume =>
        rw [Controller.report, hVolume] at hReport
        cases hReport
        exact (Capacity.toInt_of_bytes? (Volume.bytes?_of_ofDisk hVolume)).2
  rw [hReported, ← hGranted, ← UInt64.toNat_inj]
  simp only [Capacity.mebibyte]
  omega

section

variable {c : Controller} {w : World Inventory} {placement : Placement} {pool : Pool} {name : String}
  {jobs : List (Context × CreateVolumeRequest)} {s : System Inventory (Except Error CreateVolumeResponse)}
  {number : Nat} {job : Context × CreateVolumeRequest} {result : Except Error CreateVolumeResponse}

/-- A placement has at most one place. -/
theorem Inventory.exists_place (inv : Inventory) (placement : Placement) :
    ∃ place, ∀ site, inv.locate placement = .ok site → site.datacenter.place = place := by
  cases inv.locate placement with
  | error e => exact ⟨0, by simp⟩
  | ok site => exact ⟨site.datacenter.place, fun site' h => by rw [Except.ok.inj h]⟩

/-- A request whose success would have the granted size gets what it is due. -/
theorem honoured_of_granted (hLocks : w.locks.table = []) (hFaultless : w.platform.Faultless)
    (hWants : ∀ job ∈ jobs, job.2.Wants name pool placement)
    (hRuns : System.Runs Inventory.calm (System.start w (c.creates jobs)) s)
    (hJob : jobs[number]? = some job) (hResult : s.result? number = some result)
    (hGranted : ∀ response, result = .ok response →
      response.volume.capacityBytes.toInt = (Capacity.granted job.2.required : Int)) :
    job.2.Honoured placement pool name s.world.platform result := by
  refine ⟨hGranted, ?_⟩
  intro order site disk hOrder hSite hFirst hDiffers
  obtain ⟨place, hPlace⟩ := w.platform.layout.exists_place placement
  obtain ⟨stages, stage, hHolds, hStage, hSettles⟩ :=
    Contest.runs hLocks hFaultless hWants hPlace hRuns hJob hResult
  have hLocated : w.platform.layout.locate placement = .ok site := by
    rw [← Inventory.locate_layout, hHolds.layout] at hSite
    exact hSite
  rw [hPlace site hLocated] at hFirst
  have hKnown : ∀ disk', stage.known = some disk' → disk' = disk := fun disk' h =>
    Option.some.inj ((hHolds.first number stage disk' hStage h).symm.trans hFirst)
  cases result with
  | ok response =>
      obtain ⟨order', site', disk', hOrder', -, hReport, hDisk, -⟩ := hSettles
      obtain rfl := hKnown disk' hDisk
      exact absurd ((Controller.granted_iff hOrder hReport).1 (hGranted response rfl)) hDiffers
  | error e =>
      rcases hSettles order site hOrder hLocated with ⟨disk', hDisk, -, rfl⟩ | ⟨hBefore, hNoPool⟩
      · rw [hKnown disk' hDisk]
      · obtain ⟨added, hDisks, hAdded⟩ := hHolds.added
        rw [hBefore, List.nil_append] at hDisks
        have hMember : disk ∈ added := by
          rw [← hDisks]
          exact List.mem_of_head? hFirst
        exact absurd (hAdded disk hMember).2 hNoPool

/-- Without a lock a success has the size that was ordered, or the name was free and its first volume was
created for one of the requests. -/
theorem granted_or_raced (hLocks : w.locks.table = []) (hFaultless : w.platform.Faultless)
    (hWants : ∀ job ∈ jobs, job.2.Wants name pool placement)
    (hRuns : System.Runs Inventory.calm (System.start w (c.creates jobs)) s)
    (hJob : jobs[number]? = some job) {response : CreateVolumeResponse}
    (hResult : s.result? number = some (.ok response)) :
    response.volume.capacityBytes.toInt = (Capacity.granted job.2.required : Int) ∨
    ∃ site order other order', w.platform.locate placement = .ok site ∧
      w.platform.named site.datacenter.place pool name = [] ∧
      w.platform.Offers site.datacenter.place pool ∧ Controller.order job.2 = .ok order ∧
      other ∈ jobs.map Prod.snd ∧ Controller.order other = .ok order' ∧ order'.sizeMb ≠ order.sizeMb := by
  obtain ⟨place, hPlace⟩ := w.platform.layout.exists_place placement
  obtain ⟨stages, stage, hHolds, hStage, hSettles⟩ :=
    Contest.runs hLocks hFaultless hWants hPlace hRuns hJob hResult
  obtain ⟨order, site, disk, hOrder, hSite, hReport, -, hSize⟩ := hSettles
  by_cases hOwn : disk.capacityMb = order.sizeMb
  · exact .inl ((Controller.granted_iff hOrder hReport).2 hOwn)
  · obtain hSame | ⟨hBefore, ⟨other, hOther, order', hOrder', hAsked⟩, hOffers⟩ := hSize
    · exact absurd hSame hOwn
    · refine .inr ⟨site, order, other, order', ?_, ?_, ?_, hOrder, hOther, hOrder', ?_⟩
      · rwa [← Inventory.locate_layout]
      · rw [hPlace site hSite]
        exact hBefore
      · rw [hPlace site hSite, ← Inventory.offers_layout]
        exact hOffers
      · rwa [hAsked]

end

/-! A run that goes wrong: a request looks for the name and is overtaken by another. -/

namespace Solo

variable {number : Nat} {scene : Scene} {dc : Datacenter} {pool : Pool} {name : String} {sizeMb : UInt64}

/-- A create that finds no disk of its name goes on to create one. -/
theorem createUnlocked_absent (hOffers : scene.inventory.Offers dc.place pool)
    (hAbsent : scene.inventory.named dc.place pool name = []) :
    Solo number (VolumeStore.createUnlocked dc pool name sizeMb).run scene
      (VolumeStore.create dc pool name sizeMb).run scene := by
  have hLookup : Solo number (Operation.call "GetFirstClassDisk" (.findByName dc pool name)).run scene
      (.done (.ok (scene.inventory.answer (.findByName dc pool name)).1)) scene :=
    callOperation "GetFirstClassDisk" (.findByName dc pool name)
  rw [hOffers.answer_findByName name, hAbsent] at hLookup
  exact bindOperation hLookup (.refl _ scene)

/-- Creating a disk and looking for its name ends with the first disk of the name. -/
theorem create (number : Nat) (name : String) (sizeMb : UInt64)
    (hOffers : scene.inventory.Offers dc.place pool) :
    ∃ scene' disk outcome, Solo number (VolumeStore.create dc pool name sizeMb).run scene
        (.done (.ok outcome)) scene' ∧
      scene'.inventory.Offers dc.place pool ∧ disk.capacityMb = sizeMb ∧
      scene'.inventory.named dc.place pool name =
        scene.inventory.named dc.place pool name ++ [disk] ∧
      (scene'.inventory.named dc.place pool name).head? = some outcome.disk := by
  obtain ⟨hNot, -⟩ | ⟨-, hReply, disk, hSize, hAdd⟩ :=
    scene.inventory.answer_createDisk dc pool name sizeMb
  · exact absurd hOffers hNot
  have hOffers' : (scene.after (.createDisk dc pool name sizeMb)).inventory.Offers dc.place pool := by
    rw [← Inventory.offers_layout] at hOffers ⊢
    rw [Scene.after, (Inventory.effect_answer scene.inventory _).layout]
    exact hOffers
  have hSome : (scene.after (.createDisk dc pool name sizeMb)).inventory.named dc.place pool name ≠ [] := by
    rw [Scene.after, hAdd]
    simp
  obtain ⟨first, hFirst⟩ := Option.isSome_iff_exists.1 (List.isSome_head?.2 hSome)
  refine ⟨_, disk, .created first, ?_, hOffers', hSize, hAdd, hFirst⟩
  have hCreate : Solo number (Operation.call "CreateFirstClassDisk" (.createDisk dc pool name sizeMb)).run
      scene (.done (.ok (scene.inventory.answer (.createDisk dc pool name sizeMb)).1))
      (scene.after (.createDisk dc pool name sizeMb)) :=
    callOperation _ _
  have hReread : Solo number (Operation.call "GetFirstClassDisk" (.findByName dc pool name)).run
      (scene.after (.createDisk dc pool name sizeMb))
      (.done (.ok ((scene.after (.createDisk dc pool name sizeMb)).inventory.answer
        (.findByName dc pool name)).1)) (scene.after (.createDisk dc pool name sizeMb)) :=
    callOperation "GetFirstClassDisk" (.findByName dc pool name)
  rw [hReply] at hCreate
  rw [hOffers'.answer_findByName name, hFirst] at hReread
  exact bindOperation hCreate (bindOperation hReread (.afterNote (.refl _ _)))

/-- A request that finds no volume of its name goes on to create one. -/
theorem createVolume_absent {c : Controller} (hStore : c.store.serializes = false)
    {request : CreateVolumeRequest} {placement : Placement} (hWants : request.Wants name pool placement)
    {order : Controller.CreateOrder} (hOrder : Controller.order request = .ok order) {site : Site}
    (hSite : scene.inventory.locate placement = .ok site)
    (hOffers : scene.inventory.Offers site.datacenter.place pool)
    (hAbsent : scene.inventory.named site.datacenter.place pool name = []) :
    Solo number (c.createVolume request).run scene
      (Controller.fromCreate request site
        (VolumeStore.create site.datacenter pool name order.sizeMb)).run scene := by
  rw [← Inventory.locate_layout, ← hWants.placement order hOrder] at hSite
  have hBegin : Solo number (c.createVolume request).run scene
      (Controller.fromCreate request site
        (c.store.createOrGet site.datacenter order.pool request.name order.sizeMb)).run scene :=
    createVolume c hOrder hSite
  rw [VolumeStore.createOrGet, hStore, if_neg Bool.false_ne_true, hWants.pool order hOrder,
    hWants.name] at hBegin
  exact hBegin.trans (fromCreate (createUnlocked_absent hOffers hAbsent))

end Solo

/-- Where requests of different sizes are made for a free name, one of them may be given a volume of the
wrong size. -/
theorem exists_overtaken {c : Controller} (hStore : c.store.serializes = false) {w : World Inventory}
    (hFaultless : w.platform.Faultless) {placement : Placement} {pool : Pool} {name : String}
    {requests : List CreateVolumeRequest} (hWants : ∀ r ∈ requests, r.Wants name pool placement)
    {site : Site} (hSite : w.platform.locate placement = .ok site)
    (hOffers : w.platform.Offers site.datacenter.place pool)
    (hAbsent : w.platform.named site.datacenter.place pool name = [])
    {i j : Nat} {request other : CreateVolumeRequest} {order order' : Controller.CreateOrder}
    (hRequest : requests[i]? = some request) (hOther : requests[j]? = some other)
    (hOrder : Controller.order request = .ok order) (hOrder' : Controller.order other = .ok order')
    (hDiffers : order'.sizeMb ≠ order.sizeMb) :
    ∃ s response, System.Runs Inventory.calm
        (System.start w (c.creates (requests.map fun r => (.background, r)))) s ∧
      s.result? i = some (.ok response) ∧
      response.volume.capacityBytes.toInt ≠ (Capacity.granted request.required : Int) := by
  have hThreads : j ≠ i := by
    rintro rfl
    obtain rfl := Option.some.inj (hRequest.symm.trans hOther)
    obtain rfl := Except.ok.inj (hOrder.symm.trans hOrder')
    exact hDiffers rfl
  let threads := (System.start w (c.creates (requests.map fun r => (.background, r)))).threads
  have hThread : ∀ (number : Nat) r, requests[number]? = some r →
      threads[number]? = some ⟨.background, .running (c.createVolume r).run⟩ := by
    intro number r hr
    simp [threads, System.start, Controller.creates, hr, Thread.start]
  let scene : Scene := ⟨w.platform.cleared, w.locks⟩
  have hSite' : scene.inventory.locate placement = .ok site := by
    rwa [← Inventory.locate_layout, Inventory.layout_cleared, Inventory.locate_layout]
  have hOffers' : scene.inventory.Offers site.datacenter.place pool := by
    rwa [← Inventory.offers_layout, Inventory.layout_cleared, Inventory.offers_layout]
  have hAbsent' : scene.inventory.named site.datacenter.place pool name = [] := by
    rwa [Inventory.named_cleared]
  -- The request looks for the name and finds nothing.
  have hLook : Solo i (c.createVolume request).run scene
      (Controller.fromCreate request site
        (VolumeStore.create site.datacenter pool name order.sizeMb)).run scene :=
    Solo.createVolume_absent hStore (hWants request (List.mem_of_getElem? hRequest)) hOrder hSite' hOffers'
      hAbsent'
  obtain ⟨w₁, hShows₁, hRuns₁⟩ := hLook.runs_set ⟨hFaultless, rfl, rfl⟩ (hThread i request hRequest)
  -- The other one does all that it has to do.
  have hLook' : Solo j (c.createVolume other).run scene
      (Controller.fromCreate other site
        (VolumeStore.create site.datacenter pool name order'.sizeMb)).run scene :=
    Solo.createVolume_absent hStore (hWants other (List.mem_of_getElem? hOther)) hOrder' hSite' hOffers'
      hAbsent'
  obtain ⟨scene', disk, outcome', hCreate', hOffers'', hSize, hAdd, -⟩ :=
    Solo.create j name order'.sizeMb hOffers'
  obtain ⟨w₂, hShows₂, hRuns₂⟩ := (hLook'.trans (Solo.fromCreate_ok hCreate')).runs_set hShows₁
    ((List.getElem?_set_ne hThreads.symm).trans (hThread j other hOther))
  -- The request creates a disk too and looks for the name again.
  obtain ⟨scene'', disk', outcome, hCreate, -, -, hAdd', hFirst⟩ :=
    Solo.create i name order.sizeMb hOffers''
  have hNumber : i < threads.length := (List.getElem?_eq_some_iff.1 (hThread i request hRequest)).1
  have hRest : Solo i (Controller.fromCreate request site
      (VolumeStore.create site.datacenter pool name order.sizeMb)).run scene'
      (.done (Controller.report site outcome.disk)) scene'' := Solo.fromCreate_ok hCreate
  obtain ⟨w₃, -, hRuns₃⟩ := hRest.runs_set hShows₂
    ((List.getElem?_set_ne hThreads).trans (List.getElem?_set_self hNumber))
  have hDisk : outcome.disk = disk := by
    rw [hAdd', hAdd, hAbsent'] at hFirst
    exact (Option.some.inj hFirst).symm
  have hAccepted : Capacity.requestedMb other.required = .ok outcome.disk.capacityMb := by
    rw [hDisk, hSize]
    exact Controller.requestedMb_of_order hOrder'
  obtain ⟨response, hReport, -⟩ := Controller.report_of_requestedMb site hAccepted
  rw [hReport] at hRuns₃
  refine ⟨_, response, (hRuns₁.trans hRuns₂).trans hRuns₃, ?_, fun hGranted => ?_⟩
  · simp [System.result?, hNumber, Thread.result?]
  · have hOwn := (Controller.granted_iff hOrder hReport).1 hGranted
    rw [hDisk, hSize] at hOwn
    exact hDiffers hOwn

/-- Creates for one name, pool and placement. Every success has the size that was asked for, and every
request for which the volume of the name has another size is refused, in all runs, just if creates are
serialized, or the name is taken from the beginning or cannot be given at all, or all requests ask for
the same size. -/
theorem creates_deliver_sizes_iff (c : Controller) {w : World Inventory} (hLocks : w.locks.table = [])
    (hFaultless : w.platform.Faultless) {placement : Placement} {pool : Pool} {name : String}
    {requests : List CreateVolumeRequest} (hWants : ∀ r ∈ requests, r.Wants name pool placement) :
    c.DeliversSizes w placement pool name requests ↔
      c.store.serializes = true ∨
      (∀ site, w.platform.locate placement = .ok site →
        w.platform.named site.datacenter.place pool name ≠ [] ∨
          ¬ w.platform.Offers site.datacenter.place pool) ∨
      ∀ r ∈ requests, ∀ r' ∈ requests, ∀ order order', Controller.order r = .ok order →
        Controller.order r' = .ok order' → order'.sizeMb = order.sizeMb := by
  constructor
  · intro hDelivers
    cases hStore : c.store.serializes with
    | true => exact .inl rfl
    | false =>
        refine .inr (Classical.or_iff_not_imp_left.2 fun hFree r hr r' hr' order order' hOrder hOrder' => ?_)
        refine Classical.byContradiction fun hDiffers => hFree fun site hSite => ?_
        refine Classical.or_iff_not_imp_left.2 fun hTaken hOffers => ?_
        obtain ⟨i, hi⟩ := List.mem_iff_getElem?.1 hr
        obtain ⟨j, hj⟩ := List.mem_iff_getElem?.1 hr'
        obtain ⟨s, response, hRuns, hResult, hWrong⟩ := exists_overtaken hStore hFaultless hWants hSite
          hOffers (Classical.not_not.1 hTaken) hi hj hOrder hOrder' hDiffers
        have hJob : (requests.map fun r => (Context.background, r))[i]? = some (.background, r) := by
          simp [hi]
        have hSame : (requests.map fun r => (Context.background, r)).map Prod.snd = requests := by
          simp [Function.comp_def]
        exact hWrong ((hDelivers _ hSame s hRuns i _ _ hJob hResult).1 response rfl)
  · rintro hCause jobs rfl s hRuns number job result hJob hResult
    have hJobs : ∀ job ∈ jobs, job.2.Wants name pool placement := fun job hMember =>
      hWants _ (List.mem_map_of_mem hMember)
    refine honoured_of_granted hLocks hFaultless hJobs hRuns hJob hResult ?_
    rintro response rfl
    rcases hCause with hStore | hCause
    · obtain ⟨place, hPlace⟩ := w.platform.layout.exists_place placement
      exact Watch.createVolume_runs hStore hLocks hFaultless hJobs hPlace hRuns hJob hResult response rfl
    · refine (granted_or_raced hLocks hFaultless hJobs hRuns hJob hResult).resolve_right ?_
      rintro ⟨site, order, other, order', hSite, hAbsent, hOffers, hOrder, hOther, hOrder', hDiffers⟩
      rcases hCause with hFree | hSame
      · rcases hFree site hSite with hTaken | hNoPool
        · exact hTaken hAbsent
        · exact hNoPool hOffers
      · exact hDiffers (hSame job.2 (List.mem_map_of_mem (List.mem_of_getElem? hJob)) other hOther order
          order' hOrder hOrder')

/-- A request for a volume of a size on the datastore of the small inventory. -/
def rival (gibibytes : Int64) : CreateVolumeRequest where
  name := "volume"
  capacityRange := some ⟨gibibytes * 1073741824, 0⟩
  volumeCapabilities := []
  parameters := .ofList [(Attribute.parentType, "Datastore"), (Attribute.parentName, "ds")]
  accessibilityRequirements := none

/-- A controller that does not serialize creates. -/
def unserialized : Controller := ⟨{}, ⟨false, 0⟩⟩

theorem order_rival_one : Controller.order (rival 1) = .ok ⟨⟨.datastore, "ds"⟩, 1024, "", ""⟩ := by
  decide +kernel

theorem order_rival_two : Controller.order (rival 2) = .ok ⟨⟨.datastore, "ds"⟩, 2048, "", ""⟩ := by
  decide +kernel

/-- On the small inventory a lock makes the difference for two requests of different sizes. -/
theorem creates_deliver_sizes_rivals :
    (⟨{}, ⟨true, 0⟩⟩ : Controller).DeliversSizes { platform := .small } (.legacy "" "")
        ⟨.datastore, "ds"⟩ "volume" [rival 1, rival 2] ∧
      ¬ unserialized.DeliversSizes { platform := .small } (.legacy "" "") ⟨.datastore, "ds"⟩ "volume"
        [rival 1, rival 2] := by
  have hLocks : ({ platform := .small } : World Inventory).locks.table = [] := rfl
  have hFaultless : ({ platform := .small } : World Inventory).platform.Faultless :=
    Inventory.faultless_small
  have hWants : ∀ r ∈ [rival 1, rival 2], r.Wants "volume" ⟨.datastore, "ds"⟩ (.legacy "" "") := by
    intro r hr
    rcases List.mem_pair.1 hr with rfl | rfl
    · exact CreateVolumeRequest.wants_of_order order_rival_one
    · exact CreateVolumeRequest.wants_of_order order_rival_two
  refine ⟨(creates_deliver_sizes_iff _ hLocks hFaultless hWants).2 (.inl rfl), fun hDelivers => ?_⟩
  rcases (creates_deliver_sizes_iff _ hLocks hFaultless hWants).1 hDelivers with hStore | hFree | hSame
  · cases hStore
  · rcases hFree ⟨"vc:443", "dc", 0⟩ (by decide +kernel) with hTaken | hNoPool
    · exact hTaken (by decide +kernel)
    · exact hNoPool Inventory.offers_small
  · have hSizes := hSame (rival 1) (by simp) (rival 2) (by simp) _ _ order_rival_one order_rival_two
    cases hSizes

set_option maxRecDepth 10000 in
/-- Of two requests at once, for one gibibyte and for two, both succeed with one. -/
theorem creates_deliver_sizes_fails_for_rivals :
    ∃ s response, System.Runs Inventory.calm (System.start { platform := .small }
        (unserialized.creates [(.background, rival 1), (.background, rival 2)])) s ∧
      s.result? 0 = some (.ok response) ∧ s.result? 1 = some (.ok response) ∧
      response.volume.capacityBytes = 1073741824 ∧ Capacity.granted (rival 2).required = 2147483648 := by
  have hAdmits : ∀ job ∈ unserialized.creates [(.background, rival 1), (.background, rival 2)],
      Inventory.calm.Admits job.1 := by
    simp [Controller.creates, Surroundings.admits_background]
  obtain ⟨s, hRuns, -, hResults⟩ := Lab.exists_runs 100 { platform := .small }
    (unserialized.creates [(.background, rival 1), (.background, rival 2)]) hAdmits
  let disk : Disk := ⟨Inventory.idText 1, "volume", 1024, .datastore "ds",
    .file (Inventory.backingPath "ds" (Inventory.idText 1))⟩
  let response : CreateVolumeResponse :=
    ⟨⟨Inventory.idText 1, 1073741824, disk.attributes (Endpoint.ofServer "vc" 443) "dc"⟩⟩
  have hFirst := hResults 0 (.ok response) (by decide +kernel)
  have hSecond := hResults 1 (.ok response) (by decide +kernel)
  exact ⟨s, response, hRuns, hFirst, hSecond, rfl, by decide⟩

end VolumeController
