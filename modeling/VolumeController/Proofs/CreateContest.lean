import VolumeController.Proofs.CreateRequest
import VolumeController.Proofs.SerializedCreates
/-! Create requests for one name, pool and placement side by side, in calm. Whatever happens, a request
ends with the first disk of the name or is refused because of its size; but the size is compared only
when the disk was there before the request looked for it. -/

namespace VolumeController

open Rules

/-- A create request for a name, a pool and a placement, if it is well formed at all. -/
structure CreateVolumeRequest.Wants (request : CreateVolumeRequest) (name : String) (pool : Pool)
    (placement : Placement) : Prop where
  name : request.name = name
  pool : ∀ order, Controller.order request = .ok order → order.pool = pool
  placement : ∀ order, Controller.order request = .ok order → request.placement order = placement

/-- A well-formed request wants what it orders. -/
theorem CreateVolumeRequest.wants_of_order {request : CreateVolumeRequest} {order : Controller.CreateOrder}
    (hOrder : Controller.order request = .ok order) :
    request.Wants request.name order.pool (request.placement order) where
  name := rfl
  pool := fun order' hOrder' => by rw [Except.ok.inj (hOrder.symm.trans hOrder')]
  placement := fun order' hOrder' => by rw [Except.ok.inj (hOrder.symm.trans hOrder')]

/-- What a contest is about: the disks of one name in one pool at a place, those that were there before,
the sizes asked for, and the layout that it takes place in. -/
structure Contest where
  place : Nat
  pool : Pool
  name : String
  before : List Disk
  sizes : UInt64 → Prop
  layout : Inventory

namespace Contest

variable (t : Contest)

/-- The disks of the name. -/
def disks (w : World Inventory) : List Disk :=
  w.platform.named t.place t.pool t.name

/-- What holds at every moment: disks are only added, each of a size that was asked for, and what a
thread knows to be the first disk stays the first. -/
structure Holds (w : World Inventory) (stages : List (Stage (Option Disk))) : Prop where
  faultless : w.platform.Faultless
  layout : w.platform.layout = t.layout
  added : ∃ added, t.disks w = t.before ++ added ∧
    ∀ disk ∈ added, t.sizes disk.capacityMb ∧ t.layout.Offers t.place t.pool
  first : ∀ (i : Nat) stage disk, stages[i]? = some stage → stage.known = some disk →
    (t.disks w).head? = some disk

variable {t} {w w' : World Inventory} {stages : List (Stage (Option Disk))} {number : Nat}

theorem Holds.same (h : t.Holds w stages) (hDisks : t.disks w' = t.disks w)
    (hFaultless : w'.platform.Faultless) (hLayout : w'.platform.layout = w.platform.layout) :
    t.Holds w' stages := by
  refine ⟨hFaultless, hLayout.trans h.layout, ?_, ?_⟩
  · rw [hDisks]
    exact h.added
  · rw [hDisks]
    exact h.first

/-- A thread learns which disk is the first. -/
theorem Holds.learn (h : t.Holds w stages) {grip : Grip} {disk : Disk}
    (hFirst : (t.disks w).head? = some disk) :
    t.Holds w (stages.set number ⟨grip, some disk⟩) := by
  refine ⟨h.faultless, h.layout, h.added, ?_⟩
  intro i stage disk' hStage hKnown
  rcases getElem?_set_cases hStage with ⟨-, rfl⟩ | ⟨-, hStage⟩
  · exact hFirst.trans hKnown
  · exact h.first i stage disk' hStage hKnown

/-- Another disk of the name does not change which one is the first. -/
theorem Holds.add (h : t.Holds w stages) {disk : Disk} (hAdd : t.disks w' = t.disks w ++ [disk])
    (hSize : t.sizes disk.capacityMb) (hOffers : t.layout.Offers t.place t.pool)
    (hFaultless : w'.platform.Faultless) (hLayout : w'.platform.layout = w.platform.layout) :
    t.Holds w' stages := by
  refine ⟨hFaultless, hLayout.trans h.layout, ?_, ?_⟩
  · obtain ⟨added, hDisks, hAdded⟩ := h.added
    refine ⟨added ++ [disk], by rw [hAdd, hDisks, List.append_assoc], ?_⟩
    intro disk' hDisk
    rcases List.mem_append.1 hDisk with hOld | hNew
    · exact hAdded disk' hOld
    · rw [List.mem_singleton.1 hNew]
      exact ⟨hSize, hOffers⟩
  · intro i stage disk' hStage hKnown
    rw [hAdd, List.head?_append, h.first i stage disk' hStage hKnown]
    rfl

theorem before_eq_nil (h : t.Holds w stages) (hNone : t.disks w = []) : t.before = [] := by
  obtain ⟨added, hDisks, -⟩ := h.added
  exact (List.append_eq_nil_iff.1 (hDisks.symm.trans hNone)).1

/-- The rules of a contest. -/
abbrev rules (t : Contest) : Rules Inventory (Stage (Option Disk)) :=
  underLocks False t.Holds

theorem ignoresLocks (t : Contest) : IgnoresLocks t.Holds fun _ => True where
  locks := fun _ _ _ h => ⟨h.faultless, h.layout, h.added, h.first⟩
  grip := by
    intro w stages number grip grip' known _ hThread h
    refine ⟨h.faultless, h.layout, h.added, ?_⟩
    intro i stage disk hStage hKnown
    rcases getElem?_set_cases hStage with ⟨-, rfl⟩ | ⟨-, hStage⟩
    · exact h.first number _ disk hThread hKnown
    · exact h.first i stage disk hStage hKnown

theorem calm (t : Contest) : t.rules.Calm t.layout where
  aborts := id
  faultless := fun _ _ h => h.2.faultless
  layout := fun _ _ h => h.2.layout
  records := ⟨fun _ _ _ h => ⟨h.1, h.2.faultless, h.2.layout, h.2.added, h.2.first⟩,
    fun _ _ _ h => ⟨h.1, h.2.faultless, h.2.layout, h.2.added, h.2.first⟩⟩
  start := by
    intro w stages c _ h
    have hDisks : t.disks (w.start c).2 = t.disks w :=
      congrArg (List.filter _) (Inventory.disksAt_start w.platform c t.place)
    exact ⟨h.1, h.2.same hDisks (h.2.faultless.start c) (Inventory.layout_start w.platform c)⟩

theorem Holds.start (h : t.Holds w stages) (c : Call) : t.Holds (w.start c).2 stages :=
  h.same (congrArg (List.filter _) (Inventory.disksAt_start w.platform c t.place))
    (h.faultless.start c) (Inventory.layout_start w.platform c)

variable {grip : Grip} {known : Option Disk} {operation : String} {dc : Datacenter}

/-- Looking the name up. -/
theorem callFind (hPlace : dc.place = t.place)
    {goal : Except Error (Call.findByName dc t.pool t.name).Reply → Stage (Option Disk) → Prop}
    (hFailure : ∀ failure, t.before = [] → ¬ t.layout.Offers t.place t.pool →
      goal (.ok (.error failure)) ⟨grip, known⟩)
    (hNone : known = none → t.before = [] → goal (.ok (.ok none)) ⟨grip, none⟩)
    (hSome : ∀ disk, (t.before = [] → t.sizes disk.capacityMb ∧ t.layout.Offers t.place t.pool) →
      goal (.ok (.ok (some disk))) ⟨grip, some disk⟩) :
    t.rules.Follows number goal (Operation.call operation (.findByName dc t.pool t.name)).run
      ⟨grip, known⟩ := by
  refine Follows.callInPlace (fun w stages h => ⟨h.1, h.2.start _⟩) False.elim ?_
  rintro w started stages ⟨hLocks, hHolds⟩ hThread
  have hFinish := (calm t).finish (c := .findByName dc t.pool t.name) rfl started ⟨hLocks, hHolds⟩
  have hDisks : t.disks (w.finish (.findByName dc t.pool t.name) started).2 = t.disks w :=
    (Inventory.effect_finish w.platform _ started.ticket).named_eq rfl (by simp [Call.kind])
  have hStay : stages.set number ⟨grip, known⟩ = stages := set_of_getElem? hThread
  cases hReply : (w.finish (.findByName dc t.pool t.name) started).1 with
  | error failure =>
      have hMissing := hHolds.faultless.state?_eq_none_of_findByName started.ticket hReply
      obtain ⟨hNothing, hNoPool⟩ := Inventory.nothing_of_state?_eq_none hMissing
      rw [hPlace] at hNothing hNoPool
      refine ⟨⟨grip, known⟩, by rwa [hStay], hFailure failure (before_eq_nil hHolds (hNothing _ _)) ?_⟩
      rw [← hHolds.layout, Inventory.offers_layout]
      exact hNoPool t.pool
  | ok found =>
      have hFound : found = (t.disks w).head? := by
        rw [disks, ← hPlace]
        exact Inventory.head?_named_of_finish started.ticket hReply
      cases found with
      | none =>
          have hVacant : t.disks w = [] := List.head?_eq_none_iff.1 hFound.symm
          cases known with
          | none => exact ⟨⟨grip, none⟩, by rwa [hStay], hNone rfl (before_eq_nil hHolds hVacant)⟩
          | some disk =>
              have hFirst := hHolds.first number _ disk hThread rfl
              rw [hVacant] at hFirst
              cases hFirst
      | some disk =>
          refine ⟨⟨grip, some disk⟩, ⟨?_, ?_⟩, hSome disk fun hBefore => ?_⟩
          · rw [Stage.map_grip_set hThread]
            exact hLocks
          · exact hFinish.2.learn (hDisks ▸ hFound.symm)
          · obtain ⟨added, hAll, hAdded⟩ := hHolds.added
            rw [hBefore, List.nil_append] at hAll
            exact hAdded disk (hAll ▸ List.mem_of_head? hFound.symm)

/-- Creating a disk of the name. It is the first one or comes after another. -/
theorem callCreate (hPlace : dc.place = t.place) {sizeMb : UInt64} (hSize : t.sizes sizeMb)
    {goal : Except Error (Call.createDisk dc t.pool t.name sizeMb).Reply → Stage (Option Disk) → Prop}
    (hFailure : ∀ failure, ¬ t.layout.Offers t.place t.pool → goal (.ok (.error failure)) ⟨grip, known⟩)
    (hDone : ∀ first, goal (.ok (.ok ())) ⟨grip, some first⟩) :
    t.rules.Follows number goal (Operation.call operation (.createDisk dc t.pool t.name sizeMb)).run
      ⟨grip, known⟩ := by
  refine Follows.callInPlace (fun w stages h => ⟨h.1, h.2.start _⟩) False.elim ?_
  rintro w started stages ⟨hLocks, hHolds⟩ hThread
  have hFaultless := hHolds.faultless.finish (.createDisk dc t.pool t.name sizeMb) started.ticket
  have hLayout := Inventory.layout_finish w.platform (.createDisk dc t.pool t.name sizeMb) started.ticket
  rcases Inventory.finish_createDisk w.platform dc t.pool t.name sizeMb started.ticket with
    ⟨failure, hReply, hSame⟩ | ⟨hOffers, hReply, disk, hDisk, hAdd⟩
  · have hNoPool : ¬ t.layout.Offers t.place t.pool := by
      rw [← hHolds.layout, Inventory.offers_layout, ← hPlace]
      exact hHolds.faultless.not_offers_of_finish started.ticket hReply
    have hDisks : t.disks (w.finish (.createDisk dc t.pool t.name sizeMb) started).2 = t.disks w :=
      congrArg (fun inv => Inventory.named inv t.place t.pool t.name) hSame
    refine ⟨⟨grip, known⟩, ?_, ?_⟩
    · rw [set_of_getElem? hThread]
      exact ⟨hLocks, hHolds.same hDisks hFaultless hLayout⟩
    · have hGoal := hFailure failure hNoPool
      rwa [← hReply] at hGoal
  · rw [hPlace] at hAdd hOffers
    rw [← Inventory.offers_layout, hHolds.layout] at hOffers
    have hDisks : t.disks (w.finish (.createDisk dc t.pool t.name sizeMb) started).2 =
        t.disks w ++ [disk] := hAdd
    have hAdded : t.Holds (w.finish (.createDisk dc t.pool t.name sizeMb) started).2 stages :=
      hHolds.add hDisks (hDisk ▸ hSize) hOffers hFaultless hLayout
    have hSome : t.disks (w.finish (.createDisk dc t.pool t.name sizeMb) started).2 ≠ [] := by
      simp [hDisks]
    obtain ⟨first, hFirst⟩ := Option.isSome_iff_exists.1 (List.isSome_head?.2 hSome)
    refine ⟨⟨grip, some first⟩, ⟨?_, hAdded.learn hFirst⟩, ?_⟩
    · rw [Stage.map_grip_set hThread]
      exact hLocks
    · have hGoal := hDone first
      rwa [← hReply] at hGoal

/-- How a create of a size may end: with the first disk, refused because of its size, or without a pool
to create a disk in. The first disk has the size, or it was created in the contest. -/
def Ends (t : Contest) (sizeMb : UInt64) : Except Error CreateOutcome → Option Disk → Prop
  | .ok outcome, known => known = some outcome.disk ∧ (outcome.disk.capacityMb = sizeMb ∨
      t.before = [] ∧ t.sizes outcome.disk.capacityMb ∧ t.layout.Offers t.place t.pool)
  | .error e, known =>
    (∃ disk, known = some disk ∧ disk.capacityMb ≠ sizeMb ∧
      e = (Cause.sizeDiffers disk.capacityMb.toNat sizeMb.toNat).toError) ∨
    t.before = [] ∧ ¬ t.layout.Offers t.place t.pool

/-- A create without the lock of its name. -/
theorem createUnlocked (hPlace : dc.place = t.place) {sizeMb : UInt64} (hSize : t.sizes sizeMb) :
    t.rules.Follows number (fun result g => g.grip = grip ∧ t.Ends sizeMb result g.known)
      (VolumeStore.createUnlocked dc t.pool t.name sizeMb).run ⟨grip, none⟩ := by
  have hRecords := t.calm.records
  refine Follows.bindOperation (callFind hPlace ?_ ?_ ?_)
  · exact fun failure hBefore hNoPool => Follows.reject hRecords ⟨rfl, .inr ⟨hBefore, hNoPool⟩⟩
  · intro _ hBefore
    refine Follows.bindOperation (callCreate hPlace hSize ?_ ?_)
    · exact fun failure hNoPool => Follows.reject hRecords ⟨rfl, .inr ⟨hBefore, hNoPool⟩⟩
    · intro first
      refine Follows.bindOperation (callFind hPlace ?_ ?_ ?_)
      · exact fun failure _ hNoPool => Follows.reject hRecords ⟨rfl, .inr ⟨hBefore, hNoPool⟩⟩
      · simp
      · exact fun disk hAdded => Follows.afterNote hRecords
          (Follows.pure ⟨rfl, rfl, .inr ⟨hBefore, hAdded hBefore⟩⟩)
  · intro disk _
    refine Follows.afterNote hRecords ?_
    split
    · rename_i hDiffers
      exact Follows.reject hRecords ⟨rfl, .inl ⟨disk, rfl, hDiffers, rfl⟩⟩
    · rename_i hSame
      exact Follows.pure ⟨rfl, rfl, .inl (Decidable.not_not.1 hSame)⟩

/-- A create with or without the lock of its name. -/
theorem createOrGet (store : VolumeStore) (hPlace : dc.place = t.place) {sizeMb : UInt64}
    (hSize : t.sizes sizeMb) :
    t.rules.Follows number (fun result g => g.grip = .away ∧ t.Ends sizeMb result g.known)
      (store.createOrGet dc t.pool t.name sizeMb).run ⟨.away, none⟩ := by
  unfold VolumeStore.createOrGet
  split
  · refine Follows.locked (t.Ends sizeMb) (ignoresLocks t) trivial False.elim fun lock => ?_
    exact (createUnlocked hPlace hSize).mono fun result g h => ⟨h.1, trivial, h.2⟩
  · exact createUnlocked hPlace hSize

/-- How a create request may end. Nothing is said of one that is malformed or has no site. -/
def Settles (t : Contest) (placement : Placement) (request : CreateVolumeRequest) :
    Except Error CreateVolumeResponse → Option Disk → Prop
  | .ok response, known => ∃ order site disk, Controller.order request = .ok order ∧
      t.layout.locate placement = .ok site ∧ Controller.report site disk = .ok response ∧
      known = some disk ∧ (disk.capacityMb = order.sizeMb ∨
        t.before = [] ∧ t.sizes disk.capacityMb ∧ t.layout.Offers t.place t.pool)
  | .error e, known => ∀ order site, Controller.order request = .ok order →
      t.layout.locate placement = .ok site → t.Ends order.sizeMb (.error e) known

/-- A create request in a contest. -/
theorem createVolume (c : Controller) {placement : Placement} {request : CreateVolumeRequest}
    (hWants : request.Wants t.name t.pool placement)
    (hLocate : ∀ site, t.layout.locate placement = .ok site → site.datacenter.place = t.place)
    (hSize : ∀ order, Controller.order request = .ok order → t.sizes order.sizeMb)
    (hReportable : ∀ sizeMb, t.sizes sizeMb → ∃ required, Capacity.requestedMb required = .ok sizeMb) :
    t.rules.Follows number (fun result g => t.Settles placement request result g.known)
      (c.createVolume request).run ⟨.away, none⟩ := by
  refine Follows.createVolume t.calm c request ?_ ?_ ?_
  · intro cause hCause order site hOrder
    rw [hCause] at hOrder
    cases hOrder
  · intro order e hOrder hSite order' site' _ hSite'
    rw [hWants.placement order hOrder, hSite'] at hSite
    cases hSite
  · intro order site hOrder hSite
    rw [hWants.placement order hOrder] at hSite
    rw [hWants.pool order hOrder, hWants.name]
    refine (createOrGet c.store (hLocate site hSite) (hSize order hOrder)).mono ?_
    rintro (e | outcome) g ⟨-, hEnds⟩
    · intro order' site' hOrder' _
      obtain rfl := Except.ok.inj (hOrder.symm.trans hOrder')
      exact hEnds
    · have hAccepted : t.sizes outcome.disk.capacityMb := by
        rcases hEnds.2 with hOwn | ⟨-, hAsked, -⟩
        · rw [hOwn]
          exact hSize order hOrder
        · exact hAsked
      obtain ⟨required, hRequired⟩ := hReportable _ hAccepted
      obtain ⟨response, hReport, -⟩ := Controller.report_of_requestedMb site hRequired
      show t.Settles placement request (Controller.report site outcome.disk) g.known
      rw [hReport]
      exact ⟨order, site, outcome.disk, hOrder, hSite, hReport, hEnds⟩

theorem covers (t : Contest) : t.rules.Covers Inventory.calm where
  aborts := id
  clock := fun _ _ _ _ h => ⟨h.1, h.2.faultless, h.2.layout, h.2.added, h.2.first⟩
  cancel := fun _ _ _ h => ⟨h.1, h.2.faultless, h.2.layout, h.2.added, h.2.first⟩
  command := by
    intro w stages c hCommand h
    have hDisks : t.disks { w with platform := (Bench.obey c w.platform).2 } = t.disks w :=
      congrArg (List.filter _) (Inventory.disksAt_obey w.platform hCommand.1 t.place)
    exact ⟨h.1, h.2.same hDisks (h.2.faultless.obey hCommand.2) (Inventory.layout_obey w.platform c)⟩

/-- The contest of requests that begin in a world. -/
def of (w : World Inventory) (place : Nat) (pool : Pool) (name : String)
    (requests : List CreateVolumeRequest) : Contest where
  place := place
  pool := pool
  name := name
  before := w.platform.named place pool name
  sizes := fun sizeMb => ∃ request ∈ requests, ∃ order,
    Controller.order request = .ok order ∧ order.sizeMb = sizeMb
  layout := w.platform.layout

end Contest

/-- A create request of a watched disk: a success has the granted size. -/
theorem Watch.createVolume {t : Watch} (hIs : t.calm) (hBound : 1 ≤ t.bound) {number : Nat}
    {c : Controller} (hStore : c.store.serializes = true) (hTable : c.store.table = t.lock.table)
    {placement : Placement} {request : CreateVolumeRequest}
    (hWants : request.Wants t.lock.name t.pool placement)
    (hLocate : ∀ site, t.layout.locate placement = .ok site → site.datacenter.place = t.place) :
    (underLocks False t.Holds).Follows number
      (fun result _ => ∀ response, result = .ok response →
        response.volume.capacityBytes.toInt = (Capacity.granted request.required : Int))
      (c.createVolume request).run ⟨.away, .blank⟩ := by
  have hCalm : (underLocks False t.Holds).Calm t.layout :=
    ⟨id, fun _ _ h => (h.2.calm hIs).1, fun _ _ h => (h.2.calm hIs).2, t.ignoresRecords False,
      fun _ _ call hReads h => ⟨h.1, h.2.start (by cases call <;> first | rfl | cases hReads)⟩⟩
  refine Follows.createVolume hCalm c request (by simp) (by simp) ?_
  intro order site hOrder hSite
  rw [hWants.placement order hOrder] at hSite
  refine (createOrGet hStore hTable hBound False.elim _ _ _ _).mono ?_
  rintro (e | outcome) g ⟨-, -, hSizes⟩
  · rintro response ⟨⟩
  · intro response hResponse
    have hSize := hSizes (hLocate site hSite) (hWants.pool order hOrder) hWants.name outcome rfl
    have hRequested := Controller.requestedMb_of_order hOrder
    rw [← hSize] at hRequested
    obtain ⟨response', hReport, hGranted⟩ := Controller.report_of_requestedMb site hRequested
    obtain rfl := Except.ok.inj (hReport.symm.trans hResponse)
    exact hGranted

/-- The create requests of a controller, side by side. -/
def Controller.creates (c : Controller) (jobs : List (Context × CreateVolumeRequest)) :
    List (Context × Procedure (Except Error CreateVolumeResponse)) :=
  jobs.map fun (ctx, request) => (ctx, (c.createVolume request).run)

section

variable {c : Controller} {jobs : List (Context × CreateVolumeRequest)} {w : World Inventory}
  {s : System Inventory (Except Error CreateVolumeResponse)} {placement : Placement} {place : Nat}
  {pool : Pool} {name : String} {number : Nat} {job : Context × CreateVolumeRequest}
  {result : Except Error CreateVolumeResponse}

/-- Where every run of a contest leads. -/
theorem Contest.runs (hLocks : w.locks.table = []) (hFaultless : w.platform.Faultless)
    (hWants : ∀ job ∈ jobs, job.2.Wants name pool placement)
    (hPlace : ∀ site, w.platform.layout.locate placement = .ok site → site.datacenter.place = place)
    (hRuns : System.Runs Inventory.calm (System.start w (c.creates jobs)) s)
    (hJob : jobs[number]? = some job) (hResult : s.result? number = some result) :
    ∃ stages stage, (Contest.of w place pool name (jobs.map Prod.snd)).Holds s.world stages ∧
      stages[number]? = some stage ∧
      (Contest.of w place pool name (jobs.map Prod.snd)).Settles placement job.2 result stage.known := by
  let t := Contest.of w place pool name (jobs.map Prod.snd)
  have hStart : (System.start w (c.creates jobs)).Follows t.rules
      (fun number result g => ∀ job, jobs[number]? = some job → t.Settles placement job.2 result g.known)
      (List.replicate (c.creates jobs).length ⟨.away, none⟩) := by
    refine .startTogether ⟨.replicate hLocks _ _, hFaultless, rfl, ⟨[], by simp [t, disks, of]⟩, ?_⟩ ?_
    · intro i stage disk hStage hKnown
      obtain rfl := List.eq_of_mem_replicate (List.mem_of_getElem? hStage)
      cases hKnown
    · intro number job hJob
      obtain ⟨job, hRequest, rfl⟩ := Option.map_eq_some_iff.1 (List.getElem?_map ▸ hJob)
      have hMember : job.2 ∈ jobs.map Prod.snd :=
        List.mem_map_of_mem (List.mem_of_getElem? hRequest)
      refine (t.createVolume c (hWants job (List.mem_of_getElem? hRequest)) hPlace ?_ ?_).mono ?_
      · exact fun order hOrder => ⟨job.2, hMember, order, hOrder, rfl⟩
      · rintro sizeMb ⟨request, -, order, hOrder, rfl⟩
        exact ⟨_, Controller.requestedMb_of_order hOrder⟩
      · intro result g hSettles job hJob
        obtain rfl := Option.some.inj (hRequest.symm.trans hJob)
        exact hSettles
  obtain ⟨stages, hFollows⟩ := hStart.runs (Contest.covers t) hRuns
  obtain ⟨stage, hStage, hGoal⟩ := hFollows.goal_of_result hResult
  exact ⟨stages, stage, hFollows.invariant.2, hStage, hGoal job hJob⟩

/-- Serialized requests: every success has the granted size. -/
theorem Watch.createVolume_runs (hStore : c.store.serializes = true) (hLocks : w.locks.table = [])
    (hFaultless : w.platform.Faultless) (hWants : ∀ job ∈ jobs, job.2.Wants name pool placement)
    (hPlace : ∀ site, w.platform.layout.locate placement = .ok site → site.datacenter.place = place)
    (hRuns : System.Runs Inventory.calm (System.start w (c.creates jobs)) s)
    (hJob : jobs[number]? = some job) (hResult : s.result? number = some result) :
    ∀ response, result = .ok response →
      response.volume.capacityBytes.toInt = (Capacity.granted job.2.required : Int) := by
  let t : Watch := ⟨⟨c.store.table, name⟩, place, pool, max 1 (w.platform.named place pool name).length,
    w.calls.countP (·.creates place pool name), True, w.platform.layout⟩
  have hStart : (System.start w (c.creates jobs)).Follows (underLocks Inventory.calm.aborts t.Holds)
      (fun number result _ => ∀ job, jobs[number]? = some job → ∀ response, result = .ok response →
        response.volume.capacityBytes.toInt = (Capacity.granted job.2.required : Int))
      (List.replicate (c.creates jobs).length ⟨.away, .blank⟩) := by
    refine .startTogether (t.invariant_start hLocks (Nat.le_max_right _ _) rfl
      (fun _ => ⟨hFaultless, rfl⟩) _) ?_
    intro number job hJob
    obtain ⟨job, hRequest, rfl⟩ := Option.map_eq_some_iff.1 (List.getElem?_map ▸ hJob)
    refine (Watch.createVolume (t := t) trivial (Nat.le_max_left _ _) hStore rfl
      (hWants job (List.mem_of_getElem? hRequest)) hPlace).mono ?_
    intro result g hGranted job hJob
    obtain rfl := Option.some.inj (hRequest.symm.trans hJob)
    exact hGranted
  obtain ⟨stages, hFollows⟩ := hStart.runs
    (Watch.covers (fun _ h => And.left h) fun _ _ h => And.right h) hRuns
  obtain ⟨stage, -, hGoal⟩ := hFollows.goal_of_result hResult
  exact hGoal job hJob

end

end VolumeController
