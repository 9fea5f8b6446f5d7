import VolumeController.Proofs.Capacity
import VolumeController.Proofs.Placement
/-! Create requests: what the controller does around the create of the volume store. The order and the
site are settled before, the report comes after, and none of this depends on other threads. -/

namespace VolumeController

open Rules

variable {Γ : Type} {layout : Inventory}

theorem bind_eq_ok {ε α β : Type} {x : Except ε α} {f : α → Except ε β} {b : β}
    (h : (x >>= f) = .ok b) : ∃ a, x = .ok a ∧ f a = .ok b := by
  cases x with
  | error e => cases h
  | ok a => exact ⟨a, rfl, h⟩

/-- The bytes that a create request asks for. -/
def CreateVolumeRequest.required (request : CreateVolumeRequest) : Int64 :=
  (request.capacityRange.map (·.requiredBytes)).getD 0

/-- Where a well-formed create request wants its volume. -/
def CreateVolumeRequest.placement (request : CreateVolumeRequest) (order : Controller.CreateOrder) :
    Placement :=
  .of request.accessibilityRequirements order.zone order.region

/-- A request for a volume of a size on the only datastore. -/
def CreateVolumeRequest.single (gibibytes : Int64) : CreateVolumeRequest where
  name := "volume"
  capacityRange := some ⟨gibibytes * 1073741824, 0⟩
  volumeCapabilities := []
  parameters := .ofList [(Attribute.parentType, "Datastore"), (Attribute.parentName, "ds")]
  accessibilityRequirements := none

namespace Controller

/-- The size of an accepted order is the one that the request is granted. -/
theorem requestedMb_of_order {request : CreateVolumeRequest} {order : CreateOrder}
    (h : Controller.order request = .ok order) :
    Capacity.requestedMb request.required = .ok order.sizeMb := by
  unfold Controller.order at h
  simp only at h
  split at h
  · cases h
  · split at h
    · cases h
    · obtain ⟨kind, -, h⟩ := bind_eq_ok h
      obtain ⟨name, -, h⟩ := bind_eq_ok h
      obtain ⟨sizeMb, hSize, h⟩ := bind_eq_ok h
      cases h
      exact hSize

/-- What is reported of a disk that was created or found. -/
def report (site : Site) (disk : Disk) : Except Error CreateVolumeResponse :=
  ((Volume.ofDisk disk site.endpoint site.datacenter.name).map CreateVolumeResponse.mk).mapError
    Cause.toError

/-- What follows the create of the volume store. -/
def conclude (request : CreateVolumeRequest) (site : Site) (outcome : CreateOutcome) :
    Operation CreateVolumeResponse := do
  if let .existing disk := outcome then Operation.note (.createReused request.name disk.id)
  let volume ← Operation.ofCause (Volume.ofDisk outcome.disk site.endpoint site.datacenter.name)
  return ⟨volume⟩

/-- The report of a disk of an accepted size. -/
theorem report_of_requestedMb {required : Int64} {disk : Disk} (site : Site)
    (h : Capacity.requestedMb required = .ok disk.capacityMb) :
    ∃ response, report site disk = .ok response ∧
      response.volume.capacityBytes.toInt = Capacity.granted required := by
  obtain ⟨bytes, hBytes, hGranted⟩ := Capacity.bytes?_of_requestedMb h
  refine ⟨⟨⟨disk.id, bytes, disk.attributes site.endpoint site.datacenter.name⟩⟩, ?_, hGranted⟩
  rw [report, Volume.ofDisk_of_bytes? hBytes]
  rfl

end Controller

/-- A create request beside other threads: an invariant that is kept by the create of the store is kept
by the request. -/
theorem Rules.Follows.createVolume {R : Rules Inventory Γ} (hR : R.Calm layout) {number : Nat} {stage : Γ}
    {goal : Except Error CreateVolumeResponse → Γ → Prop} (c : Controller)
    (request : CreateVolumeRequest)
    (hMalformed : ∀ cause, Controller.order request = .error cause → goal (.error cause.toError) stage)
    (hUnresolved : ∀ order e, Controller.order request = .ok order →
      layout.locate (request.placement order) = .error e → goal (.error e) stage)
    (hCreate : ∀ order site, Controller.order request = .ok order →
      layout.locate (request.placement order) = .ok site →
      R.Follows number
        (fun result g => goal (result >>= fun outcome => Controller.report site outcome.disk) g)
        (c.store.createOrGet site.datacenter order.pool request.name order.sizeMb).run stage) :
    R.Follows number goal (c.createVolume request).run stage := by
  have hRecords := hR.records
  refine Follows.instrumented hRecords (Follows.bindOperation (Follows.ofCause hRecords ?_ hMalformed))
  intro order hOrder
  refine Follows.afterNote hRecords (Follows.bindOperation ?_)
  refine (Consults.resolve c.labels (request.placement order)).follows hR ?_
  cases hSite : layout.locate (request.placement order) with
  | error e => exact hUnresolved order e hOrder hSite
  | ok site =>
      refine Follows.bindOperation ((hCreate order site hOrder hSite).mono ?_)
      rintro (e | outcome) g hGoal
      · exact hGoal
      · have hVolume : R.Follows number goal
            (do
              let volume ← Operation.ofCause
                (Volume.ofDisk outcome.disk site.endpoint site.datacenter.name)
              return ⟨volume⟩ : Operation CreateVolumeResponse).run g := by
          refine Follows.bindOperation (Follows.ofCause hRecords ?_ ?_)
          · intro volume hVolume
            change goal (Controller.report site outcome.disk) g at hGoal
            rw [Controller.report, hVolume] at hGoal
            exact hGoal
          · intro cause hCause
            change goal (Controller.report site outcome.disk) g at hGoal
            rw [Controller.report, hCause] at hGoal
            exact hGoal
        cases outcome with
        | existing disk => exact Follows.afterNote hRecords hVolume
        | created disk => exact hVolume

/-! A create request alone. -/

namespace Solo

variable {number : Nat} {s : Scene}

/-- Counting the outcome of an operation. -/
theorem instrumented {α : Type} {name : String} {op : Operation α} {result : Except Error α} {s' : Scene}
    (h : Solo number op.run s (.done result) s') :
    Solo number (Controller.instrumented name op).run s (.done result) s' :=
  bind_done h (.act (.refl _ s'))

theorem ofCause {α : Type} (result : Except Cause α) :
    Solo number (Operation.ofCause result).run s (.done (result.mapError Cause.toError)) s := by
  cases result with
  | ok a => exact .refl _ s
  | error cause => exact .reject cause

theorem conclude (request : CreateVolumeRequest) (site : Site) (outcome : CreateOutcome) :
    Solo number (Controller.conclude request site outcome).run s
      (.done (Controller.report site outcome.disk)) s := by
  have hVolume : Solo number
      (do
        let volume ← Operation.ofCause
          (Volume.ofDisk outcome.disk site.endpoint site.datacenter.name)
        return ⟨volume⟩ : Operation CreateVolumeResponse).run s
      (.done (Controller.report site outcome.disk)) s := by
    have hReport : Solo number (Operation.ofCause
        (Volume.ofDisk outcome.disk site.endpoint site.datacenter.name)).run s
        (.done ((Volume.ofDisk outcome.disk site.endpoint site.datacenter.name).mapError Cause.toError)) s :=
      ofCause _
    rw [Controller.report]
    cases hResult : Volume.ofDisk outcome.disk site.endpoint site.datacenter.name with
    | ok volume =>
        rw [hResult] at hReport
        exact bindOperation hReport (.refl _ s)
    | error cause =>
        rw [hResult] at hReport
        exact bindError hReport
  cases outcome with
  | existing disk => exact .afterNote hVolume
  | created disk => exact hVolume

end Solo

/-- A create request from the create of the volume store on. -/
def Controller.fromCreate (request : CreateVolumeRequest) (site : Site) (op : Operation CreateOutcome) :
    Operation CreateVolumeResponse :=
  instrumented "CreateVolume" (op >>= conclude request site)

namespace Solo

variable {number : Nat} {s s' : Scene} {request : CreateVolumeRequest} {site : Site}
  {op op' : Operation CreateOutcome}

/-- A request that is well formed and has a site gets as far as the store. -/
theorem createVolume (c : Controller) {order : Controller.CreateOrder}
    (hOrder : Controller.order request = .ok order)
    (hSite : s.inventory.layout.locate (request.placement order) = .ok site) :
    Solo number (c.createVolume request).run s
      (Controller.fromCreate request site
        (c.store.createOrGet site.datacenter order.pool request.name order.sizeMb)).run s := by
  have hResolve : Solo number ((request.placement order).resolve c.labels).run s
      (.done (s.inventory.layout.locate (request.placement order))) s :=
    (Consults.resolve c.labels (request.placement order)).solo rfl
  rw [hSite] at hResolve
  have hBefore : Solo number (c.createVolumeUncounted request).run s
      (c.store.createOrGet site.datacenter order.pool request.name order.sizeMb >>=
        Controller.conclude request site).run s := by
    unfold Controller.createVolumeUncounted
    rw [hOrder]
    exact bindOperation (.refl _ s) (.afterNote (bindOperation hResolve (.refl _ s)))
  exact hBefore.bind _

theorem fromCreate (h : Solo number op.run s op'.run s') :
    Solo number (Controller.fromCreate request site op).run s
      (Controller.fromCreate request site op').run s' :=
  (h.bind _).bind _

theorem fromCreate_ok {outcome : CreateOutcome} (h : Solo number op.run s (.done (.ok outcome)) s') :
    Solo number (Controller.fromCreate request site op).run s
      (.done (Controller.report site outcome.disk)) s' :=
  instrumented (bindOperation h (conclude request site outcome))

theorem fromCreate_error {e : Error} (h : Solo number op.run s (.done (.error e)) s') :
    Solo number (Controller.fromCreate request site op).run s (.done (.error e)) s' :=
  instrumented (bindError h)

end Solo

end VolumeController
