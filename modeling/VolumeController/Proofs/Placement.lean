import VolumeController.Proofs.Interleaving.Operations
import VolumeController.Proofs.Interleaving.Solo
/-! Questions that the layout of an inventory answers: which site a zone has, and which sites there are.
In calm, a procedure that asks nothing else ends in the same way whatever happens beside it. Main case:
the resolution of a placement. -/

namespace VolumeController

variable {Γ α β : Type}

/-- A procedure that asks only for what is in a layout, and what it ends with. -/
inductive Consults (layout : Inventory) : Procedure α → α → Prop where
  | done (a : α) : Consults layout (.done a) a
  | note {event : Event} {next : Unit → Procedure α} {a : α} (h : Consults layout (next ()) a) :
      Consults layout (.act (.note event) next) a
  | zone {query : ZoneQuery} {next : Except Abort (Except BackendError Site) → Procedure α} {a : α}
      (h : Consults layout (next (.ok (layout.resolveZone query.zone query.region))) a) :
      Consults layout (.await (.call (.resolveZone query)) next) a
  | sites {next : Except Abort (Except BackendError (List Site)) → Procedure α} {a : α}
      (h : Consults layout (next (.ok (.ok layout.sites))) a) :
      Consults layout (.await (.call .listSites) next) a

/-- Rules for calm runs over a layout. Only what is created, deleted, attached or detached matters to the
invariant. -/
structure Rules.Calm (R : Rules Inventory Γ) (layout : Inventory) : Prop where
  aborts : ¬ R.aborts
  faultless : ∀ w stages, R.invariant w stages → w.platform.Faultless
  layout : ∀ w stages, R.invariant w stages → w.platform.layout = layout
  records : R.IgnoresRecords
  start : ∀ (w : World Inventory) stages c, c.reads = true → R.invariant w stages →
    R.invariant (w.start c).2 stages

theorem Rules.Calm.finish {R : Rules Inventory Γ} {layout : Inventory} (hR : R.Calm layout)
    {w : World Inventory} {stages : List Γ} {c : Call} (hReads : c.reads = true)
    (started : World.Started Inventory) (h : R.invariant w stages) :
    R.invariant (w.finish c started).2 stages := by
  have hSame := (Inventory.effect_finish w.platform c started.ticket).eq_of_reads hReads
  have hLog := hR.records.log w stages (w.finish c started).2.log h
  have hWorld : (w.finish c started).2 = { w with log := (w.finish c started).2.log } := by
    simp only [World.finish, hSame]
  rw [hWorld]
  exact hLog

/-- A call that reads: the reply is the answer of some calm inventory of the layout. -/
theorem Rules.Calm.read {R : Rules Inventory Γ} {layout : Inventory} (hR : R.Calm layout) {number : Nat}
    {stage : Γ} {c : Call} {next : Except Abort c.Reply → Procedure α} {goal : α → Γ → Prop}
    (hReads : c.reads = true)
    (h : ∀ inv : Inventory, inv.Faultless → inv.layout = layout →
      R.Follows number goal (next (.ok (inv.answer c).1)) stage) :
    R.Follows number goal (.await (.call c) next) stage := by
  refine .callInPlace (hR.start · · c hReads) (fun hAborts => absurd hAborts hR.aborts) ?_
  intro w started stages hInvariant hStage
  refine ⟨stage, ?_, ?_⟩
  · rw [set_of_getElem? hStage]
    exact hR.finish hReads started hInvariant
  · have hFaultless := hR.faultless w stages hInvariant
    have hReply : (w.finish c started).1 = (w.platform.answer c).1 :=
      congrArg Prod.fst (hFaultless.finish_eq c started.ticket)
    rw [hReply]
    exact h w.platform hFaultless (hR.layout w stages hInvariant)

namespace Consults

variable {layout : Inventory} {p : Procedure α} {a : α}

theorem bind {f : α → Procedure β} {b : β} (h : Consults layout p a) (h' : Consults layout (f a) b) :
    Consults layout (p >>= f) b := by
  induction h with
  | done a => exact h'
  | note _ ih => exact .note (ih h')
  | zone _ ih => exact .zone (ih h')
  | sites _ ih => exact .sites (ih h')

/-- Beside other threads. -/
theorem follows {R : Rules Inventory Γ} {number : Nat} {stage : Γ} {goal : α → Γ → Prop}
    (hR : R.Calm layout) (h : Consults layout p a) (hGoal : goal a stage) :
    R.Follows number goal p stage := by
  induction h with
  | done a => exact hGoal
  | note _ ih =>
      exact fun w => Rules.Leads.stay (ih hGoal) fun stages hInvariant _ =>
        hR.records.log w stages _ hInvariant
  | @zone query next a _ ih =>
      refine hR.read rfl fun inv _ hLayout => ?_
      rw [← hLayout, Inventory.resolveZone_layout] at ih
      exact ih hGoal
  | sites _ ih =>
      refine hR.read rfl fun inv _ hLayout => ?_
      rw [← hLayout, Inventory.sites_layout] at ih
      exact ih hGoal

/-- Alone. -/
theorem solo {number : Nat} {s : Scene} (h : Consults layout p a) (hLayout : s.inventory.layout = layout) :
    Solo number p s (.done a) s := by
  induction h with
  | done a => exact .refl _ s
  | note _ ih => exact .act ih
  | @zone query next a _ ih =>
      refine .call ?_
      rw [← hLayout, Inventory.resolveZone_layout] at ih
      exact ih
  | sites _ ih =>
      refine .call ?_
      rw [← hLayout, Inventory.sites_layout] at ih
      exact ih

/-! Operations. -/

theorem bindOperation {op : Operation α} {f : α → Operation β} {result : Except Error β}
    (h : Consults layout op.run (.ok a)) (h' : Consults layout (f a).run result) :
    Consults layout (op >>= f).run result :=
  bind h h'

theorem afterNote {event : Event} {op : Operation α} {result : Except Error α}
    (h : Consults layout op.run result) :
    Consults layout (do Operation.note event; op : Operation α).run result :=
  .note h

theorem reject (cause : Cause) :
    Consults layout (Operation.reject cause : Operation α).run (.error cause.toError) :=
  .note (.done _)

end Consults

/-! Placements. -/

namespace Inventory

/-- The error of a resolution that found no site. -/
def unresolved (zone : String) (cause : Error) : Error :=
  if cause.isAborted then cause else (Cause.zoneUnresolved zone cause).toError

/-- The site of the first segment that has one, or else the error of the last that was tried. -/
def locateSegments (layout : Inventory) : String × Error → List Topology → Except Error Site
  | (zone, cause), [] => .error (unresolved zone cause)
  | _, segment :: segments =>
    let zone := segment.segment zoneLabel
    match layout.resolveZone zone (segment.segment regionLabel) with
    | .ok site => .ok site
    | .error failure => locateSegments layout (zone, .backend failure) segments

/-- The site of a placement. -/
def locate (layout : Inventory) : Placement → Except Error Site
  | .topology requirement =>
    layout.locateSegments ("", .notFound "no topology segments") requirement.candidates.2
  | .legacy zone region =>
    match layout.resolveZone zone region with
    | .ok site => .ok site
    | .error failure => .error (unresolved zone (.backend failure))

theorem locateSegments_layout (inv : Inventory) (last : String × Error) (segments : List Topology) :
    inv.layout.locateSegments last segments = inv.locateSegments last segments := by
  induction segments generalizing last with
  | nil => rfl
  | cons segment segments ih => simp only [locateSegments, resolveZone_layout, ih]

theorem locate_layout (inv : Inventory) (placement : Placement) :
    inv.layout.locate placement = inv.locate placement := by
  cases placement with
  | topology requirement => exact locateSegments_layout inv _ _
  | legacy zone region => simp only [locate, resolveZone_layout]

end Inventory

namespace Consults

variable {layout : Inventory}

theorem attempt {op : Operation α} {result : Except Error α} (h : Consults layout op.run result) :
    Consults layout (Operation.attempt op).run (.ok result) :=
  bind h (.done _)

theorem lookup (labels : LabelsConfig) (zone region : String) :
    Consults layout (Placement.lookup labels zone region).run
      ((layout.resolveZone zone region).mapError .backend) := by
  refine .zone ?_
  cases layout.resolveZone zone region with
  | ok site => exact .done _
  | error failure => exact .done _

theorem exhausted (zone : String) (cause : Error) :
    Consults layout (Placement.exhausted zone cause : Operation α).run
      (.error (Inventory.unresolved zone cause)) := by
  unfold Placement.exhausted Inventory.unresolved
  split
  · exact .afterNote (.done _)
  · exact .reject _

theorem searchSegments (labels : LabelsConfig) (last : String × Error) (segments : List Topology) :
    Consults layout (Placement.searchSegments labels last segments).run
      (layout.locateSegments last segments) := by
  induction segments generalizing last with
  | nil => exact .exhausted last.1 last.2
  | cons segment segments ih =>
      refine .bindOperation (.attempt (.lookup labels _ _)) ?_
      simp only [Inventory.locateSegments]
      cases layout.resolveZone (segment.segment zoneLabel) (segment.segment regionLabel) with
      | ok site => exact .afterNote (.done _)
      | error failure => exact ih _

/-- A placement is resolved by the layout alone. -/
theorem resolve (labels : LabelsConfig) (placement : Placement) :
    Consults layout (placement.resolve labels).run (layout.locate placement) := by
  cases placement with
  | topology requirement => exact .afterNote (.searchSegments labels _ _)
  | legacy zone region =>
      refine .afterNote (.bindOperation (.attempt (.lookup labels zone region)) ?_)
      simp only [Inventory.locate]
      cases layout.resolveZone zone region with
      | ok site => exact .done _
      | error failure => exact .exhausted zone _

end Consults

end VolumeController
