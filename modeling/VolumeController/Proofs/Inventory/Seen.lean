import VolumeController.Proofs.Attachments.Ledger
import VolumeController.Proofs.Interleaving.Courses
/-! The disks that were there over a course of moments. Main results: no id was ever given to two of them, and at
every moment the disks of a place stand in the order in which they came. -/

namespace VolumeController

variable {α : Type}

/-- Whether a disk was at a place at some moment. -/
def Seen (history : List (Chronicle Inventory α)) (place : Nat) (disk : Disk) : Prop :=
  ∃ m ∈ history, disk ∈ m.platform.disksAt place

/-- Whether a disk was at a place before another one was. -/
def CreatedBefore (history : List (Chronicle Inventory α)) (place : Nat) (disk disk' : Disk) : Prop :=
  ∃ later earlier, history = later ++ earlier ∧ Seen earlier place disk ∧ ¬ Seen earlier place disk'

namespace Inventory

/-- The end of a call may take disks away, or put a disk with a fresh id after all others at one place. -/
theorem disksAt_finish_cases (inv : Inventory) (call : Call) (ticket : Platform.Ticket Inventory) :
    (∀ place, ((Platform.finish call ticket inv).2.2.disksAt place).Sublist (inv.disksAt place)) ∨
      ∃ there disk, disk.id = idText inv.nextId ∧ ∀ place,
        (Platform.finish call ticket inv).2.2.disksAt place =
          inv.disksAt place ++ if place = there then [disk] else [] := by
  by_cases hCreate : ∃ dc pool name sizeMb, call = .createDisk dc pool name sizeMb
  · obtain ⟨dc, pool, name, sizeMb, rfl⟩ := hCreate
    rcases createDisk_cases inv dc pool name sizeMb ticket with hKeep | ⟨s, parent, hState, -, hNew⟩
    · rw [hKeep]
      exact .inl fun _ => .refl _
    · rw [hNew]
      exact .inr ⟨dc.place, _, rfl, disksAt_addDisk hState (Entry.disk ⟨idText inv.nextId, name, sizeMb, parent⟩)⟩
  · refine .inl fun place => ?_
    rcases (effect_finish inv call ticket).disksAt place with hKeep | ⟨_, _, _, _, _, hIs, -⟩ | ⟨_, _, _, -, -, hRemove⟩
    · rw [hKeep]
    · exact absurd ⟨_, _, _, _, hIs⟩ hCreate
    · rw [hRemove]
      exact List.eraseP_sublist

/-- Of what is known of the disks that were there, only as much as holds of those that are there. -/
theorem Stock.narrow {inv : Inventory} {known known' : Nat → Disk → Prop} (h : inv.Stock known)
    (hPresent : ∀ place, ∀ disk ∈ inv.disksAt place, known' place disk)
    (hKnown : ∀ place disk, known' place disk → known place disk) : inv.Stock known' where
  present := hPresent
  drawn := fun place disk hDisk => h.drawn place disk (hKnown place disk hDisk)
  file := fun place disk hDisk => h.file place disk (hKnown place disk hDisk)
  unique := fun place place' disk disk' hDisk hDisk' =>
    h.unique place place' disk disk' (hKnown place disk hDisk) (hKnown place' disk' hDisk')

end Inventory

variable {history later earlier : List (Chronicle Inventory α)} {first c m : Chronicle Inventory α} {place : Nat}
  {disk disk' : Disk}

theorem seen_cons : Seen (c :: earlier) place disk ↔ disk ∈ c.platform.disksAt place ∨ Seen earlier place disk := by
  simp only [Seen, List.exists_mem_cons_iff]

/-- What came first stays what came first. -/
theorem CreatedBefore.append (h : CreatedBefore earlier place disk disk') (later : List (Chronicle Inventory α)) :
    CreatedBefore (later ++ earlier) place disk disk' := by
  obtain ⟨meanwhile, before, rfl, hSeen⟩ := h
  exact ⟨later ++ meanwhile, before, (List.append_assoc _ _ _).symm, hSeen⟩

namespace Course

variable {config : Config}

/-- All disks that there were have ids and files of their own. -/
theorem stock (hFirst : first.platform = .ofConfig config)
    (h : Course Inventory.rough first (c :: earlier)) : c.platform.Stock (Seen (c :: earlier)) := by
  generalize hHistory : c :: earlier = history at h
  induction h generalizing c earlier with
  | begin =>
      cases hHistory
      rw [hFirst]
      refine (Inventory.Stock.ofConfig config).narrow (fun place disk hDisk => ?_) fun place disk hSeen => ?_
      · exact ⟨first, List.mem_singleton_self _, hFirst ▸ hDisk⟩
      · obtain ⟨m, hMoment, hDisk⟩ := hSeen
        obtain rfl := List.mem_singleton.1 hMoment
        rw [hFirst, Inventory.disksAt_ofConfig] at hDisk
        exact List.not_mem_nil hDisk
  | @step before after earlier _ hStep ih =>
      cases hHistory
      -- Whatever the step leaves is in stock with what was seen before, and with what is there now.
      obtain ⟨known, hKnown, hStock⟩ : ∃ known : Nat → Disk → Prop,
          (∀ place disk, Seen (before :: earlier) place disk → known place disk) ∧ after.platform.Stock known := by
        rcases hStep.inventory_cases with ⟨hSame, -⟩ | ⟨_, call, ticket, -, hPlatform⟩
        · refine ⟨_, fun _ _ => id, (ih rfl).keep (fun place disk hDisk => ?_) ?_⟩
          · rwa [← Inventory.disksAt_eq_of_cleared hSame]
          · exact Nat.le_of_eq (Inventory.nextId_eq_of_cleared hSame).symm
        · rw [hPlatform]
          exact (ih rfl).finish call ticket
      refine hStock.narrow (fun place disk hDisk => seen_cons.2 (.inl hDisk)) fun place disk hSeen => ?_
      exact (seen_cons.1 hSeen).elim (hStock.present place disk) (hKnown place disk)

/-- An id tells a disk and its place. -/
theorem eq_of_id (hFirst : first.platform = .ofConfig config) (h : Course Inventory.rough first history)
    {place' : Nat} (hDisk : Seen history place disk) (hDisk' : Seen history place' disk') (hId : disk.id = disk'.id) :
    place = place' ∧ disk = disk' := by
  obtain ⟨c, earlier, rfl⟩ : ∃ c earlier, history = c :: earlier :=
    List.exists_cons_of_ne_nil (List.ne_nil_of_mem hDisk.choose_spec.1)
  exact (h.stock hFirst).unique place place' disk disk' hDisk hDisk' hId

theorem pairwise_latest (hFirst : first.platform = .ofConfig config)
    (h : Course Inventory.rough first (c :: earlier)) (place : Nat) :
    (c.platform.disksAt place).Pairwise (CreatedBefore (c :: earlier) place) := by
  generalize hHistory : c :: earlier = history at h
  induction h generalizing c earlier with
  | begin =>
      cases hHistory
      rw [hFirst, Inventory.disksAt_ofConfig]
      exact .nil
  | @step before after earlier hCourse hStep ih =>
      cases hHistory
      have hOld : (before.platform.disksAt place).Pairwise (CreatedBefore (after :: before :: earlier) place) :=
        (ih rfl).imp fun hBefore => hBefore.append [after]
      rcases hStep.inventory_cases with ⟨hSame, -⟩ | ⟨_, call, ticket, -, hPlatform⟩
      · rwa [Inventory.disksAt_eq_of_cleared hSame]
      · rw [hPlatform]
        rcases before.platform.disksAt_finish_cases call ticket with hLess | ⟨there, new, hId, hMore⟩
        · exact hOld.sublist (hLess place)
        · rw [hMore]
          refine List.pairwise_append.2 ⟨hOld, ?_, fun disk hDisk disk' hNew => ?_⟩
          · split
            · exact List.pairwise_singleton _ _
            · exact .nil
          · split at hNew
            · obtain rfl := List.mem_singleton.1 hNew
              refine ⟨[after], before :: earlier, rfl, seen_cons.2 (.inl hDisk), fun hSeen => ?_⟩
              -- A disk that was there has an id that was drawn before.
              obtain ⟨n, hn, hDrawn⟩ := (hCourse.stock hFirst).drawn place disk' hSeen
              have hNumber : before.platform.nextId = n := Inventory.idText_injective (hId.symm.trans hDrawn)
              omega
            · exact (List.not_mem_nil hNew).elim

/-- At every moment the disks of a place stand in the order in which they came. -/
theorem pairwise_createdBefore (hFirst : first.platform = .ofConfig config)
    (h : Course Inventory.rough first history) (hMoment : m ∈ history) (place : Nat) :
    (m.platform.disksAt place).Pairwise (CreatedBefore history place) := by
  obtain ⟨later, earlier, rfl⟩ := List.append_of_mem hMoment
  exact (h.of_append.pairwise_latest hFirst place).imp fun hBefore => hBefore.append later

end Course

/-! Requests. -/

section

variable {env : Surroundings Inventory} {kind : Chronicle Inventory Answered → Chronicle Inventory Answered → Prop}
  {controller : Controller} {w : World Inventory} {requests : List (Context × VolumeRequest)}
  {c : Chronicle Inventory Answered}

/-- Requests keep an inventory in the states in which it keeps to its terms. -/
theorem Chronicle.Runs.states (h : Chronicle.Runs env kind (.start w (controller.answers requests)) c)
    {states : Inventory → Prop} (hUpheld : Inventory.terms.Upheld env states) (hState : states w.platform) :
    states c.platform := by
  have hMeets : ∀ (number : Nat) job, (controller.answers requests)[number]? = some job →
      job.2.Meets Inventory.terms fun answered => ∀ e, answered.2 = .error e → ¬ e.IsDefect := by
    intro number job hJob
    obtain ⟨request, -, rfl⟩ := List.mem_map.1 (List.mem_of_getElem? hJob)
    exact Lawful.answer controller request.2
  exact (hUpheld.runs hState hMeets h.system).1

/-- Every moment is one of a regular inventory of the configuration. -/
theorem Course.regular {config : Config} (hPlatform : w.platform = .ofConfig config)
    {history : List (Chronicle Inventory Answered)}
    (h : Course Inventory.rough (.start w (controller.answers requests)) history) (hMoment : c ∈ history) :
    c.platform.Regular (Inventory.ofConfig config).layout :=
  (h.runs hMoment).states (Inventory.upheld_terms _) (hPlatform ▸ Inventory.regular_ofConfig config)

/-- The sites stay as they are configured. -/
theorem Inventory.Regular.sites_eq {inv base : Inventory} (h : inv.Regular base.layout) : inv.sites = base.sites := by
  rw [← inv.sites_layout, h.configured, base.sites_layout]

end

end VolumeController
