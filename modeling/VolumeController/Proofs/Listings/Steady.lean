import VolumeController.Proofs.Inventory.Replies
import VolumeController.Proofs.WellFormed
/-! Inventories whose listings do not fail. All other calls may fail, and every call may take any time. Main results:
listings go on to succeed whatever is done that does not make them fail, and they show what is there. -/

namespace VolumeController

/-- Commands that make listings of sites or of disks fail. -/
def InventoryCommand.FailsListings : InventoryCommand → Prop
  | .fail _ kind _ => kind = .listSites ∨ kind = .listDisks
  | _ => False

/-- Whether listings of sites and of disks go on. -/
structure Faults.SpareListings (f : Faults) : Prop where
  sites : f.failure? .listSites = none
  disks : f.failure? .listDisks = none

namespace Faults

variable {f : Faults} {kind other : CallKind}

/-- To clear a fault makes no call fail. -/
theorem failure?_clear_eq_none (h : f.failure? other = none) : (f.clear kind).failure? other = none := by
  by_cases hKind : other = kind
  · subst hKind
    rw [failure?, List.lookup_eq_none_iff]
    intro entry hEntry
    exact bne_iff_ne.2 (bne_iff_ne.1 (List.mem_filter.1 hEntry).2).symm
  · rwa [f.failure?_clear_of_ne hKind]

theorem SpareListings.clear (h : f.SpareListings) (kind : CallKind) : (f.clear kind).SpareListings :=
  ⟨failure?_clear_eq_none h.sites, failure?_clear_eq_none h.disks⟩

theorem SpareListings.fail (h : f.SpareListings) (hKind : ¬ (kind = .listSites ∨ kind = .listDisks))
    (failure : BackendError) : (f.fail kind failure).SpareListings where
  sites := by
    rw [f.failure?_fail_of_ne failure fun hSame => hKind (.inl hSame.symm)]
    exact h.sites
  disks := by
    rw [f.failure?_fail_of_ne failure fun hSame => hKind (.inr hSame.symm)]
    exact h.disks

end Faults

namespace Inventory

/-- Everything may happen around the threads, except that disks appear or listings fail. -/
def steady : Surroundings Inventory :=
  ⟨True, fun c => ¬ c.Inserts ∧ ¬ c.FailsListings⟩

theorem steady_within : steady.Within rough :=
  ⟨id, fun _ => And.left⟩

/-- Whether no listing fails, of sites or of disks. -/
structure ListsFreely (inv : Inventory) : Prop where
  platform : inv.faults.SpareListings
  datacenters : ∀ s ∈ inv.datacenters, s.faults.SpareListings

variable {inv inv' : Inventory} {dc : Datacenter}

namespace ListsFreely

theorem modify (h : inv.ListsFreely) (dc : Datacenter) {f : DatacenterState → DatacenterState}
    (hf : ∀ s, s.faults.SpareListings → (f s).faults.SpareListings) : (inv.modify dc f).ListsFreely := by
  refine ⟨h.platform, fun s hs => ?_⟩
  obtain ⟨s', hThere, rfl | rfl⟩ := exists_of_mem_modify hs
  · exact h.datacenters s hThere
  · exact hf s' (h.datacenters s' hThere)

theorem modifyFaults (h : inv.ListsFreely) (dc : Option Datacenter) {f : Faults → Faults}
    (hf : ∀ faults, faults.SpareListings → (f faults).SpareListings) : (inv.modifyFaults dc f).ListsFreely := by
  cases dc with
  | none => exact ⟨hf _ h.platform, h.datacenters⟩
  | some dc => exact h.modify dc fun s hs => hf s.faults hs

theorem effect (h : inv.ListsFreely) {c : Call} (hEffect : inv.Effect c inv') : inv'.ListsFreely := by
  cases hEffect with
  | keep => exact h
  | @create dc _ _ _ _ disk _ _ _ _ =>
      have hNew := h.modify dc (f := (·.addDisk disk)) fun _ => id
      exact ⟨hNew.platform, hNew.datacenters⟩
  | @delete dc pool volume _ _ hState hRemove =>
      rw [removeDisk?_eq_some hRemove, modify_eq_modify_of_state? hState (·.dropDisk pool volume)]
      exact h.modify dc fun _ => id
  | @attach node path _ handle =>
      have hNew := h.modify node.datacenter (f := (·.addDevice node.name path handle)) fun _ => id
      exact ⟨hNew.platform, hNew.datacenters⟩
  | detach => exact h.modify _ (f := (·.removeDevice _ _)) fun _ => id

theorem obey (h : inv.ListsFreely) {c : InventoryCommand} (hInserts : ¬ c.Inserts) (hFails : ¬ c.FailsListings) :
    (Bench.obey c inv).2.ListsFreely := by
  cases c with
  | fail dc kind failure => exact h.modifyFaults dc fun faults hFaults => hFaults.fail hFails failure
  | clear dc kind => exact h.modifyFaults dc fun faults hFaults => hFaults.clear kind
  | delay dc latency => exact h.modifyFaults dc (f := fun f => { f with latency }) fun _ hFaults => ⟨hFaults.1, hFaults.2⟩
  | countCalls dc kind => cases dc <;> exact h
  | insertDisk dc d => exact absurd trivial hInserts
  | _ => exact h

end ListsFreely

theorem listsFreely_of_faultless (h : inv.Faultless) : inv.ListsFreely := by
  have hNone {f : Faults} (hFailures : f.failures = []) : f.SpareListings := by
    constructor <;> rw [Faults.failure?, hFailures] <;> rfl
  exact ⟨hNone h.platform, fun s hs => hNone (h.datacenters s hs)⟩

/-- Where only other calls are made to fail, an inventory keeps to its terms and listings go on to succeed. -/
theorem upheld_steady (layout : Inventory) :
    terms.Upheld steady fun inv => inv.Regular layout ∧ inv.ListsFreely where
  start := fun c inv hAsks h => ⟨(upheld_terms layout).start c inv hAsks h.1,
    h.2.modifyFaults _ (f := (·.enter c.kind)) fun _ hFaults => ⟨hFaults.sites, hFaults.disks⟩⟩
  finish := fun c ticket inv hAsks h =>
    have hFinish := (upheld_terms layout).finish c ticket inv hAsks h.1
    ⟨hFinish.1, hFinish.2, h.2.effect (effect_finish inv c ticket)⟩
  command := fun c inv hCommand h =>
    ⟨(upheld_terms layout).command c inv hCommand.1 h.1, h.2.obey hCommand.1 hCommand.2⟩
  abort := (upheld_terms layout).abort
  asksListings := (upheld_terms layout).asksListings
  listings := (upheld_terms layout).listings
  lock := (upheld_terms layout).lock
  work := (upheld_terms layout).work

/-! What listings show. -/

theorem ListsFreely.reply_listSites (h : inv.ListsFreely) : inv.reply .listSites = .ok inv.sites := by
  have hSpared : (inv.faultsOf .listSites).failure? .listSites = none := h.platform.sites
  simp only [reply, Call.kind, hSpared]
  rfl

theorem ListsFreely.reply_listDisks (h : inv.ListsFreely) {site : Site} (hSite : site ∈ inv.sites) :
    inv.reply (.listDisks site.datacenter) = .ok (inv.disksAt site.datacenter.place) := by
  obtain ⟨s, hState⟩ := state?_of_mem_sites hSite
  have hSpared : (inv.faultsOf (.listDisks site.datacenter)).failure? .listDisks = none := by
    simp only [faultsOf, Call.datacenter?, hState, Option.map_some, Option.getD_some]
    exact (h.datacenters s (List.mem_of_getElem? hState)).disks
  simp only [reply, Call.kind, hSpared, answer, hState, disksAt_of_state? hState]

end Inventory

end VolumeController
