import VolumeController.Proofs.RacingCreates
/-! Creates of one name in one pool, one after the other, while anything may fail. Whoever creates a disk is alone
and was just told that the name is free. Main result: a name keeps to one disk, and while it stays, creates that are
repeated return it. -/

namespace VolumeController

/-- Every request keeps to its dialogue, and a create returns only a disk that it was shown under the name. -/
theorem VolumeStore.serve_converses (store : VolumeStore) (request : StoreRequest) :
    (store.serve request).run.Converses request.dialogue (fun told result => ∀ disk, result = .ok (some disk) →
      ∃ dc pool name sizeMb, request = .create dc pool name sizeMb ∧ .named dc pool name (some disk) ∈ told) [] := by
  cases request with
  | create dc pool name sizeMb =>
      refine .bindOperation ((createOrGet_converses dc pool name sizeMb store).mono ?_)
      rintro told (e | outcome) hShown
      · exact nofun
      · rintro _ ⟨⟩
        exact ⟨dc, pool, name, sizeMb, rfl, hShown outcome rfl⟩
  | delete dc pool id =>
      refine .bindOperation (.callThen rfl nofun ?_)
      rintro (failure | deleted) -
      · exact .reject nofun
      · exact .afterNote nofun

section

variable (requests : List (Context × StoreRequest)) (place : Nat) (pool : Pool) (name : String)

/-- Whether the request of a number is a create of a name in a pool at a place. -/
def Creates (number : Nat) : Prop :=
  ∃ ctx dc sizeMb, requests[number]? = some (ctx, .create dc pool name sizeMb) ∧ dc.place = place

/-- Creates of one name in one pool and datacenter come one after the other: none begins before those that have
begun have ended. -/
def Apart (c c' : Chronicle Inventory (Except Error (Option Disk))) : Prop :=
  ∀ place pool name number other, Creates requests place pool name number →
    Creates requests place pool name other → ¬ c.HasBegun number → c'.HasBegun number → c.HasBegun other →
    ∃ result, c.result? other = some result

/-- What holds of a name while its creates come one after the other: at most one of them is under way, it is right
if it was last told that the name is free, and the name has at most one disk. -/
structure Orderly (c : Chronicle Inventory (Except Error (Option Disk))) : Prop where
  alone : ∀ number other, Creates requests place pool name number → Creates requests place pool name other →
    c.HasBegun number → c.HasBegun other → c.result? number = none → c.result? other = none → number = other
  free : ∀ number dc, Creates requests place pool name number → dc.place = place → c.result? number = none →
    (c.heardBy number).getLast? = some (.named dc pool name none) → c.platform.named place pool name = []
  few : (c.platform.named place pool name).length ≤ 1

end

namespace Orderly

variable {requests : List (Context × StoreRequest)} {place : Nat} {pool : Pool} {name : String}
  {c c' : Chronicle Inventory (Except Error (Option Disk))}

theorem start {w : World Inventory} {jobs : List (Context × Procedure (Except Error (Option Disk)))}
    (hFew : (w.platform.named place pool name).length ≤ 1) :
    Orderly requests place pool name (.start w jobs) where
  alone := by
    rintro number other - - ⟨turn, hTurn, -⟩
    exact (List.not_mem_nil hTurn).elim
  free := nofun
  few := hFew

theorem alone_step (h : Orderly requests place pool name c) (hStep : Chronicle.Step Inventory.rough c c')
    (hApart : Apart requests c c') {number other : Nat} (hNumber : Creates requests place pool name number)
    (hOther : Creates requests place pool name other) (hBegun : c'.HasBegun number) (hBegun' : c'.HasBegun other)
    (hNone : c'.result? number = none) (hNone' : c'.result? other = none) : number = other := by
  have hWas := hStep.result?_eq_none hNone
  have hWas' := hStep.result?_eq_none hNone'
  by_cases hOld : c.HasBegun number
  · by_cases hOld' : c.HasBegun other
    · exact h.alone number other hNumber hOther hOld hOld' hWas hWas'
    · obtain ⟨result, hResult⟩ := hApart place pool name other number hOther hNumber hOld' hBegun' hOld
      cases hWas.symm.trans hResult
  · by_cases hOld' : c.HasBegun other
    · obtain ⟨result, hResult⟩ := hApart place pool name number other hNumber hOther hOld hBegun hOld'
      cases hWas'.symm.trans hResult
    · obtain ⟨_, hTurn⟩ := (hStep.hasBegun_cases hBegun).resolve_left hOld
      obtain ⟨_, hTurn'⟩ := (hStep.hasBegun_cases hBegun').resolve_left hOld'
      exact (Turn.mk.inj (List.cons.inj (hTurn.symm.trans hTurn')).1).1

variable {store : VolumeStore} {w : World Inventory}
  {kind : Chronicle Inventory (Except Error (Option Disk)) → Chronicle Inventory (Except Error (Option Disk)) → Prop}

/-- A thread that creates a disk was told that the name is free. -/
theorem told_of_creation (hRuns : Chronicle.Runs Inventory.rough kind (.start w (store.jobs requests)) c)
    (hStep : Chronicle.Step Inventory.rough c c') {number : Nat} {dc : Datacenter} {sizeMb : UInt64}
    {reply : Except BackendError Unit}
    (hTurn : c'.turns = ⟨number, some ⟨.call (.createDisk dc pool name sizeMb), .ok reply⟩⟩ :: c.turns) :
    Creates requests dc.place pool name number ∧
      (c.heardBy number).getLast? = some (.named dc pool name none) := by
  obtain ⟨ctx, _, hRequest, rfl, hLast⟩ :=
    Chronicle.Runs.asks_of_request store.serve_converses (fun _ _ => trivial) hRuns hStep hTurn
  exact ⟨⟨ctx, dc, sizeMb, hRequest, rfl⟩, hLast⟩

theorem step (h : Orderly requests place pool name c)
    (hRuns : Chronicle.Runs Inventory.rough kind (.start w (store.jobs requests)) c)
    (hStep : Chronicle.Step Inventory.rough c c') (hApart : Apart requests c c') :
    Orderly requests place pool name c' := by
  refine ⟨fun _ _ => h.alone_step hStep hApart, ?_, ?_⟩
  · rintro number dc hCreates rfl hNone hLast
    rcases hStep.last_cases hLast with hOld | ⟨ticket, hReply, hEffect⟩
    · have hWas := h.free number dc hCreates rfl (hStep.result?_eq_none hNone) hOld
      rcases hStep.sublist_named_or dc.place pool name with
        hSublist | ⟨maker, dc', sizeMb, reply, disk, hPlace, hTurn, -⟩
      · exact List.sublist_nil.1 (hWas ▸ hSublist)
      · -- whoever creates the disk is alone, so it is this thread, and has heard more since
        obtain ⟨hMaker, hTold⟩ := told_of_creation hRuns hStep hTurn
        rw [hPlace] at hMaker
        obtain rfl := h.alone number maker hCreates hMaker
          (Chronicle.hasBegun_of_mem_heardBy (List.mem_of_getLast? hOld))
          (Chronicle.hasBegun_of_mem_heardBy (List.mem_of_getLast? hTold))
          (hStep.result?_eq_none hNone) (hStep.result?_eq_none_of_turn hTurn)
        rw [Chronicle.heardBy, hTurn, Turn.heardBy_cons_self, Option.toList_some, List.getLast?_concat] at hLast
        cases hLast
    · obtain ⟨hSame, hFirst⟩ := Inventory.finish_findByName hReply
      rw [hEffect, hSame]
      exact List.head?_eq_none_iff.1 hFirst
  · rcases hStep.sublist_named_or place pool name with hSublist | ⟨maker, dc, sizeMb, reply, disk, rfl, hTurn, hAdd⟩
    · exact Nat.le_trans hSublist.length_le h.few
    · obtain ⟨hCreates, hLast⟩ := told_of_creation hRuns hStep hTurn
      rw [hAdd, h.free maker dc hCreates rfl (hStep.result?_eq_none_of_turn hTurn) hLast]
      exact Nat.le_refl 1

theorem runs (hFew : (w.platform.named place pool name).length ≤ 1)
    (hRuns : Chronicle.Runs Inventory.rough (Apart requests) (.start w (store.jobs requests)) c) :
    Orderly requests place pool name c := by
  induction hRuns with
  | refl => exact .start hFew
  | tail hRuns hLast ih => exact ih.step hRuns hLast.1 hLast.2

end Orderly

namespace Chronicle

variable {α : Type} {place number : Nat} {pool : Pool} {name : String} {disk : Disk}

/-- Whether a thread was shown a disk by a search by name. -/
def HasShown (c : Chronicle Inventory α) (place : Nat) (pool : Pool) (name : String) (number : Nat) (disk : Disk) :
    Prop :=
  ∃ dc, dc.place = place ∧ .named dc pool name (some disk) ∈ c.heardBy number

/-- Whether a disk is not taken out at a place. -/
def Stays (place : Nat) (disk : Disk) (c c' : Chronicle Inventory α) : Prop :=
  disk ∈ c.platform.disksAt place → disk ∈ c'.platform.disksAt place

variable {c c' : Chronicle Inventory α}

theorem Stays.named (h : Stays place disk c c') (hNamed : disk ∈ c.platform.named place pool name) :
    disk ∈ c'.platform.named place pool name := by
  obtain ⟨hThere, hName⟩ := List.mem_filter.1 hNamed
  exact List.mem_filter.2 ⟨h hThere, hName⟩

theorem Step.hasShown_cases (h : Step Inventory.rough c c') (hShown : c'.HasShown place pool name number disk) :
    c.HasShown place pool name number disk ∨
      c'.platform = c.platform ∧ (c.platform.named place pool name).head? = some disk := by
  obtain ⟨dc, rfl, hHeard⟩ := hShown
  exact (h.named_cases hHeard).imp_left fun hOld => ⟨dc, rfl, hOld⟩

/-- A disk that stays, and that a thread was shown meanwhile, is there. -/
theorem Runs.mem_named_of_shown (h : Runs Inventory.rough (Stays place disk) c c')
    (hBefore : ¬ c.HasShown place pool name number disk) (hShown : c'.HasShown place pool name number disk) :
    disk ∈ c'.platform.named place pool name := by
  induction h with
  | refl => exact absurd hShown hBefore
  | tail _ hLast ih =>
      rcases hLast.1.hasShown_cases hShown with hOld | ⟨hSame, hFirst⟩
      · exact hLast.2.named (ih hOld)
      · rw [hSame]
        exact List.mem_of_mem_head? hFirst

end Chronicle

section

variable {store : VolumeStore} {w : World Inventory} {requests : List (Context × StoreRequest)} {place number : Nat}
  {pool : Pool} {name : String} {disk : Disk} {c c' : Chronicle Inventory (Except Error (Option Disk))}

/-- A create that returned a disk was shown it under its name. -/
theorem hasShown_of_result {kind : Chronicle Inventory _ → Chronicle Inventory _ → Prop}
    (hRuns : Chronicle.Runs Inventory.rough kind (.start w (store.jobs requests)) c)
    (hCreates : Creates requests place pool name number) (hResult : c.result? number = some (.ok (some disk))) :
    c.HasShown place pool name number disk := by
  obtain ⟨ctx, dc, sizeMb, hRequest, hPlace⟩ := hCreates
  obtain ⟨_, _, hSame, hServed⟩ :=
    Chronicle.Runs.wanted_of_result store.serve_converses (fun _ _ => trivial) hRuns hResult
  obtain ⟨dc', pool', name', sizeMb', rfl, hShown⟩ := hServed disk rfl
  cases hRequest.symm.trans hSame
  exact ⟨dc, hPlace, hShown⟩

/-- While the only disk of a name stays, nothing else is shown to those who begin. -/
theorem eq_of_hasShown (hFew : (w.platform.named place pool name).length ≤ 1)
    (hRuns : Chronicle.Runs Inventory.rough (Apart requests) (.start w (store.jobs requests)) c)
    (hNamed : disk ∈ c.platform.named place pool name) (hBefore : ¬ c.HasBegun number)
    (hMore : Chronicle.Runs Inventory.rough (fun c c' => Apart requests c c' ∧ Chronicle.Stays place disk c c') c c') :
    disk ∈ c'.platform.named place pool name ∧
      ∀ disk', c'.HasShown place pool name number disk' → disk' = disk := by
  induction hMore with
  | refl =>
      refine ⟨hNamed, ?_⟩
      rintro disk' ⟨dc, -, hHeard⟩
      exact absurd (Chronicle.hasBegun_of_mem_heardBy hHeard) hBefore
  | @tail c₁ c₂ hMore hLast ih =>
      obtain ⟨hThere, hShown⟩ := ih
      refine ⟨hLast.2.2.named hThere, fun disk' hNew => ?_⟩
      rcases hLast.1.hasShown_cases hNew with hOld | ⟨-, hFirst⟩
      · exact hShown disk' hOld
      · have hOne := (Orderly.runs hFew (hRuns.trans (Chronicle.Runs.mono hMore fun _ _ => And.left))).few
        obtain ⟨others, hNames⟩ := List.head?_eq_some_iff.1 hFirst
        rw [hNames] at hThere hOne
        obtain rfl : others = [] := List.length_eq_zero_iff.1 (Nat.le_zero.1 (Nat.le_of_succ_le_succ hOne))
        exact (List.mem_singleton.1 hThere).symm

end

/-- Creates and deletes of a store, serialized or not, where creates of one name in one pool and datacenter come
one after the other, while calls fail and succeed again, are slow, and requests are given up. In every state a name
has at most one disk if it had at most one in the beginning. If then a create has returned a disk, which stays
from before it was shown to the create, every later create that succeeds returns the same disk. -/
theorem retried_creates_keep_one_disk (store : VolumeStore) (w : World Inventory)
    (requests : List (Context × StoreRequest)) :
    (∀ c, Chronicle.Runs Inventory.rough (Apart requests) (.start w (store.jobs requests)) c →
      ∀ place pool name, (w.platform.named place pool name).length ≤ 1 →
        (c.platform.named place pool name).length ≤ 1) ∧
    ∀ place pool name first second disk disk' c₀ c₁ c₂,
      (w.platform.named place pool name).length ≤ 1 →
      Creates requests place pool name first → Creates requests place pool name second →
      Chronicle.Runs Inventory.rough (Apart requests) (.start w (store.jobs requests)) c₀ →
      ¬ c₀.HasShown place pool name first disk →
      Chronicle.Runs Inventory.rough (fun c c' => Apart requests c c' ∧ Chronicle.Stays place disk c c') c₀ c₁ →
      c₁.result? first = some (.ok (some disk)) → ¬ c₁.HasBegun second →
      Chronicle.Runs Inventory.rough (fun c c' => Apart requests c c' ∧ Chronicle.Stays place disk c c') c₁ c₂ →
      c₂.result? second = some (.ok (some disk')) → disk' = disk := by
  refine ⟨fun c hRuns place pool name hFew => (Orderly.runs hFew hRuns).few, ?_⟩
  intro place pool name first second disk disk' c₀ c₁ c₂ hFew hFirst hSecond hBefore hUnseen hDuring hResult hLater
    hAfter hResult'
  have hRuns₁ := hBefore.trans (Chronicle.Runs.mono hDuring fun _ _ => And.left)
  have hRuns₂ := hRuns₁.trans (Chronicle.Runs.mono hAfter fun _ _ => And.left)
  have hShown := hasShown_of_result hRuns₁ hFirst hResult
  have hNamed : disk ∈ c₁.platform.named place pool name :=
    (Chronicle.Runs.mono hDuring fun _ _ => And.right).mem_named_of_shown hUnseen hShown
  exact (eq_of_hasShown hFew hRuns₁ hNamed hLater hAfter).2 disk' (hasShown_of_result hRuns₂ hSecond hResult')

/-- Creates that are carried out one by one, each to its end, come one after the other. -/
theorem apart_of_onlyMoves (requests : List (Context × StoreRequest)) {number : Nat}
    {c c' : Chronicle Inventory (Except Error (Option Disk))}
    (h : Chronicle.Runs Inventory.rough (Chronicle.OnlyMoves number) c c')
    (hOthers : ∀ other, c.HasBegun other → other = number ∨ ∃ result, c.result? other = some result) :
    Chronicle.Runs Inventory.rough (Apart requests) c c' := by
  induction h with
  | refl => exact .refl
  | @tail c₁ c₂ hRuns hLast ih =>
      refine ih.tail ⟨hLast.1, ?_⟩
      rintro place pool name new other - - hNew hBegun hOther
      obtain ⟨turn, hTurn, rfl⟩ := hBegun
      obtain rfl := (hLast.2 turn hTurn).resolve_left fun hOld => hNew ⟨turn, hOld, rfl⟩
      have hNe : other ≠ turn.number := fun hSame => hNew (hSame ▸ hOther)
      obtain ⟨result, hResult⟩ :=
        (hOthers other ((Chronicle.Runs.hasBegun_of_onlyMoves hRuns hOther).resolve_right hNe)).resolve_left hNe
      exact ⟨result, Chronicle.Runs.result? hRuns hResult⟩

set_option maxRecDepth 10000 in
/-- A create that fails, because disks cannot be created, and two more once they can: the first of them makes the
disk, and the second returns it too. -/
theorem retried_creates_keep_one_disk_thrice :
    let dc : Datacenter := ⟨"dc", 0⟩
    let requests := List.replicate 3 (Context.background, StoreRequest.create dc ⟨.datastore, "ds"⟩ "volume" 1024)
    let inventory := (Inventory.obey (.fail (some dc) .createDisk (.notFound "Datastore" "ds")) (.ofConfig .single)).2
    let disk : Disk := ⟨Inventory.idText 1, "volume", 1024, .datastore "ds",
      .file (Inventory.backingPath "ds" (Inventory.idText 1))⟩
    ∃ (c : Chronicle Inventory (Except Error (Option Disk))) (disk' : Disk),
      Chronicle.Runs Inventory.rough (Apart requests)
        (.start { platform := inventory } (VolumeStore.jobs ⟨true, 0⟩ requests)) c ∧
      c.result? 0 = some (.error (Cause.creationFailed (.notFound "Datastore" "ds")).toError) ∧
      c.result? 1 = some (.ok (some disk)) ∧ c.result? 2 = some (.ok (some disk')) ∧ disk' = disk ∧
      (c.platform.named 0 ⟨.datastore, "ds"⟩ "volume").length ≤ 1 := by
  intro dc requests inventory disk
  let jobs := VolumeStore.jobs ⟨true, 0⟩ requests
  let failed := (System.start ({ platform := inventory } : World Inventory) jobs).advance 0
  let mended : System Inventory (Except Error (Option Disk)) :=
    { failed with world := { failed.world with
      platform := (Inventory.obey (.clear (some dc) .createDisk) failed.world.platform).2 } }
  let made := mended.advance 1
  let found := made.advance 2
  have hAdmits : ∀ ctx, Inventory.rough.Admits ctx := fun _ _ _ _ _ => trivial
  obtain ⟨turns₁, hFails⟩ : ∃ turns, Chronicle.Runs Inventory.rough (Chronicle.OnlyMoves 0)
      (.start { platform := inventory } jobs) ⟨failed, turns⟩ := Chronicle.exists_advance hAdmits _ 0 []
  have hAllowed : Inventory.rough.commands (InventoryCommand.clear (some dc) .createDisk) := id
  have hMended : Chronicle.Runs Inventory.rough (Chronicle.OnlyMoves 0) ⟨failed, turns₁⟩ ⟨mended, turns₁⟩ :=
    .single ⟨.command _ hAllowed, fun turn => .inl⟩
  obtain ⟨turns₂, hMakes⟩ : ∃ turns, Chronicle.Runs Inventory.rough (Chronicle.OnlyMoves 1)
      ⟨mended, turns₁⟩ ⟨made, turns⟩ := Chronicle.exists_advance hAdmits mended 1 turns₁
  obtain ⟨turns₃, hFinds⟩ : ∃ turns, Chronicle.Runs Inventory.rough (Chronicle.OnlyMoves 2)
      ⟨made, turns₂⟩ ⟨found, turns⟩ := Chronicle.exists_advance hAdmits made 2 turns₂
  have hFailed : mended.result? 0 = some (.error (Cause.creationFailed (.notFound "Datastore" "ds")).toError) := by
    decide +kernel
  have hMade : made.result? 1 = some (.ok (some disk)) := by
    decide +kernel
  have hFound : found.result? 2 = some (.ok (some disk)) := by
    decide +kernel
  have hFew : (inventory.named 0 ⟨.datastore, "ds"⟩ "volume").length ≤ 1 := by
    decide +kernel
  clear_value found made mended failed
  have hBegun₁ (number : Nat) (h : Chronicle.HasBegun ⟨mended, turns₁⟩ number) : number = 0 :=
    (Chronicle.Runs.hasBegun_of_onlyMoves (hFails.trans hMended) h).resolve_left
      fun ⟨turn, hTurn, _⟩ => List.not_mem_nil hTurn
  have hBegun₂ (number : Nat) (h : Chronicle.HasBegun ⟨made, turns₂⟩ number) : number = 0 ∨ number = 1 :=
    (Chronicle.Runs.hasBegun_of_onlyMoves hMakes h).imp_left (hBegun₁ number)
  have hApart₁ := apart_of_onlyMoves requests (hFails.trans hMended) fun _ ⟨turn, hTurn, _⟩ =>
    (List.not_mem_nil hTurn).elim
  have hApart₂ := apart_of_onlyMoves requests hMakes fun number h =>
    .inr ⟨_, hBegun₁ number h ▸ hFailed⟩
  have hApart₃ := apart_of_onlyMoves requests hFinds fun number h => by
    rcases hBegun₂ number h with rfl | rfl
    · exact .inr ⟨_, Chronicle.Runs.result? hMakes hFailed⟩
    · exact .inr ⟨_, hMade⟩
  have hKeeps {c c' : Chronicle Inventory (Except Error (Option Disk))}
      (hBefore : Chronicle.Runs Inventory.rough (Apart requests)
        (.start { platform := inventory } jobs) c)
      (h : Chronicle.Runs Inventory.rough (Apart requests) c c') :
      Chronicle.Runs Inventory.rough (fun c c' => Apart requests c c' ∧ Chronicle.Stays 0 disk c c') c c' := by
    refine (Chronicle.Runs.keepsDisks ?_ (hBefore.mono fun _ _ _ => trivial) h 0).mono fun _ _ hKind =>
      ⟨hKind.1, fun hThere => hKind.2.subset hThere⟩
    intro job hJob
    obtain ⟨request, hRequest, rfl⟩ := List.mem_map.1 hJob
    obtain rfl := List.eq_of_mem_replicate hRequest
    have hConverses := VolumeStore.serve_converses ⟨true, 0⟩ (.create dc ⟨.datastore, "ds"⟩ "volume" 1024)
    exact ⟨_, _, hConverses, fun _ => trivial, nofun⟩
  have hCreates (number : Nat) (h : number < 3) : Creates requests 0 ⟨.datastore, "ds"⟩ "volume" number :=
    ⟨.background, dc, 1024, List.getElem?_replicate_of_lt h, rfl⟩
  obtain ⟨hOne, hSame⟩ := retried_creates_keep_one_disk ⟨true, 0⟩ { platform := inventory } requests
  refine ⟨⟨found, turns₃⟩, disk, (hApart₁.trans hApart₂).trans hApart₃, ?_, ?_, hFound, ?_, ?_⟩
  · exact Chronicle.Runs.result? hFinds (Chronicle.Runs.result? hMakes hFailed)
  · exact Chronicle.Runs.result? hFinds hMade
  · refine hSame 0 _ _ 1 2 disk disk _ _ _ hFew (hCreates 1 (by decide)) (hCreates 2 (by decide)) hApart₁ ?_
      (hKeeps hApart₁ hApart₂) hMade ?_ (hKeeps (hApart₁.trans hApart₂) hApart₃) hFound
    · rintro ⟨_, -, hHeard⟩
      cases hBegun₁ 1 (Chronicle.hasBegun_of_mem_heardBy hHeard)
    · intro hBegun
      rcases hBegun₂ 2 hBegun with h | h <;> cases h
  · exact hOne _ ((hApart₁.trans hApart₂).trans hApart₃) 0 _ _ hFew

end VolumeController
