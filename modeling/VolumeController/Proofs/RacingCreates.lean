import VolumeController.Proofs.Inventory.Steps
import VolumeController.Proofs.SerializedCreates
/-! Creates of one name in one pool at once. A create asks for a disk only when its name was just found to be free,
and returns only a disk that it was shown under the name. Main result: as long as no disk is deleted, all creates
that succeed return the first disk of the name. -/

namespace VolumeController

/-- The reply of a search by name. -/
abbrev Exchange.named (dc : Datacenter) (pool : Pool) (name : String) (found : Option Disk) : Exchange :=
  ⟨.call (.findByName dc pool name), .ok (.ok found)⟩

/-- A disk is created or deleted only as the request says, and created only when its name was just found to be
free. -/
def StoreRequest.dialogue (request : StoreRequest) : Dialogue where
  asks told
    | .call (.createDisk dc pool name sizeMb) =>
      request = .create dc pool name sizeMb ∧ told.getLast? = some (.named dc pool name none)
    | .call (.deleteDisk dc pool id) => request = .delete dc pool id
    | _ => True

namespace VolumeStore

/-- A success returns a disk that was shown under the name. -/
def Shown (dc : Datacenter) (pool : Pool) (name : String) (told : List Exchange)
    (result : Except Error CreateOutcome) : Prop :=
  ∀ outcome, result = .ok outcome → .named dc pool name (some outcome.disk) ∈ told

variable (dc : Datacenter) (pool : Pool) (name : String) (sizeMb : UInt64) {told : List Exchange}

theorem create_converses (hFree : told.getLast? = some (.named dc pool name none)) :
    (create dc pool name sizeMb).run.Converses (StoreRequest.create dc pool name sizeMb).dialogue
      (Shown dc pool name) told := by
  refine .callThen ⟨rfl, hFree⟩ nofun ?_
  rintro (failure | created) -
  · exact .reject nofun
  · refine .callThen trivial nofun ?_
    rintro (failure | _ | disk) -
    · exact .reject nofun
    · exact .reject nofun
    · refine .afterNote ?_
      rintro _ ⟨⟩
      exact List.mem_append_right _ List.mem_cons_self

theorem createUnlocked_converses :
    (createUnlocked dc pool name sizeMb).run.Converses (StoreRequest.create dc pool name sizeMb).dialogue
      (Shown dc pool name) told := by
  refine .callThen trivial nofun ?_
  rintro (failure | _ | disk) -
  · exact .reject nofun
  · exact create_converses dc pool name sizeMb List.getLast?_concat
  · refine .afterNote ?_
    split
    · exact .reject nofun
    · rintro _ ⟨⟩
      exact List.mem_append_right _ List.mem_cons_self

theorem createOrGet_converses (store : VolumeStore) :
    (store.createOrGet dc pool name sizeMb).run.Converses (StoreRequest.create dc pool name sizeMb).dialogue
      (Shown dc pool name) told := by
  unfold createOrGet
  split
  · exact .locked (fun _ => trivial) nofun fun lock => createUnlocked_converses dc pool name sizeMb
  · exact createUnlocked_converses dc pool name sizeMb

end VolumeStore

namespace Inventory

variable {inv inv' : Inventory} {place : Nat}

/-- Whether every disk of a place is still there. -/
def KeepsDisks (place : Nat) (inv inv' : Inventory) : Prop :=
  (inv.disksAt place).Sublist (inv'.disksAt place)

/-- Where no disk is taken out, disks are only put after the others. -/
theorem Effect.prefix_disksAt {c : Call} (h : inv.Effect c inv') (hKeeps : inv.KeepsDisks place inv') :
    inv.disksAt place <+: inv'.disksAt place := by
  rcases h.disksAt place with hSame | ⟨_, _, _, _, disk, -, -, -, -, -, hAdd⟩ | ⟨_, pool, id, -, -, hRemove⟩
  · exact hSame.symm ▸ List.prefix_rfl
  · rw [hAdd]
    exact List.prefix_append _ _
  · rw [KeepsDisks, hRemove] at hKeeps
    exact (hRemove.trans (List.eraseP_sublist.antisymm hKeeps)).symm ▸ List.prefix_rfl

theorem named_eq_of_disksAt (h : inv'.disksAt place = inv.disksAt place) (pool : Pool) (name : String) :
    inv'.named place pool name = inv.named place pool name := by
  rw [named, h, named]

/-- A search by name that succeeds shows the first disk of the name and changes nothing. -/
theorem finish_findByName {dc : Datacenter} {pool : Pool} {name : String} {ticket : Platform.Ticket Inventory}
    {found : Option Disk} (h : .ok found = (Platform.finish (.findByName dc pool name) ticket inv).1) :
    (Platform.finish (.findByName dc pool name) ticket inv).2.2 = inv ∧
      (inv.named dc.place pool name).head? = found :=
  ⟨(effect_finish inv _ ticket).eq_of_reads rfl, (head?_named_of_finish ticket h.symm).symm⟩

end Inventory

namespace Chronicle

section

variable {α : Type} {c c' : Chronicle Inventory α} {place number : Nat} {dc : Datacenter} {pool : Pool} {name : String}

theorem Step.prefix_disksAt (h : Step Inventory.rough c c') (hKeeps : c.platform.KeepsDisks place c'.platform) :
    c.platform.disksAt place <+: c'.platform.disksAt place := by
  rcases h.inventory_cases with ⟨hSame, -⟩ | ⟨_, call, ticket, -, hEffect⟩
  · exact (Inventory.disksAt_eq_of_cleared hSame).symm ▸ List.prefix_rfl
  · rw [hEffect] at hKeeps ⊢
    exact (Inventory.effect_finish c.platform call ticket).prefix_disksAt hKeeps

/-- Disks go only as a call to delete one takes effect. -/
theorem Step.keepsDisks (h : Step Inventory.rough c c') (hDelete : ∀ number dc pool id reply,
    c'.turns ≠ ⟨number, some ⟨.call (.deleteDisk dc pool id), .ok reply⟩⟩ :: c.turns) (place : Nat) :
    c.platform.KeepsDisks place c'.platform := by
  rw [Inventory.KeepsDisks]
  rcases h.inventory_cases with ⟨hSame, -⟩ | ⟨number, call, ticket, hTurn, hEffect⟩
  · rw [Inventory.disksAt_eq_of_cleared hSame]
  · rcases hEffect ▸ (Inventory.effect_finish c.platform call ticket).disksAt place with
      hSame | ⟨_, _, _, _, disk, -, -, -, -, -, hAdd⟩ | ⟨dc, pool, id, rfl, -, -⟩
    · rw [hSame]
    · rw [hAdd]
      exact List.sublist_append_left _ _
    · exact absurd hTurn (hDelete number dc pool id _)

/-- What a search by name shows anew is the first disk of the name. -/
theorem Step.named_cases (h : Step Inventory.rough c c') {found : Option Disk}
    (hShown : .named dc pool name found ∈ c'.heardBy number) :
    .named dc pool name found ∈ c.heardBy number ∨
      c'.platform = c.platform ∧ (c.platform.named dc.place pool name).head? = found := by
  refine (h.reply_cases hShown).imp_right ?_
  rintro ⟨ticket, hReply, hEffect⟩
  rw [hEffect]
  exact Inventory.finish_findByName hReply

/-- The disks of a name become more only as a call to create one takes effect. -/
theorem Step.sublist_named_or (h : Step Inventory.rough c c') (place : Nat) (pool : Pool) (name : String) :
    (c'.platform.named place pool name).Sublist (c.platform.named place pool name) ∨
      ∃ number dc sizeMb reply disk, dc.place = place ∧
        c'.turns = ⟨number, some ⟨.call (.createDisk dc pool name sizeMb), .ok reply⟩⟩ :: c.turns ∧
        c'.platform.named place pool name = c.platform.named place pool name ++ [disk] := by
  rcases h.inventory_cases with ⟨hSame, -⟩ | ⟨number, call, ticket, hTurn, hEffect⟩
  · rw [Inventory.named_eq_of_disksAt (Inventory.disksAt_eq_of_cleared hSame)]
    exact .inl (List.Sublist.refl _)
  · cases hCreates : call.creates place pool name with
    | false =>
        rw [hEffect]
        exact .inl ((Inventory.effect_finish c.platform call ticket).named_sublist hCreates)
    | true =>
        cases call with
        | createDisk dc pool' name' sizeMb =>
            obtain ⟨⟨rfl, rfl⟩, rfl⟩ : (dc.place = place ∧ pool' = pool) ∧ name' = name := by
              simpa [Call.creates] using hCreates
            rw [hEffect]
            rcases Inventory.finish_createDisk c.platform dc pool' name' sizeMb ticket with
              ⟨_, -, hSame⟩ | ⟨-, -, disk, -, hAdd⟩
            · rw [hSame]
              exact .inl (List.Sublist.refl _)
            · exact .inr ⟨number, dc, sizeMb, _, disk, rfl, hTurn, hAdd⟩
        | _ => cases hCreates

/-- As long as disks stay, whatever was shown under a name is the first disk of the name. -/
theorem Runs.head?_named {w : World Inventory} {jobs : List (Context × Procedure α)}
    (h : Runs Inventory.rough (fun c c' => c.platform.KeepsDisks place c'.platform) (start w jobs) c)
    (hPlace : dc.place = place) {disk : Disk} (hShown : .named dc pool name (some disk) ∈ c.heardBy number) :
    (c.platform.named place pool name).head? = some disk := by
  subst hPlace
  induction h with
  | refl => exact (List.not_mem_nil hShown).elim
  | tail _ hLast ih =>
      rcases hLast.1.named_cases hShown with hOld | ⟨hSame, hFirst⟩
      · obtain ⟨added, hAdded⟩ := hLast.1.prefix_disksAt hLast.2
        rw [Inventory.named, ← hAdded, List.filter_append, List.head?_append]
        rw [show (List.filter _ _).head? = _ from ih hOld]
        rfl
      · rw [hSame, hFirst]

end

end Chronicle

/-- Whether a create of a name in a pool at a place has returned a disk. Other jobs may have other results; `give`
says how those of creates are given. -/
def Obtains {α : Type} (give : Except Error CreateOutcome → α) (jobs : List (Context × Procedure α)) (place : Nat)
    (pool : Pool) (name : String) (s : System Inventory α) (disk : Disk) : Prop :=
  ∃ number ctx store dc sizeMb outcome, dc.place = place ∧
    jobs[number]? = some (ctx, give <$> (VolumeStore.createOrGet store dc pool name sizeMb).run) ∧
    s.result? number = some (give (.ok outcome)) ∧ outcome.disk = disk

/-- Creates of one name in one pool and datacenter, among any other jobs and whatever fails, is slow or is given
up, while no disk of the datacenter is deleted and none is put there but by creates. All that succeed return one
and the same disk, the first of the name in the pool. -/
theorem racing_creates_agree {α : Type} {give : Except Error CreateOutcome → α} (hGive : Function.Injective give)
    {w : World Inventory} {jobs : List (Context × Procedure α)} {place : Nat} {s : System Inventory α}
    (hRuns : Relation.ReflTransGen
      (fun s s' => System.Step Inventory.rough s s' ∧ s.world.platform.KeepsDisks place s'.world.platform)
      (System.start w jobs) s) (pool : Pool) (name : String) :
    (∀ disk, Obtains give jobs place pool name s disk →
      (s.world.platform.named place pool name).head? = some disk) ∧
    ∀ disk disk', Obtains give jobs place pool name s disk → Obtains give jobs place pool name s disk' →
      disk = disk' := by
  have hFirst (disk : Disk) (h : Obtains give jobs place pool name s disk) :
      (s.world.platform.named place pool name).head? = some disk := by
    obtain ⟨number, ctx, store, dc, sizeMb, outcome, hPlace, hJob, hResult, rfl⟩ := h
    obtain ⟨turns, hChronicle⟩ := Chronicle.exists_runs hRuns []
    have hConverses : (give <$> (store.createOrGet dc pool name sizeMb).run).Converses
        (StoreRequest.create dc pool name sizeMb).dialogue (fun told result => ∀ outcome,
          result = give (.ok outcome) → .named dc pool name (some outcome.disk) ∈ told) [] :=
      .map ((VolumeStore.createOrGet_converses dc pool name sizeMb store).mono fun _ _ hShown outcome hResult =>
        hShown outcome (hGive hResult))
    have hShown := hChronicle.goal_of_result hJob hConverses (fun _ _ => trivial) hResult outcome rfl
    exact hChronicle.head?_named hPlace hShown
  exact ⟨hFirst, fun disk disk' h h' => Option.some.inj ((hFirst disk h).symm.trans (hFirst disk' h'))⟩

/-- Where no job asks to delete a disk, all disks stay. -/
theorem Chronicle.Runs.keepsDisks {α : Type} {w : World Inventory} {jobs : List (Context × Procedure α)}
    {kind : Chronicle Inventory α → Chronicle Inventory α → Prop} {c c' : Chronicle Inventory α}
    (hJobs : ∀ job ∈ jobs, ∃ D goal, job.2.Converses D goal [] ∧ (∀ x, D.told x) ∧
      ∀ told dc pool id, ¬ D.asks told (.call (.deleteDisk dc pool id)))
    (hStart : Chronicle.Runs Inventory.rough (fun _ _ => True) (.start w jobs) c)
    (h : Chronicle.Runs Inventory.rough kind c c') (place : Nat) :
    Chronicle.Runs Inventory.rough (fun c c' => kind c c' ∧ c.platform.KeepsDisks place c'.platform) c c' := by
  induction h with
  | refl => exact .refl
  | tail hRuns hLast ih =>
      refine ih.tail ⟨hLast.1, hLast.2, hLast.1.keepsDisks ?_ place⟩
      intro number dc pool id reply hTurn
      have hBefore := hStart.trans (Chronicle.Runs.mono hRuns fun _ _ _ => trivial)
      obtain ⟨job, hJob⟩ := Chronicle.Runs.exists_job hBefore hLast.1 hTurn
      obtain ⟨D, goal, hConverses, hTold, hAsks⟩ := hJobs job (List.mem_of_getElem? hJob)
      exact hAsks _ dc pool id
        (Chronicle.Runs.asks_of_turn hBefore hJob hConverses (fun x _ => hTold x) hLast.1 hTurn)

theorem System.Runs.keepsDisks {α : Type} {w : World Inventory} {jobs : List (Context × Procedure α)}
    {s : System Inventory α}
    (hJobs : ∀ job ∈ jobs, ∃ D goal, job.2.Converses D goal [] ∧ (∀ x, D.told x) ∧
      ∀ told dc pool id, ¬ D.asks told (.call (.deleteDisk dc pool id)))
    (h : System.Runs Inventory.rough (System.start w jobs) s) (place : Nat) :
    Relation.ReflTransGen
      (fun s s' => System.Step Inventory.rough s s' ∧ s.world.platform.KeepsDisks place s'.world.platform)
      (System.start w jobs) s := by
  have hFree : Relation.ReflTransGen (fun s s' => System.Step Inventory.rough s s' ∧ True) (System.start w jobs) s :=
    Relation.ReflTransGen.mono (fun _ _ hStep => ⟨hStep, trivial⟩) _ _ h
  obtain ⟨turns, hChronicle⟩ := Chronicle.exists_runs hFree []
  have hKept := Chronicle.Runs.keepsDisks hJobs .refl hChronicle place
  exact hKept.lift Chronicle.system fun _ _ hStep => ⟨hStep.1.system, hStep.2.2⟩

set_option maxRecDepth 10000 in
/-- Two creates of one name at once, by stores that do not serialize them, each make a disk, and both return the
first one. -/
theorem racing_creates_agree_twins :
    let create := (VolumeStore.createOrGet ⟨false, 0⟩ ⟨"dc", 0⟩ ⟨.datastore, "ds"⟩ "volume" 1024).run
    let jobs := [(Context.background, id <$> create), (Context.background, id <$> create)]
    let first : Disk := ⟨Inventory.idText 1, "volume", 1024, .datastore "ds",
      .file (Inventory.backingPath "ds" (Inventory.idText 1))⟩
    ∃ s : System Inventory (Except Error CreateOutcome),
      System.Runs Inventory.rough (System.start { platform := .small } jobs) s ∧
      s.result? 0 = some (.ok (.created first)) ∧ s.result? 1 = some (.ok (.created first)) ∧
      (s.world.platform.named 0 ⟨.datastore, "ds"⟩ "volume").length = 2 ∧
      (s.world.platform.named 0 ⟨.datastore, "ds"⟩ "volume").head? = some first := by
  intro create jobs first
  have hAdmits : ∀ job ∈ jobs, Inventory.rough.Admits job.1 := by
    simp [jobs, Surroundings.admits_background]
  obtain ⟨s, hRuns, hWorld, hResults⟩ := Lab.exists_runs 100 { platform := .small } jobs hAdmits
  have hFirst : s.result? 0 = some (.ok (.created first)) := hResults 0 _ (by decide +kernel)
  have hSecond : s.result? 1 = some (.ok (.created first)) := hResults 1 _ (by decide +kernel)
  have hCreates : ∀ job ∈ jobs, ∃ D goal, job.2.Converses D goal [] ∧ (∀ x, D.told x) ∧
      ∀ told dc pool id, ¬ D.asks told (.call (.deleteDisk dc pool id)) := by
    intro job hJob
    obtain rfl : job = (.background, id <$> create) := by simpa [jobs] using hJob
    exact ⟨_, _, .map (VolumeStore.createOrGet_converses _ _ _ _ _), fun _ => trivial, nofun⟩
  have hGive : Function.Injective (id : Except Error CreateOutcome → _) := Function.injective_id
  have hAgree := racing_creates_agree hGive (hRuns.keepsDisks hCreates 0) ⟨.datastore, "ds"⟩ "volume"
  refine ⟨s, hRuns, hFirst, hSecond, ?_, hAgree.1 first ⟨0, _, _, _, _, _, rfl, rfl, hFirst, rfl⟩⟩
  rw [hWorld]
  decide +kernel

end VolumeController
