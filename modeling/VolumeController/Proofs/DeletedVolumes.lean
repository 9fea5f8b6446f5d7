import VolumeController.Proofs.ConcurrentDeletes
/-! What delete requests for one id come to. The volume is always gone in the end and nothing else is
touched; but a request that has found the volume and is overtaken by another one fails. Main result: exactly
when every request succeeds. -/

namespace VolumeController

/-- Delete requests for one id, side by side. -/
def Controller.deletes (id : String) (ctxs : List Context) :
    List (Context × Procedure (Except Error DeleteVolumeResponse)) :=
  ctxs.map fun ctx => (ctx, (deleteVolume ⟨id⟩).run)

/-- Whether a number of delete requests for one id succeed, in whatever order things happen. -/
def Controller.DeletesSucceed (w : World Inventory) (id : String) (count : Nat) : Prop :=
  ∀ ctxs : List Context, ctxs.length = count →
    ∀ s, System.Runs Inventory.calm (System.start w (deletes id ctxs)) s →
      ∀ (number : Nat) result, s.result? number = some result → result = .ok ⟨⟩

/-- Whether the disks of an inventory are those of another one, or those without an id. -/
def Inventory.Without (inv before : Inventory) (id : String) : Prop :=
  ∀ place, inv.disksAt place = (before.disksAt place).filter fun disk => disk.id ≠ id

variable {w : World Inventory} {id : String} {ctxs : List Context}
  {s : System Inventory (Except Error DeleteVolumeResponse)}

/-- What every run has come to. -/
theorem Purge.runs (hFaultless : w.platform.Faultless) (hIds : w.platform.DistinctIds)
    (hRuns : System.Runs Inventory.calm (System.start w (Controller.deletes id ctxs)) s) :
    (∀ place, s.world.platform.disksAt place = w.platform.disksAt place ∨
      s.world.platform.disksAt place = (w.platform.disksAt place).filter fun disk => disk.id ≠ id) ∧
    ∀ (number : Nat) result, s.result? number = some result →
      (Purge.mk id w.platform).Ends result w.platform.datacenters.length ∧
      (id ≠ "" → s.world.platform.Without w.platform id) := by
  let t : Purge := ⟨id, w.platform⟩
  have hStart : (System.start w (Controller.deletes id ctxs)).Follows t.rules (fun _ => t.Ends)
      (List.replicate (Controller.deletes id ctxs).length 0) := by
    refine .startTogether ⟨hFaultless, rfl, fun place => .inl rfl, ?_⟩ ?_
    · intro i n hStage place hPlace
      obtain rfl := List.eq_of_mem_replicate (List.mem_of_getElem? hStage)
      exact absurd hPlace (Nat.not_lt_zero place)
    · intro number job hJob
      obtain ⟨ctx, -, rfl⟩ := Option.map_eq_some_iff.1 (List.getElem?_map ▸ hJob)
      exact t.deleteVolume hIds
  obtain ⟨stages, hFollows⟩ := hStart.runs t.covers hRuns
  refine ⟨hFollows.invariant.kept, fun number result hResult => ?_⟩
  obtain ⟨n, hStage, ⟨hUnnamed, rfl⟩ | ⟨hId, rfl, hEnd⟩⟩ := hFollows.goal_of_result hResult
  · exact ⟨.inl ⟨hUnnamed, rfl⟩, fun hId => absurd hUnnamed hId⟩
  · refine ⟨.inr ⟨hId, rfl, hEnd⟩, fun _ place => ?_⟩
    have hGone : ∀ disk ∈ s.world.platform.disksAt place, disk.id ≠ id := by
      intro disk hDisk
      have hThere := Inventory.lt_of_mem_disksAt hDisk
      rw [hFollows.invariant.length_datacenters] at hThere
      exact hFollows.invariant.seen number _ hStage place hThere disk hDisk
    rcases hFollows.invariant.kept place with hSame | hLess
    · change s.world.platform.disksAt place = w.platform.disksAt place at hSame
      rw [← hSame]
      exact (List.filter_eq_self.2 fun disk hDisk => by simpa using hGone disk hDisk).symm
    · exact hLess

/-- A request alone succeeds. -/
theorem deleteVolume_alone (hFaultless : w.platform.Faultless) (hId : id ≠ "") {ctx : Context}
    (hRuns : System.Runs Inventory.calm (System.start w (Controller.deletes id [ctx])) s)
    {result : Except Error DeleteVolumeResponse} (hResult : s.result? 0 = some result) :
    result = .ok ⟨⟩ := by
  have hShows : w.Shows ⟨w.platform.cleared, w.locks⟩ := ⟨hFaultless, rfl, rfl⟩
  cases hFind : w.platform.cleared.locateDisk id with
  | none => exact ((Solo.deleteVolume_absent hId hFind).eq_of_result hShows hRuns hResult).1
  | some found => exact ((Solo.deleteVolume hId hFind).eq_of_result hShows hRuns hResult).1

/-- A request that found the volume fails if another one is faster. -/
theorem exists_overtaken_delete (hFaultless : w.platform.Faultless) (hIds : w.platform.DistinctIds)
    (hId : id ≠ "") (hThere : ∃ place, ∃ disk ∈ w.platform.disksAt place, disk.id = id) {count : Nat}
    (hCount : 1 < count) :
    ∃ s, System.Runs Inventory.calm
        (System.start w (Controller.deletes id (List.replicate count .background))) s ∧
      s.result? 0 = some (.error (Purge.overtaken id)) := by
  let threads := (System.start w (Controller.deletes id (List.replicate count .background))).threads
  have hThread : ∀ number < count,
      threads[number]? = some ⟨.background, .running (Controller.deleteVolume ⟨id⟩).run⟩ := by
    intro number hNumber
    simp [threads, System.start, Controller.deletes, hNumber, Thread.start]
  have hLength : threads.length = count := by simp [threads, System.start, Controller.deletes]
  let scene : Scene := ⟨w.platform.cleared, w.locks⟩
  obtain ⟨site, disk, hFound⟩ : ∃ site disk, scene.inventory.locateDisk id = some (site, disk) := by
    cases hFind : scene.inventory.locateDisk id with
    | some found => exact ⟨found.1, found.2, rfl⟩
    | none =>
        obtain ⟨place, disk, hDisk, hDiskId⟩ := hThere
        rw [← Inventory.disksAt_cleared] at hDisk
        exact absurd hDiskId (Inventory.locateDisk_eq_none_iff.1 hFind place disk hDisk)
  obtain ⟨hSite, hDisk, hDiskId⟩ := Inventory.of_locateDisk hFound
  obtain ⟨state, hState⟩ := Inventory.state?_of_mem_sites hSite
  have hSome : ∃ d ∈ scene.inventory.disksAt site.datacenter.place,
      d.id = id ∧ d.isIn disk.parent.pool = true := ⟨disk, hDisk, hDiskId, disk.isIn_pool⟩
  have hIds' : scene.inventory.DistinctIds := by
    refine ⟨fun place => ?_, fun place place' => ?_⟩
    · rw [Inventory.disksAt_cleared]
      exact hIds.within place
    · rw [Inventory.disksAt_cleared, Inventory.disksAt_cleared]
      exact hIds.across place place'
  -- The first request finds the volume.
  obtain ⟨w₁, hShows₁, hRuns₁⟩ := (Solo.deleteVolume_found hId hFound).runs_set
    ⟨hFaultless, rfl, rfl⟩ (hThread 0 (Nat.zero_lt_of_lt hCount))
  -- The second one deletes it.
  obtain ⟨w₂, hShows₂, hRuns₂⟩ := (Solo.deleteVolume hId hFound).runs_set hShows₁
    ((List.getElem?_set_ne (Nat.zero_ne_one)).trans (hThread 1 hCount))
  -- The first one asks for its deletion too.
  let gone := scene.after (.deleteDisk site.datacenter disk.parent.pool id)
  have hGone : gone.inventory = scene.inventory.modify site.datacenter (·.dropDisk disk.parent.pool id) :=
    (Inventory.answer_deleteDisk_of_mem hState hDisk hDiskId).2
  have hState' : gone.inventory.state? site.datacenter = some (state.dropDisk disk.parent.pool id) := by
    rw [hGone, Inventory.state?, Inventory.modify, List.getElem?_modify_eq]
    exact congrArg (Option.map _) hState
  have hReply : (gone.inventory.answer (.deleteDisk site.datacenter disk.parent.pool id)).1 =
      .error (.notFound "FirstClassDisk" id) := by
    rcases Inventory.answer_deleteDisk hState' disk.parent.pool id with ⟨-, hReply, -⟩ | ⟨⟨d, hd, hSame, -⟩, -⟩
    · exact hReply
    · rw [hGone, hIds'.disksAt_dropDisk hSome] at hd
      exact absurd hSame (by simpa using List.of_mem_filter hd)
  have hRest : Solo 0 (Controller.fromDelete id site disk).run gone _ _ := Solo.fromDelete id site disk
  rw [hReply] at hRest
  have hNumber : 0 < threads.length := by omega
  obtain ⟨w₃, -, hRuns₃⟩ := hRest.runs_set hShows₂
    ((List.getElem?_set_ne (Nat.one_ne_zero)).trans (List.getElem?_set_self hNumber))
  refine ⟨_, (hRuns₁.trans hRuns₂).trans hRuns₃, ?_⟩
  simp [System.result?, hNumber, Thread.result?, Purge.overtaken]

/-- A request without an id is refused. -/
theorem exists_unnamed_refused (hFaultless : w.platform.Faultless) {count : Nat} (hCount : 0 < count) :
    ∃ s, System.Runs Inventory.calm
        (System.start w (Controller.deletes "" (List.replicate count .background))) s ∧
      s.result? 0 = some (.error Cause.volumeIdMissing.toError) := by
  let threads := (System.start w (Controller.deletes "" (List.replicate count .background))).threads
  have hThread : threads[0]? = some ⟨.background, .running (Controller.deleteVolume ⟨""⟩).run⟩ := by
    simp [threads, System.start, Controller.deletes, hCount, Thread.start]
  have hShows : w.Shows ⟨w.platform.cleared, w.locks⟩ := ⟨hFaultless, rfl, rfl⟩
  obtain ⟨w', -, hRuns⟩ := Solo.deleteVolume_unnamed.runs_set hShows hThread
  have hNumber : 0 < threads.length := (List.getElem?_eq_some_iff.1 hThread).1
  exact ⟨_, hRuns, by simp [System.result?, hNumber, Thread.result?]⟩

/-- Deletes of one id. All of them succeed in all runs just if there is an id, and one request at most or no
volume to delete. However they end, a request that ends leaves the datacenters without the volume, everything
else stays where it is, and the requests can always be brought to their ends. -/
theorem deletes_succeed_iff (hFaultless : w.platform.Faultless) (hIds : w.platform.DistinctIds) (id : String)
    (count : Nat) :
    (Controller.DeletesSucceed w id count ↔
      count = 0 ∨ id ≠ "" ∧ (count = 1 ∨ ∀ place, ∀ disk ∈ w.platform.disksAt place, disk.id ≠ id)) ∧
    ∀ ctxs : List Context, ctxs.length = count →
      ∀ s, System.Runs Inventory.calm (System.start w (Controller.deletes id ctxs)) s →
        (∀ (number : Nat) result, s.result? number = some result →
          (id = "" → result = .error Cause.volumeIdMissing.toError) ∧
          (id ≠ "" → (result = .ok ⟨⟩ ∨ result = .error (Purge.overtaken id)) ∧
            s.world.platform.Without w.platform id)) ∧
        (∀ place, s.world.platform.disksAt place = w.platform.disksAt place ∨
          s.world.platform.disksAt place = (w.platform.disksAt place).filter fun disk => disk.id ≠ id) ∧
        ((∀ ctx ∈ ctxs, ctx.Endless) → ∃ s', System.Runs Inventory.calm s s' ∧ s'.Finished) := by
  refine ⟨⟨fun hSucceed => ?_, ?_⟩, fun ctxs _ s hRuns => ⟨?_, ?_, fun hEndless => ?_⟩⟩
  · refine Classical.or_iff_not_imp_left.2 fun hSome => ?_
    have hFail : ∀ e, ¬ ∃ s, System.Runs Inventory.calm
        (System.start w (Controller.deletes id (List.replicate count .background))) s ∧
        s.result? 0 = some (.error e) := by
      rintro e ⟨s, hRuns, hResult⟩
      cases hSucceed _ List.length_replicate s hRuns 0 _ hResult
    have hId : id ≠ "" := by
      rintro rfl
      exact hFail _ (exists_unnamed_refused hFaultless (by omega))
    refine ⟨hId, Classical.or_iff_not_imp_left.2 fun hMany place disk hDisk hDiskId => ?_⟩
    exact hFail _ (exists_overtaken_delete hFaultless hIds hId ⟨place, disk, hDisk, hDiskId⟩ (by omega))
  · rintro (rfl | ⟨hId, rfl | hAbsent⟩) ctxs hLength s hRuns number result hResult
    · obtain rfl := List.eq_nil_of_length_eq_zero hLength
      have hNumber := System.lt_of_result? hResult
      rw [System.Runs.length_threads hRuns] at hNumber
      cases hNumber
    · obtain ⟨ctx, rfl⟩ := List.length_eq_one_iff.1 hLength
      have hNumber := System.lt_of_result? hResult
      rw [System.Runs.length_threads hRuns] at hNumber
      obtain rfl := Nat.lt_one_iff.1 hNumber
      exact deleteVolume_alone hFaultless hId hRuns hResult
    · obtain ⟨⟨hUnnamed, -⟩ | ⟨-, -, hEnd⟩, -⟩ := (Purge.runs hFaultless hIds hRuns).2 number result hResult
      · exact absurd hUnnamed hId
      · rcases hEnd with hOk | ⟨⟨place, disk, hDisk, hDiskId⟩, -⟩
        · exact hOk
        · exact absurd hDiskId (hAbsent place disk hDisk)
  · intro number result hResult
    obtain ⟨hEnds, hWithout⟩ := (Purge.runs hFaultless hIds hRuns).2 number result hResult
    rcases hEnds with ⟨hUnnamed, hRefused⟩ | ⟨hId, -, hEnd⟩
    · exact ⟨fun _ => hRefused, fun hId => absurd hUnnamed hId⟩
    · exact ⟨fun hUnnamed => absurd hUnnamed hId, fun _ => ⟨hEnd.imp_right And.right, hWithout hId⟩⟩
  · exact (Purge.runs hFaultless hIds hRuns).1
  · have hFree : (System.start w (Controller.deletes id ctxs)).Free := by
      refine .start fun job hJob => ?_
      obtain ⟨ctx, hCtx, rfl⟩ := List.mem_map.1 hJob
      exact ⟨hEndless ctx hCtx, .deleteVolume _⟩
    exact (hFree.runs hRuns).exists_finished

/-- The small inventory with one volume. -/
def Inventory.stocked : Inventory :=
  (small.answer (.createDisk ⟨"dc", 0⟩ ⟨.datastore, "ds"⟩ "volume" 1024)).2.2

theorem Inventory.faultless_stocked : stocked.Faultless :=
  (effect_answer small _).faultless faultless_small

theorem Inventory.disksAt_stocked (place : Nat) :
    stocked.disksAt place = if place = 0 then [⟨idText 1, "volume", 1024, .datastore "ds",
      .file (backingPath "ds" (idText 1))⟩] else [] := by
  cases place with
  | zero => decide +kernel
  | succ place =>
      have hLength : stocked.datacenters.length = 1 := by decide +kernel
      rw [disksAt, List.getElem?_eq_none (by omega)]
      rfl

theorem Inventory.distinctIds_stocked : stocked.DistinctIds := by
  refine ⟨fun place => ?_, fun place place' disk disk' hDisk hDisk' _ => ?_⟩
  · rw [disksAt_stocked]
    split
    · exact List.nodup_singleton _
    · exact List.nodup_nil
  · rw [disksAt_stocked] at hDisk hDisk'
    split at hDisk
    · split at hDisk'
      · omega
      · cases hDisk'
    · cases hDisk

/-- One request for the only volume succeeds; two do not always do so. -/
theorem deletes_succeed_stocked :
    Controller.DeletesSucceed { platform := .stocked } (Inventory.idText 1) 1 ∧
      ¬ Controller.DeletesSucceed { platform := .stocked } (Inventory.idText 1) 2 := by
  have hId : Inventory.idText 1 ≠ "" := by decide +kernel
  have hFaultless : ({ platform := .stocked } : World Inventory).platform.Faultless :=
    Inventory.faultless_stocked
  have hIds : ({ platform := .stocked } : World Inventory).platform.DistinctIds :=
    Inventory.distinctIds_stocked
  refine ⟨(deletes_succeed_iff hFaultless hIds _ 1).1.2 (.inr ⟨hId, .inl rfl⟩), fun hSucceed => ?_⟩
  rcases (deletes_succeed_iff hFaultless hIds _ 2).1.1 hSucceed with hNone | ⟨-, hOne | hAbsent⟩
  · cases hNone
  · cases hOne
  · have hDisks := Inventory.disksAt_stocked 0
    rw [if_pos rfl] at hDisks
    have hThere : _ ∈ Inventory.stocked.disksAt 0 := hDisks ▸ List.mem_singleton_self _
    exact hAbsent 0 _ hThere rfl

set_option maxRecDepth 10000 in
/-- Of two requests at once the second one is told that there is no such disk. -/
theorem deletes_succeed_fails_for_two :
    ∃ s, System.Runs Inventory.calm (System.start { platform := .stocked }
        (Controller.deletes (Inventory.idText 1) [.background, .background])) s ∧
      s.result? 0 = some (.ok ⟨⟩) ∧
      s.result? 1 = some (.error (.internal
        ("DeleteFirstClassDisk(00000000-0000-4000-8000-000000000001) failed. " ++
          "Err: FirstClassDisk not found: 00000000-0000-4000-8000-000000000001"))) := by
  have hAdmits : ∀ job ∈ Controller.deletes (Inventory.idText 1) [.background, .background],
      Inventory.calm.Admits job.1 := by
    simp [Controller.deletes, Surroundings.admits_background]
  obtain ⟨s, hRuns, -, hResults⟩ := Lab.exists_runs 100 { platform := .stocked }
    (Controller.deletes (Inventory.idText 1) [.background, .background]) hAdmits
  exact ⟨s, hRuns, hResults 0 _ (by decide +kernel), hResults 1 _ (by decide +kernel)⟩

end VolumeController
