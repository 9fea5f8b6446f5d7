import VolumeController.Proofs.Interleaving.Locking
import VolumeController.Proofs.SeparateCreates.Batch
/-! Creates of different volumes side by side, in calm: no two are for one name in one pool of one datacenter. What a
create looks at is changed by itself alone. Main result: each comes to what it comes to alone, but for the id that it
draws, and in the end every datacenter has the disks that it had before, and after them those that were created. -/

namespace VolumeController

open Rules

namespace Batch

variable {t : Batch} {number : Nat} {ctx : Context} {call : CreateCall} {grip : Grip} {operation : String}

/-- The rules of a batch. -/
abbrev rules (t : Batch) : Rules Inventory (Stage (Option (Nat × Disk))) :=
  underLocks False fun w stages => t.Holds w.platform (stages.map Stage.known)

theorem ignoresRecords (t : Batch) : IgnoresRecords t.rules where
  log _ _ _ h := h
  metrics _ _ _ h := h

theorem ignoresLocks (t : Batch) :
    IgnoresLocks (fun w stages => t.Holds w.platform (stages.map Stage.known)) fun _ => True where
  locks _ _ _ h := h
  grip _ _ _ _ _ _ _ hThread h := by rwa [Stage.map_known_set hThread]

theorem covers (t : Batch) : t.rules.Covers Inventory.calm where
  aborts := id
  clock _ _ _ _ h := h
  cancel _ _ _ h := h
  command w _ c hCommand h := ⟨h.1, h.2.same (h.2.faultless.obey hCommand.2) (Inventory.layout_obey w.platform c)
    (Inventory.disksAt_obey w.platform hCommand.1) (Inventory.nextId_obey w.platform hCommand.1)⟩

/-- A call to the platform that changes nothing. -/
theorem read {c : Call} (hReads : c.reads = true) {goal : Except Error c.Reply → Stage (Option (Nat × Disk)) → Prop}
    {born : Option (Nat × Disk)} {reply : c.Reply} (hReply : ∀ inv known, t.Holds inv known →
      known[number]? = some born → (inv.answer c).1 = reply) (h : goal (.ok reply) ⟨grip, born⟩) :
    t.rules.Follows number goal (Operation.call operation c).run ⟨grip, born⟩ := by
  refine Follows.callInPlace (fun w stages h => ⟨h.1, h.2.start c⟩) False.elim ?_
  rintro w started stages ⟨hLocks, hHolds⟩ hThread
  have hFinish := hHolds.faultless.finish_eq c started.ticket
  have hSame : (w.finish c started).2.platform = w.platform :=
    (Inventory.effect_finish w.platform c started.ticket).eq_of_reads hReads
  have hAnswer : (w.finish c started).1 = reply :=
    (congrArg Prod.fst hFinish).trans (hReply _ _ hHolds (by simp [hThread]))
  refine ⟨⟨grip, born⟩, ?_, ?_⟩
  · rw [set_of_getElem? hThread]
    refine ⟨hLocks, ?_⟩
    change t.Holds (w.finish c started).2.platform _
    rwa [hSame]
  · rw [hAnswer]
    exact h

/-- Creating the disk of a call. -/
theorem callCreate (hCall : t.calls[number]? = some (ctx, call))
    {goal : Except Error (Call.createDisk call.dc call.pool call.name call.sizeMb).Reply →
      Stage (Option (Nat × Disk)) → Prop}
    (hFailure : ∀ failure, t.base.poolAt call.dc call.pool = .error failure →
      goal (.ok (.error failure)) ⟨grip, none⟩)
    (hDone : ∀ parent n, t.base.poolAt call.dc call.pool = .ok parent → t.base.nextId ≤ n →
      goal (.ok (.ok ())) ⟨grip, some (call.dc.place, call.disk parent (Inventory.idText n))⟩) :
    t.rules.Follows number goal
      (Operation.call operation (.createDisk call.dc call.pool call.name call.sizeMb)).run ⟨grip, none⟩ := by
  refine Follows.callInPlace (fun w stages h => ⟨h.1, h.2.start _⟩) False.elim ?_
  rintro w started stages ⟨hLocks, hHolds⟩ hThread
  have hFinish := hHolds.faultless.finish_eq (.createDisk call.dc call.pool call.name call.sizeMb) started.ticket
  have hAnswer := w.platform.answer_createDisk_of_poolAt call.dc call.pool call.name call.sizeMb
  rw [← hFinish] at hAnswer
  have hNothing : (stages.map Stage.known)[number]? = some none := by simp [hThread]
  cases hPool : w.platform.poolAt call.dc call.pool with
  | error failure =>
      simp only [hPool] at hAnswer
      obtain ⟨hReply, hSame⟩ := hAnswer
      refine ⟨⟨grip, none⟩, ?_, ?_⟩
      · rw [set_of_getElem? hThread]
        refine ⟨hLocks, ?_⟩
        change t.Holds (Platform.finish _ started.ticket w.platform).2.2 _
        rwa [hSame]
      · change goal (.ok (Platform.finish _ started.ticket w.platform).1) _
        rw [hReply]
        exact hFailure failure ((hHolds.poolAt _ _).symm.trans hPool)
  | ok parent =>
      simp only [hPool] at hAnswer
      obtain ⟨hReply, s, hState, hAfter⟩ := hAnswer
      obtain ⟨born, -, hGrown⟩ := hHolds.grown
      refine ⟨⟨grip, some (call.dc.place, call.disk parent (Inventory.idText w.platform.nextId))⟩, ⟨?_, ?_⟩, ?_⟩
      · rw [Stage.map_grip_set hThread]
        exact hLocks
      · change t.Holds (Platform.finish _ started.ticket w.platform).2.2 _
        rw [hAfter, List.map_set]
        exact hHolds.create hCall hNothing hState hPool
      · change goal (.ok (Platform.finish _ started.ticket w.platform).1) _
        rw [hReply]
        exact hDone parent w.platform.nextId ((hHolds.poolAt _ _).symm.trans hPool) (hGrown.next ▸ Nat.le_add_right _ _)

/-- How a call may end: it comes to what it would have come to before, and knows what it has created. -/
def Ends (t : Batch) (call : CreateCall) (result : Except Error CreateOutcome) (known : Option (Nat × Disk)) : Prop :=
  (∃ n, t.base.nextId ≤ n ∧ result = call.outcome t.base (Inventory.idText n)) ∧ known = call.birth result

theorem createUnlocked (hCall : t.calls[number]? = some (ctx, call)) :
    t.rules.Follows number (fun result g => g.grip = grip ∧ t.Ends call result g.known)
      (VolumeStore.createUnlocked call.dc call.pool call.name call.sizeMb).run ⟨grip, none⟩ := by
  have hRecords := t.ignoresRecords
  have hEnds {result : Except Error CreateOutcome} {known : Option (Nat × Disk)}
      (hOutcome : ∀ id, call.outcome t.base id = result) (hKnown : known = call.birth result) :
      t.Ends call result known :=
    ⟨⟨t.base.nextId, Nat.le_refl _, (hOutcome _).symm⟩, hKnown⟩
  refine Follows.bindOperation (read rfl (fun inv known hHolds hNothing => hHolds.find hCall hNothing) ?_)
  cases hFound : (t.base.answer (.findByName call.dc call.pool call.name)).1 with
  | error failure =>
      exact Follows.reject hRecords ⟨rfl, hEnds (fun id => by simp only [CreateCall.outcome, hFound]) rfl⟩
  | ok found =>
      cases found with
      | some disk =>
          refine Follows.afterNote hRecords ?_
          split
          · rename_i hDiffers
            exact Follows.reject hRecords
              ⟨rfl, hEnds (fun id => by simp only [CreateCall.outcome, hFound, if_neg hDiffers]) rfl⟩
          · rename_i hSame
            exact Follows.pure ⟨rfl, hEnds (fun id => by
              simp only [CreateCall.outcome, hFound, if_pos (Decidable.not_not.1 hSame)]) rfl⟩
      | none =>
          refine Follows.bindOperation (callCreate hCall (fun failure hPool => ?_) fun parent n hPool hDrawn => ?_)
          · exact Follows.reject hRecords ⟨rfl, hEnds (fun id => by simp only [CreateCall.outcome, hFound, hPool]) rfl⟩
          · refine Follows.bindOperation (read rfl (fun inv known hHolds hCreated =>
              hHolds.reread hCall hCreated hPool hFound) ?_)
            exact Follows.afterNote hRecords (Follows.pure
              ⟨rfl, ⟨n, hDrawn, by simp only [CreateCall.outcome, hFound, hPool]⟩, rfl⟩)

theorem createOrGet (store : VolumeStore) (hCall : t.calls[number]? = some (ctx, call)) :
    t.rules.Follows number (fun result g => t.Ends call result g.known)
      (store.createOrGet call.dc call.pool call.name call.sizeMb).run ⟨.away, none⟩ := by
  unfold VolumeStore.createOrGet
  split
  · refine (Follows.locked (t.Ends call) (ignoresLocks t) trivial False.elim fun lock => ?_).mono fun _ _ => And.right
    exact (createUnlocked hCall).mono fun result g h => ⟨h.1, trivial, h.2⟩
  · exact (createUnlocked hCall).mono fun _ _ => And.right

variable {store : VolumeStore} {w : World Inventory} {s : System Inventory (Except Error CreateOutcome)}

/-- Where every run of a batch leads. -/
theorem runs (hBase : w.platform = t.base) (hLocks : w.locks.table = []) (hFaultless : w.platform.Faultless)
    (hRuns : System.Runs Inventory.calm (System.start w (store.creates t.calls)) s) :
    ∃ known, t.Holds s.world.platform known ∧ known.length = t.calls.length ∧
      ∀ number ctx call result, t.calls[number]? = some (ctx, call) → s.result? number = some result →
        ∃ born, known[number]? = some born ∧ t.Ends call result born := by
  have hStart : (System.start w (store.creates t.calls)).Follows t.rules
      (fun number result g => ∀ ctx call, t.calls[number]? = some (ctx, call) → t.Ends call result g.known)
      (List.replicate (store.creates t.calls).length ⟨.away, none⟩) := by
    refine .startTogether ⟨.replicate hLocks _ _, ?_⟩ fun number job hJob => ?_
    · change t.Holds w.platform (List.map Stage.known (List.replicate _ _))
      rw [List.map_replicate, hBase]
      exact .begin (hBase ▸ hFaultless) _
    · obtain ⟨⟨ctx, call⟩, hCall, rfl⟩ := Option.map_eq_some_iff.1 (List.getElem?_map ▸ hJob)
      refine (createOrGet store hCall).mono fun result g hEnds ctx' call' hCall' => ?_
      cases hCall.symm.trans hCall'
      exact hEnds
  obtain ⟨stages, hFollows⟩ := hStart.runs t.covers hRuns
  refine ⟨stages.map Stage.known, hFollows.invariant.2, ?_, fun number ctx call result hCall hResult => ?_⟩
  · rw [List.length_map, hFollows.length, hRuns.length_threads]
    simp [System.start, VolumeStore.creates]
  · obtain ⟨stage, hStage, hEnds⟩ := hFollows.goal_of_result hResult
    exact ⟨stage.known, by simp [hStage], hEnds ctx call hCall⟩

/-- When all calls have ended, what is known to be created is what they have returned. -/
theorem reduceOption_eq_births {known : List (Option (Nat × Disk))} (hLength : known.length = t.calls.length)
    (hKnown : ∀ number ctx call result, t.calls[number]? = some (ctx, call) → s.result? number = some result →
      ∃ born, known[number]? = some born ∧ t.Ends call result born)
    (hEnded : ∀ number < t.calls.length, (s.result? number).isSome) : known.reduceOption = s.births t.calls := by
  refine congrArg List.reduceOption (List.ext_getElem? fun number => ?_)
  rw [List.getElem?_map, List.getElem?_zipIdx]
  by_cases hNumber : number < t.calls.length
  · obtain ⟨result, hResult⟩ := Option.isSome_iff_exists.1 (hEnded number hNumber)
    have hCall := List.getElem?_eq_getElem hNumber
    obtain ⟨born, hBorn, -, rfl⟩ := hKnown number _ _ result hCall hResult
    rw [hBorn, hCall]
    simp [hResult]
  · rw [List.getElem?_eq_none (by omega), List.getElem?_eq_none (by omega)]
    rfl

end Batch

/-! A call alone. -/

/-- Without a lock a call alone comes to an end, whatever is locked. -/
theorem CreateCall.exists_solo (call : CreateCall) {inv : Inventory} (hFaultless : inv.Faultless) :
    ∃ result inv', ∀ locks, Solo 0 (VolumeStore.createUnlocked call.dc call.pool call.name call.sizeMb).run ⟨inv, locks⟩
      (.done result) ⟨inv', locks⟩ := by
  cases hFind : (inv.answer (.findByName call.dc call.pool call.name)).1 with
  | error failure =>
      refine ⟨.error (Cause.lookupFailed call.name failure).toError, inv, fun locks => ?_⟩
      have hCall : Solo 0 (Operation.call "GetFirstClassDisk" (.findByName call.dc call.pool call.name)).run
          ⟨inv, locks⟩ _ _ := .callOperation _ _
      rw [hFind] at hCall
      exact .bindOperation hCall (.reject _)
  | ok found =>
      cases found with
      | some disk => exact ⟨_, inv, fun locks => .createUnlocked_existing hFind⟩
      | none =>
          let inv' := (inv.answer (.createDisk call.dc call.pool call.name call.sizeMb)).2.2
          have hAnswer := inv.answer_createDisk_of_poolAt call.dc call.pool call.name call.sizeMb
          cases hPool : inv.poolAt call.dc call.pool with
          | error failure =>
              simp only [hPool] at hAnswer
              exact ⟨_, inv', fun locks => Solo.createUnlocked_unoffered (s := ⟨inv, locks⟩) hFind hAnswer.1⟩
          | ok parent =>
              simp only [hPool] at hAnswer
              obtain ⟨hReply, s, hState, hAfter⟩ := hAnswer
              -- The call is a batch of its own.
              let t : Batch := ⟨inv, [(.background, call)], List.nodup_singleton _⟩
              have hCall : t.calls[0]? = some (.background, call) := rfl
              have hBegin : t.Holds inv [none] := .begin hFaultless 1
              have hCreated := hBegin.create hCall rfl hState hPool
              have hReread := hCreated.reread hCall rfl hPool hFind
              rw [CreateCall.disk, ← hAfter] at hReread
              exact ⟨_, inv', fun locks => Solo.createUnlocked_created (s := ⟨inv, locks⟩) hFind hReply hReread⟩

/-- A call alone can come to an end, under the lock of its name or without one. -/
theorem CreateCall.exists_alone (call : CreateCall) (store : VolumeStore) {w : World Inventory}
    (hLocks : w.locks.table = []) (hFaultless : w.platform.Faultless) : ∃ alone outcome,
      System.Runs Inventory.calm (System.start w (store.creates [(.background, call)])) alone ∧
        alone.result? 0 = some outcome := by
  have hShows : w.Shows ⟨w.platform.cleared, w.locks⟩ := ⟨hFaultless, rfl, rfl⟩
  obtain ⟨result, inv', hSolo⟩ := call.exists_solo w.platform.faultless_cleared
  obtain ⟨s', hStore⟩ : ∃ s', Solo 0 (store.createOrGet call.dc call.pool call.name call.sizeMb).run
      ⟨w.platform.cleared, w.locks⟩ (.done result) s' := by
    unfold VolumeStore.createOrGet
    split
    · obtain ⟨locks, -, hLocked⟩ := Solo.locked (s := ⟨w.platform.cleared, w.locks⟩) hLocks hSolo
      exact ⟨_, hLocked⟩
    · exact ⟨_, hSolo _⟩
  have hThread : (System.start w (store.creates [(.background, call)])).threads[0]? =
      some ⟨.background, .running _⟩ := rfl
  obtain ⟨w', -, hRuns⟩ := hStore.runs_set hShows hThread
  exact ⟨_, result, hRuns, rfl⟩

/-- Creates of different volumes, however they interleave, whatever is slow, with or without locks. Each that has ended
has the outcome that it has alone on the inventory that they began on, but for the id that it drew and the path that is
built from it; alone it can come to an end. When all have ended, every datacenter has the disks that it had before,
unchanged and in order, and after them those that were created, each under an id of its own. -/
theorem separate_creates_do_not_interfere (store : VolumeStore) {w : World Inventory} (hLocks : w.locks.table = [])
    (hFaultless : w.platform.Faultless) {calls : List (Context × CreateCall)}
    (hSeparate : (calls.map fun (_, call) => call.key).Nodup) {s : System Inventory (Except Error CreateOutcome)}
    (hRuns : System.Runs Inventory.calm (System.start w (store.creates calls)) s) :
    (∀ number ctx call result, calls[number]? = some (ctx, call) → s.result? number = some result →
      (∃ alone outcome, System.Runs Inventory.calm (System.start w (store.creates [(.background, call)])) alone ∧
        alone.result? 0 = some outcome) ∧
      ∀ ctx' alone outcome, System.Runs Inventory.calm (System.start w (store.creates [(ctx', call)])) alone →
        alone.result? 0 = some outcome → ∃ n, w.platform.nextId ≤ n ∧
          result = outcome.map (CreateOutcome.withId (Inventory.idText n))) ∧
    (s.Finished → ∃ born, born.Perm (s.births calls) ∧ w.platform.Grown s.world.platform born) := by
  let t : Batch := ⟨w.platform, calls, hSeparate⟩
  obtain ⟨known, hHolds, hLength, hKnown⟩ := Batch.runs (t := t) rfl hLocks hFaultless hRuns
  refine ⟨?_, fun hFinished => ?_⟩
  · intro number ctx call result hCall hResult
    refine ⟨call.exists_alone store hLocks hFaultless, fun ctx' alone outcome hAlone hOutcome => ?_⟩
    obtain ⟨-, -, ⟨n, hDrawn, rfl⟩, -⟩ := hKnown number ctx call result hCall hResult
    let t' : Batch := ⟨w.platform, [(ctx', call)], List.nodup_singleton _⟩
    obtain ⟨known', -, -, hKnown'⟩ := Batch.runs (t := t') rfl hLocks hFaultless hAlone
    obtain ⟨-, -, ⟨n', -, rfl⟩, -⟩ := hKnown' 0 ctx' call outcome rfl hOutcome
    exact ⟨n, hDrawn, (call.outcome_withId w.platform _ _).symm⟩
  · obtain ⟨born, hBorn, hGrown⟩ := hHolds.grown
    refine ⟨born, ?_, hGrown⟩
    rw [← Batch.reduceOption_eq_births (t := t) hLength hKnown]
    · exact hBorn
    · intro number hNumber
      have hThread : number < s.threads.length := by
        rw [hRuns.length_threads]
        simpa [System.start, VolumeStore.creates] using hNumber
      rw [System.result?_of_thread (List.getElem?_eq_getElem hThread)]
      exact hFinished _ (List.getElem_mem hThread)

/-- Three calls at once: one for a volume, one for a volume of the same name in a pool that there is not, and one for a
volume of another name. -/
def CreateCall.medley : List (Context × CreateCall) :=
  [(.background, ⟨⟨"dc", 0⟩, ⟨.datastore, "ds"⟩, "volume", 1024⟩),
    (.background, ⟨⟨"dc", 0⟩, ⟨.datastoreCluster, "ds"⟩, "volume", 1024⟩),
    (.background, ⟨⟨"dc", 0⟩, ⟨.datastore, "ds"⟩, "other", 2048⟩)]

set_option maxRecDepth 10000 in
/-- Two of them create their disks, and one fails as it does alone. -/
theorem separate_creates_do_not_interfere_medley :
    ∃ (s : System Inventory (Except Error CreateOutcome)) (first second : Disk) (failure : Error)
      (born : List (Nat × Disk)),
      System.Runs Inventory.calm
        (System.start { platform := .small } (VolumeStore.creates ⟨true, 0⟩ CreateCall.medley)) s ∧
      s.result? 0 = some (.ok (.created first)) ∧ s.result? 1 = some (.error failure) ∧
      s.result? 2 = some (.ok (.created second)) ∧
      (∃ alone, System.Runs Inventory.calm (System.start { platform := .small } (VolumeStore.creates ⟨true, 0⟩
        [(.background, ⟨⟨"dc", 0⟩, ⟨.datastoreCluster, "ds"⟩, "volume", 1024⟩)])) alone ∧
        alone.result? 0 = some (.error failure)) ∧
      born.Perm [(0, first), (0, second)] ∧ Inventory.small.Grown s.world.platform born := by
  let w : World Inventory := { platform := .small }
  let jobs := VolumeStore.creates ⟨true, 0⟩ CreateCall.medley
  have hAdmits : ∀ job ∈ jobs, Inventory.calm.Admits job.1 := by
    simp [jobs, VolumeStore.creates, CreateCall.medley, Surroundings.admits_background]
  obtain ⟨s, hRuns, -, hResults⟩ := Lab.exists_runs 100 w jobs hAdmits
  let first := CreateCall.disk ⟨⟨"dc", 0⟩, ⟨.datastore, "ds"⟩, "volume", 1024⟩ (.datastore "ds") (Inventory.idText 1)
  let second := CreateCall.disk ⟨⟨"dc", 0⟩, ⟨.datastore, "ds"⟩, "other", 2048⟩ (.datastore "ds") (Inventory.idText 2)
  let failure := (Cause.creationFailed (.notFound "DatastoreCluster" "ds")).toError
  have hFirst : s.result? 0 = some (.ok (.created first)) := hResults 0 _ (by decide +kernel)
  have hFailed : s.result? 1 = some (.error failure) := hResults 1 _ (by decide +kernel)
  have hSecond : s.result? 2 = some (.ok (.created second)) := hResults 2 _ (by decide +kernel)
  have hSeparate : (CreateCall.medley.map fun (_, call) => call.key).Nodup := by decide +kernel
  obtain ⟨hSame, hEnd⟩ :=
    separate_creates_do_not_interfere ⟨true, 0⟩ (w := w) rfl Inventory.faultless_small hSeparate hRuns
  obtain ⟨⟨alone, outcome, hAlone, hOutcome⟩, hOutcomes⟩ := hSame 1 _ _ _ rfl hFailed
  obtain ⟨n, -, hFailure⟩ := hOutcomes _ alone outcome hAlone hOutcome
  obtain rfl : outcome = .error failure := by
    cases outcome with
    | ok outcome => cases hFailure
    | error e => exact hFailure.symm
  have hFinished : s.Finished := by
    intro thread hThread
    obtain ⟨number, hNumber⟩ := List.mem_iff_getElem?.1 hThread
    rw [← System.result?_of_thread hNumber]
    match number with
    | 0 => exact hFirst ▸ rfl
    | 1 => exact hFailed ▸ rfl
    | 2 => exact hSecond ▸ rfl
    | number + 3 =>
        have hThree := (List.getElem?_eq_some_iff.1 hNumber).1
        rw [hRuns.length_threads] at hThree
        exact absurd hThree (Nat.not_lt.2 (Nat.le_add_left 3 number))
  obtain ⟨born, hBorn, hGrown⟩ := hEnd hFinished
  have hBirths : s.births CreateCall.medley = [(0, first), (0, second)] := by
    simp [System.births, CreateCall.medley, hFirst, hFailed, hSecond, CreateCall.birth, List.reduceOption]
  exact ⟨s, first, second, failure, born, hRuns, hFirst, hFailed, hSecond, ⟨alone, hAlone, hOutcome⟩, hBirths ▸ hBorn,
    hGrown⟩

end VolumeController
