import VolumeController.Proofs.ErrorCodes
import VolumeController.Proofs.Interleaving.Stories
/-! What a request that fails leaves in the log. Every failure is noted before it is returned, except that the abort
of a wait is noted only where a zone or the owner of a volume is looked for. Main result: a request that failed has
noted a warning or an error unless it ended with the abort of another wait and no site failed to be asked for its
volume before. -/

namespace VolumeController

variable {α β : Type}

/-- A note that somebody should look at. -/
def Event.IsAlarm (event : Event) : Prop :=
  event.level ≠ .info

/-- Whether some of the notes is a warning or an error. -/
def Alarmed (noted : List Event) : Prop :=
  ∃ event ∈ noted, event.IsAlarm

/-- The waits whose abort is passed on without a note. A listing does not note that the listing of sites was
aborted; everybody else does. -/
def Wait.AbortsUnnoted (request : VolumeRequest) : Wait → Prop
  | .call (.resolveZone _) | .call (.findById _ _) => False
  | .call .listSites => ∃ r, request = .list r
  | _ => True

/-- Whether the last wait was aborted, and nobody took note of that. -/
def EndsUnnoted (request : VolumeRequest) (heard : List Exchange) : Prop :=
  ∃ before wait abort, heard = before ++ [⟨wait, .error abort⟩] ∧ wait.AbortsUnnoted request

/-- Whether a site failed to be asked for a volume, which is noted and passed over. -/
def PassesOver (heard : List Exchange) : Prop :=
  ∃ dc id failure, ⟨.call (.findById dc id), .ok (.error failure)⟩ ∈ heard

/-- Whether a request ends with a failure that is noted nowhere. -/
def EndsInSilence (request : VolumeRequest) (heard : List Exchange) : Prop :=
  EndsUnnoted request heard ∧ ¬ PassesOver heard

/-- The state of a request that may still wait: it has noted something only about sites that failed. -/
structure Calm (request : VolumeRequest) (told : List Exchange) (noted : List Event) : Prop where
  alarmed : Alarmed noted ↔ PassesOver told
  ended : ¬ EndsUnnoted request told

/-- Whether a failure is as much noted as it is in general, and what holds after a success. -/
def Accounted (request : VolumeRequest) (after : List Exchange → List Event → Prop) (told : List Exchange)
    (noted : List Event) : Except Error α → Prop
  | .ok _ => after told noted
  | .error _ => Alarmed noted ↔ ¬ EndsInSilence request told

/-- The state of a request that does not wait any more. -/
def Settled (request : VolumeRequest) (told : List Exchange) (_ : List Event) : Prop :=
  ¬ EndsUnnoted request told

section

variable {request : VolumeRequest} {told : List Exchange} {noted : List Event}

theorem alarmed_concat {event : Event} : Alarmed (noted ++ [event]) ↔ Alarmed noted ∨ event.IsAlarm := by
  simp only [Alarmed, List.mem_append, List.mem_singleton, or_and_right, exists_or, exists_eq_left]

theorem endsUnnoted_concat {wait : Wait} {answer : Except Abort wait.Answer} :
    EndsUnnoted request (told ++ [⟨wait, answer⟩]) ↔
      (∃ abort, answer = .error abort) ∧ wait.AbortsUnnoted request := by
  constructor
  · rintro ⟨before, wait', abort, hSame, hUnnoted⟩
    obtain ⟨-, hLast⟩ := List.append_inj' hSame rfl
    cases hLast
    exact ⟨⟨abort, rfl⟩, hUnnoted⟩
  · rintro ⟨⟨abort, rfl⟩, hUnnoted⟩
    exact ⟨told, wait, abort, rfl, hUnnoted⟩

theorem passesOver_concat {x : Exchange} : PassesOver (told ++ [x]) ↔
    PassesOver told ∨ ∃ dc id failure, x = ⟨.call (.findById dc id), .ok (.error failure)⟩ := by
  simp only [PassesOver, List.mem_append, List.mem_singleton, exists_or, eq_comm]

/-- A failure that is noted is noted. -/
theorem Alarmed.accounted {after : List Exchange → List Event → Prop} {e : Error} (h : Alarmed noted)
    (hEnded : ¬ EndsUnnoted request told) : Accounted request after told noted (.error e : Except Error α) :=
  ⟨fun _ hSilent => hEnded hSilent.1, fun _ => h⟩

namespace Calm

theorem start (request : VolumeRequest) : Calm request [] [] where
  alarmed := ⟨fun ⟨_, hMem, _⟩ => (List.not_mem_nil hMem).elim, fun ⟨_, _, _, hMem⟩ => (List.not_mem_nil hMem).elim⟩
  ended := fun ⟨before, _, _, hSame, _⟩ => List.append_ne_nil_of_right_ne_nil before (List.cons_ne_nil _ _) hSame.symm

theorem inform (h : Calm request told noted) {event : Event} (hLevel : event.level = .info) :
    Calm request told (noted ++ [event]) where
  alarmed := by
    rw [alarmed_concat, ← h.alarmed]
    exact ⟨fun hAlarmed => hAlarmed.resolve_right fun hAlarm => hAlarm hLevel, .inl⟩
  ended := h.ended

/-- An abort that is going to be noted. -/
theorem aborted (h : Calm request told noted) {wait : Wait} (hNoted : ¬ wait.AbortsUnnoted request) (abort : Abort) :
    Calm request (told ++ [⟨wait, .error abort⟩]) noted where
  alarmed := by
    rw [h.alarmed, passesOver_concat]
    refine ⟨.inl, fun hPasses => hPasses.resolve_right ?_⟩
    rintro ⟨dc, id, failure, ⟨⟩⟩
  ended := fun hEnds => hNoted (endsUnnoted_concat.1 hEnds).2

/-- An answer, but not the failure of a site that was asked for a volume. -/
theorem answered (h : Calm request told noted) {wait : Wait} (answer : wait.Answer)
    (hAnswer : ∀ dc id failure, (⟨wait, .ok answer⟩ : Exchange) ≠ ⟨.call (.findById dc id), .ok (.error failure)⟩) :
    Calm request (told ++ [⟨wait, .ok answer⟩]) noted where
  alarmed := by
    rw [h.alarmed, passesOver_concat]
    refine ⟨.inl, fun hPasses => hPasses.resolve_right ?_⟩
    rintro ⟨dc, id, failure, hSame⟩
    exact hAnswer dc id failure hSame
  ended := by
    rw [endsUnnoted_concat]
    rintro ⟨⟨abort, ⟨⟩⟩, -⟩

/-- An answer to a wait that does not ask a site for a volume. -/
theorem answeredElse (h : Calm request told noted) {wait : Wait} (hWait : ∀ dc id, wait ≠ .call (.findById dc id))
    (answer : wait.Answer) : Calm request (told ++ [⟨wait, .ok answer⟩]) noted := by
  refine h.answered answer ?_
  rintro dc id failure hIs
  exact hWait dc id (Exchange.mk.inj hIs).1

/-- A site that fails to be asked is noted. -/
theorem passedOver (dc : Datacenter) (id : String) (failure : BackendError) {event : Event} (hAlarm : event.IsAlarm) :
    Calm request (told ++ [⟨.call (.findById dc id), .ok (.error failure)⟩]) (noted ++ [event]) where
  alarmed := by
    rw [alarmed_concat, passesOver_concat]
    exact ⟨fun _ => .inr ⟨dc, id, failure, rfl⟩, fun _ => .inr hAlarm⟩
  ended := by
    rw [endsUnnoted_concat]
    rintro ⟨⟨abort, ⟨⟩⟩, -⟩

/-- An abort that nobody notes leaves what was noted before. -/
theorem abandon (h : Calm request told noted) {wait : Wait} (hUnnoted : wait.AbortsUnnoted request) (abort : Abort)
    {after : List Exchange → List Event → Prop} {e : Error} :
    Accounted request after (told ++ [⟨wait, .error abort⟩]) noted (.error e : Except Error α) := by
  have hSame : PassesOver (told ++ [⟨wait, .error abort⟩]) ↔ PassesOver told := by
    rw [passesOver_concat]
    refine ⟨fun hPasses => hPasses.resolve_right ?_, .inl⟩
    rintro ⟨dc, id, failure, ⟨⟩⟩
  rw [Accounted, h.alarmed, EndsInSilence, hSame, not_and_not_right]
  exact ⟨fun hPasses _ => hPasses, fun hPasses => hPasses (endsUnnoted_concat.2 ⟨⟨abort, rfl⟩, hUnnoted⟩)⟩

end Calm

namespace Accounted

open Procedure.Notes

variable {after after' : List Exchange → List Event → Prop}

/-! Operations, whoever answers them. -/

theorem bindThen {op : Operation α} {f : α → Operation β} (h : op.run.Notes (Accounted request after) told noted)
    (hf : ∀ a told noted, after told noted → (f a).run.Notes (Accounted request after') told noted) :
    (op >>= f).run.Notes (Accounted request after') told noted := by
  refine bindOperation (h.mono ?_)
  rintro told noted (e | a) hAccounted
  · exact hAccounted
  · exact hf a told noted hAccounted

theorem rejected (h : ¬ EndsUnnoted request told) (cause : Cause) :
    (Operation.reject cause : Operation α).run.Notes (Accounted request after) told noted :=
  reject (Alarmed.accounted (alarmed_concat.2 (.inr nofun)) h)

/-- A check before a wait. -/
theorem caused (h : Calm request told noted) (result : Except Cause α) :
    (Operation.ofCause result).run.Notes (Accounted request (Calm request)) told noted := by
  cases result with
  | ok a => exact h
  | error cause => exact rejected h.ended cause

/-- A check after the last wait. -/
theorem causedLate (h : ¬ EndsUnnoted request told) (result : Except Cause α) :
    (Operation.ofCause result).run.Notes (Accounted request (Settled request)) told noted := by
  cases result with
  | ok a => exact h
  | error cause => exact rejected h cause

/-- A wait whose abort nobody notes, and that asks no site for a volume. -/
theorem waitThen {operation : String} {wait : Wait} {f : wait.Answer → Operation α} (h : Calm request told noted)
    (hUnnoted : wait.AbortsUnnoted request) (hf : ∀ answer, Calm request (told ++ [⟨wait, .ok answer⟩]) noted →
      (f answer).run.Notes (Accounted request after) (told ++ [⟨wait, .ok answer⟩]) noted) :
    (Operation.wait operation wait >>= f).run.Notes (Accounted request after) told noted := by
  refine Procedure.Notes.waitThen (fun abort => h.abandon hUnnoted abort) fun answer =>
    hf answer (h.answeredElse ?_ answer)
  rintro dc id rfl
  exact hUnnoted

theorem callThen {operation : String} {c : Call} {f : c.Reply → Operation α} (h : Calm request told noted)
    (hUnnoted : Wait.AbortsUnnoted request (.call c)) (hf : ∀ reply, Calm request (told ++ [⟨.call c, .ok reply⟩]) noted →
      (f reply).run.Notes (Accounted request after) (told ++ [⟨.call c, .ok reply⟩]) noted) :
    (Operation.call operation c >>= f).run.Notes (Accounted request after) told noted :=
  waitThen h hUnnoted hf

/-! Requests for volumes that exist. -/

theorem lookupFailed (h : ¬ EndsUnnoted request told) (operation id : String) (e : Error) :
    (Controller.lookupFailed operation id e : Operation α).run.Notes (Accounted request after) told noted := by
  unfold Controller.lookupFailed
  split
  · exact afterNote (Alarmed.accounted (alarmed_concat.2 (.inr nofun)) h)
  · exact rejected h _

/-- A search for a volume notes every site that failed, and nothing else. -/
theorem searchSites (h : Calm request told noted) (id : String) (last : Option BackendError) (sites : List Site) :
    (VolumeStore.searchSites id last sites).run.Notes (fun told noted _ => Calm request told noted) told noted := by
  induction sites generalizing last told noted with
  | nil => cases last <;> exact h
  | cons site sites ih =>
      rw [VolumeStore.searchSites]
      refine Procedure.Notes.waitThen (h.aborted (by exact fun h => h)) ?_
      rintro (failure | _ | disk)
      · exact afterNote (ih (.passedOver _ _ failure (by rintro ⟨⟩)) _)
      · exact ih (h.answered _ (by rintro _ _ _ ⟨⟩)) last
      · exact h.answered _ (by rintro _ _ _ ⟨⟩)

theorem resolve (h : Calm request told noted) (hList : ∀ r, request ≠ .list r) (id : String) :
    (VolumeStore.resolve id).run.Notes (fun told noted _ => Calm request told noted) told noted := by
  refine Procedure.Notes.waitThen (h.aborted ?_) ?_
  · rintro ⟨r, hIs⟩
    exact hList r hIs
  · rintro (failure | sites)
    · exact h.answeredElse (by nofun) _
    · exact searchSites (h.answeredElse (by nofun) _) id none sites

theorem delete (h : Calm request told noted) (dc : Datacenter) (pool : Pool) (id : String) :
    (VolumeStore.delete dc pool id).run.Notes (Accounted request fun _ _ => True) told noted := by
  refine callThen h trivial ?_
  rintro (failure | deleted) h
  · exact rejected h.ended _
  · exact fun _ => trivial

theorem deleteVolume (r : DeleteVolumeRequest) :
    (Controller.deleteVolume r).run.Notes (Accounted (.delete r) fun _ _ => True) [] [] := by
  refine instrumented ?_
  unfold Controller.deleteVolumeUncounted
  split
  · exact rejected (Calm.start _).ended _
  · refine bindOperation (attempt ((resolve (.start (.delete r)) nofun _).mono fun told noted result h => ?_))
    simp only
    split
    · exact bindThen (delete h _ _ _) fun _ _ _ _ => trivial
    · exact afterNote trivial
    · exact lookupFailed h.ended _ _ _

theorem resolveVolume (h : Calm request told noted) (hList : ∀ r, request ≠ .list r) (operation id : String) :
    (Controller.resolveVolume operation id).run.Notes (Accounted request (Calm request)) told noted := by
  refine bindOperation (attempt ((resolve h hList id).mono ?_))
  rintro told noted (e | found) h
  · exact lookupFailed h.ended _ _ _
  · exact h

/-- Volume and node are looked for without an alarm, unless a site fails. -/
theorem meet (h : Calm request told noted) (hList : ∀ r, request ≠ .list r) (operation volumeId nodeId : String) :
    (Controller.meet operation volumeId nodeId).run.Notes (Accounted request (Calm request)) told noted := by
  have hIds : (Controller.requireIds volumeId nodeId).run.Notes (Accounted request (Calm request)) told noted := by
    unfold Controller.requireIds
    split
    · exact rejected h.ended _
    · split
      · exact rejected h.ended _
      · exact h
  refine bindThen hIds fun _ told noted h => bindThen (resolveVolume h hList _ _) fun found told noted h => ?_
  refine bindThen (callThen h trivial ?_) fun _ _ _ h => h
  rintro (failure | node) h
  · exact afterNote (Alarmed.accounted (alarmed_concat.2 (.inr nofun)) h.ended)
  · exact h

theorem attach (h : Calm request told noted) (node : Node) (disk : Disk) (bus : ScsiController) :
    (Attachment.attach node disk bus).run.Notes (Accounted request fun _ _ => True) told noted := by
  unfold Attachment.attach Attachment.backingFile
  cases disk.filePath? with
  | none => exact bindOperation (rejected h.ended _)
  | some path =>
      refine callThen h trivial ?_
      rintro (failure | handle) h
      · exact afterNote (Alarmed.accounted (alarmed_concat.2 (.inr nofun)) h.ended)
      · exact afterNote trivial

theorem detach (h : Calm request told noted) (node : Node) (disk : Disk) :
    (Attachment.detach node disk).run.Notes (Accounted request fun _ _ => True) told noted := by
  unfold Attachment.detach Attachment.backingFile
  cases disk.filePath? with
  | none => exact bindOperation (rejected h.ended _)
  | some path =>
      refine callThen h trivial ?_
      rintro (failure | detached) h
      · exact afterNote (Alarmed.accounted (alarmed_concat.2 (.inr nofun)) h.ended)
      · exact fun _ => trivial

theorem publishVolume (r : PublishVolumeRequest) :
    (Controller.publishVolume r).run.Notes (Accounted (.publish r) fun _ _ => True) [] [] := by
  refine instrumented ?_
  rw [Controller.publishVolumeUncounted_eq]
  refine bindThen (meet (.start (.publish r)) nofun _ _ _) fun found told noted h => ?_
  exact bindThen (attach h _ _ _) fun _ _ _ _ => trivial

theorem unpublishVolume (r : UnpublishVolumeRequest) :
    (Controller.unpublishVolume r).run.Notes (Accounted (.unpublish r) fun _ _ => True) [] [] := by
  refine instrumented ?_
  rw [Controller.unpublishVolumeUncounted_eq]
  refine bindThen (meet (.start (.unpublish r)) nofun _ _ _) fun found told noted h => ?_
  exact bindThen (detach h _ _) fun _ _ _ _ => trivial

/-! Creates. -/

theorem exhausted (h : ¬ EndsUnnoted request told) (zone : String) (e : Error) :
    (Placement.exhausted zone e : Operation α).run.Notes (Accounted request after) told noted := by
  unfold Placement.exhausted
  split
  · exact afterNote (Alarmed.accounted (alarmed_concat.2 (.inr nofun)) h)
  · exact rejected h _

/-- Lookups of zones note nothing; what comes after them does. -/
theorem lookupThen (h : Calm request told noted) (labels : LabelsConfig) (zone region : String)
    {f : Except Error Site → Operation α}
    (hf : ∀ result told, Calm request told noted → (f result).run.Notes (Accounted request after) told noted) :
    (Operation.attempt (Placement.lookup labels zone region) >>= f).run.Notes (Accounted request after) told noted := by
  refine bindOperation (attempt (Procedure.Notes.waitThen (fun abort => ?_) ?_))
  · exact hf _ _ (h.aborted (by exact id) abort)
  · rintro (failure | site)
    · exact hf _ _ (h.answeredElse (by nofun) _)
    · exact hf _ _ (h.answeredElse (by nofun) _)

theorem searchSegments (h : Calm request told noted) (labels : LabelsConfig) (last : String × Error)
    (segments : List Topology) :
    (Placement.searchSegments labels last segments).run.Notes (Accounted request (Calm request)) told noted := by
  induction segments generalizing last told noted with
  | nil => exact exhausted h.ended _ _
  | cons segment segments ih =>
      refine lookupThen h labels _ _ ?_
      rintro (e | site) told h
      · simp only
        split
        · exact exhausted h.ended _ _
        · exact ih h _
      · exact afterNote (h.inform rfl)

theorem resolvePlacement (h : Calm request told noted) (labels : LabelsConfig) (placement : Placement) :
    (placement.resolve labels).run.Notes (Accounted request (Calm request)) told noted := by
  cases placement with
  | topology requirement => exact afterNote (searchSegments (h.inform rfl) _ _ _)
  | legacy zone region =>
      refine afterNote (lookupThen (h.inform rfl) labels _ _ ?_)
      rintro (e | site) told h
      · exact exhausted h.ended _ _
      · exact h

theorem createUnlocked (h : Calm request told noted) (dc : Datacenter) (pool : Pool) (name : String)
    (sizeMb : UInt64) :
    (VolumeStore.createUnlocked dc pool name sizeMb).run.Notes (Accounted request (Settled request)) told noted := by
  refine callThen h trivial ?_
  rintro (failure | _ | disk) h
  · exact rejected h.ended _
  · refine callThen h trivial ?_
    rintro (failure | created) h
    · exact rejected h.ended _
    · refine callThen h trivial ?_
      rintro (failure | _ | disk) h
      · exact rejected h.ended _
      · exact rejected h.ended _
      · exact afterNote h.ended
  · refine afterNote ?_
    split
    · exact rejected h.ended _
    · exact h.ended

theorem createOrGet (h : Calm request told noted) (store : VolumeStore) (dc : Datacenter) (pool : Pool)
    (name : String) (sizeMb : UInt64) :
    (store.createOrGet dc pool name sizeMb).run.Notes (Accounted request (Settled request)) told noted := by
  unfold VolumeStore.createOrGet
  split
  · refine locked (fun lock abort => h.abandon (by trivial) abort) fun lock => ?_
    exact createUnlocked (h.answeredElse (by nofun) _) _ _ _ _
  · exact createUnlocked h _ _ _ _

theorem createVolume (c : Controller) (r : CreateVolumeRequest) :
    (c.createVolume r).run.Notes (Accounted (.create r) fun _ _ => True) [] [] := by
  refine instrumented (bindThen (caused (.start _) _) fun order told noted h => ?_)
  refine afterNote (bindThen (resolvePlacement (h.inform rfl) _ _) fun site told noted h => ?_)
  refine bindThen (createOrGet h _ _ _ _ _) fun outcome told noted h => ?_
  have hVolume {noted : List Event} : (do
      let volume ← Operation.ofCause (Volume.ofDisk outcome.disk site.endpoint site.datacenter.name)
      return ⟨volume⟩ : Operation CreateVolumeResponse).run.Notes (Accounted (.create r) fun _ _ => True) told noted :=
    bindThen (causedLate h _) fun _ _ _ _ => trivial
  cases outcome with
  | existing disk => exact afterNote hVolume
  | created disk => exact hVolume

/-! Listings. -/

theorem collect (h : ¬ EndsUnnoted request told) (sites : List Site)
    (answers : List (Except BackendError (List Disk))) :
    (Listing.collect sites answers).run.Notes (Accounted request (Settled request)) told noted := by
  induction sites generalizing answers noted with
  | nil => exact h
  | cons site sites ih =>
      rcases answers with - | ⟨failure | disks, answers⟩
      · exact h
      · exact afterNote (ih answers)
      · exact bindThen (ih answers) fun _ _ _ h => h

theorem listVolumes (r : ListVolumesRequest) :
    (Controller.listVolumes r).run.Notes (Accounted (.list r) fun _ _ => True) [] [] := by
  have hAll {told : List Exchange} {noted : List Event} (h : Calm (.list r) told noted) :
      Listing.allDisks.run.Notes (Accounted (.list r) (Settled (.list r))) told noted := by
    refine callThen h ⟨r, rfl⟩ ?_
    rintro (failure | sites) h
    · exact rejected h.ended _
    · exact waitThen h trivial fun answers h => collect h.ended sites answers
  refine instrumented (bindThen (caused (.start _) _) fun limit told noted h => ?_)
  refine bindThen (caused h _) fun start told noted h => bindThen (hAll h) fun disks told noted h => ?_
  refine bindThen (causedLate h _) fun bounds told noted h => ?_
  refine afterNote (bindThen (causedLate h _) fun entries told noted h => ?_)
  simp only
  split
  · exact afterNote trivial
  · trivial

theorem handle (c : Controller) (request : VolumeRequest) :
    (c.handle request).run.Notes (Accounted request fun _ _ => True) [] [] := by
  cases request with
  | create r => exact createVolume c r
  | delete r => exact deleteVolume r
  | publish r => exact publishVolume r
  | unpublish r => exact unpublishVolume r
  | list r => exact listVolumes r

theorem answer (c : Controller) (request : VolumeRequest) :
    (c.answer request).Notes (fun told noted answered => answered.1 = request ∧
      ∀ e, answered.2 = .error e → (Alarmed noted ↔ ¬ EndsInSilence answered.1 told)) [] [] := by
  refine bind ((handle c request).mono fun told noted result hAccounted => ⟨rfl, fun e hError => ?_⟩)
  change result = .error e at hError
  rw [hError] at hAccounted
  exact hAccounted

end Accounted

end

/-- Any requests at once over any platform, under any contexts. What a request notes while it fails stands in the log,
in order. There is a warning or an error among it unless the request ended with an abort that nobody notes, and no
site had failed to be asked for its volume. -/
theorem failures_are_noted_iff {σ : Type} [Bench σ] {env : Surroundings σ} {w : World σ} (controller : Controller)
    {requests : List (Context × VolumeRequest)} {c : Chronicle σ Answered}
    (hRuns : Chronicle.Runs env (fun _ _ => True) (.start w (controller.answers requests)) c) {number : Nat}
    {request : VolumeRequest} {e : Error} (hResult : c.result? number = some ⟨request, .error e⟩) :
    (∃ noted written, (controller.answer request).Story (c.heardBy number) noted (.done ⟨request, .error e⟩) ∧
      c.system.world.log = written ++ w.log ∧ noted.reverse.Sublist written) ∧
    ∀ noted, (controller.answer request).Story (c.heardBy number) noted (.done ⟨request, .error e⟩) →
      (Alarmed noted ↔ ¬ EndsInSilence request (c.heardBy number)) := by
  obtain ⟨t, hThread, -⟩ := Option.bind_eq_some_iff.1 hResult
  obtain ⟨job, -, hJob, -⟩ := System.Runs.exists_path hRuns.system hThread
  obtain ⟨⟨ctx, request'⟩, -, rfl⟩ := Option.map_eq_some_iff.1 (List.getElem?_map ▸ hJob)
  obtain ⟨noted, written, hStory, hLog, hNoted⟩ := hRuns.exists_story_of_result hJob hResult
  have hEnd (noted : List Event)
      (h : (controller.answer request').Story (c.heardBy number) noted (.done ⟨request, .error e⟩)) :
      request = request' ∧ ∀ e', Except.error e = .error e' →
        (Alarmed ([] ++ noted) ↔ ¬ EndsInSilence request ([] ++ c.heardBy number)) :=
    h.notes (Accounted.answer controller request')
  obtain ⟨rfl, -⟩ := hEnd noted hStory
  exact ⟨⟨noted, written, hStory, hLog, hNoted⟩, fun noted h => (hEnd noted h).2 e rfl⟩

/-- A create request that gives no parameters. -/
def CreateVolumeRequest.unspecified : CreateVolumeRequest :=
  { CreateVolumeRequest.single 1 with parameters := .empty }

set_option maxRecDepth 10000 in
/-- It is refused before it waits for anything, with a note. -/
theorem failures_are_noted_unspecified :
    let requests := [(Context.background, VolumeRequest.create .unspecified)]
    ∃ (c : Chronicle Inventory Answered) (e : Error) (noted : List Event),
      Chronicle.Runs Inventory.rough (fun _ _ => True)
        (.start { platform := .ofConfig .single } (Controller.answers ⟨{}, ⟨false, 0⟩⟩ requests)) c ∧
      c.result? 0 = some ⟨.create .unspecified, .error e⟩ ∧ noted.reverse.Sublist c.system.world.log ∧
      Alarmed noted := by
  intro requests
  let controller : Controller := ⟨{}, ⟨false, 0⟩⟩
  let refused := [0].foldl System.advance
    (System.start { platform := Inventory.ofConfig .single } (controller.answers requests))
  obtain ⟨turns, hRuns⟩ : ∃ turns, Chronicle.Runs Inventory.rough (fun _ _ => True)
      (.start { platform := .ofConfig .single } (controller.answers requests)) ⟨refused, turns⟩ :=
    Chronicle.exists_advances (fun _ _ _ _ _ => trivial) [0] _ []
  have hFailure : (refused.result? 0).bind VolumeRequest.failure? = some Cause.parametersMissing.toError := by
    decide +kernel
  clear_value refused
  obtain ⟨request, hResult⟩ := Chronicle.exists_of_failure? (c := ⟨refused, turns⟩) hFailure
  obtain ⟨ctx, hRequest⟩ := hRuns.exists_request hResult
  obtain rfl : VolumeRequest.create .unspecified = request := by
    simpa [requests] using congrArg (Option.map Prod.snd) hRequest
  obtain ⟨⟨noted, written, hStory, hLog, hNoted⟩, hIff⟩ := failures_are_noted_iff controller hRuns hResult
  have hSilent : (controller.answer (.create .unspecified)).Converses .free (fun told _ => told = []) [] :=
    .bind (.instrumented (.bindOperation (.reject rfl)))
  have hJob : (controller.answers requests)[0]? = some (.background, controller.answer (.create .unspecified)) := rfl
  have hHeard := hRuns.goal_of_result hJob hSilent (fun _ _ => trivial) hResult
  refine ⟨⟨refused, turns⟩, _, noted, hRuns, hResult, ?_, (hIff noted hStory).2 ?_⟩
  · rw [hLog]
    exact hNoted.trans (List.sublist_append_left _ _)
  · rw [hHeard]
    exact fun hEnds => (Calm.start _).ended hEnds.1

set_option maxRecDepth 10000 in
/-- A listing whose context is cancelled before it begins fails, and nothing at all is noted. -/
theorem failures_are_noted_fails_for_listing :
    let requests := [((⟨[7], none⟩ : Context), VolumeRequest.list ⟨0, ""⟩)]
    ∃ (c : Chronicle Inventory Answered),
      Chronicle.Runs Inventory.rough (fun _ _ => True)
        (.start { platform := .ofConfig .single, cancelled := [7] }
          (Controller.answers ⟨{}, ⟨false, 0⟩⟩ requests)) c ∧
      c.result? 0 = some ⟨.list ⟨0, ""⟩, .error (.cancelled "ListBackendInstances")⟩ ∧
      c.system.world.log = [] := by
  intro requests
  let controller : Controller := ⟨{}, ⟨false, 0⟩⟩
  let aborted := [0].foldl System.advance
    (System.start { platform := Inventory.ofConfig .single, cancelled := [7] } (controller.answers requests))
  obtain ⟨turns, hRuns⟩ : ∃ turns, Chronicle.Runs Inventory.rough (fun _ _ => True)
      (.start { platform := .ofConfig .single, cancelled := [7] } (controller.answers requests)) ⟨aborted, turns⟩ :=
    Chronicle.exists_advances (fun _ _ _ _ _ => trivial) [0] _ []
  have hFailure : (aborted.result? 0).bind VolumeRequest.failure? = some (.cancelled "ListBackendInstances") := by
    decide +kernel
  have hLog : aborted.world.log = [] := by
    decide +kernel
  clear_value aborted
  obtain ⟨request, hResult⟩ := Chronicle.exists_of_failure? (c := ⟨aborted, turns⟩) hFailure
  obtain ⟨ctx, hRequest⟩ := hRuns.exists_request hResult
  obtain rfl : VolumeRequest.list ⟨0, ""⟩ = request := by
    simpa [requests] using congrArg (Option.map Prod.snd) hRequest
  exact ⟨⟨aborted, turns⟩, hRuns, hResult, hLog⟩

end VolumeController
