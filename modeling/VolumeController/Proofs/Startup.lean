import VolumeController.Proofs.ApiVersions
import VolumeController.Proofs.Interleaving.Chronicles
import VolumeController.Proofs.Inventory
import VolumeController.Startup
/-! The start-up check. The virtual centers are those that the platform names when the check begins, and they are asked
in turn. Main result: the check succeeds just if each of them answers with a version that is supported. Otherwise it
fails with a configuration error for the first one that does not, and nobody after that one is asked. -/

namespace VolumeController

/-- A center was asked for its version. -/
abbrev Exchange.version (center : String) (reply : Except BackendError String) : Exchange :=
  ⟨.call (.apiVersion center), .ok reply⟩

/-! The first action of a thread. -/

namespace Chronicle

variable {σ α : Type} [Bench σ] {env : Surroundings σ} {w : World σ} {jobs : List (Context × Procedure α)}
  {number : Nat} {ctx : Context} {action : Action} {next : action.Answer → Procedure α} {c : Chronicle σ α}

/-- What an action is answered with is decided at one moment of the run. Until then its thread hears nothing, and what
it hears afterwards leads on from the answer. -/
theorem Runs.exists_performed (h : Runs env (fun _ _ => True) (start w jobs) c)
    (hJob : jobs[number]? = some (ctx, .act action next)) {t : Thread σ α}
    (hThread : c.system.threads[number]? = some t) :
    ∃ m, Runs env (fun _ _ => True) (start w jobs) m ∧ Runs env (fun _ _ => True) m c ∧
      ((t.progress = .running (.act action next) ∧ c.heardBy number = []) ∨
        (next (m.system.world.perform action).1).Path (c.heardBy number) t.progress.rest) := by
  induction h generalizing t with
  | refl =>
      obtain ⟨job, hStart, rfl⟩ := Option.map_eq_some_iff.1 (List.getElem?_map ▸ hThread)
      obtain rfl := Option.some.inj (hJob.symm.trans hStart)
      exact ⟨_, .refl, .refl, .inl ⟨rfl, rfl⟩⟩
  | tail hRuns hLast ih =>
      rcases hLast.1.own_cases number with ⟨hSame, hHeard⟩ | ⟨t₁, t₂, w', hOld, hStep, hOwn, hHeard⟩
      · obtain ⟨m, hBefore, hAfter, hCases⟩ := ih (hSame ▸ hThread)
        rw [hHeard]
        exact ⟨m, hBefore, .tail hAfter hLast, hCases⟩
      · obtain rfl := Option.some.inj (hThread.symm.trans hOwn)
        rw [hHeard]
        obtain ⟨m, hBefore, hAfter, ⟨hFirst, hSilent⟩ | hPath⟩ := ih hOld
        · obtain ⟨ctx', progress⟩ := t₁
          obtain rfl : progress = .running (.act action next) := hFirst
          cases hStep with
          | act =>
              rw [hSilent]
              exact ⟨_, hRuns, .single hLast, .inr (.refl _)⟩
        · exact ⟨m, hBefore, .tail hAfter hLast, .inr (hPath.trans hStep.path)⟩

/-- A thread that keeps to a dialogue after its first action, whatever that is answered with, ends in keeping with the
answer and with what it heard. -/
theorem Runs.goal_of_performed (h : Runs env (fun _ _ => True) (start w jobs) c)
    (hJob : jobs[number]? = some (ctx, .act action next)) {D : Dialogue}
    {goal : action.Answer → List Exchange → α → Prop} (hConverses : ∀ answer, (next answer).Converses D (goal answer) [])
    (hTold : ∀ x ∈ c.heardBy number, D.told x) {a : α} (hResult : c.result? number = some a) :
    ∃ m, Runs env (fun _ _ => True) (start w jobs) m ∧ Runs env (fun _ _ => True) m c ∧
      goal (m.system.world.perform action).1 (c.heardBy number) a := by
  obtain ⟨⟨ctx, progress⟩, hThread, hEnd⟩ := Option.bind_eq_some_iff.1 hResult
  obtain ⟨m, hBefore, hAfter, ⟨hFirst, -⟩ | hPath⟩ := h.exists_performed hJob hThread
  · obtain rfl : progress = .running (.act action next) := hFirst
    cases hEnd
  · have hRest := hPath.converses hTold (hConverses _)
    refine ⟨m, hBefore, hAfter, ?_⟩
    cases progress with
    | waiting s => cases hEnd
    | running p =>
        cases p with
        | done b =>
            obtain rfl : b = a := Option.some.inj hEnd
            exact hRest
        | act action next => cases hEnd
        | await wait next => cases hEnd

end Chronicle

namespace Startup

/-- Whether some centers were asked in turn and each one answered with a version that is supported. -/
def Accepted (centers : List String) (heard : List Exchange) : Prop :=
  List.Forall₂ (fun center x => ∃ version, x = .version center (.ok version) ∧ ApiVersion.Supported version) centers
    heard

/-- Why a center is refused for its reply. -/
inductive Refuses (center : String) : Except BackendError String → Cause → Prop where
  | unanswered (failure : BackendError) : Refuses center (.error failure) (.versionUnanswered center failure)
  | unsupported {version : String} {cause : Cause} (h : ApiVersion.Faults version cause) :
      Refuses center (.ok version) cause

/-- How a check of some centers ends that nobody aborts. -/
inductive Ends (centers : List String) (heard : List Exchange) : Except Error Unit → Prop where
  | accepted (h : Accepted centers heard) : Ends centers heard (.ok ())
  | refused (before : List String) {after : List String} {center : String} {earlier : List Exchange}
      {reply : Except BackendError String} {cause : Cause} (hCenters : centers = before ++ center :: after)
      (hHeard : heard = earlier ++ [.version center reply]) (hBefore : Accepted before earlier)
      (hRefuses : Refuses center reply cause) : Ends centers heard (.error cause.toError)

/-- A center that is accepted comes before the end that the check of the others has. -/
theorem Ends.cons {center version : String} {centers : List String} {heard : List Exchange}
    {result : Except Error Unit} (h : Ends centers heard result) (hVersion : ApiVersion.Supported version) :
    Ends (center :: centers) (.version center (.ok version) :: heard) result := by
  cases h with
  | accepted h => exact .accepted (.cons ⟨version, rfl, hVersion⟩ h)
  | refused before hCenters hHeard hBefore hRefuses =>
      have hAll : Accepted (center :: before) _ := .cons ⟨version, rfl, hVersion⟩ hBefore
      exact .refused (center :: before) (by rw [hCenters]; rfl) (by rw [hHeard]; rfl) hAll hRefuses

theorem checkCenters_converses (centers : List String) (told : List Exchange) :
    (checkCenters centers).run.Converses unaborted
      (fun told' result => ∃ heard, told' = told ++ heard ∧ Ends centers heard result) told := by
  induction centers generalizing told with
  | nil => exact ⟨[], (List.append_nil told).symm, .accepted .nil⟩
  | cons center centers ih =>
      rw [checkCenters]
      refine .callThen trivial (fun abort hTold => absurd rfl (hTold abort)) ?_
      rintro (failure | version) -
      · exact .afterNote ⟨_, rfl, .refused [] rfl rfl .nil (.unanswered failure)⟩
      · rcases ApiVersion.check_cases version with ⟨hCheck, hSupported⟩ | ⟨cause, hCheck, hFaults⟩
        · simp only [hCheck]
          refine .afterNote ((ih _).mono ?_)
          rintro _ result ⟨heard, rfl, hEnds⟩
          exact ⟨_, List.append_assoc _ _ _, hEnds.cons hSupported⟩
        · simp only [hCheck]
          exact .afterNote ⟨_, rfl, .refused [] rfl rfl .nil (.unsupported hFaults)⟩

theorem checkCenters_onlyCalls (centers : List String) : Procedure.OnlyCalls (checkCenters centers).run := by
  induction centers with
  | nil => exact .done _
  | cons center centers ih =>
      rw [checkCenters]
      refine .bindOperation (.callOperation _ _) ?_
      rintro (failure | version)
      · exact .bindOperation (.note _) fun _ => .done _
      · simp only
        split
        · exact .bindOperation (.note _) fun _ => .done _
        · exact .bindOperation (.note _) fun _ => ih

/-- What the result of a check says about the centers and what they answered. -/
structure Judges (centers : List String) (heard : List Exchange) (result : Except Error Unit) : Prop where
  success : result = .ok () ↔ Accepted centers heard
  /-- The first center that is refused is the last one that is asked. -/
  failure : ∀ e, result = .error e → ∃ before center after earlier reply cause,
    centers = before ++ center :: after ∧ heard = earlier ++ [.version center reply] ∧ Accepted before earlier ∧
      Refuses center reply cause ∧ e = .configuration cause.message
  /-- Where each center has one answer to give, the answers decide. -/
  decided : ∀ answer : String → Except BackendError String,
    (∀ center reply, .version center reply ∈ heard → reply = answer center) →
    (result = .ok () ↔ ∀ center ∈ centers, ∃ version, answer center = .ok version ∧ ApiVersion.Supported version)

variable {centers : List String} {heard : List Exchange} {result : Except Error Unit}

theorem Refuses.toError {center : String} {reply : Except BackendError String} {cause : Cause}
    (h : Refuses center reply cause) : cause.toError = .configuration cause.message := by
  cases h with
  | unanswered failure => rfl
  | unsupported hFaults => cases hFaults <;> rfl

theorem Refuses.not_supported {center version : String} {cause : Cause} (h : Refuses center (.ok version) cause) :
    ¬ ApiVersion.Supported version := by
  cases h with
  | unsupported hFaults => exact hFaults.not_supported

/-- Every center that is accepted was heard with a version that is supported. -/
theorem Accepted.exists_version (h : Accepted centers heard) {center : String} (hCenter : center ∈ centers) :
    ∃ version, .version center (.ok version) ∈ heard ∧ ApiVersion.Supported version := by
  induction h with
  | nil => exact (List.not_mem_nil hCenter).elim
  | cons hFirst _ ih =>
      rcases List.mem_cons.1 hCenter with rfl | hRest
      · obtain ⟨version, rfl, hVersion⟩ := hFirst
        exact ⟨version, List.mem_cons_self, hVersion⟩
      · obtain ⟨version, hHeard, hVersion⟩ := ih hRest
        exact ⟨version, List.mem_cons_of_mem _ hHeard, hVersion⟩

/-- Nothing but versions that are supported is heard of centers that are accepted. -/
theorem Accepted.supported (h : Accepted centers heard) {center : String} {reply : Except BackendError String}
    (hHeard : .version center reply ∈ heard) : ∃ version, reply = .ok version ∧ ApiVersion.Supported version := by
  induction h with
  | nil => exact (List.not_mem_nil hHeard).elim
  | cons hFirst _ ih =>
      rcases List.mem_cons.1 hHeard with hSame | hRest
      · obtain ⟨version, hAnswer, hVersion⟩ := hFirst
        cases hSame.trans hAnswer
        exact ⟨version, rfl, hVersion⟩
      · exact ih hRest

theorem Ends.judges (h : Ends centers heard result) : Judges centers heard result := by
  cases h with
  | accepted hAccepted =>
      refine ⟨⟨fun _ => hAccepted, fun _ => rfl⟩, nofun, fun answer hAnswer => ⟨?_, fun _ => rfl⟩⟩
      intro _ center hCenter
      obtain ⟨version, hHeard, hVersion⟩ := hAccepted.exists_version hCenter
      exact ⟨version, (hAnswer center _ hHeard).symm, hVersion⟩
  | @refused before after center earlier reply cause hCenters hHeard hBefore hRefuses =>
      have hMem : .version center reply ∈ heard := by
        rw [hHeard]
        exact List.mem_concat_self
      -- No supported version came from the center that was refused.
      have hNone : ¬ ∃ version, reply = .ok version ∧ ApiVersion.Supported version := by
        rintro ⟨version, rfl, hVersion⟩
        exact hRefuses.not_supported hVersion
      refine ⟨⟨nofun, fun hAccepted => (hNone (hAccepted.supported hMem)).elim⟩, ?_, fun answer hAnswer => ⟨nofun, ?_⟩⟩
      · rintro _ ⟨⟩
        exact ⟨before, center, after, earlier, reply, cause, hCenters, hHeard, hBefore, hRefuses, hRefuses.toError⟩
      · intro hAll
        have hCenter : center ∈ centers := by simp [hCenters]
        exact (hNone (hAnswer center reply hMem ▸ hAll center hCenter)).elim

end Startup

/-- A start-up check, among any other jobs and over any platform, that has not been aborted. It judges the centers that
the platform names at one moment of the run by what they answer, and it can always come to its end if nothing aborts
it. -/
theorem startup_accepts_supported_centers {σ : Type} [Bench σ] {env : Surroundings σ} {w : World σ}
    {jobs : List (Context × Procedure (Except Error Unit))} {number : Nat} {ctx : Context}
    {c : Chronicle σ (Except Error Unit)} (hJob : jobs[number]? = some (ctx, Startup.check.run))
    (hRuns : Chronicle.Runs env (fun _ _ => True) (.start w jobs) c)
    (hAborts : ∀ x ∈ c.heardBy number, ∀ abort, x.answer ≠ .error abort) :
    (∀ result, c.result? number = some result → ∃ m, Chronicle.Runs env (fun _ _ => True) (.start w jobs) m ∧
      Chronicle.Runs env (fun _ _ => True) m c ∧
      Startup.Judges (Platform.centers m.system.world.platform) (c.heardBy number) result) ∧
    (ctx.Endless → ∃ c' result, Chronicle.Runs env (fun _ _ => True) c c' ∧ c'.result? number = some result) := by
  refine ⟨fun result hResult => ?_, fun hCtx => ?_⟩
  · obtain ⟨m, hBefore, hAfter, heard, hHeard, hEnds⟩ := hRuns.goal_of_performed hJob
      (fun centers => Startup.checkCenters_converses centers []) hAborts hResult
    exact ⟨m, hBefore, hAfter, hHeard ▸ hEnds.judges⟩
  · exact hRuns.exists_result hJob hCtx (.act fun centers => Startup.checkCenters_onlyCalls centers)

set_option maxRecDepth 10000 in
/-- The second of three centers is too old: the first one is accepted, and the third one is not asked. -/
theorem startup_accepts_supported_centers_old :
    let config : Config := { virtualCenters := .ofList [("east", { apiVersion := " 7.0.3 " }),
      ("north", { apiVersion := "6.4.9" }), ("west", { apiVersion := "10" })] }
    let refusal := Error.configuration
      "API version 6.4.9 does not support first class disks (requires 6.5+)"
    let jobs := [(Context.background, Startup.check.run)]
    ∃ c : Chronicle Inventory (Except Error Unit),
      Chronicle.Runs Inventory.rough (fun _ _ => True) (.start { platform := Inventory.ofConfig config } jobs) c ∧
      c.result? 0 = some (.error refusal) ∧
      (∃ centers, Startup.Judges centers (c.heardBy 0) (.error refusal) ∧ ¬ Startup.Accepted centers (c.heardBy 0)) ∧
      ∃ c' result, Chronicle.Runs Inventory.rough (fun _ _ => True) c c' ∧ c'.result? 0 = some result := by
  intro config refusal jobs
  have hAdmits : ∀ job ∈ jobs, Inventory.rough.Admits job.1 := by
    simp [jobs, Surroundings.admits_background]
  obtain ⟨s, hRuns, -, hResults⟩ := Lab.exists_runs 100 { platform := Inventory.ofConfig config } jobs hAdmits
  obtain ⟨turns, hChronicle⟩ := Chronicle.exists_runs_of_system hRuns []
  have hEndless : Context.background.Endless := Context.abort?_background
  have hUnaborted : ∀ x ∈ Chronicle.heardBy ⟨s, turns⟩ 0, ∀ abort, x.answer ≠ .error abort := fun x hx abort =>
    hChronicle.answer_ne_error rfl hEndless hx abort
  have hResult : Chronicle.result? ⟨s, turns⟩ 0 = some (.error refusal) := hResults 0 _ (by decide +kernel)
  obtain ⟨hJudges, hEnds⟩ := startup_accepts_supported_centers rfl hChronicle hUnaborted
  obtain ⟨m, -, -, hVerdict⟩ := hJudges _ hResult
  exact ⟨⟨s, turns⟩, hChronicle, hResult, ⟨_, hVerdict, fun hAccepted => nomatch hVerdict.success.2 hAccepted⟩,
    hEnds hEndless⟩

end VolumeController
