import VolumeController.Proofs.DeleteRequest
import VolumeController.Proofs.Interleaving.Chronicles
/-! What a delete request ends with, whoever answers it. The sites are asked one after the other until one shows
the disk; a site that cannot answer is passed over, but not forgotten. Main result: a request that is not aborted
succeeds if and only if the disk was deleted where it was shown first, or no site had it. -/

namespace VolumeController

namespace Exchange

/-- The answer to the listing of sites. -/
abbrev sites (reply : Except BackendError (List Site)) : Exchange :=
  ⟨.call .listSites, .ok reply⟩

/-- The answer of a site that is asked for the disk of an id. -/
abbrev lookup (id : String) (site : Site) (reply : Except BackendError (Option Disk)) : Exchange :=
  ⟨.call (.findById site.datacenter id), .ok reply⟩

/-- The answer of a site that is asked to delete a disk that it showed. -/
abbrev deletion (id : String) (site : Site) (disk : Disk) (reply : Except BackendError Unit) : Exchange :=
  ⟨.call (.deleteDisk site.datacenter disk.parent.pool id), .ok reply⟩

theorem lookup_inj {id : String} {site site' : Site} {reply reply' : Except BackendError (Option Disk)}
    (h : lookup id site reply = lookup id site' reply') : site.datacenter = site'.datacenter ∧ reply = reply' := by
  obtain ⟨endpoint, dc⟩ := site
  obtain ⟨endpoint', dc'⟩ := site'
  cases h
  exact ⟨rfl, rfl⟩

theorem deletion_inj {id : String} {site site' : Site} {disk disk' : Disk} {reply reply' : Except BackendError Unit}
    (h : deletion id site disk reply = deletion id site' disk' reply') : reply = reply' := by
  unfold deletion at h
  generalize site.datacenter = dc, site'.datacenter = dc', disk.parent.pool = pool, disk'.parent.pool = pool' at h
  cases h
  rfl

end Exchange

/-- The answers of sites that are asked for the disk of an id, one after the other. -/
def lookups (id : String) (replies : List (Site × Except BackendError (Option Disk))) : List Exchange :=
  replies.map fun (site, reply) => .lookup id site reply

/-- Whether no reply shows a disk. -/
def ShowNone (replies : List (Site × Except BackendError (Option Disk))) : Prop :=
  ∀ site disk, (site, .ok (some disk)) ∉ replies

theorem ShowNone.cons {site : Site} {reply : Except BackendError (Option Disk)}
    {replies : List (Site × Except BackendError (Option Disk))} (h : ShowNone replies)
    (hReply : ∀ disk, reply ≠ .ok (some disk)) : ShowNone ((site, reply) :: replies) := by
  intro site' disk hMem
  rcases List.mem_cons.1 hMem with hFirst | hRest
  · exact hReply disk (Prod.mk.inj hFirst).2.symm
  · exact h site' disk hRest

/-- How a search of sites may end that nobody aborts, after an earlier site may have failed. -/
inductive SearchEnds (id : String) (last : Option BackendError) (sites : List Site) (told : List Exchange) :
    Except Error (Site × Disk) → Prop where
  | found (before : List (Site × Except BackendError (Option Disk))) (site : Site) (disk : Disk) (after : List Site)
      (hSites : sites = before.map Prod.fst ++ site :: after) (hBefore : ShowNone before)
      (hTold : told = lookups id before ++ [.lookup id site (.ok (some disk))]) :
      SearchEnds id last sites told (.ok (site, disk))
  | absent (hLast : last = none) (hTold : told = lookups id (sites.map (·, .ok none))) :
      SearchEnds id last sites told (.error (.diskNotFound id))
  | uncertain (replies : List (Site × Except BackendError (Option Disk))) (failure : BackendError)
      (hSites : sites = replies.map Prod.fst) (hNone : ShowNone replies)
      (hFailed : last = none → ∃ site failure, (site, .error failure) ∈ replies)
      (hTold : told = lookups id replies) :
      SearchEnds id last sites told (.error (Cause.ownerUncertain id failure).toError)

namespace SearchEnds

variable {id : String} {last : Option BackendError} {site : Site} {sites : List Site} {told : List Exchange}
  {result : Except Error (Site × Disk)}

theorem afterNone (h : SearchEnds id last sites told result) :
    SearchEnds id last (site :: sites) (.lookup id site (.ok none) :: told) result := by
  cases h with
  | found before site' disk after hSites hBefore hTold =>
      exact .found ((site, .ok none) :: before) site' disk after (by rw [hSites]; rfl) (hBefore.cons nofun)
        (by rw [hTold]; rfl)
  | absent hLast hTold => exact .absent hLast (by rw [hTold]; rfl)
  | uncertain replies failure hSites hNone hFailed hTold =>
      refine .uncertain ((site, .ok none) :: replies) failure (by rw [hSites]; rfl) (hNone.cons nofun) ?_
        (by rw [hTold]; rfl)
      intro hLast
      obtain ⟨site', failure', hMem⟩ := hFailed hLast
      exact ⟨site', failure', List.mem_cons_of_mem _ hMem⟩

theorem afterFailure {failure : BackendError} (h : SearchEnds id (some failure) sites told result) :
    SearchEnds id last (site :: sites) (.lookup id site (.error failure) :: told) result := by
  cases h with
  | found before site' disk after hSites hBefore hTold =>
      exact .found ((site, .error failure) :: before) site' disk after (by rw [hSites]; rfl) (hBefore.cons nofun)
        (by rw [hTold]; rfl)
  | absent hLast _ => cases hLast
  | uncertain replies failure' hSites hNone hFailed hTold =>
      exact .uncertain ((site, .error failure) :: replies) failure' (by rw [hSites]; rfl) (hNone.cons nofun)
        (fun _ => ⟨site, failure, List.mem_cons_self⟩) (by rw [hTold]; rfl)

end SearchEnds

namespace VolumeStore

theorem searchSites_converses (id : String) (last : Option BackendError) (sites : List Site) (told : List Exchange) :
    (searchSites id last sites).run.Converses unaborted
      (fun told' result => ∃ heard, told' = told ++ heard ∧ SearchEnds id last sites heard result) told := by
  induction sites generalizing last told with
  | nil =>
      cases last with
      | none => exact ⟨[], (List.append_nil told).symm, .absent rfl rfl⟩
      | some failure => exact ⟨[], (List.append_nil told).symm, .uncertain [] failure rfl nofun nofun rfl⟩
  | cons site sites ih =>
      rw [searchSites]
      refine .callThen trivial (fun abort hTold => absurd rfl (hTold abort)) ?_
      rintro (failure | _ | disk) -
      · refine .afterNote ((ih (some failure) _).mono ?_)
        rintro _ result ⟨heard, rfl, hEnds⟩
        exact ⟨_, List.append_assoc _ _ _, hEnds.afterFailure⟩
      · refine (ih last _).mono ?_
        rintro _ result ⟨heard, rfl, hEnds⟩
        exact ⟨_, List.append_assoc _ _ _, hEnds.afterNone⟩
      · exact ⟨_, rfl, .found [] site disk sites rfl nofun rfl⟩

theorem resolve_converses (id : String) :
    (resolve id).run.Converses unaborted (fun told result =>
      (∃ failure, told = [.sites (.error failure)] ∧ result = .error (Cause.sitesUnlisted failure).toError) ∨
        ∃ sites heard, told = .sites (.ok sites) :: heard ∧ SearchEnds id none sites heard result) [] := by
  refine .callThen trivial (fun abort hTold => absurd rfl (hTold abort)) ?_
  rintro (failure | sites) -
  · exact .inl ⟨failure, rfl, rfl⟩
  · refine (searchSites_converses id none sites _).mono ?_
    rintro _ result ⟨heard, rfl, hEnds⟩
    exact .inr ⟨sites, heard, rfl, hEnds⟩

end VolumeStore

/-- How a delete request may end that nobody aborts. -/
inductive DeleteEnds (id : String) (told : List Exchange) : Except Error DeleteVolumeResponse → Prop where
  | unlisted (failure : BackendError) (hTold : told = [.sites (.error failure)]) :
      DeleteEnds id told (.error (Cause.ownerUnresolved id (Cause.sitesUnlisted failure).toError).toError)
  | absent (sites : List Site) (hTold : told = .sites (.ok sites) :: lookups id (sites.map (·, .ok none))) :
      DeleteEnds id told (.ok ⟨⟩)
  | uncertain (replies : List (Site × Except BackendError (Option Disk))) (failure : BackendError)
      (hNone : ShowNone replies) (hFailed : ∃ site failure, (site, .error failure) ∈ replies)
      (hTold : told = .sites (.ok (replies.map Prod.fst)) :: lookups id replies) :
      DeleteEnds id told (.error (Cause.ownerUnresolved id (Cause.ownerUncertain id failure).toError).toError)
  | found (before : List (Site × Except BackendError (Option Disk))) (site : Site) (disk : Disk) (after : List Site)
      (reply : Except BackendError Unit) (hBefore : ShowNone before)
      (hTold : told = .sites (.ok (before.map Prod.fst ++ site :: after)) :: lookups id before ++
        [.lookup id site (.ok (some disk)), .deletion id site disk reply]) :
      DeleteEnds id told (match reply with
        | .ok () => .ok ⟨⟩
        | .error failure => .error (Cause.deletionFailed id failure).toError)

theorem Controller.deleteVolume_converses {id : String} (hId : id ≠ "") :
    (Controller.deleteVolume ⟨id⟩).run.Converses unaborted (DeleteEnds id) [] := by
  refine .instrumented ?_
  unfold deleteVolumeUncounted
  rw [if_neg hId]
  refine .bindOperation (.attempt ((VolumeStore.resolve_converses id).mono ?_))
  rintro told result (⟨failure, rfl, rfl⟩ | ⟨sites, heard, rfl, hEnds⟩)
  · exact .reject (.unlisted failure rfl)
  · cases hEnds with
    | found before site disk after hSites hBefore hTold =>
        refine .bindOperation (.callThen trivial (fun abort hTold => absurd rfl (hTold abort)) ?_)
        subst hSites hTold
        rintro (failure | ⟨⟩) -
        · exact .reject (.found before site disk after (.error failure) hBefore (by simp))
        · exact .afterNote (.found before site disk after (.ok ()) hBefore (by simp))
    | absent _ hTold => exact .afterNote (.absent sites (by rw [hTold]))
    | uncertain replies failure hSites hNone hFailed hTold =>
        exact .reject (.uncertain replies failure hNone (hFailed rfl) (by rw [hTold, hSites]))

/-- The sites before one showed no disk, one showed a disk, and it was deleted there from its own pool. -/
def DeletedFirst (id : String) (heard : List Exchange) : Prop :=
  ∃ before site disk after, ShowNone before ∧
    heard = .sites (.ok (before.map Prod.fst ++ site :: after)) :: lookups id before ++
      [.lookup id site (.ok (some disk)), .deletion id site disk (.ok ())]

/-- All sites answered that they have no disk. -/
def AbsentEverywhere (id : String) (heard : List Exchange) : Prop :=
  ∃ sites, heard = .sites (.ok sites) :: lookups id (sites.map (·, .ok none))

/-- What the result of a delete request says about what the request has heard. -/
structure Truthful (id : String) (heard : List Exchange) (result : Except Error DeleteVolumeResponse) : Prop where
  success : result = .ok ⟨⟩ ↔ DeletedFirst id heard ∨ AbsentEverywhere id heard
  failure : result ≠ .ok ⟨⟩ → ∃ text, result = .error (.internal text)
  /-- Where no site shows the disk, but one could not answer, nothing is deleted. -/
  uncertain : (∀ site disk, .lookup id site (.ok (some disk)) ∉ heard) →
    (∃ site failure, .lookup id site (.error failure) ∈ heard) →
    result ≠ .ok ⟨⟩ ∧ ∀ dc pool id' answer, ⟨.call (.deleteDisk dc pool id'), answer⟩ ∉ heard
  /-- Where a site shows the disk, it is asked to delete it, whatever failed before. -/
  shown : ∀ site disk, .lookup id site (.ok (some disk)) ∈ heard →
    ∃ reply, .deletion id site disk reply ∈ heard ∧ (result = .ok ⟨⟩ ↔ reply = .ok ())

section

variable {id : String} {replies : List (Site × Except BackendError (Option Disk))} {x : Exchange}

theorem mem_lookups : x ∈ lookups id replies ↔ ∃ site reply, (site, reply) ∈ replies ∧ x = .lookup id site reply := by
  simp only [lookups, List.mem_map, Prod.exists]
  exact exists_congr fun site => exists_congr fun reply => and_congr_right fun _ => eq_comm

theorem ShowNone.lookup_notMem (h : ShowNone replies) (site : Site) (disk : Disk) :
    .lookup id site (.ok (some disk)) ∉ lookups id replies := by
  intro hMem
  obtain ⟨site', reply, hReply, hSame⟩ := mem_lookups.1 hMem
  obtain ⟨-, rfl⟩ := Exchange.lookup_inj hSame
  exact h site' disk hReply

end

variable {id : String} {heard : List Exchange} {result : Except Error DeleteVolumeResponse}

theorem AbsentEverywhere.cases (h : AbsentEverywhere id heard) {x : Exchange} (hx : x ∈ heard) :
    (∃ sites, x = .sites (.ok sites)) ∨ ∃ site, x = .lookup id site (.ok none) := by
  obtain ⟨sites, rfl⟩ := h
  rcases List.mem_cons.1 hx with rfl | hLookup
  · exact .inl ⟨sites, rfl⟩
  · obtain ⟨site, reply, hReply, rfl⟩ := mem_lookups.1 hLookup
    obtain ⟨site', -, hSame⟩ := List.mem_map.1 hReply
    cases hSame
    exact .inr ⟨site, rfl⟩

/-- Where all sites answer that they have no disk, none shows it and none fails. -/
theorem AbsentEverywhere.eq_none (h : AbsentEverywhere id heard) {site : Site}
    {reply : Except BackendError (Option Disk)} (hMem : .lookup id site reply ∈ heard) : reply = .ok none := by
  rcases h.cases hMem with ⟨sites, hSame⟩ | ⟨site', hSame⟩
  · cases hSame
  · exact (Exchange.lookup_inj hSame).2

namespace DeleteEnds

theorem eq_ok_of_deletedFirst (h : DeleteEnds id heard result) (hDeleted : DeletedFirst id heard) :
    result = .ok ⟨⟩ := by
  obtain ⟨before, site, disk, after, -, hHeard⟩ := hDeleted
  cases h with
  | unlisted failure hTold => cases (List.cons.inj (hTold.symm.trans hHeard)).1
  | absent => rfl
  | uncertain replies failure hNone _ hTold =>
      have hMem : .lookup id site (.ok (some disk)) ∈ heard := by simp [hHeard]
      rw [hTold] at hMem
      rcases List.mem_cons.1 hMem with hSites | hLookup
      · cases hSites
      · exact absurd hLookup (hNone.lookup_notMem site disk)
  | found before' site' disk' after' reply _ hTold =>
      have hLast : heard.getLast? = some (.deletion id site disk (.ok ())) := by
        rw [hHeard, List.getLast?_append]
        rfl
      have hLast' : heard.getLast? = some (.deletion id site' disk' reply) := by
        rw [hTold, List.getLast?_append]
        rfl
      obtain rfl := Exchange.deletion_inj (Option.some.inj (hLast.symm.trans hLast'))
      rfl

theorem eq_ok_of_absentEverywhere (h : DeleteEnds id heard result) (hAbsent : AbsentEverywhere id heard) :
    result = .ok ⟨⟩ := by
  cases h with
  | unlisted failure hTold =>
      rcases hAbsent.cases (by rw [hTold]; exact List.mem_cons_self) with ⟨sites, hSame⟩ | ⟨site, hSame⟩
      · cases hSame
      · cases hSame
  | absent => rfl
  | uncertain replies failure _ hFailed hTold =>
      obtain ⟨site, failure', hMem⟩ := hFailed
      have hLookup : .lookup id site (.error failure') ∈ heard := by
        rw [hTold]
        exact List.mem_cons_of_mem _ (mem_lookups.2 ⟨site, _, hMem, rfl⟩)
      cases hAbsent.eq_none hLookup
  | found before site disk after reply _ hTold =>
      have hLookup : .lookup id site (.ok (some disk)) ∈ heard := by simp [hTold]
      cases hAbsent.eq_none hLookup

theorem eq_internal (h : DeleteEnds id heard result) (hNot : result ≠ .ok ⟨⟩) :
    ∃ text, result = .error (.internal text) := by
  cases h with
  | unlisted => exact ⟨_, rfl⟩
  | absent => exact absurd rfl hNot
  | uncertain => exact ⟨_, rfl⟩
  | found _ _ _ _ reply =>
      cases reply with
      | error failure => exact ⟨_, rfl⟩
      | ok done => exact absurd rfl hNot

/-- Where no site shows the disk, a site that could not answer keeps the request from its success. -/
theorem of_unshown (h : DeleteEnds id heard result)
    (hUnshown : ∀ site disk, .lookup id site (.ok (some disk)) ∉ heard)
    (hFailed : ∃ site failure, .lookup id site (.error failure) ∈ heard) :
    result ≠ .ok ⟨⟩ ∧ ∀ dc pool id' answer, ⟨.call (.deleteDisk dc pool id'), answer⟩ ∉ heard := by
  obtain ⟨site, failure, hMem⟩ := hFailed
  cases h with
  | unlisted failure' hTold =>
      rw [hTold] at hMem
      cases List.mem_singleton.1 hMem
  | absent sites hTold => cases AbsentEverywhere.eq_none ⟨sites, hTold⟩ hMem
  | uncertain replies failure' hNone _ hTold =>
      refine ⟨nofun, fun dc pool id' answer hDelete => ?_⟩
      rw [hTold] at hDelete
      rcases List.mem_cons.1 hDelete with hSites | hLookup
      · cases hSites
      · obtain ⟨site', reply, -, hSame⟩ := mem_lookups.1 hLookup
        cases hSame
  | found before site' disk after reply _ hTold => exact absurd (by simp [hTold]) (hUnshown site' disk)

/-- Where a site shows the disk, the result is that of its deletion there. -/
theorem of_shown (h : DeleteEnds id heard result) {site : Site} {disk : Disk}
    (hMem : .lookup id site (.ok (some disk)) ∈ heard) :
    ∃ reply, .deletion id site disk reply ∈ heard ∧ (result = .ok ⟨⟩ ↔ reply = .ok ()) := by
  cases h with
  | unlisted failure hTold =>
      rw [hTold] at hMem
      cases List.mem_singleton.1 hMem
  | absent sites hTold => cases AbsentEverywhere.eq_none ⟨sites, hTold⟩ hMem
  | uncertain replies failure hNone _ hTold =>
      rw [hTold] at hMem
      rcases List.mem_cons.1 hMem with hSites | hLookup
      · cases hSites
      · exact absurd hLookup (hNone.lookup_notMem site disk)
  | found before site' disk' after reply hBefore hTold =>
      have hSame : Exchange.lookup id site (.ok (some disk)) = .lookup id site' (.ok (some disk')) := by
        rw [hTold] at hMem
        rcases List.mem_append.1 hMem with hSearch | hEnd
        · rcases List.mem_cons.1 hSearch with hSites | hLookup
          · cases hSites
          · exact absurd hLookup (hBefore.lookup_notMem site disk)
        · rcases List.mem_cons.1 hEnd with hShown | hDeletion
          · exact hShown
          · cases List.mem_singleton.1 hDeletion
      obtain ⟨hDatacenter, hDisk⟩ := Exchange.lookup_inj hSame
      cases hDisk
      refine ⟨reply, ?_, ?_⟩
      · rw [Exchange.deletion, hDatacenter]
        simp [hTold]
      · cases reply with
        | error failure => exact ⟨nofun, nofun⟩
        | ok done => exact ⟨fun _ => rfl, fun _ => rfl⟩

theorem truthful (h : DeleteEnds id heard result) : Truthful id heard result where
  success := by
    refine ⟨?_, fun hGone => hGone.elim h.eq_ok_of_deletedFirst h.eq_ok_of_absentEverywhere⟩
    rintro rfl
    generalize hResult : (.ok ⟨⟩ : Except Error DeleteVolumeResponse) = result at h
    cases h with
    | unlisted => cases hResult
    | absent sites hTold => exact .inr ⟨sites, hTold⟩
    | uncertain => cases hResult
    | found before site disk after reply hBefore hTold =>
        cases reply with
        | error failure => cases hResult
        | ok done => exact .inl ⟨before, site, disk, after, hBefore, hTold⟩
  failure := h.eq_internal
  uncertain := h.of_unshown
  shown := fun _ _ => h.of_shown

end DeleteEnds

/-- A delete request for a volume, among any other jobs and over any platform, that has not been aborted. Its
success means that the volume is gone, every other result is an internal error, and the request can always come to
its end if nothing aborts it. -/
theorem deletes_report_truthfully {σ : Type} [Bench σ] {env : Surroundings σ} {w : World σ}
    {jobs : List (Context × Procedure (Except Error DeleteVolumeResponse))} {number : Nat} {ctx : Context}
    {id : String} {c : Chronicle σ (Except Error DeleteVolumeResponse)}
    (hJob : jobs[number]? = some (ctx, (Controller.deleteVolume ⟨id⟩).run)) (hId : id ≠ "")
    (hRuns : Chronicle.Runs env (fun _ _ => True) (.start w jobs) c)
    (hAborts : ∀ x ∈ c.heardBy number, ∀ abort, x.answer ≠ .error abort) :
    (∀ result, c.result? number = some result → Truthful id (c.heardBy number) result) ∧
    (ctx.Endless → ∃ c' result, Chronicle.Runs env (fun _ _ => True) c c' ∧ c'.result? number = some result) := by
  refine ⟨fun result hResult => ?_, fun hCtx => ?_⟩
  · exact (hRuns.goal_of_result hJob (Controller.deleteVolume_converses hId) hAborts hResult).truthful
  · exact hRuns.exists_result hJob hCtx (.deleteVolume ⟨id⟩)

set_option maxRecDepth 10000 in
/-- One of two datacenters cannot say whether it has the volume, but the other one has it: the volume is deleted. -/
theorem deletes_report_truthfully_outage :
    let config : Config := { virtualCenters := .ofList [("vc", { datacenters :=
      [{ name := "east", datastores := ["ds"] }, { name := "west", datastores := ["ds"] }] })] }
    let stocked := ((Inventory.ofConfig config).answer (.createDisk ⟨"west", 1⟩ ⟨.datastore, "ds"⟩ "volume" 1024)).2.2
    let inventory := (Inventory.obey (.fail (some ⟨"east", 0⟩) .findById (.connection "vc" "timeout")) stocked).2
    let jobs := [(Context.background, (Controller.deleteVolume ⟨Inventory.idText 1⟩).run)]
    ∃ c : Chronicle Inventory (Except Error DeleteVolumeResponse),
      Chronicle.Runs Inventory.rough (fun _ _ => True) (.start { platform := inventory } jobs) c ∧
      c.result? 0 = some (.ok ⟨⟩) ∧
      (DeletedFirst (Inventory.idText 1) (c.heardBy 0) ∨ AbsentEverywhere (Inventory.idText 1) (c.heardBy 0)) ∧
      ∃ c' result, Chronicle.Runs Inventory.rough (fun _ _ => True) c c' ∧ c'.result? 0 = some result := by
  intro config stocked inventory jobs
  have hAdmits : ∀ job ∈ jobs, Inventory.rough.Admits job.1 := by
    simp [jobs, Surroundings.admits_background]
  obtain ⟨s, hRuns, -, hResults⟩ := Lab.exists_runs 100 { platform := inventory } jobs hAdmits
  have hSteps := Relation.ReflTransGen.mono (fun _ _ hStep => And.intro hStep trivial) _ _ hRuns
  obtain ⟨turns, hChronicle⟩ := Chronicle.exists_runs hSteps []
  have hEndless : Context.background.Endless := Context.abort?_background
  have hUnaborted : ∀ x ∈ Chronicle.heardBy ⟨s, turns⟩ 0, ∀ abort, x.answer ≠ .error abort := fun x hx abort =>
    hChronicle.answer_ne_error rfl hEndless hx abort
  have hId : Inventory.idText 1 ≠ "" := by decide +kernel
  have hResult : Chronicle.result? ⟨s, turns⟩ 0 = some (.ok ⟨⟩) := hResults 0 _ (by decide +kernel)
  obtain ⟨hTruthful, hEnds⟩ := deletes_report_truthfully rfl hId hChronicle hUnaborted
  exact ⟨⟨s, turns⟩, hChronicle, hResult, (hTruthful _ hResult).success.1 rfl, hEnds hEndless⟩

end VolumeController
