import Mathlib.Data.List.Forall2
import VolumeController.Proofs.Contracts
import VolumeController.Proofs.Pages
/-! Walks over the pages of a listing: each call continues where the last page ended, and sees a listing of
its own. Main result: while the listing only grows at its end, the pages put together are the listing that
the last call saw. -/

namespace VolumeController

/-- A call for a page: its limit, and what the platform shows while it lasts. -/
structure PageCall where
  maxEntries : Int32
  sites : List Site
  answers : List (Except BackendError (List Disk))

/-- What a page of an answered call is continued with. A page without a token ends a walk, and so does a
failure. -/
def ListVolumesResponse.next? : Except Error ListVolumesResponse → Option String
  | .ok response => if response.nextToken = "" then none else some response.nextToken
  | .error _ => none

namespace PageCall

/-- The listing that a call sees: the disks of the sites that answered. -/
def seen (call : PageCall) : List LocatedDisk :=
  (call.sites.zip call.answers).flatMap fun
    | (site, .ok disks) => disks.map (⟨site.endpoint, site.datacenter.name, ·⟩)
    | (_, .error _) => []

/-- The platform shows its sites and what each of them answers. -/
def contract (call : PageCall) : Contract where
  told
    | .call .listSites, answer => answer = .ok (.ok call.sites)
    | .listings _, answer => answer = .ok call.answers
    | _, _ => True

/-- The results that a call from a token can have. -/
def Gives (call : PageCall) (token : String) (result : Except Error ListVolumesResponse) : Prop :=
  ∃ path, (Listing.page ⟨call.maxEntries, token⟩).run.Path path (.done result) ∧ call.contract.Kept path

/-- Whether another call sees the same listing, or one that has grown at its end. -/
def GrowsTo (call later : PageCall) : Prop :=
  call.seen <+: later.seen

instance : Trans GrowsTo GrowsTo GrowsTo := ⟨List.IsPrefix.trans⟩

/-- A call with a limit that is not negative, which sees disks that can be reported and not more of them than
there are offsets. -/
structure Fair (call : PageCall) : Prop where
  limit : 0 ≤ call.maxEntries.toInt
  reportable : ∀ d ∈ call.seen, d.Reportable
  offsets : call.seen.length < offsetBound

/-- The limit of a call, zero for none. -/
def limit (call : PageCall) : Nat :=
  call.maxEntries.toInt.toNat

/-- The volumes that a call sees. -/
def volumes (call : PageCall) : List Volume :=
  call.seen.map LocatedDisk.report

end PageCall

/-- Calls one after the other from a token, with their results, and the token to go on with. -/
inductive Walk : Option String → List PageCall → List (Except Error ListVolumesResponse) → Option String → Prop
    where
  | nil (token : Option String) : Walk token [] [] token
  | cons {token : String} {call : PageCall} {result : Except Error ListVolumesResponse} {calls : List PageCall}
      {results : List (Except Error ListVolumesResponse)} {final : Option String}
      (h : call.Gives token result) (hRest : Walk (ListVolumesResponse.next? result) calls results final) :
      Walk (some token) (call :: calls) (result :: results) final

/-! One call. -/

namespace Procedure.Meets

variable {call : PageCall}

/-- A computation that fails with a cause or goes on. -/
theorem bindCause {α β : Type} {C : Contract} {result : Except Cause α} {f : α → Operation β}
    {g : α → Except Cause β} (h : ∀ a, (f a).run.Meets C (· = (g a).mapError Cause.toError)) :
    (Operation.ofCause result >>= f).run.Meets C (· = (result >>= g).mapError Cause.toError) := by
  apply bindOperation
  apply ofCause
  cases result with
  | error cause => rfl
  | ok a => exact h a

theorem collect (C : Contract) (sites : List Site) (answers : List (Except BackendError (List Disk))) :
    (Listing.collect sites answers).run.Meets C
      (· = .ok (PageCall.seen ⟨0, sites, answers⟩)) := by
  induction sites generalizing answers with
  | nil => rfl
  | cons site sites ih =>
      cases answers with
      | nil => rfl
      | cons answer answers =>
          cases answer with
          | error failure => exact afterNote (ih answers)
          | ok disks =>
              apply bindOperation
              apply (ih answers).mono
              rintro _ rfl
              rfl

theorem allDisks : Listing.allDisks.run.Meets call.contract (· = .ok call.seen) := by
  apply bindOperation
  refine wait trivial (fun abort hTold => nomatch hTold) ?_
  rintro _ ⟨⟩
  apply bindOperation
  refine wait trivial (fun abort hTold => nomatch hTold) ?_
  rintro _ ⟨⟩
  exact collect _ _ _

theorem page (hReportable : ∀ d ∈ call.seen, d.Reportable) (request : ListVolumesRequest) :
    (Listing.page request).run.Meets call.contract
      (· = (Listing.cut request call.volumes).mapError Cause.toError) := by
  rw [Listing.cut_eq_compute]
  refine bindCause fun limit => bindCause fun start => bindOperation (allDisks.mono ?_)
  rintro _ rfl
  rw [PageCall.volumes, List.length_map]
  refine bindCause fun bounds => afterNote ?_
  rw [Listing.entries_eq_ok fun d hd => hReportable d (PageBounds.mem_of_mem_slice hd), PageBounds.slice_map,
    List.map_map]
  apply bindOperation
  split
  · exact afterNote rfl
  · rfl

end Procedure.Meets

namespace PageCall

variable {call : PageCall} {token : String} {result : Except Error ListVolumesResponse}

/-- Calls come to an end. -/
theorem exists_gives (call : PageCall) (token : String) : ∃ result, call.Gives token result := by
  have hTold : ∀ wait, ∃ answer, call.contract.told wait answer := by
    intro wait
    cases wait with
    | call c =>
        cases c with
        | listSites => exact ⟨_, rfl⟩
        | _ => exact ⟨.error .cancelled, trivial⟩
    | listings dcs => exact ⟨_, rfl⟩
    | lock lock => exact ⟨.ok (), trivial⟩
    | work duration => exact ⟨.ok (), trivial⟩
  obtain ⟨path, result, hPath, hKept⟩ := Procedure.Path.exists_done hTold (Listing.page ⟨call.maxEntries, token⟩).run
  exact ⟨result, path, hPath, hKept⟩

/-- They end in one way. -/
theorem Gives.eq_cut (h : call.Gives token result) (hReportable : ∀ d ∈ call.seen, d.Reportable) :
    result = (Listing.cut ⟨call.maxEntries, token⟩ call.volumes).mapError Cause.toError := by
  obtain ⟨path, hPath, hKept⟩ := h
  exact hPath.meets (Procedure.Meets.page hReportable _) hKept

theorem Fair.limit_eq_ok (h : call.Fair) : Listing.limit call.maxEntries = .ok call.limit :=
  if_neg (Int.not_lt.2 h.limit)

open Listing (Continues)

/-- The token of a page that continues is read back as the offset after it. -/
theorem Fair.offsetOfToken_next (h : call.Fair) {start : Nat} (hMore : Continues call.limit start call.seen.length) :
    offsetOfToken (Text.natText (start + call.limit)) = .ok (start + call.limit) :=
  offsetOfToken_natText (Nat.lt_of_le_of_lt hMore.2.2 h.offsets)

/-- A page that continues has as many volumes as it may, and a token for the offset after them. -/
theorem Gives.of_continues (h : call.Gives token result) (hFair : call.Fair) {start : Nat}
    (hToken : offsetOfToken token = .ok start) (hMore : Continues call.limit start call.seen.length) :
    result = .ok ⟨((call.volumes.drop start).take call.limit).map .mk, Text.natText (start + call.limit)⟩ := by
  have hCut : Listing.cut ⟨call.maxEntries, token⟩ call.volumes = .ok _ :=
    Listing.cut_of_continues hFair.limit_eq_ok hToken (by rwa [volumes, List.length_map])
  rw [h.eq_cut hFair.reportable, hCut]
  rfl

/-- The last page has the rest. -/
theorem Gives.of_not_continues (h : call.Gives token result) (hFair : call.Fair) {start : Nat}
    (hToken : offsetOfToken token = .ok start) (hFits : start ≤ call.seen.length)
    (hLast : ¬ Continues call.limit start call.seen.length) :
    result = .ok ⟨(call.volumes.drop start).map .mk, ""⟩ := by
  have hCut : Listing.cut ⟨call.maxEntries, token⟩ call.volumes = .ok _ :=
    Listing.cut_of_not_continues hFair.limit_eq_ok hToken (by rwa [volumes, List.length_map])
      (by rwa [volumes, List.length_map])
  rw [h.eq_cut hFair.reportable, hCut]
  rfl

theorem length_volumes (call : PageCall) : call.volumes.length = call.seen.length := by
  simp [volumes]

/-- A page is the same in a listing that has grown. -/
theorem take_drop_volumes {last : PageCall} {start limit : Nat} (h : call.GrowsTo last)
    (hFits : start + limit ≤ call.seen.length) :
    (call.volumes.drop start).take limit = (last.volumes.drop start).take limit := by
  obtain ⟨more, hSeen⟩ := h
  have hVolumes : last.volumes = call.volumes ++ more.map LocatedDisk.report := by
    rw [volumes, volumes, ← hSeen, List.map_append]
  rw [← call.length_volumes] at hFits
  rw [hVolumes, List.drop_append_of_le_length (by omega), List.take_append_of_le_length]
  rw [List.length_drop]
  omega

end PageCall

namespace Walk

open Listing (Continues)

variable {token : String} {start : Nat} {calls : List PageCall} {final : Option String}
  {results : List (Except Error ListVolumesResponse)}

theorem final_of_nil {token : Option String} (h : Walk token [] results final) : final = token := by
  cases h
  rfl

/-- A page of a walk continues, and the walk goes on at the offset after it, or it is the last one. -/
theorem cons_cases {call : PageCall} (h : Walk (some token) (call :: calls) results final) (hFair : call.Fair)
    (hToken : offsetOfToken token = .ok start) (hStart : start ≤ call.seen.length) :
    (Continues call.limit start call.seen.length ∧ ∃ rest,
      results =
        .ok ⟨((call.volumes.drop start).take call.limit).map .mk, Text.natText (start + call.limit)⟩ :: rest ∧
      Walk (some (Text.natText (start + call.limit))) calls rest final) ∨
    (¬ Continues call.limit start call.seen.length ∧ calls = [] ∧ final = none ∧
      results = [.ok ⟨(call.volumes.drop start).map .mk, ""⟩]) := by
  cases h with
  | @cons _ _ result _ rest _ hGives hRest =>
      by_cases hMore : Continues call.limit start call.seen.length
      · obtain rfl := hGives.of_continues hFair hToken hMore
        rw [ListVolumesResponse.next?, if_neg (natText_ne_empty _)] at hRest
        exact .inl ⟨hMore, rest, rfl, hRest⟩
      · obtain rfl := hGives.of_not_continues hFair hToken hStart hMore
        rw [ListVolumesResponse.next?, if_pos rfl] at hRest
        cases hRest
        exact .inr ⟨hMore, rfl, rfl, rfl⟩

/-- What may be asked of the pages of calls: none has more volumes than its limit, and if the last of them has
no token they make up what the last call sees from an offset on. -/
structure Complete (start : Nat) (calls : List PageCall) (final : Option String)
    (responses : List ListVolumesResponse) : Prop where
  limits : List.Forall₂ (fun call response => 0 < call.limit → response.entries.length ≤ call.limit)
    calls responses
  whole : final = none → ∀ last, calls.getLast? = some last →
    responses.flatMap (·.entries) = (last.volumes.drop start).map .mk

/-- A walk from any offset that the listing reaches. -/
theorem exists_complete (h : Walk (some token) calls results final) (hFair : ∀ call ∈ calls, call.Fair)
    (hGrowing : calls.Pairwise PageCall.GrowsTo) (hToken : offsetOfToken token = .ok start)
    (hStart : ∀ call ∈ calls, start ≤ call.seen.length) :
    ∃ responses, results = responses.map .ok ∧ Complete start calls final responses := by
  induction calls generalizing token start results with
  | nil =>
      cases h
      exact ⟨[], rfl, .nil, fun hFinal => nomatch hFinal⟩
  | cons call calls ih =>
      obtain ⟨hCall, hCalls⟩ := List.forall_mem_cons.1 hFair
      obtain ⟨hGrows, hRestGrows⟩ := List.pairwise_cons.1 hGrowing
      rcases h.cons_cases hCall hToken (hStart call List.mem_cons_self) with
        ⟨hMore, rest, rfl, hRest⟩ | ⟨hLastPage, rfl, rfl, rfl⟩
      · obtain ⟨responses, rfl, hRestLimits, hWhole⟩ := ih hRest hCalls hRestGrows (hCall.offsetOfToken_next hMore)
          fun later hLater => Nat.le_trans hMore.2.2 (hGrows later hLater).length_le
        refine ⟨_ :: responses, rfl, .cons ?_ hRestLimits, fun hFinal last hLast => ?_⟩
        · intro hPositive
          rw [List.length_map]
          exact List.length_take_le _ _
        · have hLast' : calls.getLast? = some last := by
            cases calls with
            | nil => cases hRest.final_of_nil.symm.trans hFinal
            | cons next calls => exact hLast
          have hPrefix := hGrows last (List.mem_of_getLast? hLast')
          rw [List.flatMap_cons, hWhole hFinal last hLast', ← List.map_append,
            PageCall.take_drop_volumes hPrefix hMore.2.2, ← List.drop_drop, List.take_append_drop]
      · refine ⟨[_], rfl, .cons ?_ .nil, ?_⟩
        · intro hPositive
          simp only [Continues] at hLastPage
          simp only [List.length_map, List.length_drop, PageCall.length_volumes]
          omega
        · intro hFinal last hLast
          cases hLast
          simp

theorem append {token mid final : Option String} {calls' : List PageCall}
    {results' : List (Except Error ListVolumesResponse)} (h : Walk token calls results mid)
    (h' : Walk mid calls' results' final) : Walk token (calls ++ calls') (results ++ results') final := by
  induction h with
  | nil token => exact h'
  | cons hGives _ ih => exact .cons hGives (ih h')

/-- The pages that are left of a listing. -/
def pagesFrom (limit start total : Nat) : Nat :=
  if limit < total then (total - start) / limit + 1 else 1

theorem pagesFrom_of_continues {limit total : Nat} (h : Continues limit start total) :
    pagesFrom limit start total = pagesFrom limit (start + limit) total + 1 := by
  obtain ⟨hPositive, hLess, hFits⟩ := h
  have hDiv : (total - start) / limit = (total - start - limit) / limit + 1 :=
    Nat.div_eq_sub_div hPositive (by omega)
  rw [pagesFrom, pagesFrom, if_pos hLess, if_pos hLess, hDiv, Nat.sub_sub]

theorem pagesFrom_of_not_continues {limit total : Nat} (hPositive : 0 < limit)
    (h : ¬ Continues limit start total) : pagesFrom limit start total = 1 := by
  unfold pagesFrom
  split
  · rename_i hLess
    have hShort : total - start < limit := by
      unfold Continues at h
      omega
    rw [Nat.div_eq_of_lt hShort]
  · rfl

section Unchanged

variable {limit : Nat} {listing : List LocatedDisk}

/-- A walk through a listing that does not change takes a page after the other until none is left. -/
theorem length_eq_pagesFrom_iff (h : Walk (some token) calls results final) (hFair : ∀ call ∈ calls, call.Fair)
    (hPositive : 0 < limit) (hSame : ∀ call ∈ calls, call.seen = listing ∧ call.limit = limit)
    (hToken : offsetOfToken token = .ok start) (hStart : start ≤ listing.length) :
    calls.length ≤ pagesFrom limit start listing.length ∧
      (final = none ↔ calls.length = pagesFrom limit start listing.length) := by
  induction calls generalizing token start results with
  | nil =>
      cases h
      have hSome : 0 < pagesFrom limit start listing.length := by
        unfold pagesFrom
        split
        · exact Nat.succ_pos _
        · exact Nat.one_pos
      simp only [List.length_nil, reduceCtorEq, false_iff]
      omega
  | cons call calls ih =>
      obtain ⟨hCall, hCalls⟩ := List.forall_mem_cons.1 hFair
      obtain ⟨⟨rfl, rfl⟩, hRestSame⟩ := List.forall_mem_cons.1 hSame
      rcases h.cons_cases hCall hToken hStart with ⟨hMore, rest, rfl, hRest⟩ | ⟨hLastPage, rfl, rfl, rfl⟩
      · obtain ⟨hLength, hFinal⟩ := ih hRest hCalls hRestSame (hCall.offsetOfToken_next hMore) hMore.2.2
        rw [pagesFrom_of_continues hMore, hFinal, List.length_cons]
        omega
      · simp [pagesFrom_of_not_continues hPositive hLastPage]

/-- As many pages as are left can be asked for. -/
theorem exists_of_length_le (hFair : ∀ call ∈ calls, call.Fair) (hPositive : 0 < limit)
    (hSame : ∀ call ∈ calls, call.seen = listing ∧ call.limit = limit)
    (hToken : offsetOfToken token = .ok start) (hLength : calls.length ≤ pagesFrom limit start listing.length) :
    ∃ results final, Walk (some token) calls results final := by
  induction calls generalizing token start with
  | nil => exact ⟨[], _, .nil _⟩
  | cons call calls ih =>
      obtain ⟨hCall, hCalls⟩ := List.forall_mem_cons.1 hFair
      obtain ⟨⟨rfl, rfl⟩, hRestSame⟩ := List.forall_mem_cons.1 hSame
      obtain ⟨result, hGives⟩ := call.exists_gives token
      rw [List.length_cons] at hLength
      by_cases hMore : Continues call.limit start call.seen.length
      · obtain rfl := hGives.of_continues hCall hToken hMore
        rw [pagesFrom_of_continues hMore] at hLength
        obtain ⟨results, final, hRest⟩ := ih hCalls hRestSame (hCall.offsetOfToken_next hMore) (by omega)
        refine ⟨_ :: results, final, .cons hGives ?_⟩
        rwa [ListVolumesResponse.next?, if_neg (natText_ne_empty _)]
      · rw [pagesFrom_of_not_continues hPositive hMore] at hLength
        obtain rfl : calls = [] := List.eq_nil_of_length_eq_zero (by omega)
        exact ⟨[result], _, .cons hGives (.nil _)⟩

end Unchanged

end Walk

/-- Walking pages lists everything exactly once. Whatever the limits, calls go on until one gives no token;
each succeeds and keeps to its limit, and together the pages are the listing that the last call saw. A listing
that does not change has `total / limit + 1` pages of a smaller limit, and one page otherwise. -/
theorem pages_list_everything_once {calls : List PageCall} (hFair : ∀ call ∈ calls, call.Fair)
    (hGrowing : calls.IsChain PageCall.GrowsTo) :
    (∀ results final, Walk (some "") calls results final →
      ∃ responses, results = responses.map .ok ∧
        List.Forall₂ (fun call response => 0 < call.limit → response.entries.length ≤ call.limit)
          calls responses ∧
        (final = none → ∀ last, calls.getLast? = some last →
          responses.flatMap (·.entries) = last.seen.map fun d => ⟨d.report⟩)) ∧
    (∀ results token, Walk (some "") calls results (some token) → ∀ call, ∃ result,
      Walk (some "") (calls ++ [call]) (results ++ [result]) (ListVolumesResponse.next? result)) ∧
    ∀ listing limit, 0 < limit → (∀ call ∈ calls, call.seen = listing ∧ call.limit = limit) →
      let pages := if limit < listing.length then listing.length / limit + 1 else 1
      (∀ results final, Walk (some "") calls results final →
        calls.length ≤ pages ∧ (final = none ↔ calls.length = pages)) ∧
      (calls.length ≤ pages → ∃ results final, Walk (some "") calls results final) := by
  have hToken : offsetOfToken "" = .ok 0 := rfl
  refine ⟨?_, ?_, ?_⟩
  · intro results final hWalk
    obtain ⟨responses, hResults, hLimits, hWhole⟩ := hWalk.exists_complete hFair
      (List.isChain_iff_pairwise.1 hGrowing) hToken fun call _ => Nat.zero_le _
    refine ⟨responses, hResults, hLimits, fun hFinal last hLast => ?_⟩
    rw [hWhole hFinal last hLast, List.drop_zero, PageCall.volumes, List.map_map]
    rfl
  · intro results token hWalk call
    obtain ⟨result, hGives⟩ := call.exists_gives token
    exact ⟨result, hWalk.append (.cons hGives (.nil _))⟩
  · intro listing limit hPositive hSame
    refine ⟨fun results final hWalk => ?_, fun hLength => ?_⟩
    · have hCount := hWalk.length_eq_pagesFrom_iff hFair hPositive hSame hToken (Nat.zero_le _)
      rwa [Walk.pagesFrom, Nat.sub_zero] at hCount
    · refine Walk.exists_of_length_le hFair hPositive hSame hToken ?_
      rwa [Walk.pagesFrom, Nat.sub_zero]

/-- A call for two of three volumes. -/
def PageCall.three : PageCall :=
  ⟨2, [⟨"vc:443", ⟨"dc", 0⟩⟩],
    [.ok (["a", "b", "c"].map fun name => ⟨name, name, 1024, .datastore "ds", .file name⟩)]⟩

/-- Two such calls list all three. -/
theorem pages_list_everything_once_three :
    ∃ responses : List ListVolumesResponse, Walk (some "") [.three, .three] (responses.map .ok) none ∧
      PageCall.three.seen.length = 3 ∧
      responses.flatMap (·.entries) = PageCall.three.seen.map fun d => ⟨d.report⟩ := by
  have hFair : ∀ call ∈ [PageCall.three, .three], call.Fair := by
    have hThree : PageCall.three.Fair := by
      refine ⟨by decide, ?_, by decide⟩
      intro d hd
      simp only [PageCall.seen, PageCall.three, List.map_cons, List.map_nil, List.zip_cons_cons, List.zip_nil_left,
        List.flatMap_cons, List.flatMap_nil, List.append_nil, List.mem_cons, List.not_mem_nil, or_false] at hd
      rcases hd with rfl | rfl | rfl <;> exact (by decide : 1024 * Capacity.mebibyte < Capacity.reportable)
    simpa using hThree
  have hGrowing : [PageCall.three, .three].IsChain PageCall.GrowsTo :=
    .cons_cons (List.prefix_refl PageCall.three.seen) (.singleton _)
  have hSame : ∀ call ∈ [PageCall.three, .three], call.seen = PageCall.three.seen ∧ call.limit = 2 := by
    simpa using (by decide : PageCall.three.limit = 2)
  obtain ⟨hComplete, -, hUnchanged⟩ := pages_list_everything_once hFair hGrowing
  obtain ⟨hCount, hExists⟩ := hUnchanged PageCall.three.seen 2 (by decide) hSame
  obtain ⟨results, final, hWalk⟩ := hExists (by decide)
  obtain rfl : final = none := (hCount results final hWalk).2.2 (by decide)
  obtain ⟨responses, rfl, -, hWhole⟩ := hComplete results none hWalk
  exact ⟨responses, hWalk, by decide, hWhole rfl _ rfl⟩

end VolumeController
