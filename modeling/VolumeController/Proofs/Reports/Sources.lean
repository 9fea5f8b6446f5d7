import VolumeController.Proofs.Listings.Endings
/-! Where the disks come from that requests report. A create was told of its site by a zone, a listing and a publish by
a listing of sites; each was shown its disk there. Main result: whatever a request reports, it reports a disk that it
was shown at a site that it was told of. -/

namespace VolumeController

variable {α β : Type}

namespace Exchange

/-- Whether an answer tells of a site. -/
inductive Names : Exchange → Site → Prop where
  | zone (query : ZoneQuery) (site : Site) : Names ⟨.call (.resolveZone query), .ok (.ok site)⟩ site
  | listed {sites : List Site} {site : Site} (h : site ∈ sites) : Names (.sites (.ok sites)) site

/-- Whether an answer shows a disk at a datacenter. -/
inductive Shows : Exchange → Datacenter → Disk → Prop where
  | named (dc : Datacenter) (pool : Pool) (name : String) (disk : Disk) : Shows (.named dc pool name (some disk)) dc disk
  | found (dc : Datacenter) (id : String) (disk : Disk) : Shows (.found dc id disk) dc disk
  | listed {sites : List Site} {replies : List (Except BackendError (List Disk))} {site : Site} {disks : List Disk}
      {disk : Disk} (hReply : (site, .ok disks) ∈ sites.zip replies) (hDisk : disk ∈ disks) :
      Shows (.listings sites replies) site.datacenter disk

end Exchange

/-- Whether a site was told of. -/
abbrev Named (told : List Exchange) (site : Site) : Prop :=
  ∃ x ∈ told, x.Names site

/-- Whether a volume is the report of a disk that was shown at a site that was told of. -/
def Volume.ReportedFrom (told : List Exchange) (volume : Volume) : Prop :=
  ∃ site disk, Named told site ∧ (∃ x ∈ told, x.Shows site.datacenter disk) ∧
    Volume.ofDisk disk site.endpoint site.datacenter.name = .ok volume

/-- Whether a site was told of, and showed a disk under an id. -/
def FoundAt (id : String) (told : List Exchange) (found : Site × Disk) : Prop :=
  Named told found.1 ∧ .found found.1.datacenter id found.2 ∈ told

/-- Whether a context is that of a disk that was shown under an id, with the handle of an attachment. -/
def PublishedFrom (id : String) (told : List Exchange) (context : Dict String) : Prop :=
  ∃ site disk handle, FoundAt id told (site, disk) ∧
    context = (disk.attributes site.endpoint site.datacenter.name).insert Attribute.page83Data handle

/-- What a success of a request reports, by what the request was told. -/
def Reporting (told : List Exchange) : Answered → Prop
  | ⟨.create _, .ok response⟩ => response.volume.ReportedFrom told
  | ⟨.list _, .ok response⟩ => ∀ entry ∈ response.entries, entry.volume.ReportedFrom told
  | ⟨.publish request, .ok response⟩ => PublishedFrom request.volumeId told response.publishContext
  | _ => True

/-- A dialogue that holds nothing back may be told anything. -/
theorem Procedure.Converses.free {D : Dialogue} {goal : List Exchange → α → Prop} {p : Procedure α}
    {told : List Exchange} (h : p.Converses D goal told) (hTold : ∀ x, D.told x) : p.Converses .free goal told := by
  induction p generalizing told with
  | done a => exact h
  | act action next ih => exact fun answer => ih answer (h answer)
  | await wait next ih => exact ⟨trivial, fun answer _ => ih answer (h.2 answer (hTold _))⟩

/-- What holds of a result if it is a success. -/
def OnSuccess (good : List Exchange → α → Prop) (told : List Exchange) (result : Except Error α) : Prop :=
  ∀ a, result = .ok a → good told a

namespace OnSuccess

open Procedure.Converses

variable {told : List Exchange} {good : List Exchange → α → Prop} {good' : List Exchange → β → Prop}

theorem ok {a : α} (h : good told a) : OnSuccess good told (.ok a) := by
  rintro _ ⟨⟩
  exact h

theorem done {a : α} (h : good told a) : (pure a : Operation α).run.Converses .free (OnSuccess good) told :=
  ok h

theorem rejected (cause : Cause) : (Operation.reject cause : Operation α).run.Converses .free (OnSuccess good) told :=
  reject nofun

theorem weaken {good' : List Exchange → α → Prop} {op : Operation α}
    (h : op.run.Converses .free (OnSuccess good) told) (hGood : ∀ told a, good told a → good' told a) :
    op.run.Converses .free (OnSuccess good') told :=
  h.mono fun told' _ hSuccess a hResult => hGood told' a (hSuccess a hResult)

theorem bindThen {op : Operation α} {f : α → Operation β} (h : op.run.Converses .free (OnSuccess good) told)
    (hf : ∀ told', told ⊆ told' → ∀ a, good told' a → (f a).run.Converses .free (OnSuccess good') told') :
    (op >>= f).run.Converses .free (OnSuccess good') told := by
  refine bindOperation (h.extending.mono ?_)
  rintro told' (e | a) ⟨hMore, hGood⟩
  · exact nofun
  · exact hf told' hMore a (hGood a rfl)

theorem callThen {operation : String} {c : Call} {f : c.Reply → Operation α}
    (h : ∀ reply, (f reply).run.Converses .free (OnSuccess good) (told ++ [⟨.call c, .ok reply⟩])) :
    (Operation.call operation c >>= f).run.Converses .free (OnSuccess good) told :=
  Procedure.Converses.callThen trivial nofun fun reply _ => h reply

/-- A failure is told apart from a success, and may be answered by something else. -/
theorem attemptThen {op : Operation α} {f : Except Error α → Operation β}
    (h : op.run.Converses .free (OnSuccess good) told)
    (hFailure : ∀ told' e, (f (.error e)).run.Converses .free (OnSuccess good') told')
    (hf : ∀ told' a, good told' a → (f (.ok a)).run.Converses .free (OnSuccess good') told') :
    (Operation.attempt op >>= f).run.Converses .free (OnSuccess good') told := by
  refine bindOperation (attempt (h.mono ?_))
  rintro told' (e | a) hGood
  · exact hFailure told' e
  · exact hf told' a (hGood a rfl)

/-! Sites. -/

theorem lookup (labels : LabelsConfig) (zone region : String) :
    (Placement.lookup labels zone region).run.Converses .free (OnSuccess Named) told := by
  refine callThen ?_
  rintro (failure | site)
  · exact nofun
  · exact ok ⟨_, List.mem_append_right _ List.mem_cons_self, .zone _ site⟩

theorem exhausted (zone : String) (cause : Error) :
    (Placement.exhausted zone cause : Operation α).run.Converses .free (OnSuccess good) told := by
  unfold Placement.exhausted
  split
  · exact afterNote nofun
  · exact rejected _

theorem searchSegments (labels : LabelsConfig) (last : String × Error) (segments : List Topology) :
    (Placement.searchSegments labels last segments).run.Converses .free (OnSuccess Named) told := by
  induction segments generalizing last told with
  | nil => exact exhausted _ _
  | cons segment segments ih =>
      refine attemptThen (lookup labels _ _) (fun told' e => ?_) fun told' site hNamed => afterNote (ok hNamed)
      simp only
      split
      · exact exhausted _ _
      · exact ih _

theorem resolvePlacement (labels : LabelsConfig) (placement : Placement) :
    (placement.resolve labels).run.Converses .free (OnSuccess Named) told := by
  cases placement with
  | topology requirement => exact afterNote (searchSegments _ _ _)
  | legacy zone region =>
      exact afterNote (attemptThen (lookup labels _ _) (fun told' e => exhausted _ _) fun told' site hNamed => ok hNamed)

/-! Requests. -/

theorem createVolume (c : Controller) (request : CreateVolumeRequest) :
    (c.createVolume request).run.Converses .free (OnSuccess fun told response => response.volume.ReportedFrom told)
      [] := by
  refine instrumented (bindCause (fun cause _ => nofun) fun order _ => afterNote ?_)
  refine bindThen (resolvePlacement _ _) fun told _ site hNamed => ?_
  have hCreated : (c.store.createOrGet site.datacenter order.pool request.name order.sizeMb).run.Converses .free
      (OnSuccess fun told outcome => .named site.datacenter order.pool request.name (some outcome.disk) ∈ told) told :=
    (VolumeStore.createOrGet_converses _ _ _ _ _).free fun _ => trivial
  refine bindThen hCreated fun told' hMore outcome hShown => ?_
  have hVolume : (do
      let volume ← Operation.ofCause (Volume.ofDisk outcome.disk site.endpoint site.datacenter.name)
      return ⟨volume⟩ : Operation CreateVolumeResponse).run.Converses .free
        (OnSuccess fun told response => response.volume.ReportedFrom told) told' := by
    refine bindCause (fun cause _ => nofun) fun volume hVolume => ok ⟨site, outcome.disk, ?_, ?_, hVolume⟩
    · exact hNamed.imp fun x hx => ⟨hMore hx.1, hx.2⟩
    · exact ⟨_, hShown, .named _ _ _ _⟩
  cases outcome with
  | existing disk => exact afterNote hVolume
  | created disk => exact hVolume

theorem listVolumes (request : ListVolumesRequest) :
    (Controller.listVolumes request).run.Converses .free (OnSuccess fun told response =>
      ∀ entry ∈ response.entries, entry.volume.ReportedFrom told) [] := by
  refine (Controller.listVolumes_converses request).mono ?_
  rintro told _ hEnds response rfl entry hEntry
  obtain ⟨sites, replies, rfl, hPage⟩ := hEnds.exists_of_ok
  obtain ⟨d, hSeen, hVolume⟩ := Listing.exists_of_pageOf hPage hEntry
  obtain ⟨site, disks, disk, hReply, hDisk, rfl⟩ := Listing.exists_of_mem_seen hSeen
  refine ⟨site, disk, ⟨_, List.mem_cons_self, .listed (List.of_mem_zip hReply).1⟩, ?_, hVolume⟩
  exact ⟨_, List.mem_cons_of_mem _ List.mem_cons_self, .listed hReply hDisk⟩

theorem searchSites (id : String) (last : Option BackendError) (sites : List Site) :
    (VolumeStore.searchSites id last sites).run.Converses .free (OnSuccess fun told (site, disk) =>
      site ∈ sites ∧ .found site.datacenter id disk ∈ told) told := by
  induction sites generalizing last told with
  | nil => cases last <;> exact nofun
  | cons site sites ih =>
      rw [VolumeStore.searchSites]
      refine callThen ?_
      rintro (failure | _ | disk)
      · exact afterNote (weaken (ih _) fun _ _ => .imp_left (List.mem_cons_of_mem site))
      · exact weaken (ih last) fun _ _ => .imp_left (List.mem_cons_of_mem site)
      · exact ok ⟨List.mem_cons_self, List.mem_append_right _ List.mem_cons_self⟩

theorem resolveVolume (operation id : String) :
    (Controller.resolveVolume operation id).run.Converses .free (OnSuccess (FoundAt id)) told := by
  have hResolve : (VolumeStore.resolve id).run.Converses .free (OnSuccess (FoundAt id)) told := by
    refine callThen ?_
    rintro (failure | sites)
    · exact nofun
    · refine (searchSites id none sites).extending.mono fun told' result h found hResult => ?_
      obtain ⟨hSite, hFound⟩ := h.2 found hResult
      exact ⟨⟨_, h.1 (List.mem_append_right _ List.mem_cons_self), .listed hSite⟩, hFound⟩
  refine attemptThen hResolve (fun told' e => ?_) fun told' found hFound => ok hFound
  show (Controller.lookupFailed operation id e).run.Converses .free _ told'
  unfold Controller.lookupFailed
  split
  · exact afterNote nofun
  · exact rejected _

theorem publishVolume (request : PublishVolumeRequest) :
    (Controller.publishVolume request).run.Converses .free (OnSuccess fun told response =>
      PublishedFrom request.volumeId told response.publishContext) [] := by
  have hIds : (Controller.requireIds request.volumeId request.nodeId).run.Converses .free
      (OnSuccess fun _ _ => True) [] := by
    unfold Controller.requireIds
    split
    · exact rejected _
    · split
      · exact rejected _
      · exact done trivial
  refine instrumented (bindThen hIds fun _ _ _ _ => bindThen (resolveVolume _ _) ?_)
  rintro told - ⟨site, disk⟩ hFound
  have hAny {α : Type} (op : Operation α) (told : List Exchange) :
      op.run.Converses .free (OnSuccess fun _ _ => True) told :=
    (Procedure.converses_freely (fun _ _ => trivial) _ _).mono fun _ _ _ _ _ => trivial
  refine bindThen (hAny _ _) fun told₁ hMore₁ node _ => bindThen (hAny _ _) fun told₂ hMore₂ handle _ => ?_
  obtain ⟨⟨x, hx, hNames⟩, hShown⟩ := hFound
  exact done ⟨site, disk, handle, ⟨⟨x, hMore₂ (hMore₁ hx), hNames⟩, hMore₂ (hMore₁ hShown)⟩, rfl⟩

theorem answer (c : Controller) (request : VolumeRequest) : (c.answer request).Converses .free Reporting [] := by
  have hAny {α : Type} (op : Operation α) (told : List Exchange) : op.run.Converses .free (fun _ _ => True) told :=
    Procedure.converses_freely (fun _ _ => trivial) _ _
  cases request with
  | create request =>
      refine .bind ((createVolume c request).mono ?_)
      rintro told (e | response) hReported
      · trivial
      · exact hReported response rfl
  | list request =>
      refine .bind ((listVolumes request).mono ?_)
      rintro told (e | response) hReported
      · trivial
      · exact hReported response rfl
  | publish request =>
      refine .bind ((publishVolume request).mono ?_)
      rintro told (e | response) hPublished
      · trivial
      · exact hPublished response rfl
  | delete request => exact .bind ((hAny _ _).mono fun _ _ _ => trivial)
  | unpublish request => exact .bind ((hAny _ _).mono fun _ _ _ => trivial)

end OnSuccess

end VolumeController
