import VolumeController.Proofs.Json.Text
import VolumeController.Proofs.Reports
/-! The servers that volumes are reported at. An endpoint is the key of a server with the port put behind it, and a
context tells the host of the endpoint. Main result: whatever disks there are, the host that is told is the host of the
key, unless the key is an address of colons without brackets; that is told with its port. -/

namespace VolumeController

/-- A host as the key of a server tells it, without a port. -/
inductive Host where
  /-- A name, or an address of dots. -/
  | name (text : String) (hPlain : ∀ c ∈ text.toList, c ≠ ':' ∧ c ≠ '[' ∧ c ≠ ']')
  /-- An address of colons, in brackets or without. -/
  | literal (text : String) (bracketed : Bool) (hColons : 2 ≤ text.toList.count ':')
      (hPlain : ∀ c ∈ text.toList, c ≠ '[' ∧ c ≠ ']')

namespace Host

/-- The host as it is written in a key. -/
def key : Host → String
  | .name text _ => text
  | .literal text true _ _ => "[" ++ text ++ "]"
  | .literal text false _ _ => text

/-- The host without brackets. -/
def address : Host → String
  | .name text _ => text
  | .literal text _ _ _ => text

/-- Whether the colons of the host stand without brackets. -/
def IsBare : Host → Prop
  | .literal _ false _ _ => True
  | _ => False

end Host

namespace Endpoint

variable {host address port rest : List Char}

/-- Without a bracket at its beginning an endpoint is cut at its first colon, or not at all. -/
theorem hostChars_of_ne_bracket (h : ∀ c ∈ host.head?, c ≠ '[') :
    hostChars host = match host.dropWhile (· != ':') with
      | ':' :: port => if port.all Char.isDigit then host.takeWhile (· != ':') else host
      | _ => host := by
  unfold hostChars
  split
  · exact absurd rfl (h '[' rfl)
  · rfl

theorem hostChars_port (hPlain : ∀ c ∈ host, c ≠ ':' ∧ c ≠ '[') (hPort : ∀ c ∈ port, c.isDigit = true) :
    hostChars (host ++ ':' :: port) = host := by
  have hBefore : ∀ c ∈ host, (c != ':') = true := fun c hc => bne_iff_ne.2 (hPlain c hc).1
  rw [hostChars_of_ne_bracket, List.dropWhile_append_of_pos hBefore, List.takeWhile_append_of_pos hBefore]
  · simp [List.all_eq_true.2 hPort]
  · cases host with
    | nil =>
        rintro _ ⟨⟩
        decide
    | cons c rest =>
        rintro _ ⟨⟩
        exact (hPlain c List.mem_cons_self).2

theorem hostChars_bracketed (hPlain : ∀ c ∈ address, c ≠ ']') :
    hostChars ('[' :: (address ++ ']' :: rest)) = address := by
  have hInside : ∀ c ∈ address, (c != ']') = true := fun c hc => bne_iff_ne.2 (hPlain c hc)
  have hClosed : (address ++ ']' :: rest).contains ']' = true := by simp
  rw [hostChars, if_pos hClosed, List.takeWhile_append_of_pos hInside]
  simp

/-- Behind a colon of the host itself a port is no port any more. -/
theorem hostChars_bare (hBracket : ∀ c ∈ address, c ≠ '[') (hColon : ':' ∈ address) :
    hostChars (address ++ ':' :: port) = address ++ ':' :: port := by
  obtain ⟨before, after, rfl, hFirst⟩ := List.eq_append_cons_of_mem hColon
  have hBefore : ∀ c ∈ before, (c != ':') = true := fun c hc => bne_iff_ne.2 fun hSame => hFirst (hSame ▸ hc)
  rw [hostChars_of_ne_bracket, List.append_assoc, List.dropWhile_append_of_pos hBefore]
  · have hRest : (after ++ ':' :: port).all Char.isDigit = false := by
      rw [List.all_eq_false]
      exact ⟨':', List.mem_append_right _ List.mem_cons_self, by decide⟩
    simp [hRest]
  · intro c hc
    refine hBracket c (List.mem_of_head? ?_)
    rw [← hc, List.head?_append_of_ne_nil _ (List.append_ne_nil_of_right_ne_nil _ (List.cons_ne_nil _ _))]

theorem toList_ofServer (server : String) (port : UInt16) :
    (ofServer server port).toList = server.toList ++ ':' :: Text.decimal port.toNat := by
  simp [ofServer, Text.natText]

/-- The host of an endpoint is the host of the key it was made of, unless that is bare. -/
theorem host_ofServer (host : Host) (port : UInt16) :
    Endpoint.host (ofServer host.key port) = host.address ∧ ¬ host.IsBare ∨
      Endpoint.host (ofServer host.key port) = ofServer host.key port ∧ host.IsBare := by
  have hDigits := Text.isDigit_of_mem_decimal port.toNat
  rw [Endpoint.host, toList_ofServer]
  rcases host with ⟨text, hPlain⟩ | ⟨text, _ | _, hColons, hPlain⟩
  · refine .inl ⟨?_, id⟩
    rw [Host.key, hostChars_port (fun c hc => ⟨(hPlain c hc).1, (hPlain c hc).2.1⟩) hDigits, String.ofList_toList]
    rfl
  · refine .inr ⟨?_, trivial⟩
    have hColon : ':' ∈ text.toList := List.count_pos_iff.1 (Nat.lt_of_lt_of_le Nat.zero_lt_two hColons)
    rw [Host.key, hostChars_bare (fun c hc => (hPlain c hc).1) hColon, ← toList_ofServer, String.ofList_toList]
  · refine .inl ⟨?_, id⟩
    have hKey : (Host.literal text true hColons hPlain).key.toList ++ ':' :: Text.decimal port.toNat =
        '[' :: (text.toList ++ ']' :: ':' :: Text.decimal port.toNat) := by
      simp [Host.key]
    rw [hKey, hostChars_bracketed fun c hc => (hPlain c hc).2, String.ofList_toList]
    rfl

/-- A bare host is not told as it is, since its port is told with it. -/
theorem host_ofServer_eq_iff (host : Host) (port : UInt16) :
    Endpoint.host (ofServer host.key port) = host.address ↔ ¬ host.IsBare := by
  rcases host_ofServer host port with ⟨hTold, hBrackets⟩ | ⟨hTold, hBare⟩
  · exact iff_of_true hTold hBrackets
  · refine iff_of_false (fun hSame => ?_) (not_not_intro hBare)
    have hAddress : host.address = host.key := by
      rcases host with _ | ⟨_, _ | _, _, _⟩
      · rfl
      · rfl
      · exact hBare.elim
    have hLength := congrArg (·.toList.length) (hTold.symm.trans (hSame.trans hAddress))
    simp [toList_ofServer] at hLength

end Endpoint

/-! Reports. -/

/-- The contexts that the volumes of an answer are reported with. -/
def VolumeRequest.contexts : Answered → List (Dict String)
  | ⟨.create _, .ok response⟩ => [response.volume.volumeContext]
  | ⟨.list _, .ok response⟩ => response.entries.map (·.volume.volumeContext)
  | ⟨.publish _, .ok response⟩ => [response.publishContext]
  | _ => []

/-- The contexts that a disk has at a site: its attributes, and with them the handle of an attachment. -/
inductive Disk.HasContext (disk : Disk) (site : Site) : Dict String → Prop where
  | reported : HasContext disk site (disk.attributes site.endpoint site.datacenter.name)
  | published (handle : String) : HasContext disk site
      ((disk.attributes site.endpoint site.datacenter.name).insert Attribute.page83Data handle)

theorem Disk.get?_attributes_vcenter (disk : Disk) (endpoint datacenter : String) :
    (disk.attributes endpoint datacenter).get? Attribute.vcenter = some (Endpoint.host endpoint) := by
  rw [Disk.get?_attributes]
  rfl

theorem Disk.HasContext.get?_vcenter {disk : Disk} {site : Site} {context : Dict String}
    (h : disk.HasContext site context) : context.get? Attribute.vcenter = some (Endpoint.host site.endpoint) := by
  cases h with
  | reported => exact disk.get?_attributes_vcenter _ _
  | published handle =>
      have hOther : Attribute.vcenter ≠ Attribute.page83Data := by decide
      rw [Dict.get?_insert, if_neg hOther]
      exact disk.get?_attributes_vcenter _ _

theorem Volume.ReportedFrom.exists_hasContext {told : List Exchange} {volume : Volume} (h : volume.ReportedFrom told) :
    ∃ site disk, Named told site ∧ (∃ x ∈ told, x.Shows site.datacenter disk) ∧
      disk.HasContext site volume.volumeContext := by
  obtain ⟨site, disk, hNamed, hShown, hVolume⟩ := h
  refine ⟨site, disk, hNamed, hShown, ?_⟩
  rw [Volume.eq_of_ofDisk hVolume]
  exact .reported

/-- Every context in an answer is that of a disk that was shown at a site that was told of. -/
theorem Reporting.exists_hasContext {told : List Exchange} {answered : Answered} (h : Reporting told answered)
    {context : Dict String} (hContext : context ∈ VolumeRequest.contexts answered) :
    ∃ site disk, Named told site ∧ (∃ x ∈ told, x.Shows site.datacenter disk) ∧ disk.HasContext site context := by
  obtain ⟨request, e | response⟩ := answered
  · cases request <;> exact (List.not_mem_nil hContext).elim
  · cases request with
    | create request =>
        obtain rfl := List.mem_singleton.1 hContext
        exact Volume.ReportedFrom.exists_hasContext h
    | list request =>
        obtain ⟨entry, hEntry, rfl⟩ := List.mem_map.1 hContext
        exact Volume.ReportedFrom.exists_hasContext (h entry hEntry)
    | publish request =>
        obtain rfl := List.mem_singleton.1 hContext
        obtain ⟨site, disk, handle, ⟨hNamed, hFound⟩, hSame⟩ := h
        refine ⟨site, disk, hNamed, ⟨_, hFound, .found _ _ _⟩, ?_⟩
        rw [hSame]
        exact .published handle
    | delete request => exact (List.not_mem_nil hContext).elim
    | unpublish request => exact (List.not_mem_nil hContext).elim

namespace Inventory

/-- A configured site is a datacenter of a server, and is reached at the endpoint of the server. -/
theorem exists_server {config : Config} {site : Site} (h : site ∈ (ofConfig config).sites) :
    ∃ server center dc, (server, center) ∈ config.virtualCenters.toList ∧ dc ∈ center.datacenters ∧
      site.datacenter.name = dc.name ∧ site.endpoint = Endpoint.ofServer server center.port := by
  obtain ⟨i, hi⟩ := List.mem_iff_getElem?.1 h
  obtain ⟨-, s, hState, rfl⟩ := place_of_sites hi
  obtain ⟨⟨server, center⟩, hCenter, hDatacenter⟩ := List.mem_flatMap.1 (List.mem_of_getElem? hState)
  obtain ⟨dc, hConfigured, rfl⟩ := List.mem_map.1 hDatacenter
  exact ⟨server, center, dc, hCenter, hConfigured, rfl, rfl⟩

end Inventory

section

variable {env : Surroundings Inventory} {controller : Controller} {config : Config} {w : World Inventory}
  {requests : List (Context × VolumeRequest)} {c : Chronicle Inventory Answered}
  {earlier : List (Chronicle Inventory Answered)} {number : Nat}

/-- Servers are told without their ports. Any requests at once over the inventory of a configuration, whatever fails, is
delayed, ends in time or not, and whatever disks are put there. Every context in an answer is that of a disk that was at a
datacenter of a server. If the key of the server is a host, then the context tells just that host, without brackets and
without the port, unless it is an address of colons that the key has no brackets around. Whatever the port, just these
hosts are taken out of their endpoints again. -/
theorem servers_without_ports_iff (hPlatform : w.platform = .ofConfig config)
    (hCourse : Course env (.start w (controller.answers requests)) (c :: earlier)) {answered : Answered}
    (hResult : c.result? number = some answered) :
    (∀ (host : Host) (port : UInt16),
      Endpoint.host (Endpoint.ofServer host.key port) = host.address ↔ ¬ host.IsBare) ∧
    ∀ context ∈ VolumeRequest.contexts answered, ∃ server center dc site disk,
      (server, center) ∈ config.virtualCenters.toList ∧ dc ∈ center.datacenters ∧ site.datacenter.name = dc.name ∧
      SeenAt (.ofConfig config) (c :: earlier) site disk ∧ disk.HasContext site context ∧
      ∀ host : Host, host.key = server →
        (context.get? Attribute.vcenter = some host.address ↔ ¬ host.IsBare) := by
  refine ⟨Endpoint.host_ofServer_eq_iff, fun context hContext => ?_⟩
  obtain ⟨-, -, -, hReporting⟩ := (hCourse.runs List.mem_cons_self).wanted_of_result (OnSuccess.answer controller)
    (fun _ _ => trivial) hResult
  obtain ⟨site, disk, hNamed, hShown, hHas⟩ := Reporting.exists_hasContext hReporting hContext
  have hSeen := hCourse.seenAt_of_shown hPlatform hNamed hShown
  obtain ⟨server, center, dc, hCenter, hDatacenter, hName, hEndpoint⟩ := Inventory.exists_server hSeen.1
  refine ⟨server, center, dc, site, disk, hCenter, hDatacenter, hName, hSeen, hHas, ?_⟩
  rintro host rfl
  rw [hHas.get?_vcenter, hEndpoint, Option.some.injEq]
  exact Endpoint.host_ofServer_eq_iff host center.port

end

/-- A configuration to show servers on: one datacenter of a server of some key. -/
def Config.reachedAt (server : String) : Config :=
  { virtualCenters := .ofList [(server,
    { datacenters := [{ name := "dc", datastores := ["ds"], nodes := ["node"] }] })] }

/-- A volume is created, listed and published. -/
def VolumeRequest.reporting : List (Context × VolumeRequest) :=
  [.create (.single 1), .list ⟨0, ""⟩, .publish ⟨Inventory.idText 1, "node", none, false, .empty⟩].map
    (Context.background, ·)

set_option maxRecDepth 10000 in
/-- A server that is written in brackets is told without them by the volume, by its entry in the listing and by the
publish of it. -/
theorem servers_without_ports_bracketed :
    ∃ (c : Chronicle Inventory Answered) (earlier : List (Chronicle Inventory Answered)),
      Course Inventory.rough (.start { platform := .ofConfig (.reachedAt "[fd00::1]") }
        (Controller.answers ⟨{}, ⟨false, 0⟩⟩ VolumeRequest.reporting)) (c :: earlier) ∧
      ∀ number < 3, ∃ answered context, c.result? number = some answered ∧
        VolumeRequest.contexts answered = [context] ∧ context.get? Attribute.vcenter = some "fd00::1" := by
  let jobs := Controller.answers ⟨{}, ⟨false, 0⟩⟩ VolumeRequest.reporting
  let ended := [0, 1, 2].foldl System.advance
    (System.start { platform := Inventory.ofConfig (.reachedAt "[fd00::1]") } jobs)
  obtain ⟨turns, hRuns⟩ : ∃ turns, Chronicle.Runs Inventory.rough (fun _ _ => True)
      (.start { platform := .ofConfig (.reachedAt "[fd00::1]") } jobs) ⟨ended, turns⟩ :=
    Chronicle.exists_advances (fun _ _ _ _ _ => trivial) [0, 1, 2] _ []
  have hCounts : ∀ number < 3, (ended.result? number).map (fun answered =>
      (VolumeRequest.contexts answered).length) = some 1 := by
    decide +kernel
  clear_value ended
  obtain ⟨earlier, hCourse⟩ := hRuns.exists_course
  refine ⟨⟨ended, turns⟩, earlier, hCourse, fun number hNumber => ?_⟩
  obtain ⟨answered, hResult, hCount⟩ := Option.map_eq_some_iff.1 (hCounts number hNumber)
  obtain ⟨context, hContexts⟩ := List.length_eq_one_iff.1 hCount
  obtain ⟨-, hTold⟩ := servers_without_ports_iff rfl hCourse hResult
  obtain ⟨server, center, -, -, -, hCenter, -, -, -, -, hHost⟩ := hTold context (hContexts ▸ List.mem_cons_self)
  obtain ⟨rfl, -⟩ := Prod.mk.inj (List.mem_singleton.1 hCenter)
  have hColons : 2 ≤ "fd00::1".toList.count ':' := by decide +kernel
  have hPlain : ∀ c ∈ "fd00::1".toList, c ≠ '[' ∧ c ≠ ']' := by simp
  exact ⟨answered, context, hResult, hContexts, (hHost (.literal "fd00::1" true hColons hPlain) rfl).2 id⟩

set_option maxRecDepth 10000 in
/-- The same server without brackets is told with its port. -/
theorem servers_without_ports_fails_for_bare :
    ∃ (c : Chronicle Inventory Answered) (answered : Answered) (context : Dict String),
      Chronicle.Runs Inventory.rough (fun _ _ => True) (.start { platform := .ofConfig (.reachedAt "fd00::1") }
        (Controller.answers ⟨{}, ⟨false, 0⟩⟩ VolumeRequest.reporting)) c ∧
      c.result? 0 = some answered ∧ VolumeRequest.contexts answered = [context] ∧
      context.get? Attribute.vcenter = some "fd00::1:443" := by
  let jobs := Controller.answers ⟨{}, ⟨false, 0⟩⟩ VolumeRequest.reporting
  let ended := (System.start { platform := Inventory.ofConfig (.reachedAt "fd00::1") } jobs).advance 0
  obtain ⟨turns, hRuns⟩ : ∃ turns, Chronicle.Runs Inventory.rough (fun _ _ => True)
      (.start { platform := .ofConfig (.reachedAt "fd00::1") } jobs) ⟨ended, turns⟩ :=
    Chronicle.exists_advances (fun _ _ _ _ _ => trivial) [0] _ []
  have hTold : (ended.result? 0).map (fun answered => (VolumeRequest.contexts answered).map
      (·.get? Attribute.vcenter)) = some [some "fd00::1:443"] := by
    decide +kernel
  clear_value ended
  obtain ⟨answered, hResult, hAnswer⟩ := Option.map_eq_some_iff.1 hTold
  obtain ⟨context, hContexts, hServer⟩ := List.map_eq_singleton_iff.1 hAnswer
  exact ⟨⟨ended, turns⟩, answered, context, hRuns, hResult, hContexts, hServer⟩

end VolumeController
