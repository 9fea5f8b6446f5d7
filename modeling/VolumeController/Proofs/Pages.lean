import VolumeController.Listing
/-! One page of a listing, as it is specified: it has what follows its starting offset, up to the limit, and the next
token is the offset at which it ends. Main result: the bounds of a page select just this. Nothing but a disk of a size
beyond the reportable bytes can keep a page from being reported. -/

namespace VolumeController

namespace LocatedDisk

/-- Whether the size of a disk can be reported. -/
def Reportable (d : LocatedDisk) : Prop :=
  d.disk.capacityMb.toNat * Capacity.mebibyte < Capacity.reportable

/-- The report of a located disk whose size can be reported. -/
def report (d : LocatedDisk) : Volume :=
  ⟨d.disk.id, .ofNat (d.disk.capacityMb.toNat * Capacity.mebibyte),
    d.disk.attributes d.endpoint d.datacenter⟩

theorem volume_eq_report {d : LocatedDisk} (h : d.Reportable) : d.volume = .ok d.report :=
  Volume.ofDisk_of_bytes? (Capacity.bytes?_of_lt h) _ _

/-- A disk that cannot be reported is named with its size. -/
theorem volume_of_not_reportable {d : LocatedDisk} (h : ¬ d.Reportable) :
    d.volume = .error (.capacityUnreportable d.disk.id d.disk.capacityMb.toNat) := by
  rw [Reportable, Nat.mul_comm] at h
  rw [volume, Volume.ofDisk, Capacity.bytes?, if_neg h]

theorem cause_of_volume {d : LocatedDisk} {cause : Cause} (h : d.volume = .error cause) :
    cause = .capacityUnreportable d.disk.id d.disk.capacityMb.toNat := by
  by_cases hReportable : d.Reportable
  · rw [volume_eq_report hReportable] at h
    cases h
  · rw [volume_of_not_reportable hReportable] at h
    exact (Except.error.inj h).symm

end LocatedDisk

namespace Listing

/-- The offset at which a page ends: that of the limit, or the end of the listing where no limit is set or reached. -/
def pageEnd (limit start total : Nat) : Nat :=
  if limit = 0 then total else min (start + limit) total

/-- The items of a page. -/
def slice {α : Type} (limit start : Nat) (items : List α) : List α :=
  (items.take (pageEnd limit start items.length)).drop start

/-- Whether a page is continued: a limit is set that is less than the whole listing, and at least as many items are
left. A page that ends just at the end of the listing is continued, too. -/
def Continues (limit start total : Nat) : Prop :=
  0 < limit ∧ limit < total ∧ start + limit ≤ total

instance (limit start total : Nat) : Decidable (Continues limit start total) :=
  inferInstanceAs (Decidable (_ ∧ _ ∧ _))

/-- The token that a page is continued with; empty if it is not continued. -/
def tokenAfter (limit start total : Nat) : String :=
  if Continues limit start total then Text.natText (pageEnd limit start total) else ""

/-- One page of volumes that can all be reported. -/
def cut (request : ListVolumesRequest) (volumes : List Volume) : Except Cause ListVolumesResponse := do
  let limit ← limit request.maxEntries
  let start ← offsetOfToken request.startingToken
  if volumes.length < start then .error (.startBeyondEnd start volumes.length)
  else return ⟨(slice limit start volumes).map .mk, tokenAfter limit start volumes.length⟩

section

variable {α : Type} {limit start total : Nat} {items : List α}

theorem pageEnd_of_continues (h : Continues limit start total) : pageEnd limit start total = start + limit := by
  obtain ⟨hPositive, -, hFits⟩ := h
  rw [pageEnd, if_neg (Nat.pos_iff_ne_zero.1 hPositive), Nat.min_eq_left hFits]

/-- A page that is not continued runs to the end. -/
theorem pageEnd_of_not_continues (h : ¬ Continues limit start total) : pageEnd limit start total = total := by
  unfold Continues at h
  unfold pageEnd
  split <;> omega

theorem slice_of_continues (h : Continues limit start items.length) :
    slice limit start items = (items.drop start).take limit := by
  rw [slice, pageEnd_of_continues h, List.drop_take, Nat.add_sub_cancel_left]

theorem slice_of_not_continues (h : ¬ Continues limit start items.length) :
    slice limit start items = items.drop start := by
  rw [slice, pageEnd_of_not_continues h, List.take_length]

theorem tokenAfter_of_continues (h : Continues limit start total) :
    tokenAfter limit start total = Text.natText (start + limit) := by
  rw [tokenAfter, if_pos h, pageEnd_of_continues h]

theorem tokenAfter_of_not_continues (h : ¬ Continues limit start total) : tokenAfter limit start total = "" :=
  if_neg h

end

theorem entries_eq_ok {disks : List LocatedDisk} (h : ∀ d ∈ disks, d.Reportable) :
    entries disks = .ok (disks.map fun d => ⟨d.report⟩) := by
  induction disks with
  | nil => rfl
  | cons d rest ih =>
      have hRest := ih fun d' hd' => h d' (List.mem_cons_of_mem _ hd')
      simp only [entries, LocatedDisk.volume_eq_report (h d List.mem_cons_self), hRest]
      rfl

/-- One disk that cannot be reported fails the page. -/
theorem exists_entries_eq_error {disks : List LocatedDisk} {d : LocatedDisk} (hd : d ∈ disks) (h : ¬ d.Reportable) :
    ∃ cause, entries disks = .error cause := by
  induction disks with
  | nil => exact (List.not_mem_nil hd).elim
  | cons d' disks ih =>
      rw [entries]
      rcases List.mem_cons.1 hd with rfl | hRest
      · rw [LocatedDisk.volume_of_not_reportable h]
        exact ⟨_, rfl⟩
      · obtain ⟨cause, hCause⟩ := ih hRest
        rw [hCause]
        cases d'.volume with
        | error cause' => exact ⟨cause', rfl⟩
        | ok volume => exact ⟨cause, rfl⟩

/-- A page that fails has a disk that it fails for. -/
theorem exists_of_entries_eq_error {disks : List LocatedDisk} {cause : Cause} (h : entries disks = .error cause) :
    ∃ d ∈ disks, d.volume = .error cause := by
  induction disks with
  | nil => cases h
  | cons d disks ih =>
      rw [entries] at h
      cases hVolume : d.volume with
      | error cause' =>
          rw [hVolume] at h
          cases h
          exact ⟨d, List.mem_cons_self, hVolume⟩
      | ok volume =>
          rw [hVolume] at h
          cases hRest : entries disks with
          | error cause' =>
              rw [hRest] at h
              cases h
              obtain ⟨d', hd', hVolume'⟩ := ih hRest
              exact ⟨d', List.mem_cons_of_mem _ hd', hVolume'⟩
          | ok rest =>
              rw [hRest] at h
              cases h

end Listing

namespace PageBounds

open Listing (Continues)

variable {α β : Type}

theorem slice_map (b : PageBounds) (f : α → β) (items : List α) :
    b.slice (items.map f) = (b.slice items).map f := by
  simp [slice]

theorem mem_of_mem_slice {b : PageBounds} {items : List α} {a : α} (h : a ∈ b.slice items) : a ∈ items :=
  List.mem_of_mem_take (List.mem_of_mem_drop h)

variable {limit start total : Nat}

theorem compute_of_lt (h : total < start) : compute start limit total = .error (.startBeyondEnd start total) :=
  dif_pos h

theorem compute_of_continues (h : Continues limit start total) :
    ∃ b, compute start limit total = .ok b ∧ b.start = start ∧ b.after = start + limit ∧
      b.next? = some (start + limit) := by
  obtain ⟨hPositive, hLess, hFits⟩ := h
  have hStart : ¬ total < start := by omega
  have hStop : (if limit ≠ 0 ∧ limit < total then start + limit - 1 else total) = start + limit - 1 :=
    if_pos (by omega)
  refine ⟨⟨start, start + limit - 1, total, by omega⟩, ?_, rfl, ?_, ?_⟩
  · simp only [compute, dif_neg hStart, hStop]
  · simp only [after]
    split <;> omega
  · rw [next?, if_pos (by simp only; omega)]
    simp only [Option.some.injEq]
    omega

/-- A page that does not continue is the rest of the listing. -/
theorem compute_of_not_continues (hFits : start ≤ total) (h : ¬ Continues limit start total) :
    ∃ b, compute start limit total = .ok b ∧ b.start = start ∧ b.after = total ∧ b.next? = none := by
  have hStart : ¬ total < start := by omega
  have hStop : total ≤ if limit ≠ 0 ∧ limit < total then start + limit - 1 else total := by
    unfold Continues at h
    split <;> omega
  refine ⟨⟨start, _, total, hFits⟩, dif_neg hStart, rfl, if_pos hStop, if_neg ?_⟩
  exact Nat.not_lt.2 hStop

/-- A page that begins inside the listing has the items and the token that are specified. -/
theorem exists_compute (limit : Nat) {start : Nat} {items : List α} (h : start ≤ items.length) :
    ∃ b, compute start limit items.length = .ok b ∧ b.slice items = Listing.slice limit start items ∧
      b.nextToken = Listing.tokenAfter limit start items.length := by
  by_cases hMore : Continues limit start items.length
  · obtain ⟨b, hBounds, hStart, hAfter, hNext⟩ := compute_of_continues hMore
    refine ⟨b, hBounds, ?_, ?_⟩
    · rw [slice, hStart, hAfter, Listing.slice, Listing.pageEnd_of_continues hMore]
    · rw [nextToken, hNext, Listing.tokenAfter_of_continues hMore]
  · obtain ⟨b, hBounds, hStart, hAfter, hNext⟩ := compute_of_not_continues h hMore
    refine ⟨b, hBounds, ?_, ?_⟩
    · rw [slice, hStart, hAfter, Listing.slice, Listing.pageEnd_of_not_continues hMore]
    · rw [nextToken, hNext, Listing.tokenAfter_of_not_continues hMore]

end PageBounds

/-! Offsets as tokens. -/

theorem natText_ne_empty (n : Nat) : Text.natText n ≠ "" := by
  intro h
  apply Text.decimal_ne_nil n
  exact (String.toList_ofList (l := Text.decimal n)).symm.trans (congrArg String.toList h)

theorem offsetOfToken_natText {n : Nat} (h : n < offsetBound) : offsetOfToken (Text.natText n) = .ok n := by
  have hDigits : (Text.natText n).toList = Text.decimal n := String.toList_ofList
  have hText : (Text.natText n).isEmpty = false := by simpa using natText_ne_empty n
  simp only [offsetOfToken, hText, hDigits, Text.readNat_decimal offsetBound n h]
  rfl

namespace Listing

variable {request : ListVolumesRequest} {volumes : List Volume} {limit start : Nat}

/-- The page that the bounds select is the page that is specified. -/
theorem cut_eq_compute (request : ListVolumesRequest) (volumes : List Volume) :
    cut request volumes = do
      let limit ← Listing.limit request.maxEntries
      let start ← offsetOfToken request.startingToken
      let bounds ← PageBounds.compute start limit volumes.length
      return ⟨(bounds.slice volumes).map .mk, bounds.nextToken⟩ := by
  refine bind_congr fun limit => bind_congr fun start => ?_
  by_cases hBeyond : volumes.length < start
  · rw [if_pos hBeyond, PageBounds.compute_of_lt hBeyond]
    rfl
  · obtain ⟨b, hBounds, hSlice, hToken⟩ := PageBounds.exists_compute limit (Nat.not_lt.1 hBeyond)
    rw [if_neg hBeyond, hBounds, ← hSlice, ← hToken]
    rfl

theorem cut_of_le (hLimit : Listing.limit request.maxEntries = .ok limit)
    (hStart : offsetOfToken request.startingToken = .ok start) (h : start ≤ volumes.length) :
    cut request volumes = .ok ⟨(slice limit start volumes).map .mk, tokenAfter limit start volumes.length⟩ := by
  simp only [cut, hLimit, hStart, bind, Except.bind, if_neg (Nat.not_lt.2 h)]
  rfl

theorem cut_of_continues (hLimit : Listing.limit request.maxEntries = .ok limit)
    (hStart : offsetOfToken request.startingToken = .ok start) (h : Continues limit start volumes.length) :
    cut request volumes =
      .ok ⟨((volumes.drop start).take limit).map .mk, Text.natText (start + limit)⟩ := by
  have hInside : start ≤ volumes.length := Nat.le_trans (Nat.le_add_right _ _) h.2.2
  rw [cut_of_le hLimit hStart hInside, slice_of_continues h, tokenAfter_of_continues h]

theorem cut_of_not_continues (hLimit : Listing.limit request.maxEntries = .ok limit)
    (hStart : offsetOfToken request.startingToken = .ok start) (hFits : start ≤ volumes.length)
    (h : ¬ Continues limit start volumes.length) :
    cut request volumes = .ok ⟨(volumes.drop start).map .mk, ""⟩ := by
  rw [cut_of_le hLimit hStart hFits, slice_of_not_continues h, tokenAfter_of_not_continues h]

end Listing

end VolumeController
