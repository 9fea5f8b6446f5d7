import VolumeController.Proofs.Pages
import VolumeController.Proofs.Words
/-! Pages at the limits of 64-bit words. A machine has words for the start, the limit and the total of a page, the sum
of the first two may be more than a word, and the last item of a page may lie beyond the total. Main result: for a total
that a list can have no step leaves the words. A page fails just if it starts beyond the end. Any other lies inside the
listing, within its limit, and the token that continues it is read back as the offset at which it ends. -/

namespace VolumeController

/-- The bounds of a page, as words. -/
structure WordBounds where
  start : UInt64
  stop : UInt64
  total : UInt64

namespace WordBounds

/-! The computations of the bounds as a machine carries them out. The outer option is none if a step leaves the
words. -/

/-- The page from `start` with at most `limit` items; zero sets no limit. -/
def compute? (start limit total : UInt64) : Option (Except Cause WordBounds) :=
  if total < start then some (.error (.startBeyondEnd start.toNat total.toNat))
  else if limit ≠ 0 ∧ limit < total then do
    let stop ← Word.sub? (← Word.add? start limit) 1
    return .ok ⟨start, stop, total⟩
  else some (.ok ⟨start, total, total⟩)

/-- The offset right after the page. -/
def after? (w : WordBounds) : Option UInt64 :=
  if w.total ≤ w.stop then some w.total else Word.add? w.stop 1

/-- The offset that continues the listing, if the page does not run to the end. -/
def next? (w : WordBounds) : Option (Option UInt64) :=
  if w.stop < w.total then (Word.add? w.stop 1).map some else some none

/-- Whether the words are those of some bounds. -/
structure Holds (w : WordBounds) (b : PageBounds) : Prop where
  start : w.start.toNat = b.start
  stop : w.stop.toNat = b.stop
  total : w.total.toNat = b.total

variable {w : WordBounds} {b : PageBounds} {start limit total : UInt64}

/-- What follows the last item of a page is a word, as that item comes before the total. -/
theorem exists_add?_stop (h : w.stop < w.total) :
    ∃ next, Word.add? w.stop 1 = some next ∧ next.toNat = w.stop.toNat + 1 := by
  have hStop := UInt64.lt_iff_toNat_lt.1 h
  have hTotal := w.total.toNat_lt
  exact Word.exists_add?_of_lt (by rw [UInt64.toNat_one]; omega)

theorem Holds.stop_lt_total_iff (h : w.Holds b) : w.stop < w.total ↔ b.stop < b.total := by
  rw [UInt64.lt_iff_toNat_lt, h.stop, h.total]

theorem Holds.exists_after? (h : w.Holds b) : ∃ offset, w.after? = some offset ∧ offset.toNat = b.after := by
  unfold after? PageBounds.after
  by_cases hBefore : w.stop < w.total
  · obtain ⟨next, hNext, hValue⟩ := exists_add?_stop hBefore
    rw [if_neg (UInt64.not_le.2 hBefore), if_neg (Nat.not_le.2 (h.stop_lt_total_iff.1 hBefore)), ← h.stop]
    exact ⟨next, hNext, hValue⟩
  · have hEnd := mt h.stop_lt_total_iff.2 hBefore
    rw [if_pos (UInt64.not_lt.1 hBefore), if_pos (Nat.not_lt.1 hEnd)]
    exact ⟨w.total, rfl, h.total⟩

theorem Holds.exists_next? (h : w.Holds b) :
    ∃ next, w.next? = some next ∧ next.map UInt64.toNat = b.next? := by
  unfold next? PageBounds.next?
  by_cases hBefore : w.stop < w.total
  · obtain ⟨next, hNext, hValue⟩ := exists_add?_stop hBefore
    rw [if_pos hBefore, if_pos (h.stop_lt_total_iff.1 hBefore), hNext, ← h.stop, ← hValue]
    exact ⟨some next, rfl, rfl⟩
  · rw [if_neg hBefore, if_neg (mt h.stop_lt_total_iff.2 hBefore)]
    exact ⟨none, rfl, rfl⟩

/-- A start beyond the end is told as it is. -/
theorem compute?_of_lt (h : total < start) :
    compute? start limit total = some (.error (.startBeyondEnd start.toNat total.toNat)) :=
  if_pos h

/-- The sum of a start and a limit below a total is a word, as no total has its highest bit. -/
theorem exists_compute?_of_le (hTotal : total.toNat < 2 ^ 63) (hStart : start ≤ total) (limit : UInt64) :
    ∃ w b, compute? start limit total = some (.ok w) ∧
      PageBounds.compute start.toNat limit.toNat total.toNat = .ok b ∧
      w.start = start ∧ w.total = total ∧ w.Holds b := by
  have hFits := UInt64.le_iff_toNat_le.1 hStart
  have hLimit : limit ≠ 0 ∧ limit < total ↔ limit.toNat ≠ 0 ∧ limit.toNat < total.toNat :=
    and_congr (not_congr UInt64.toNat_inj.symm) UInt64.lt_iff_toNat_lt
  unfold compute? PageBounds.compute
  rw [if_neg (UInt64.not_lt.2 hStart), dif_neg (Nat.not_lt.2 hFits)]
  by_cases hSome : limit ≠ 0 ∧ limit < total
  · have hNumbers := hLimit.1 hSome
    have hOne : (1 : UInt64).toNat = 1 := UInt64.toNat_one
    obtain ⟨sum, hSum, hSumValue⟩ := Word.exists_add?_of_lt (a := start) (b := limit) (by omega)
    obtain ⟨stop, hStop, hStopValue⟩ := Word.exists_sub?_of_le (a := sum) (b := 1) (by omega)
    have hStopEq : stop.toNat = start.toNat + limit.toNat - 1 := by
      rw [hStopValue, hSumValue, hOne]
    simp only [if_pos hSome, if_pos hNumbers, hSum, Option.bind_eq_bind, Option.bind_some, hStop]
    exact ⟨⟨start, stop, total⟩, _, rfl, rfl, rfl, rfl, ⟨rfl, hStopEq, rfl⟩⟩
  · simp only [if_neg hSome, if_neg (mt hLimit.2 hSome)]
    exact ⟨⟨start, total, total⟩, _, rfl, rfl, rfl, rfl, ⟨rfl, rfl, rfl⟩⟩

end WordBounds

namespace PageBounds

variable {start limit total : Nat} {b : PageBounds}

/-- A page neither ends before it starts nor exceeds its limit. -/
theorem after_of_compute (h : compute start limit total = .ok b) :
    start ≤ b.after ∧ (limit ≠ 0 → b.after - start ≤ limit) := by
  unfold compute at h
  split at h
  · cases h
  · cases h
    unfold after
    simp only
    split <;> split at * <;> omega

theorem compute_eq_error_iff (start limit total : Nat) :
    (∃ cause, compute start limit total = .error cause) ↔ total < start := by
  rw [← Nat.not_le, ← compute_isOk_iff start limit total]
  cases compute start limit total with
  | error cause => simp
  | ok b => simp

/-- There is a token just if there is a next page, whose offset it denotes. -/
theorem nextToken_eq (b : PageBounds) :
    (b.nextToken ≠ "" ↔ b.next? = some b.after) ∧ (b.nextToken ≠ "" → b.nextToken = Text.natText b.after) := by
  unfold nextToken
  cases hNext : b.next? with
  | none => simp
  | some offset =>
      rw [eq_after_of_next? hNext]
      exact ⟨⟨fun _ => rfl, fun _ => natText_ne_empty _⟩, fun _ => rfl⟩

end PageBounds

/-- Pages at the limits. For any start and limit and any total without its highest bit: the bounds fail just if the
start is beyond the end. Otherwise a machine computes them, the range of the page and the offset of the next one within
its words, and all are exact. The range starts at the start, ends at or before the total and is no longer than a limit.
There is a token just if there is an offset of a next page. It is read back as the end of the range, from which pages
with any limit start. -/
theorem pages_stay_in_words (start limit total : UInt64) (hTotal : total.toNat < 2 ^ 63) :
    ((∃ cause, PageBounds.compute start.toNat limit.toNat total.toNat = .error cause) ↔ total < start) ∧
    (total < start →
      WordBounds.compute? start limit total = some (.error (.startBeyondEnd start.toNat total.toNat))) ∧
    (start ≤ total → ∃ w b after next,
      WordBounds.compute? start limit total = some (.ok w) ∧
      PageBounds.compute start.toNat limit.toNat total.toNat = .ok b ∧ w.Holds b ∧
      w.after? = some after ∧ after.toNat = b.after ∧
      w.start = start ∧ start ≤ after ∧ after ≤ total ∧ (limit ≠ 0 → after - start ≤ limit) ∧
      w.next? = some next ∧ (b.nextToken ≠ "" ↔ next = some after) ∧
      (b.nextToken ≠ "" → offsetOfToken b.nextToken = .ok after.toNat ∧
        ∀ limit' : Nat, ∃ b', PageBounds.compute after.toNat limit' total.toNat = .ok b')) := by
  refine ⟨?_, WordBounds.compute?_of_lt, fun hStart => ?_⟩
  · rw [PageBounds.compute_eq_error_iff, UInt64.lt_iff_toNat_lt]
  obtain ⟨w, b, hWord, hBounds, rfl, rfl, hHolds⟩ := WordBounds.exists_compute?_of_le hTotal hStart limit
  obtain ⟨after, hAfter, hEnd⟩ := hHolds.exists_after?
  obtain ⟨next, hNext, hOffset⟩ := hHolds.exists_next?
  obtain ⟨hOrder, hLimit⟩ := PageBounds.after_of_compute hBounds
  obtain ⟨hSome, hText⟩ := b.nextToken_eq
  have hInside : b.after ≤ w.total.toNat := by
    rw [hHolds.total]
    exact b.after_le_total
  rw [← hEnd] at hOrder hLimit hInside hText
  have hSame : b.next? = some b.after ↔ next = some after := by
    rw [← hOffset, ← hEnd]
    cases next with
    | none => simp
    | some offset => simp [UInt64.toNat_inj]
  refine ⟨w, b, after, next, hWord, hBounds, hHolds, hAfter, hEnd, rfl, UInt64.le_iff_toNat_le.2 hOrder,
    UInt64.le_iff_toNat_le.2 hInside, fun hNonzero => ?_, hNext, hSome.trans hSame, fun hToken => ⟨?_, ?_⟩⟩
  · rw [UInt64.le_iff_toNat_le, UInt64.toNat_sub_of_le _ _ (UInt64.le_iff_toNat_le.2 hOrder)]
    exact hLimit fun hZero => hNonzero (UInt64.toNat_inj.1 hZero)
  · rw [hText hToken]
    exact offsetOfToken_natText after.toNat_lt
  · exact fun limit' => (PageBounds.compute_isOk_iff _ _ _).2 hInside

/-- In the longest list, a page from the second item with the largest limit that leaves one item ends before it, and its
token leads there. From the end on the largest limit that counts gives the largest sum, and a page of nothing. -/
theorem pages_stay_in_words_longest :
    (∃ b, PageBounds.compute 1 9223372036854775805 9223372036854775807 = .ok b ∧ b.nextToken ≠ "" ∧
      offsetOfToken b.nextToken = .ok 9223372036854775806) ∧
    (∃ w b, WordBounds.compute? 9223372036854775807 9223372036854775806 9223372036854775807 = some (.ok w) ∧
      PageBounds.compute 9223372036854775807 9223372036854775806 9223372036854775807 = .ok b ∧
      w.after? = some 9223372036854775807 ∧ b.nextToken = "") ∧
    ∃ cause, PageBounds.compute 9223372036854775808 1 9223372036854775807 = .error cause := by
  obtain ⟨-, -, hSecond⟩ := pages_stay_in_words 1 9223372036854775805 9223372036854775807 (by decide)
  obtain ⟨-, -, hLast⟩ :=
    pages_stay_in_words 9223372036854775807 9223372036854775806 9223372036854775807 (by decide)
  obtain ⟨hBeyond, -, -⟩ := pages_stay_in_words 9223372036854775808 1 9223372036854775807 (by decide)
  obtain ⟨w, b, after, next, hWord, hBounds, -, hAfter, -, -, -, -, -, hNext, hToken, hRead⟩ := hSecond (by decide)
  obtain ⟨w', b', after', next', hWord', hBounds', -, hAfter', -, -, -, -, -, hNext', hToken', -⟩ :=
    hLast (by decide)
  obtain rfl : w = ⟨1, 9223372036854775805, 9223372036854775807⟩ :=
    Except.ok.inj (Option.some.inj (hWord.symm.trans (by rfl)))
  obtain rfl : after = 9223372036854775806 := Option.some.inj (hAfter.symm.trans (by rfl))
  obtain rfl : next = some 9223372036854775806 := Option.some.inj (hNext.symm.trans (by rfl))
  obtain rfl : w' = ⟨9223372036854775807, 18446744073709551612, 9223372036854775807⟩ :=
    Except.ok.inj (Option.some.inj (hWord'.symm.trans (by rfl)))
  obtain rfl : after' = 9223372036854775807 := Option.some.inj (hAfter'.symm.trans (by rfl))
  obtain rfl : next' = none := Option.some.inj (hNext'.symm.trans (by rfl))
  have hSome := hToken.2 (by decide)
  have hNone : b'.nextToken = "" := Decidable.not_not.1 (mt hToken'.1 (by decide))
  exact ⟨⟨b, hBounds, hSome, (hRead hSome).1⟩, ⟨_, b', hWord', hBounds', hAfter', hNone⟩, hBeyond.2 (by decide)⟩

/-- The bound on the total is needed: one item more, and the sum of a start and a limit is no word. -/
example : WordBounds.compute? 9223372036854775808 9223372036854775808 9223372036854775809 = none := by
  rfl

end VolumeController
