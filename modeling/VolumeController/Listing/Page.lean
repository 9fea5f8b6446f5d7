import VolumeController.Cause
/-!
Pages of a listing: offsets as tokens, and the bounds of the page that an offset and a limit select.
Stated here: the page lies inside the listing, is no longer than a positive limit, and the next token
is the offset right after it.
-/

namespace VolumeController

/-- Offsets are unsigned 64-bit numbers. -/
def offsetBound : Nat := UInt64.size

/-- The offset of a starting token; the empty token starts at the beginning. -/
def offsetOfToken (token : String) : Except Cause Nat :=
  if token.isEmpty then .ok 0
  else match Text.readNat offsetBound token.toList with
    | .ok offset => .ok offset
    | .error fault => .error (.tokenUnreadable token fault)

/-- The bounds of a page over `total` items. `stop` is the last item of the page, or `total` where the
page runs to the end. -/
structure PageBounds where
  start : Nat
  stop : Nat
  total : Nat
  start_le_total : start ≤ total

namespace PageBounds

/-- The page from `start` with at most `limit` items; zero sets no limit. The limit counts only if it is
less than the whole listing. -/
def compute (start limit total : Nat) : Except Cause PageBounds :=
  if h : total < start then .error (.startBeyondEnd start total)
  else .ok ⟨start, if limit ≠ 0 ∧ limit < total then start + limit - 1 else total, total,
    Nat.not_lt.1 h⟩

/-- The offset right after the page. -/
def after (b : PageBounds) : Nat :=
  if b.total ≤ b.stop then b.total else b.stop + 1

/-- The offset that continues the listing, if the page does not run to the end. -/
def next? (b : PageBounds) : Option Nat :=
  if b.stop < b.total then some (b.stop + 1) else none

/-- The token that continues the listing; empty if there is none. -/
def nextToken (b : PageBounds) : String :=
  match b.next? with
  | some offset => Text.natText offset
  | none => ""

/-- The items of the page. -/
def slice {α : Type} (b : PageBounds) (items : List α) : List α :=
  (items.take b.after).drop b.start

theorem after_le_total (b : PageBounds) : b.after ≤ b.total := by
  unfold after
  split <;> omega

theorem eq_after_of_next? {b : PageBounds} {offset : Nat} (h : b.next? = some offset) :
    offset = b.after := by
  unfold next? at h
  unfold after
  split at h
  · split
    · omega
    · simpa using h.symm
  · simp at h

theorem compute_isOk_iff (start limit total : Nat) :
    (∃ b, compute start limit total = .ok b) ↔ start ≤ total := by
  unfold compute
  split
  · simp; omega
  · simp; omega

end PageBounds

end VolumeController
