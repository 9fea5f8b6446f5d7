import Mathlib.Algebra.BigOperators.Group.List.Basic
import Mathlib.Algebra.GroupWithZero.Nat
import Mathlib.Data.List.Nodup
import VolumeController.Metrics
/-! What metrics say about the requests that were counted. A request is counted under a label: its operation and the
name of its outcome. Series are found by the two written one after the other, so different labels may fall together.
Main result: where no operation is the beginning of another, each counter tells how often its label was counted, and
the samples of an operation are the sum of its counters. -/

namespace VolumeController

/-- What a request is counted under: its operation and the name of its outcome. -/
abbrev Label := String × String

namespace Metrics

/-- The names of all outcomes. -/
def outcomeNames : List String :=
  (none :: StatusCode.all.map some).map outcomeName

theorem outcomeName_mem (code : Option StatusCode) : outcomeName code ∈ outcomeNames := by
  refine List.mem_map_of_mem ?_
  cases code with
  | none => exact List.mem_cons_self
  | some code => exact List.mem_cons_of_mem _ (List.mem_map_of_mem code.mem_all)

theorem nodup_outcomeNames : outcomeNames.Nodup := by
  decide

/-! Lists of series. -/

/-- The count of the first series that is found for a label, zero if there is none. -/
def countIn (label : Label) (series : List OutcomeSeries) : Nat :=
  ((series.find? (isSeriesOf label.1 label.2)).map (·.count)).getD 0

/-- The samples of the first series of an operation, zero if there is none. -/
def samplesIn (operation : String) (series : List DurationSeries) : Nat :=
  ((series.find? (·.operation == operation)).map (·.samples)).getD 0

theorem countIn_cons (label : Label) (s : OutcomeSeries) (series : List OutcomeSeries) :
    countIn label (s :: series) =
      if s.operation ++ s.code = label.1 ++ label.2 then s.count else countIn label series := by
  rw [countIn, List.find?_cons, isSeriesOf]
  split
  · rename_i hSame
    rw [if_pos (eq_of_beq hSame)]
    rfl
  · rename_i hOther
    rw [if_neg (ne_of_beq_false hOther)]
    rfl

theorem samplesIn_cons (operation : String) (s : DurationSeries) (series : List DurationSeries) :
    samplesIn operation (s :: series) = if s.operation = operation then s.samples else samplesIn operation series := by
  rw [samplesIn, List.find?_cons]
  split
  · rename_i hSame
    rw [if_pos (eq_of_beq hSame)]
    rfl
  · rename_i hOther
    rw [if_neg (ne_of_beq_false hOther)]
    rfl

/-- Adding for a label changes just what is found for it, and for the labels that fall together with it. -/
theorem countIn_addOutcome (operation code : String) (amount : Nat) (label : Label) (series : List OutcomeSeries) :
    countIn label (addOutcome operation code amount series) =
      countIn label series + if operation ++ code = label.1 ++ label.2 then amount else 0 := by
  induction series with
  | nil =>
      rw [addOutcome, countIn_cons]
      exact (Nat.zero_add _).symm
  | cons s series ih =>
      rw [addOutcome]
      split
      · rename_i hSame
        rw [countIn_cons, countIn_cons, ← eq_of_beq hSame]
        split <;> rfl
      · rename_i hOther
        rw [countIn_cons, countIn_cons, ih]
        split
        · rename_i hFound
          have hApart : operation ++ code ≠ label.1 ++ label.2 := fun hSame =>
            hOther (beq_iff_eq.2 (hFound.trans hSame.symm))
          rw [if_neg hApart]
          rfl
        · rfl

theorem samplesIn_addSample (operation operation' : String) (series : List DurationSeries) :
    samplesIn operation' (addSample operation series) =
      samplesIn operation' series + if operation = operation' then 1 else 0 := by
  induction series with
  | nil =>
      rw [addSample, samplesIn_cons]
      exact (Nat.zero_add _).symm
  | cons s series ih =>
      rw [addSample]
      split
      · rename_i hSame
        rw [samplesIn_cons, samplesIn_cons, ← hSame]
        split <;> rfl
      · rename_i hOther
        rw [samplesIn_cons, samplesIn_cons, ih]
        split
        · rename_i hFound
          rw [if_neg fun hSame => hOther (hFound.trans hSame.symm)]
          rfl
        · rfl

/-- A series that is there after an addition was there before, or is made for the label. -/
theorem label_of_mem_addOutcome {operation code : String} {amount : Nat} {s : OutcomeSeries}
    {series : List OutcomeSeries} (h : s ∈ addOutcome operation code amount series) :
    (s.operation, s.code) = (operation, code) ∨
      ∃ earlier ∈ series, (s.operation, s.code) = (earlier.operation, earlier.code) := by
  induction series with
  | nil =>
      obtain rfl := List.mem_singleton.1 h
      exact .inl rfl
  | cons first series ih =>
      rw [addOutcome] at h
      split at h
      · rcases List.mem_cons.1 h with rfl | hLater
        · exact .inr ⟨first, List.mem_cons_self, rfl⟩
        · exact .inr ⟨s, List.mem_cons_of_mem _ hLater, rfl⟩
      · rcases List.mem_cons.1 h with rfl | hLater
        · exact .inr ⟨s, List.mem_cons_self, rfl⟩
        · refine (ih hLater).imp id ?_
          rintro ⟨earlier, hEarlier, hSame⟩
          exact ⟨earlier, List.mem_cons_of_mem _ hEarlier, hSame⟩

theorem operation_of_mem_addSample {operation : String} {s : DurationSeries} {series : List DurationSeries}
    (h : s ∈ addSample operation series) :
    s.operation = operation ∨ ∃ earlier ∈ series, s.operation = earlier.operation := by
  induction series with
  | nil =>
      obtain rfl := List.mem_singleton.1 h
      exact .inl rfl
  | cons first series ih =>
      rw [addSample] at h
      split at h
      · rcases List.mem_cons.1 h with rfl | hLater
        · exact .inr ⟨first, List.mem_cons_self, rfl⟩
        · exact .inr ⟨s, List.mem_cons_of_mem _ hLater, rfl⟩
      · rcases List.mem_cons.1 h with rfl | hLater
        · exact .inr ⟨s, List.mem_cons_self, rfl⟩
        · refine (ih hLater).imp id ?_
          rintro ⟨earlier, hEarlier, hSame⟩
          exact ⟨earlier, List.mem_cons_of_mem _ hEarlier, hSame⟩

/-! Metrics and what was counted. -/

/-- Whether metrics are what counting under some labels, in any order, has made of new ones. -/
structure Records (m : Metrics) (labels : List Label) : Prop where
  count : ∀ operation code, m.count operation code = labels.countP fun l => l.1 ++ l.2 = operation ++ code
  samples : ∀ operation, m.samples operation = labels.countP fun l => l.1 = operation
  named : ∀ label ∈ labels, label.2 ∈ outcomeNames
  outcomes : ∀ s ∈ m.outcomes, (s.operation, s.code) ∈ labels
  durations : ∀ s ∈ m.durations, ∃ code, (s.operation, code) ∈ labels

namespace Records

variable {m : Metrics} {labels labels' : List Label} {operation : String} {operations : List String}

theorem empty : Records {} [] :=
  ⟨fun _ _ => rfl, fun _ => rfl, nofun, nofun, nofun⟩

theorem perm (h : m.Records labels) (hPerm : labels.Perm labels') : m.Records labels' where
  count operation code := (h.count operation code).trans (hPerm.countP_eq _)
  samples operation := (h.samples operation).trans (hPerm.countP_eq _)
  named label hLabel := h.named label (hPerm.mem_iff.2 hLabel)
  outcomes s hSeries := hPerm.mem_iff.1 (h.outcomes s hSeries)
  durations s hSeries := (h.durations s hSeries).imp fun _ hLabel => hPerm.mem_iff.1 hLabel

/-- One more request is counted. -/
theorem observe (h : m.Records labels) (operation : String) (code : Option StatusCode) :
    (m.observe operation code).Records ((operation, outcomeName code) :: labels) where
  count operation' code' := by
    rw [List.countP_cons, ← h.count]
    simp only [decide_eq_true_eq]
    exact countIn_addOutcome operation (outcomeName code) 1 (operation', code') m.outcomes
  samples operation' := by
    rw [List.countP_cons, ← h.samples]
    simp only [decide_eq_true_eq]
    exact samplesIn_addSample operation operation' m.durations
  named label hLabel := by
    rcases List.mem_cons.1 hLabel with rfl | hEarlier
    · exact outcomeName_mem code
    · exact h.named label hEarlier
  outcomes s hSeries := by
    rcases label_of_mem_addOutcome hSeries with hSame | ⟨earlier, hEarlier, hSame⟩
    · rw [hSame]
      exact List.mem_cons_self
    · rw [hSame]
      exact List.mem_cons_of_mem _ (h.outcomes earlier hEarlier)
  durations s hSeries := by
    rcases operation_of_mem_addSample hSeries with hSame | ⟨earlier, hEarlier, hSame⟩
    · exact ⟨outcomeName code, by rw [hSame]; exact List.mem_cons_self⟩
    · obtain ⟨code', hLabel⟩ := h.durations earlier hEarlier
      exact ⟨code', by rw [hSame]; exact List.mem_cons_of_mem _ hLabel⟩

end Records

/-! Operations that are told apart. -/

/-- Whether none of some operations is the beginning of another. -/
def Separate (operations : List String) : Prop :=
  ∀ a ∈ operations, ∀ b ∈ operations, a.toList <+: b.toList → a = b

instance (operations : List String) : Decidable (Separate operations) :=
  inferInstanceAs (Decidable (∀ a ∈ operations, ∀ b ∈ operations, a.toList <+: b.toList → a = b))

/-- Labels of such operations do not fall together. -/
theorem Separate.eq_of_append {operations : List String} (h : Separate operations) {l l' : Label}
    (hLeft : l.1 ∈ operations) (hRight : l'.1 ∈ operations) (hSame : l.1 ++ l.2 = l'.1 ++ l'.2) : l = l' := by
  have hText : l.1.toList ++ l.2.toList = l'.1.toList ++ l'.2.toList := by
    rw [← String.toList_append, hSame, String.toList_append]
  have hOperation : l.1 = l'.1 := by
    rcases List.prefix_or_prefix_of_prefix ⟨l.2.toList, hText⟩ ⟨l'.2.toList, rfl⟩ with hPrefix | hPrefix
    · exact h l.1 hLeft l'.1 hRight hPrefix
    · exact (h l'.1 hRight l.1 hLeft hPrefix).symm
  rw [hOperation] at hText
  exact Prod.ext hOperation (String.ext (List.append_cancel_left hText))

/-- Labels of one operation, sorted by their names. -/
theorem countP_operation (operation : String) {labels : List Label} (h : ∀ l ∈ labels, l.2 ∈ outcomeNames) :
    (labels.countP fun l => l.1 = operation) = (outcomeNames.map fun name => labels.count (operation, name)).sum := by
  induction labels with
  | nil => simp
  | cons l labels ih =>
      have hOne : (outcomeNames.map fun name => if l == (operation, name) then 1 else 0).sum =
          if l.1 = operation then 1 else 0 := by
        rw [List.sum_map_eq_nsmul_single l.2, List.count_eq_one_of_mem nodup_outcomeNames (h l List.mem_cons_self),
          one_nsmul]
        · simp [Prod.ext_iff]
        · intro name hOther _
          refine if_neg fun hSame => hOther ?_
          rw [eq_of_beq hSame]
      simp only [List.countP_cons, List.count_cons, List.sum_map_add, hOne, decide_eq_true_eq]
      rw [ih fun l' hLater => h l' (List.mem_cons_of_mem _ hLater)]

namespace Records

variable {m : Metrics} {labels : List Label} {operation : String} {operations : List String}

/-- A counter tells how often its label was counted. -/
theorem count_eq (h : m.Records labels) (hSeparate : Separate operations) (hLabels : ∀ l ∈ labels, l.1 ∈ operations)
    (hOperation : operation ∈ operations) (code : String) :
    m.count operation code = labels.count (operation, code) := by
  rw [h.count, List.count]
  refine List.countP_congr fun l hLabel => ?_
  rw [decide_eq_true_iff, beq_iff_eq]
  constructor
  · intro hSame
    exact hSeparate.eq_of_append (hLabels l hLabel) hOperation hSame
  · rintro rfl
    rfl

/-- The samples of an operation are the sum of its counters. -/
theorem samples_eq_sum (h : m.Records labels) (hSeparate : Separate operations)
    (hLabels : ∀ l ∈ labels, l.1 ∈ operations) (hOperation : operation ∈ operations) :
    m.samples operation = (outcomeNames.map (m.count operation)).sum := by
  rw [h.samples, countP_operation operation h.named]
  congr 2
  exact funext fun code => (h.count_eq hSeparate hLabels hOperation code).symm

end Records

end Metrics

end VolumeController
