import Mathlib.Data.List.Nodup
import Mathlib.Data.List.ReduceOption
import VolumeController.Proofs.WellFormed
/-! Calls to create different volumes, and what an inventory becomes by them. Main result: if every disk that came to
the inventory was created by its own call, a call that has created nothing finds what it would have found before, and
one that has created a disk finds it. -/

namespace VolumeController

/-- A call to create the disk of a name in a pool of a datacenter, or to find it. -/
structure CreateCall where
  dc : Datacenter
  pool : Pool
  name : String
  sizeMb : UInt64

/-- The calls of a store, side by side. -/
def VolumeStore.creates (store : VolumeStore) (calls : List (Context × CreateCall)) :
    List (Context × Procedure (Except Error CreateOutcome)) :=
  calls.map fun (ctx, call) => (ctx, (store.createOrGet call.dc call.pool call.name call.sizeMb).run)

/-- The same disk under another id, with the path that is built from it. -/
def Disk.withId (disk : Disk) (id : String) : Disk :=
  { disk with id, backing := .file (Inventory.backingPath disk.parent.owner id) }

/-- The same outcome with another id for a disk that was created. -/
def CreateOutcome.withId (id : String) : CreateOutcome → CreateOutcome
  | .created disk => .created (disk.withId id)
  | .existing disk => .existing disk

namespace CreateCall

/-- What tells volumes apart: the place, the pool and the name. -/
def key (call : CreateCall) : Nat × Pool × String :=
  (call.dc.place, call.pool, call.name)

/-- The disks that a call looks for. -/
def named (call : CreateCall) (inv : Inventory) : List Disk :=
  inv.named call.dc.place call.pool call.name

/-- The disk that a call creates. -/
def disk (call : CreateCall) (parent : Parent) (id : String) : Disk :=
  Entry.disk ⟨id, call.name, call.sizeMb, parent⟩

/-- What a call comes to on an inventory if it draws an id. -/
def outcome (call : CreateCall) (inv : Inventory) (id : String) : Except Error CreateOutcome :=
  match (inv.answer (.findByName call.dc call.pool call.name)).1 with
  | .error failure => .error (Cause.lookupFailed call.name failure).toError
  | .ok (some disk) =>
    if disk.capacityMb = call.sizeMb then .ok (.existing disk)
    else .error (Cause.sizeDiffers disk.capacityMb.toNat call.sizeMb.toNat).toError
  | .ok none =>
    match inv.poolAt call.dc call.pool with
    | .error failure => .error (Cause.creationFailed failure).toError
    | .ok parent => .ok (.created (call.disk parent id))

/-- The disk that a call has created, with its place. -/
def birth (call : CreateCall) : Except Error CreateOutcome → Option (Nat × Disk)
  | .ok (.created disk) => some (call.dc.place, disk)
  | _ => none

/-- What a call comes to depends on the id only in the disk that it creates. -/
theorem outcome_withId (call : CreateCall) (inv : Inventory) (id id' : String) :
    (call.outcome inv id).map (CreateOutcome.withId id') = call.outcome inv id' := by
  unfold outcome
  split
  · rfl
  · split <;> rfl
  · split <;> rfl

end CreateCall

/-- The disks that calls have created so far, each with its place. -/
def System.births (s : System Inventory (Except Error CreateOutcome)) (calls : List (Context × CreateCall)) :
    List (Nat × Disk) :=
  (calls.zipIdx.map fun ((_, call), number) => (s.result? number).bind call.birth).reduceOption

/-- The disks that were born at a place. -/
def bornAt (place : Nat) (born : List (Nat × Disk)) : List Disk :=
  born.filterMap fun (place', disk) => if place' = place then some disk else none

/-- An inventory to which disks have come: at each place they stand after those that were there before, and their ids
were drawn one after the other. -/
structure Inventory.Grown (base inv : Inventory) (born : List (Nat × Disk)) : Prop where
  layout : inv.layout = base.layout
  disks : ∀ place, inv.disksAt place = base.disksAt place ++ bornAt place born
  ids : born.map (fun (_, disk) => disk.id) = (List.range' base.nextId born.length).map Inventory.idText
  next : inv.nextId = base.nextId + born.length

theorem mem_bornAt {place : Nat} {born : List (Nat × Disk)} {disk : Disk} :
    disk ∈ bornAt place born ↔ (place, disk) ∈ born := by
  simp only [bornAt, List.mem_filterMap, Prod.exists, Option.ite_none_right_eq_some, Option.some.injEq]
  constructor
  · rintro ⟨_, _, hBorn, rfl, rfl⟩
    exact hBorn
  · exact fun hBorn => ⟨place, disk, hBorn, rfl, rfl⟩

namespace Inventory

variable {base inv inv' : Inventory} {dc : Datacenter} {pool : Pool} {name : String} {born : List (Nat × Disk)}

/-- A search by name shows the first disk of the name in the pool, if there is the datacenter at all. -/
theorem fst_answer_findByName (inv : Inventory) (dc : Datacenter) (pool : Pool) (name : String) :
    (inv.answer (.findByName dc pool name)).1 =
      if (inv.state? dc).isSome then .ok (inv.named dc.place pool name).head? else .error (missing dc) := by
  cases hState : inv.state? dc with
  | none => simp [answer, hState]
  | some s =>
      rw [answer_findByName hState, named, List.head?_filter]
      rfl

theorem isSome_state?_layout (inv : Inventory) (dc : Datacenter) :
    (inv.layout.state? dc).isSome = (inv.state? dc).isSome := by
  simp [state?, layout]

/-- Where nothing fails a disk can be created if and only if there is a place for it in the pool. -/
theorem answer_createDisk_of_poolAt (inv : Inventory) (dc : Datacenter) (pool : Pool) (name : String)
    (sizeMb : UInt64) : match inv.poolAt dc pool with
    | .error failure => (inv.answer (.createDisk dc pool name sizeMb)).1 = .error failure ∧
      (inv.answer (.createDisk dc pool name sizeMb)).2.2 = inv
    | .ok parent => (inv.answer (.createDisk dc pool name sizeMb)).1 = .ok () ∧
      ∃ s, inv.state? dc = some s ∧ (inv.answer (.createDisk dc pool name sizeMb)).2.2 =
        { inv.modify dc (·.addDisk (Entry.disk ⟨idText inv.nextId, name, sizeMb, parent⟩)) with
          nextId := inv.nextId + 1 } := by
  unfold poolAt
  cases hState : inv.state? dc with
  | none => simp [answer, hState]
  | some s =>
      cases hParent : s.placement pool with
      | error failure =>
          simp only [hParent]
          exact answer_createDisk_error hState hParent name sizeMb
      | ok parent =>
          obtain ⟨hReply, hAfter⟩ := answer_createDisk_ok hState hParent name sizeMb
          simp only [hParent]
          exact ⟨hReply, s, rfl, hAfter⟩

/-- An inventory that offers a pool has the datacenter. -/
theorem isSome_of_poolAt {parent : Parent} (h : inv.poolAt dc pool = .ok parent) : (inv.state? dc).isSome := by
  unfold poolAt at h
  cases hState : inv.state? dc with
  | none =>
      rw [hState] at h
      cases h
  | some s => rfl

theorem Grown.poolAt (h : base.Grown inv born) (dc : Datacenter) (pool : Pool) :
    inv.poolAt dc pool = base.poolAt dc pool := by
  rw [← poolAt_layout, h.layout, poolAt_layout]

theorem Grown.refl (base : Inventory) : base.Grown base [] :=
  ⟨rfl, fun _ => (List.append_nil _).symm, rfl, rfl⟩

/-- What leaves the disks and draws no id is of no account. -/
theorem Grown.same (h : base.Grown inv born) (hLayout : inv'.layout = inv.layout)
    (hDisks : ∀ place, inv'.disksAt place = inv.disksAt place) (hNext : inv'.nextId = inv.nextId) :
    base.Grown inv' born :=
  ⟨hLayout.trans h.layout, fun place => (hDisks place).trans (h.disks place), h.ids, hNext.trans h.next⟩

/-- Another disk comes, under the next id. -/
theorem Grown.add (h : base.Grown inv born) {s : DatacenterState} (hState : inv.state? dc = some s) {v : Entry}
    (hId : v.id = idText inv.nextId) :
    base.Grown { inv.modify dc (·.addDisk v.disk) with nextId := inv.nextId + 1 } (born ++ [(dc.place, v.disk)]) where
  layout := (layout_modify inv dc (f := (·.addDisk v.disk)) fun _ => rfl).trans h.layout
  disks place := by
    change (inv.modify dc (·.addDisk v.disk)).disksAt place = _
    rw [disksAt_addDisk hState, h.disks, List.append_assoc, bornAt, bornAt, List.filterMap_append]
    by_cases hPlace : place = dc.place
    · simp [hPlace]
    · simp [hPlace, Ne.symm hPlace]
  ids := by
    have hLast : v.disk.id = idText (base.nextId + born.length) := hId.trans (congrArg idText h.next)
    rw [List.map_append, h.ids, List.length_append, List.length_singleton, List.range'_concat, List.map_append]
    simp [hLast]
  next := by
    rw [List.length_append, ← Nat.add_assoc, ← h.next]
    rfl

end Inventory

/-- To put something in the place of nothing adds it to what there is. -/
theorem reduceOption_set_perm {α : Type} {l : List (Option α)} {n : Nat} (h : l[n]? = some none) (a : α) :
    (l.set n (some a)).reduceOption.Perm (l.reduceOption ++ [a]) := by
  induction l generalizing n with
  | nil => cases h
  | cons first l ih =>
      cases n with
      | zero =>
          obtain rfl : first = none := Option.some.inj h
          exact (List.perm_append_singleton a l.reduceOption).symm
      | succ n =>
          cases first with
          | none => exact ih h
          | some b => exact (ih h).cons b

/-- Calls for different volumes, and the inventory that they begin on. -/
structure Batch where
  base : Inventory
  calls : List (Context × CreateCall)
  separate : (calls.map fun (_, call) => call.key).Nodup

namespace Batch

variable (t : Batch)

/-- What holds at every moment: the inventory has grown by the disks that the calls know to have created, each by its
own call. -/
structure Holds (inv : Inventory) (known : List (Option (Nat × Disk))) : Prop where
  faultless : inv.Faultless
  grown : ∃ born, born.Perm known.reduceOption ∧ t.base.Grown inv born
  own : ∀ (number : Nat) place disk, known[number]? = some (some (place, disk)) →
    ∃ ctx call, t.calls[number]? = some (ctx, call) ∧ call.key = (place, disk.parent.pool, disk.name)

variable {t} {inv inv' : Inventory} {known : List (Option (Nat × Disk))} {number : Nat} {ctx : Context}
  {call : CreateCall} {parent : Parent}

/-- To begin with nothing is created. -/
theorem Holds.begin (hFaultless : t.base.Faultless) (n : Nat) : t.Holds t.base (List.replicate n none) where
  faultless := hFaultless
  grown := ⟨[], by rw [List.reduceOption_replicate_none], .refl _⟩
  own number place disk hKnown := by cases List.eq_of_mem_replicate (List.mem_of_getElem? hKnown)

theorem Holds.same (h : t.Holds inv known) (hFaultless : inv'.Faultless) (hLayout : inv'.layout = inv.layout)
    (hDisks : ∀ place, inv'.disksAt place = inv.disksAt place) (hNext : inv'.nextId = inv.nextId) :
    t.Holds inv' known := by
  obtain ⟨born, hBorn, hGrown⟩ := h.grown
  exact ⟨hFaultless, ⟨born, hBorn, hGrown.same hLayout hDisks hNext⟩, h.own⟩

theorem Holds.start (h : t.Holds inv known) (c : Call) : t.Holds (Platform.start c inv).2.2 known :=
  h.same (h.faultless.start c) (Inventory.layout_start inv c) (Inventory.disksAt_start inv c)
    (Inventory.nextId_modifyFaults inv _ _)

theorem Holds.poolAt (h : t.Holds inv known) (dc : Datacenter) (pool : Pool) :
    inv.poolAt dc pool = t.base.poolAt dc pool := by
  obtain ⟨born, -, hGrown⟩ := h.grown
  exact hGrown.poolAt dc pool

/-- Only one call is for a volume. -/
theorem eq_of_key {number' : Nat} {ctx' : Context} {call' : CreateCall} (hCall : t.calls[number]? = some (ctx, call))
    (hCall' : t.calls[number']? = some (ctx', call')) (hKey : call'.key = call.key) : number' = number := by
  have hAt (i : Nat) : (t.calls.map fun (_, call) => call.key)[i]? = t.calls[i]?.map fun (_, call) => call.key :=
    List.getElem?_map
  have hLength : number' < (t.calls.map fun (_, call) => call.key).length := by
    rw [List.length_map]
    exact (List.getElem?_eq_some_iff.1 hCall').1
  refine (List.getElem?_inj hLength t.separate).1 ?_
  rw [hAt, hAt, hCall, hCall']
  exact congrArg some hKey

/-- The disks that a call looks for are those that were there before, and the one that it has created itself. -/
theorem Holds.exists_named (h : t.Holds inv known) (hCall : t.calls[number]? = some (ctx, call)) :
    ∃ added, call.named inv = call.named t.base ++ added ∧
      ∀ disk, disk ∈ added ↔ known[number]? = some (some (call.dc.place, disk)) := by
  obtain ⟨born, hBorn, hGrown⟩ := h.grown
  refine ⟨(bornAt call.dc.place born).filter fun disk => disk.name = call.name && disk.isIn call.pool, ?_,
    fun disk => ?_⟩
  · rw [CreateCall.named, Inventory.named, hGrown.disks, List.filter_append]
    rfl
  · have hSame : (disk.name = call.name && disk.isIn call.pool) = true ↔
        call.key = (call.dc.place, disk.parent.pool, disk.name) := by
      simp only [CreateCall.key, Disk.isIn_eq_decide, Bool.and_eq_true, decide_eq_true_eq, Prod.mk.injEq, true_and]
      exact ⟨fun hOwn => ⟨hOwn.2.symm, hOwn.1.symm⟩, fun hOwn => ⟨hOwn.2.symm, hOwn.1.symm⟩⟩
    rw [List.mem_filter, mem_bornAt, hBorn.mem_iff, List.reduceOption_mem_iff, hSame]
    constructor
    · rintro ⟨hKnown, hOwn⟩
      obtain ⟨number', hThere⟩ := List.mem_iff_getElem?.1 hKnown
      obtain ⟨ctx', call', hCall', hKey⟩ := h.own number' _ _ hThere
      obtain rfl := eq_of_key hCall hCall' (hKey.trans hOwn.symm)
      exact hThere
    · intro hKnown
      obtain ⟨ctx', call', hCall', hKey⟩ := h.own number _ _ hKnown
      obtain rfl : call = call' := (Prod.mk.inj (Option.some.inj (hCall.symm.trans hCall'))).2
      exact ⟨List.mem_of_getElem? hKnown, hKey⟩

/-- A call that has created nothing finds what it would have found before. -/
theorem Holds.find (h : t.Holds inv known) (hCall : t.calls[number]? = some (ctx, call))
    (hNothing : known[number]? = some none) : (inv.answer (.findByName call.dc call.pool call.name)).1 =
      (t.base.answer (.findByName call.dc call.pool call.name)).1 := by
  obtain ⟨added, hNamed, hAdded⟩ := h.exists_named hCall
  obtain ⟨born, -, hGrown⟩ := h.grown
  have hNone : added = [] := List.eq_nil_iff_forall_not_mem.2 fun disk hDisk => by
    cases hNothing.symm.trans ((hAdded disk).1 hDisk)
  have hSame : inv.named call.dc.place call.pool call.name = t.base.named call.dc.place call.pool call.name :=
    hNamed.trans (hNone ▸ List.append_nil _)
  rw [Inventory.fst_answer_findByName, Inventory.fst_answer_findByName, hSame, ← inv.isSome_state?_layout,
    hGrown.layout, t.base.isSome_state?_layout]

/-- A call that has created a disk where there was none finds it. -/
theorem Holds.reread (h : t.Holds inv known) (hCall : t.calls[number]? = some (ctx, call)) {disk : Disk}
    (hCreated : known[number]? = some (some (call.dc.place, disk)))
    (hParent : t.base.poolAt call.dc call.pool = .ok parent)
    (hVacant : (t.base.answer (.findByName call.dc call.pool call.name)).1 = .ok none) :
    (inv.answer (.findByName call.dc call.pool call.name)).1 = .ok (some disk) := by
  obtain ⟨added, hNamed, hAdded⟩ := h.exists_named hCall
  have hFirst : (call.named t.base).head? = none := by
    rw [Inventory.fst_answer_findByName, if_pos (Inventory.isSome_of_poolAt hParent)] at hVacant
    exact Except.ok.inj hVacant
  rw [List.head?_eq_none_iff.1 hFirst, List.nil_append] at hNamed
  rw [← h.poolAt] at hParent
  rw [Inventory.fst_answer_findByName, if_pos (Inventory.isSome_of_poolAt hParent)]
  have hSome : added ≠ [] := List.ne_nil_of_mem ((hAdded disk).2 hCreated)
  obtain ⟨first, hHead⟩ := Option.isSome_iff_exists.1 (List.isSome_head?.2 hSome)
  have hOwn := (hAdded first).1 (List.mem_of_head? hHead)
  obtain rfl : disk = first := by
    simpa using hCreated.symm.trans hOwn
  exact congrArg Except.ok ((congrArg List.head? hNamed).trans hHead)

/-- A call creates its disk. -/
theorem Holds.create (h : t.Holds inv known) (hCall : t.calls[number]? = some (ctx, call))
    (hNothing : known[number]? = some none) {s : DatacenterState} (hState : inv.state? call.dc = some s)
    (hParent : inv.poolAt call.dc call.pool = .ok parent) :
    t.Holds { inv.modify call.dc (·.addDisk (call.disk parent (Inventory.idText inv.nextId))) with
        nextId := inv.nextId + 1 }
      (known.set number (some (call.dc.place, call.disk parent (Inventory.idText inv.nextId)))) where
  faultless := by
    have hNew := h.faultless.modify call.dc
      (f := (·.addDisk (call.disk parent (Inventory.idText inv.nextId)))) fun _ => rfl
    exact ⟨hNew.platform, hNew.datacenters⟩
  grown := by
    obtain ⟨born, hBorn, hGrown⟩ := h.grown
    exact ⟨_, (hBorn.append_right _).trans (reduceOption_set_perm hNothing _).symm, hGrown.add hState rfl⟩
  own := by
    intro number' place disk hKnown
    rcases getElem?_set_cases hKnown with ⟨rfl, hOwn⟩ | ⟨-, hKnown⟩
    · cases hOwn
      refine ⟨ctx, call, hCall, ?_⟩
      rw [show (call.disk parent (Inventory.idText inv.nextId)).parent.pool = call.pool from
        Inventory.pool_of_poolAt hParent]
      rfl
    · exact h.own number' place disk hKnown

end Batch

end VolumeController
