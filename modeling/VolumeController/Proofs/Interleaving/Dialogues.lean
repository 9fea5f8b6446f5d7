import VolumeController.Proofs.Contracts
/-! Dialogues: contracts that look back. What a procedure may wait for, and what it may end with, depends on
everything that it was told before. Main result: a procedure that keeps to a dialogue does so on every path, told
whatever the dialogue lets it be told. -/

namespace VolumeController

variable {α β : Type}

/-- What a procedure may wait for after what it was told, and what it may be told. -/
structure Dialogue where
  asks : List Exchange → Wait → Prop := fun _ _ => True
  told : Exchange → Prop := fun _ => True

/-- Any dialogue without aborts. -/
def unaborted : Dialogue where
  told x := ∀ abort, x.answer ≠ .error abort

/-- Whether a procedure that was told something keeps to a dialogue and ends as wanted. -/
def Procedure.Converses (D : Dialogue) (goal : List Exchange → α → Prop) :
    Procedure α → List Exchange → Prop
  | .done a, told => goal told a
  | .act _ next, told => ∀ answer, Converses D goal (next answer) told
  | .await wait next, told => D.asks told wait ∧
      ∀ answer, D.told ⟨wait, answer⟩ → Converses D goal (next answer) (told ++ [⟨wait, answer⟩])

/-- What is left of a procedure goes on from what it was told on the way. -/
theorem Procedure.Path.converses {D : Dialogue} {goal : List Exchange → α → Prop} {p q : Procedure α}
    {path told : List Exchange} (h : p.Path path q) (hTold : ∀ x ∈ path, D.told x)
    (hConverses : p.Converses D goal told) : q.Converses D goal (told ++ path) := by
  induction h generalizing told with
  | refl p => rwa [List.append_nil]
  | act answer _ ih => exact ih hTold (hConverses answer)
  | await answer _ ih =>
      obtain ⟨hFirst, hRest⟩ := List.forall_mem_cons.1 hTold
      have hNext := ih hRest (hConverses.2 answer hFirst)
      rwa [List.append_assoc] at hNext

/-- Where anything may be asked, every procedure keeps to the dialogue. -/
theorem Procedure.converses_freely {D : Dialogue} (hAsks : ∀ told wait, D.asks told wait) (p : Procedure α)
    (told : List Exchange) : p.Converses D (fun _ _ => True) told := by
  induction p generalizing told with
  | done a => trivial
  | act action next ih => exact fun answer => ih answer told
  | await wait next ih => exact ⟨hAsks told wait, fun answer _ => ih answer _⟩

namespace Procedure.Converses

variable {D : Dialogue} {told : List Exchange}

theorem mono {p : Procedure α} {goal goal' : List Exchange → α → Prop} (h : p.Converses D goal told)
    (hGoal : ∀ told a, goal told a → goal' told a) : p.Converses D goal' told := by
  induction p generalizing told with
  | done a => exact hGoal told a h
  | act action next ih => exact fun answer => ih answer (h answer)
  | await wait next ih => exact ⟨h.1, fun answer hTold => ih answer (h.2 answer hTold)⟩

/-- What was told before stays told. -/
theorem extending {p : Procedure α} {goal : List Exchange → α → Prop} (h : p.Converses D goal told) :
    p.Converses D (fun told' a => told ⊆ told' ∧ goal told' a) told := by
  induction p generalizing told with
  | done a => exact ⟨List.Subset.refl _, h⟩
  | act action next ih => exact fun answer => ih answer (h answer)
  | await wait next ih =>
      refine ⟨h.1, fun answer hTold => (ih answer (h.2 answer hTold)).mono fun told' a hGoal => ?_⟩
      exact ⟨fun x hx => hGoal.1 (List.mem_append_left _ hx), hGoal.2⟩

theorem bind {p : Procedure α} {f : α → Procedure β} {goal : List Exchange → β → Prop}
    (h : p.Converses D (fun told a => (f a).Converses D goal told) told) :
    (p >>= f).Converses D goal told := by
  induction p generalizing told with
  | done a => exact h
  | act action next ih => exact fun answer => ih answer (h answer)
  | await wait next ih => exact ⟨h.1, fun answer hTold => ih answer (h.2 answer hTold)⟩

theorem map {p : Procedure α} {f : α → β} {goal : List Exchange → β → Prop}
    (h : p.Converses D (fun told a => goal told (f a)) told) : (f <$> p).Converses D goal told :=
  bind h

/-! Operations. -/

theorem bindOperation {op : Operation α} {f : α → Operation β} {goal : List Exchange → Except Error β → Prop}
    (h : op.run.Converses D (fun told result => match result with
      | .ok a => (f a).run.Converses D goal told
      | .error e => goal told (.error e)) told) : (op >>= f).run.Converses D goal told := by
  apply bind
  apply h.mono
  intro told result hResult
  cases result <;> exact hResult

variable {goal : List Exchange → Except Error α → Prop}

theorem afterNote {event : Event} {op : Operation α} (h : op.run.Converses D goal told) :
    (do Operation.note event; op : Operation α).run.Converses D goal told :=
  bindOperation fun _ => h

theorem reject {cause : Cause} (h : goal told (.error cause.toError)) :
    (Operation.reject cause : Operation α).run.Converses D goal told :=
  afterNote h

/-- A computation that fails with a cause or goes on. -/
theorem bindCause {result : Except Cause β} {f : β → Operation α}
    (hError : ∀ cause, result = .error cause → goal told (.error cause.toError))
    (hOk : ∀ b, result = .ok b → (f b).run.Converses D goal told) :
    (Operation.ofCause result >>= f).run.Converses D goal told := by
  cases result with
  | error cause => exact bindOperation (reject (hError cause rfl))
  | ok b => exact hOk b rfl

/-- A call, and what follows its reply. -/
theorem callThen {operation : String} {c : Call} {f : c.Reply → Operation α} (hAsks : D.asks told (.call c))
    (hAbort : ∀ abort, D.told ⟨.call c, .error abort⟩ →
      goal (told ++ [⟨.call c, .error abort⟩]) (.error (Operation.abortError operation abort)))
    (hAnswer : ∀ reply, D.told ⟨.call c, .ok reply⟩ →
      (f reply).run.Converses D goal (told ++ [⟨.call c, .ok reply⟩])) :
    (Operation.call operation c >>= f).run.Converses D goal told := by
  apply bindOperation
  refine ⟨hAsks, fun answer hTold => ?_⟩
  cases answer with
  | error abort => exact hAbort abort hTold
  | ok reply => exact hAnswer reply hTold

theorem attempt {op : Operation α} {goal : List Exchange → Except Error (Except Error α) → Prop}
    (h : op.run.Converses D (fun told result => goal told (.ok result)) told) :
    (Operation.attempt op).run.Converses D goal told :=
  bind h

theorem instrumented {name : String} {op : Operation α} (h : op.run.Converses D goal told) :
    (Controller.instrumented name op).run.Converses D goal told :=
  bind (h.mono fun _ _ hGoal _ => hGoal)

/-- An operation under a lock that may always be asked for. -/
theorem locked {name : LockName} {op : Operation α} (hAsks : ∀ lock, D.asks told (.lock lock))
    (hAbort : ∀ lock abort, goal (told ++ [⟨.lock lock, .error abort⟩])
      (.error (Operation.abortError "AcquireNameLock" abort)))
    (h : ∀ lock, op.run.Converses D goal (told ++ [⟨.lock lock, .ok ()⟩])) :
    (VolumeStore.locked name op).run.Converses D goal told := by
  intro lock
  refine ⟨hAsks lock, fun answer _ => ?_⟩
  cases answer with
  | error abort => exact fun _ _ => hAbort lock abort
  | ok held =>
      have hWork : Procedure.Converses D (fun told result => ∀ _ _ : Unit, goal told result)
          (do
            let result ← op.run
            Procedure.perform (.unlock lock)
            return result : Procedure (Except Error α)) (told ++ [⟨.lock lock, .ok ()⟩]) := by
        apply bind
        apply (h lock).mono
        intro told result hGoal _ _ _
        exact hGoal
      exact bind hWork

end Procedure.Converses

end VolumeController
