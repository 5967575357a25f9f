/-
  TableLedger.Proofs.Dialogue — reasoning about dialogues.

  `x.Ensures conduct post` says of a dialogue, whatever it is answered,
  that it keeps to a conduct (which statements it may execute, and whether
  it may break off) and that `post` holds of the value it ends with.  It
  goes through sequencing (`ensures_bind`), and a run of such a dialogue
  keeps what every statement of the conduct keeps.

  Main statements:
    • `run_bind` — a run of two dialogues in sequence,
    • `Ensures.run` — what a run against any database leaves true,
    • `Ensures.run_ok` — a run that may not break off ends in a value,
    • `throughout_bind`, `Ensures.throughout` — what is true of every state that
      a run comes through.
-/

import TableLedger.Dialogue

namespace TableLedger.Dialogue

variable {α β σ : Type}

/-! ## §1. Runs in sequence -/

@[simp] theorem run_pure (db : Database σ) (a : α) (state : σ) :
    (pure a : Dialogue α).run db state = (.ok a, state) := rfl

/-- The second dialogue runs where the first one ended, unless that broke off. -/
theorem run_bind (db : Database σ) (x : Dialogue α) (f : α → Dialogue β) (state : σ) :
    (x >>= f).run db state =
      match x.run db state with
      | (.ok a, after) => (f a).run db after
      | (.error fault, after) => (.error fault, after) := by
  show (x.bind f).run db state = _
  induction x generalizing state with
  | done a => rfl
  | fail fault => rfl
  | execute s next ih => exact ih _ _
  | lookUp t next ih => exact ih _ _
  | askSchema next ih => exact ih _ _
  | readClock next ih => exact ih _ _

/-- The second dialogue begins where the first one ended well. -/
theorem run_bind_of_ok {db : Database σ} {x : Dialogue α} {f : α → Dialogue β} {state after : σ}
    {a : α} (h : x.run db state = (.ok a, after)) :
    (x >>= f).run db state = (f a).run db after := by
  rw [run_bind, h]

/-- A sequence that ends in a value went through a value of its first part. -/
theorem run_bind_eq_ok {db : Database σ} {x : Dialogue α} {f : α → Dialogue β} {state final : σ}
    {b : β} (h : (x >>= f).run db state = (.ok b, final)) :
    ∃ a after, x.run db state = (.ok a, after) ∧ (f a).run db after = (.ok b, final) := by
  rw [run_bind] at h
  split at h
  · next a after hx => exact ⟨a, after, hx, h⟩
  · simp at h

/-- A sequence breaks off where its first part does, or its second part behind it. -/
theorem run_bind_eq_error_iff {db : Database σ} {x : Dialogue α} {f : α → Dialogue β} {state : σ}
    {fault : Fault} :
    ((x >>= f).run db state).1 = .error fault
      ↔ (x.run db state).1 = .error fault
        ∨ ∃ a after, x.run db state = (.ok a, after) ∧ ((f a).run db after).1 = .error fault := by
  rw [run_bind]
  obtain ⟨ended, after⟩ := x.run db state
  cases ended with
  | ok a =>
    refine ⟨fun h => .inr ⟨a, after, rfl, h⟩, ?_⟩
    rintro (h | ⟨b, other, heq, h⟩)
    · exact nomatch h
    · cases heq
      exact h
  | error broken =>
    have hsame : (.error broken : Except Fault β) = .error fault
        ↔ (.error broken : Except Fault α) = .error fault := by simp
    refine hsame.trans ⟨.inl, ?_⟩
    rintro (h | ⟨b, other, heq, -⟩)
    · exact h
    · exact nomatch heq

/-- To throw the value away hides no fault. -/
theorem run_discard_eq_error_iff {db : Database σ} {x : Dialogue α} {state : σ} {fault : Fault} :
    ((discard x).run db state).1 = .error fault ↔ (x.run db state).1 = .error fault := by
  show ((x >>= fun _ => pure ()).run db state).1 = _ ↔ _
  rw [run_bind_eq_error_iff]
  simp

/-- A run that does not break off ends in a value. -/
theorem exists_run_eq_ok_iff {db : Database σ} {x : Dialogue α} {state : σ} :
    (∃ a after, x.run db state = (.ok a, after)) ↔ ∀ fault, (x.run db state).1 ≠ .error fault := by
  obtain ⟨ended, after⟩ := x.run db state
  cases ended <;> simp

/-- A dialogue that was evaluated to a value ran to it. -/
theorem run_eq_of_toOption_eq {db : Database σ} {x : Dialogue α} {state : σ} {a : α}
    (h : (x.run db state).1.toOption = some a) : x.run db state = (.ok a, (x.run db state).2) := by
  refine Prod.ext ?_ rfl
  cases hended : (x.run db state).1 with
  | error fault => simp [hended, Except.toOption] at h
  | ok b =>
    rw [hended] at h
    rw [show b = a from Option.some.inj h]

@[simp] theorem run_executing (db : Database σ) (s : Statement) (state : σ) :
    (executing s).run db state = (.ok (db.execute s state).1, (db.execute s state).2) := rfl

@[simp] theorem run_lookingUp (db : Database σ) (t : TableRef) (state : σ) :
    (lookingUp t).run db state = (.ok (db.lookUp t state).1, (db.lookUp t state).2) := rfl

/-! ## §2. What a dialogue ensures -/

/-- What a dialogue may do. -/
structure Conduct where
  /-- Statements that it may execute. -/
  statements : Statement → Prop
  /-- Whether it may break off. -/
  faults : Prop

/-- The dialogue keeps to a conduct, and `post` holds of the value at the end,
    whatever the answers are. -/
def Ensures (conduct : Conduct) (post : α → Prop) : Dialogue α → Prop
  | done a => post a
  | fail _ => conduct.faults
  | execute s next => conduct.statements s ∧ ∀ answer, (next answer).Ensures conduct post
  | lookUp _ next => ∀ answer, (next answer).Ensures conduct post
  | askSchema next => ∀ answer, (next answer).Ensures conduct post
  | readClock next => ∀ time, (next time).Ensures conduct post

variable {conduct : Conduct} {post : α → Prop} {final : β → Prop}

theorem ensures_pure {a : α} (h : post a) : (pure a : Dialogue α).Ensures conduct post := h

/-- A dialogue keeps to a conduct if its parts do. -/
theorem ensures_bind {x : Dialogue α} {f : α → Dialogue β} (hx : x.Ensures conduct post)
    (hf : ∀ a, post a → (f a).Ensures conduct final) : (x >>= f).Ensures conduct final := by
  show (x.bind f).Ensures conduct final
  induction x with
  | done a => exact hf a hx
  | fail fault => exact hx
  | execute s next ih => exact ⟨hx.1, fun answer => ih answer (hx.2 answer)⟩
  | lookUp t next ih => exact fun answer => ih answer (hx answer)
  | askSchema next ih => exact fun answer => ih answer (hx answer)
  | readClock next ih => exact fun time => ih time (hx time)

/-- A dialogue that keeps to a conduct keeps to a wider one. -/
theorem Ensures.mono {x : Dialogue α} {wider : Conduct} (hx : x.Ensures conduct post)
    (hstatements : ∀ s, conduct.statements s → wider.statements s)
    (hfaults : conduct.faults → wider.faults) : x.Ensures wider post := by
  induction x with
  | done a => exact hx
  | fail fault => exact hfaults hx
  | execute s next ih => exact ⟨hstatements s hx.1, fun answer => ih answer (hx.2 answer)⟩
  | lookUp t next ih => exact fun answer => ih answer (hx answer)
  | askSchema next ih => exact fun answer => ih answer (hx answer)
  | readClock next ih => exact fun time => ih time (hx time)

/-- A single statement keeps to a conduct that allows it. -/
theorem ensures_executing {s : Statement} (h : conduct.statements s) :
    (executing s).Ensures conduct fun _ => True := ⟨h, fun _ => trivial⟩

theorem ensures_lookingUp (t : TableRef) : (lookingUp t).Ensures conduct fun _ => True :=
  fun _ => trivial

theorem ensures_askingSchema : askingSchema.Ensures conduct fun _ => True := fun _ => trivial

theorem ensures_readingClock : readingClock.Ensures conduct fun _ => True := fun _ => trivial

theorem ensures_discard {x : Dialogue α} (hx : x.Ensures conduct fun _ => True) :
    (discard x).Ensures conduct fun _ => True :=
  ensures_bind hx fun _ _ => ensures_pure trivial

/-! ## §3. What a run leaves true -/

/-- A property of the states of a database that the given statements, and every
    call that is no statement, leave true. -/
structure Kept (db : Database σ) (statements : Statement → Prop) (holds : σ → Prop) : Prop where
  execute : ∀ s state, statements s → holds state → holds (db.execute s state).2
  lookUp : ∀ t state, holds state → holds (db.lookUp t state).2
  askSchema : ∀ state, holds state → holds (db.askSchema state).2
  readClock : ∀ state, holds state → holds (db.readClock state).2

/-- A run of a dialogue keeps what its statements keep, and the value it ends
    with is as ensured. -/
theorem Ensures.run {db : Database σ} {holds : σ → Prop} (hkept : Kept db conduct.statements holds)
    {x : Dialogue α} {state : σ} (hx : x.Ensures conduct post) (hs : holds state) :
    holds (x.run db state).2 ∧ ∀ a, (x.run db state).1 = .ok a → post a := by
  induction x generalizing state with
  | done a =>
    refine ⟨hs, fun b hb => ?_⟩
    injection hb with hb
    exact hb ▸ hx
  | fail fault => exact ⟨hs, fun b hb => by simp [Dialogue.run] at hb⟩
  | execute s next ih => exact ih _ (hx.2 _) (hkept.execute s state hx.1 hs)
  | lookUp t next ih => exact ih _ (hx _) (hkept.lookUp t state hs)
  | askSchema next ih => exact ih _ (hx _) (hkept.askSchema state hs)
  | readClock next ih => exact ih _ (hx _) (hkept.readClock state hs)

/-- A dialogue that may not break off runs to a value. -/
theorem Ensures.run_ok {db : Database σ} {x : Dialogue α} (hx : x.Ensures conduct post)
    (hfaults : ¬conduct.faults) (state : σ) : ∃ a, (x.run db state).1 = .ok a := by
  induction x generalizing state with
  | done a => exact ⟨a, rfl⟩
  | fail fault => exact absurd hx hfaults
  | execute s next ih => exact ih _ (hx.2 _) _
  | lookUp t next ih => exact ih _ (hx _) _
  | askSchema next ih => exact ih _ (hx _) _
  | readClock next ih => exact ih _ (hx _) _

/-- The value that a run ends with is as ensured. -/
theorem Ensures.of_run_eq {db : Database σ} {x : Dialogue α} {state after : σ} {a : α}
    (hx : x.Ensures conduct post) (hrun : x.run db state = (.ok a, after)) : post a := by
  have hkept : Kept db conduct.statements fun _ => True :=
    ⟨fun _ _ _ _ => trivial, fun _ _ _ => trivial, fun _ _ => trivial, fun _ _ => trivial⟩
  exact (Ensures.run hkept hx trivial).2 a (by rw [hrun])

/-! ## §4. Every state of a run -/

/-- Every state that a run comes through is as `holds` says, from the one it starts
    in to the one it leaves behind, whether it ends in a value or breaks off. -/
def Throughout (db : Database σ) (holds : σ → Prop) : Dialogue α → σ → Prop
  | done _, state => holds state
  | fail _, state => holds state
  | execute s next, state =>
    holds state
      ∧ (next (db.execute s state).1).Throughout db holds (db.execute s state).2
  | lookUp t next, state =>
    holds state ∧ (next (db.lookUp t state).1).Throughout db holds (db.lookUp t state).2
  | askSchema next, state =>
    holds state ∧ (next (db.askSchema state).1).Throughout db holds (db.askSchema state).2
  | readClock next, state =>
    holds state ∧ (next (db.readClock state).1).Throughout db holds (db.readClock state).2

section Throughout

variable {db : Database σ} {holds : σ → Prop} {state : σ}

theorem throughout_pure {a : α} (h : holds state) :
    (pure a : Dialogue α).Throughout db holds state := h

/-- What holds before a single statement and after it holds throughout. -/
theorem throughout_executing {s : Statement} (h : holds state)
    (hafter : holds (db.execute s state).2) : (executing s).Throughout db holds state :=
  ⟨h, hafter⟩

/-- The second dialogue starts where the first one ended. -/
theorem throughout_bind {x : Dialogue α} {f : α → Dialogue β} (hx : x.Throughout db holds state)
    (hf : ∀ a after, x.run db state = (.ok a, after) → holds after →
      (f a).Throughout db holds after) :
    (x >>= f).Throughout db holds state := by
  show (x.bind f).Throughout db holds state
  induction x generalizing state with
  | done a => exact hf a state rfl hx
  | fail fault => exact hx
  | execute s next ih => exact ⟨hx.1, ih _ hx.2 hf⟩
  | lookUp t next ih => exact ⟨hx.1, ih _ hx.2 hf⟩
  | askSchema next ih => exact ⟨hx.1, ih _ hx.2 hf⟩
  | readClock next ih => exact ⟨hx.1, ih _ hx.2 hf⟩

theorem throughout_discard {x : Dialogue α} (hx : x.Throughout db holds state) :
    (discard x).Throughout db holds state :=
  throughout_bind hx fun _ _ _ hlast => throughout_pure hlast

/-- The last state of a run is one of those it comes through. -/
theorem Throughout.run {x : Dialogue α} (hx : x.Throughout db holds state) :
    holds (x.run db state).2 := by
  induction x generalizing state with
  | done a => exact hx
  | fail fault => exact hx
  | execute s next ih => exact ih _ hx.2
  | lookUp t next ih => exact ih _ hx.2
  | askSchema next ih => exact ih _ hx.2
  | readClock next ih => exact ih _ hx.2

/-- A dialogue comes through states of which holds what every statement of its
    conduct keeps. -/
theorem Ensures.throughout {x : Dialogue α} (hx : x.Ensures conduct post)
    (hkept : Kept db conduct.statements holds) (h : holds state) :
    x.Throughout db holds state := by
  induction x generalizing state with
  | done a => exact h
  | fail fault => exact h
  | execute s next ih => exact ⟨h, ih _ (hx.2 _) (hkept.execute s state hx.1 h)⟩
  | lookUp t next ih => exact ⟨h, ih _ (hx _) (hkept.lookUp t state h)⟩
  | askSchema next ih => exact ⟨h, ih _ (hx _) (hkept.askSchema state h)⟩
  | readClock next ih => exact ⟨h, ih _ (hx _) (hkept.readClock state h)⟩

end Throughout

end TableLedger.Dialogue
