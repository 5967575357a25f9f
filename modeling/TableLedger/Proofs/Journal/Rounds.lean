/-
  TableLedger.Proofs.Journal.Rounds — turns that are taken until one fails.

  A pass over a log asks which tables the log names and gives each of them a turn, in
  the order of the answer.  A turn says whether the table is one to be counted; one
  that fails ends the pass, and the tables behind it get no turn.

  What a turn may say and come to is stated once, as a relation.  This file puts the
  turns together: the calls of a pass are those of its turns, so whatever stands in
  front of a call and behind it is told by the turn that the call is from.

  Main statements:
    • `ends_bind`, `ends_bind_of_error` — a part of the journal that ends, and what
      comes after it,
    • `exists_rounds` — a loop over tables is made up of turns, whatever it is answered,
    • `Rounds.exists_turn_of_cut` — every call is made in a turn,
    • `Rounds.exists_turn_of_error` — a pass that fails ends with the turn that fails,
    • `Rounds.related` — what every turn leaves alone, a pass leaves alone.
-/

import TableLedger.Proofs.Session.Bookkeeping
import TableLedger.Proofs.Session.RefusedScript

namespace TableLedger

open Dialogue

/-! ## §1. Transcripts, cut at a call -/

/-- A list of two parts is cut in the first one or in the second one. -/
theorem cut_of_append_eq {γ : Type} {xs ys front back : List γ} {x : γ}
    (h : xs ++ ys = front ++ x :: back) :
    (∃ rest, xs = front ++ x :: rest ∧ back = rest ++ ys)
      ∨ ∃ skipped, front = xs ++ skipped ∧ ys = skipped ++ x :: back := by
  obtain ⟨skipped, hfront, hys⟩ | ⟨here, hxs, hhere⟩ := List.append_eq_append_iff.mp h
  · exact .inr ⟨skipped, hfront, hys⟩
  · cases here with
    | nil => exact .inr ⟨[], by rw [hxs, List.append_nil, List.append_nil], hhere.symm⟩
    | cons first rest =>
      obtain ⟨rfl, rfl⟩ := List.cons.inj hhere
      exact .inl ⟨rest, hxs, rfl⟩

section

variable {r : TableRef} {found : Except StatementError Bool} {s sent last : Statement}
  {answer came ended : Except StatementError QueryResult} {before behind : List Exchange}

/-- Behind a lookup, what is cut at a statement is the rest. -/
theorem exists_of_cut_behind_lookup {calls : List Exchange}
    (h : before ++ .executed s answer :: behind = .lookedUp r found :: calls) :
    ∃ front, before = .lookedUp r found :: front
      ∧ front ++ .executed s answer :: behind = calls := by
  cases before with
  | nil => exact absurd (List.cons.inj h).1 nofun
  | cons first front =>
    obtain ⟨rfl, hrest⟩ := List.cons.inj h
    exact ⟨front, rfl, hrest⟩

/-- One statement behind a lookup. -/
theorem cut_at_executed_iff :
    before ++ .executed s answer :: behind = [.lookedUp r found, .executed sent came]
      ↔ before = [.lookedUp r found] ∧ s = sent ∧ answer = came ∧ behind = [] := by
  constructor
  · intro h
    obtain ⟨front, rfl, hrest⟩ := exists_of_cut_behind_lookup h
    obtain ⟨rfl, hsent⟩ | ⟨rest, -, hrest⟩ := List.append_eq_cons_iff.mp hrest
    · simpa [and_assoc] using hsent
    · simp at hrest
  · rintro ⟨rfl, rfl, rfl, rfl⟩
    rfl

/-- Two statements behind a lookup. -/
theorem cut_at_executed_twice_iff :
    before ++ .executed s answer :: behind
        = [.lookedUp r found, .executed sent came, .executed last ended]
      ↔ (before = [.lookedUp r found] ∧ s = sent ∧ answer = came
          ∧ behind = [.executed last ended])
        ∨ before = [.lookedUp r found, .executed sent came] ∧ s = last ∧ answer = ended
          ∧ behind = [] := by
  constructor
  · intro h
    obtain ⟨front, rfl, hrest⟩ := exists_of_cut_behind_lookup h
    obtain ⟨rfl, hsent⟩ | ⟨others, rfl, hothers⟩ := List.append_eq_cons_iff.mp hrest
    · exact .inl (by simpa [and_assoc] using hsent)
    · -- the cut is at the last call
      obtain ⟨rfl, hlast⟩ | ⟨rest, -, hrest⟩ := List.append_eq_cons_iff.mp hothers.symm
      · exact .inr (by simpa [and_assoc] using hlast)
      · simp at hrest
  · rintro (⟨rfl, rfl, rfl, rfl⟩ | ⟨rfl, rfl, rfl, rfl⟩)
    · rfl
    · rfl

end

namespace Journal

variable {α β σ : Type} {db : Database σ} {state middle final : σ} {said more : List Exchange}

/-! ## §2. Parts of the journal that end -/

section

variable {x : JournalDialogue α} {f : α → JournalDialogue β}

/-- What comes after a part that succeeded goes on where it ended. -/
theorem ends_bind {a : α} {result : Except JournalError β}
    (hx : x.run.Ends db state (.ok a) middle said)
    (hf : (f a).run.Ends db middle result final more) :
    (x >>= f).run.Ends db state result final (said ++ more) :=
  Ends.bind hx hf

/-- A part of the journal behind which nothing more is said. -/
theorem ends_bind_pure {a : α} {b : β} (hx : x.run.Ends db state (.ok a) final said)
    (hf : f a = pure b) : (x >>= f).run.Ends db state (.ok b) final said :=
  Ends.bind_pure hx (hf ▸ rfl)

/-- Nothing comes after a part that failed. -/
theorem ends_bind_of_error {e : JournalError} (hx : x.run.Ends db state (.error e) final said) :
    (x >>= f).run.Ends db state (.error e) final said :=
  Ends.bind_pure hx rfl

end

/-- What comes after a call goes on with its answer. -/
theorem ends_lift_bind {x : Dialogue α} {f : α → JournalDialogue β} {a : α}
    {result : Except JournalError β} (hx : x.Ends db state a middle said)
    (hf : (f a).run.Ends db middle result final more) :
    ((liftM x : JournalDialogue α) >>= f).run.Ends db state result final (said ++ more) :=
  ends_bind (Ends.bind_pure hx rfl) hf

/-! ## §3. Single calls -/

variable (j : Journal)

/-- What a command on the log of a schema is sent as. -/
def sent (schema : Text) (command : LogCommand) : Statement :=
  command.statement j.dialect schema j.logName

section

variable {j} {schema : Text} {command : LogCommand} {r : TableRef}

/-- A lookup with a known answer. -/
theorem ends_lookingUp_of_eq {answered : Except StatementError Bool}
    (h : db.lookUp r state = (answered, final)) :
    (lookingUp r).Ends db state answered final [.lookedUp r answered] := by
  have hends := ends_lookingUp db r state
  rwa [h] at hends

/-- A statement with a known answer. -/
theorem ends_executing_of_eq {s : Statement} {answered : Except StatementError QueryResult}
    (h : db.execute s state = (answered, final)) :
    (executing s).Ends db state answered final [.executed s answered] := by
  have hends := ends_executing db s state
  rwa [h] at hends

theorem ends_answer (db : Database σ) (schema : Text) (operation : JournalOperation)
    (answered : Except StatementError α) (state : σ) :
    (answer schema operation answered).run.Ends db state
      (answered.mapError (⟨schema, operation, ·⟩)) state [] := by
  cases answered with
  | ok a => exact ends_pure db _ state
  | error e => exact ends_pure db _ state

/-- Looking for a log ends in the answer, or fails as a lookup. -/
theorem ends_logExists {answered : Except StatementError Bool}
    (h : db.lookUp (j.log schema) state = (answered, final)) :
    (j.logExists schema).run.Ends db state (answered.mapError (⟨schema, .lookup, ·⟩)) final
      [.lookedUp (j.log schema) answered] :=
  ends_lift_bind (ends_lookingUp_of_eq h) (ends_answer db _ _ _ _)

/-- A command ends in the answer, or fails as the operation that it is. -/
theorem ends_perform {answered : Except StatementError QueryResult}
    (h : db.execute (j.sent schema command) state = (answered, final)) :
    (j.perform schema command).run.Ends db state
      (answered.mapError (⟨schema, command.operation, ·⟩)) final
      [.executed (j.sent schema command) answered] :=
  ends_lift_bind (ends_executing_of_eq h) (ends_answer db _ _ _ _)

/-- So it does if the answer is not looked at. -/
theorem ends_discard_perform {answered : Except StatementError QueryResult}
    (h : db.execute (j.sent schema command) state = (answered, final)) :
    (discard (j.perform schema command)).run.Ends db state
      ((answered.mapError (⟨schema, command.operation, ·⟩)).map fun _ => ()) final
      [.executed (j.sent schema command) answered] := by
  cases answered with
  | ok rows => exact ends_bind_pure (ends_perform h) rfl
  | error e => exact ends_bind_of_error (ends_perform h)

/-- The tables that an answer names. -/
theorem ends_loggedTables {answered : Except StatementError QueryResult}
    (h : db.execute (j.sent schema command) state = (answered, final)) :
    (j.loggedTables schema command).run.Ends db state
      ((answered.mapError (⟨schema, command.operation, ·⟩)).map
        (·.columnTexts Catalog.tableNameColumn)) final
      [.executed (j.sent schema command) answered] := by
  cases answered with
  | ok rows => exact ends_bind_pure (ends_perform h) rfl
  | error e => exact ends_bind_of_error (ends_perform h)

end

/-! ## §4. Turns -/

/-- What the turn of a table may be: the database before it, what it comes to, the
    database after it, and what is said in it. -/
abbrev Turn (σ : Type) : Type :=
  Text → σ → Except JournalError Bool → σ → List Exchange → Prop

/-- Turns that are taken one after the other, until one of them fails.  They come to
    the number of those that count. -/
inductive Rounds (turn : Turn σ) :
    List Text → σ → Except JournalError Nat → σ → List Exchange → Prop where
  | done (state : σ) : Rounds turn [] state (.ok 0) state []
  | next {name : Text} {rest : List Text} {state middle final : σ} {counts : Bool}
      {result : Except JournalError Nat} {said more : List Exchange}
      (hturn : turn name state (.ok counts) middle said)
      (hrest : Rounds turn rest middle result final more) :
      Rounds turn (name :: rest) state (result.map ((if counts then 1 else 0) + ·)) final
        (said ++ more)
  | stop {name : Text} {rest : List Text} {state final : σ} {e : JournalError}
      {said : List Exchange} (hturn : turn name state (.error e) final said) :
      Rounds turn (name :: rest) state (.error e) final said

variable {turn : Turn σ}

/-- A loop over tables is made up of turns, whatever it is answered. -/
theorem exists_rounds {step : Text → JournalDialogue Bool}
    {loop : List Text → JournalDialogue Nat} (hnil : loop [] = pure 0)
    (hcons : ∀ name rest, loop (name :: rest) = do
      let counts ← step name
      let others ← loop rest
      return (if counts then 1 else 0) + others)
    (hstep : ∀ name state, ∃ result after said,
      (step name).run.Ends db state result after said ∧ turn name state result after said)
    (names : List Text) (state : σ) :
    ∃ result final said, (loop names).run.Ends db state result final said
      ∧ Rounds turn names state result final said := by
  induction names generalizing state with
  | nil => exact ⟨.ok 0, state, [], hnil ▸ ends_pure db _ state, .done state⟩
  | cons name rest ih =>
    obtain ⟨result, middle, said, hends, hturn⟩ := hstep name state
    rw [hcons]
    cases result with
    | error e => exact ⟨.error e, middle, said, ends_bind_of_error hends, .stop hturn⟩
    | ok counts =>
      -- the turns behind start from the database that this one leaves
      obtain ⟨result, final, more, hrest, hrounds⟩ := ih middle
      refine ⟨_, final, said ++ more, ends_bind hends ?_, .next hturn hrounds⟩
      cases result with
      | error e => exact ends_bind_of_error hrest
      | ok count => exact ends_bind_pure hrest rfl

namespace Rounds

variable {names : List Text} {result : Except JournalError Nat}

/-- Every call is made in the turn of one of the tables, and what stands in front of it
    and behind it in the turn stands there in the pass. -/
theorem exists_turn_of_cut {front back : List Exchange} {call : Exchange}
    (h : Rounds turn names state result final said) (hcut : said = front ++ call :: back) :
    ∃ name ∈ names, ∃ (found left : σ) (came : Except JournalError Bool)
        (earlier later before behind : List Exchange),
      turn name found came left (before ++ call :: behind)
        ∧ front = earlier ++ before ∧ back = behind ++ later := by
  induction h generalizing front with
  | done => exact absurd hcut (by simp)
  | @next name rest _ _ _ _ _ said more hturn hrest ih =>
    obtain ⟨later, rfl, rfl⟩ | ⟨skipped, rfl, hmore⟩ := cut_of_append_eq hcut
    · exact ⟨name, List.mem_cons_self, _, _, _, [], more, front, later, hturn, rfl, rfl⟩
    · -- the call is made in a later turn
      obtain ⟨name, hname, found, left, came, earlier, later, before, behind, hturn, rfl, rfl⟩ :=
        ih hmore
      exact ⟨name, List.mem_cons_of_mem _ hname, found, left, came, said ++ earlier, later, before,
        behind, hturn, (List.append_assoc _ _ _).symm, rfl⟩
  | stop hturn =>
    subst hcut
    exact ⟨_, List.mem_cons_self, _, _, _, [], [], front, back, hturn, rfl,
      (List.append_nil _).symm⟩

/-- A pass that fails ends with a turn that fails. -/
theorem exists_turn_of_error {e : JournalError}
    (h : Rounds turn names state (.error e) final said) :
    ∃ name ∈ names, ∃ (found : σ) (earlier last : List Exchange),
      turn name found (.error e) final last ∧ said = earlier ++ last := by
  generalize hresult : Except.error e = result at h
  induction h with
  | done => injection hresult
  | @next name rest _ _ _ _ result said more hturn hrest ih =>
    cases result with
    | ok count => injection hresult
    | error other =>
      -- this turn is not the last one, so it comes earlier
      obtain ⟨name, hname, found, earlier, last, hlast, rfl⟩ := ih hresult
      exact ⟨name, List.mem_cons_of_mem _ hname, found, said ++ earlier, last, hlast,
        (List.append_assoc _ _ _).symm⟩
  | @stop name rest _ _ other said hturn =>
    injection hresult with hsame
    exact ⟨name, List.mem_cons_self, _, [], said, hsame ▸ hturn, rfl⟩

/-- What every turn that does not fail says once, a pass that does not fail says once for
    every table, in order. -/
theorem filterMap_eq_map {f : Exchange → Option β} {g : Text → β}
    (hturn : ∀ {name state counts after said}, turn name state (.ok counts) after said →
      said.filterMap f = [g name])
    {count : Nat} (h : Rounds turn names state (.ok count) final said) :
    said.filterMap f = names.map g := by
  generalize hresult : Except.ok count = result at h
  induction h generalizing count with
  | done => rfl
  | @next name rest _ _ _ _ result said more hfirst hrest ih =>
    cases result with
    | error e => injection hresult
    | ok others => rw [List.filterMap_append, hturn hfirst, ih rfl, List.map_cons,
        List.singleton_append]
  | stop => injection hresult

/-- What every turn relates the database before it and after it by, a pass does. -/
theorem related {relates : σ → σ → Prop} (hrefl : ∀ state, relates state state)
    (htrans : ∀ {a b c}, relates a b → relates b c → relates a c)
    (hturn : ∀ {name state result after said}, turn name state result after said →
      relates state after)
    (h : Rounds turn names state result final said) : relates state final := by
  induction h with
  | done state => exact hrefl state
  | next hfirst _ ih => exact htrans (hturn hfirst) ih
  | stop hlast => exact hturn hlast

end Rounds

end Journal

end TableLedger
