/-
  TableLedger.Proofs.Transcript — what a dialogue and a database say to each other.

  The transcript of a run lists the calls of the dialogue with the answers that
  they got, in order.  A statement may be allowed only after something else was
  said: `x.Heeds rule post said` says of a dialogue, whatever it is answered, that
  it keeps to the conduct that the rule asks for after everything that was said
  before, by itself or earlier.

  Many dialogues go through a list and do the same with each member; then a stage
  is a member together with the database as its turn finds it, and each stage
  starts from where the one before it ended.  What is known of a single stage is
  put together over the stages.

  Main statements:
    • `transcript_bind` — the transcript of two dialogues in sequence,
    • `Ends.bind` — so are their ends, with all that was said by then,
    • `Ensures.statements_of_mem_transcript` — what is said is as ensured,
    • `Heeds.statements_of_transcript_eq` — and every statement is allowed after
      what was said before it,
    • `map_item_stages` — every member of a list has its turn, in order,
    • `run_of_mem_stages` — what no turn brings about and is there at the end was
      there after every turn.
-/

import TableLedger.Proofs.Dialogue

namespace TableLedger

/-! ## §1. Transcripts -/

/-- A call of a dialogue, with the answer that it got. -/
inductive Exchange where
  | executed (statement : Statement) (answer : Except StatementError QueryResult)
  | lookedUp (table : TableRef) (answer : Except StatementError Bool)
  | askedSchema (answer : Except StatementError Text)
  | readClock (time : Timestamp)

/-- Whether a statement was executed. -/
def Exchange.executes (s : Statement) : Exchange → Bool
  | executed sent _ => sent == s
  | _ => false

/-- A statement that was executed has got an answer. -/
theorem Exchange.eq_executed_of_executes {s : Statement} {e : Exchange}
    (h : e.executes s = true) : ∃ answer, e = .executed s answer := by
  cases e with
  | executed sent answer => exact ⟨answer, by rw [eq_of_beq h]⟩
  | lookedUp | askedSchema | readClock => exact absurd h Bool.false_ne_true

namespace Dialogue

variable {α β σ : Type}

/-- The calls of a run with their answers, in order. -/
def transcript (db : Database σ) : Dialogue α → σ → List Exchange
  | done _, _ => []
  | fail _, _ => []
  | execute s next, state =>
    let answered := db.execute s state
    .executed s answered.1 :: (next answered.1).transcript db answered.2
  | lookUp t next, state =>
    let answered := db.lookUp t state
    .lookedUp t answered.1 :: (next answered.1).transcript db answered.2
  | askSchema next, state =>
    let answered := db.askSchema state
    .askedSchema answered.1 :: (next answered.1).transcript db answered.2
  | readClock next, state =>
    let read := db.readClock state
    .readClock read.1 :: (next read.1).transcript db read.2

@[simp] theorem transcript_pure (db : Database σ) (a : α) (state : σ) :
    (pure a : Dialogue α).transcript db state = [] := rfl

@[simp] theorem transcript_executing (db : Database σ) (s : Statement) (state : σ) :
    (executing s).transcript db state = [.executed s (db.execute s state).1] := rfl

/-- The second dialogue goes on where the first one ended, unless that broke off. -/
theorem transcript_bind (db : Database σ) (x : Dialogue α) (f : α → Dialogue β) (state : σ) :
    (x >>= f).transcript db state =
      x.transcript db state ++
        match x.run db state with
        | (.ok a, after) => (f a).transcript db after
        | (.error _, _) => [] := by
  show (x.bind f).transcript db state = _
  induction x generalizing state with
  | done a => rfl
  | fail fault => rfl
  | execute s next ih => exact congrArg (Exchange.executed s _ :: ·) (ih _ _)
  | lookUp t next ih => exact congrArg (Exchange.lookedUp t _ :: ·) (ih _ _)
  | askSchema next ih => exact congrArg (Exchange.askedSchema _ :: ·) (ih _ _)
  | readClock next ih => exact congrArg (Exchange.readClock _ :: ·) (ih _ _)

/-- What the first dialogue says is said. -/
theorem mem_transcript_bind {db : Database σ} {x : Dialogue α} {f : α → Dialogue β} {state : σ}
    {e : Exchange} (h : e ∈ x.transcript db state) : e ∈ (x >>= f).transcript db state := by
  rw [transcript_bind]
  exact List.mem_append_left _ h

/-- The second dialogue goes on with the value that the first one came to. -/
theorem transcript_bind_of_ok {db : Database σ} {x : Dialogue α} {f : α → Dialogue β}
    {state after : σ} {a : α} (h : x.run db state = (.ok a, after)) :
    (x >>= f).transcript db state = x.transcript db state ++ (f a).transcript db after := by
  rw [transcript_bind, h]

/-- A dialogue that keeps to a conduct executes statements of the conduct only. -/
theorem Ensures.statements_of_mem_transcript {conduct : Conduct} {post : α → Prop}
    {db : Database σ} {x : Dialogue α} {state : σ} {s : Statement}
    {answer : Except StatementError QueryResult} (hx : x.Ensures conduct post)
    (hmem : .executed s answer ∈ x.transcript db state) : conduct.statements s := by
  induction x generalizing state with
  | done a => exact absurd hmem List.not_mem_nil
  | fail fault => exact absurd hmem List.not_mem_nil
  | execute sent next ih =>
    obtain hhere | hlater := List.mem_cons.mp hmem
    · injection hhere with hsent
      exact hsent ▸ hx.1
    · exact ih _ (hx.2 _) hlater
  | lookUp t next ih =>
    obtain hhere | hlater := List.mem_cons.mp hmem
    · injection hhere
    · exact ih _ (hx _) hlater
  | askSchema next ih =>
    obtain hhere | hlater := List.mem_cons.mp hmem
    · injection hhere
    · exact ih _ (hx _) hlater
  | readClock next ih =>
    obtain hhere | hlater := List.mem_cons.mp hmem
    · injection hhere
    · exact ih _ (hx _) hlater

/-! ## §2. Runs with their transcripts -/

/-- A run that comes to its end: the value, the database after it, and all that
    was said by then. -/
structure Ends (db : Database σ) (x : Dialogue α) (state : σ) (a : α) (after : σ)
    (said : List Exchange) : Prop where
  run : x.run db state = (.ok a, after)
  transcript : x.transcript db state = said

section Ends

variable {db : Database σ} {state middle final : σ} {said more : List Exchange}

theorem ends_pure (db : Database σ) (a : α) (state : σ) :
    (pure a : Dialogue α).Ends db state a state [] :=
  ⟨run_pure db a state, transcript_pure db a state⟩

/-- A single statement comes to its answer. -/
theorem ends_executing (db : Database σ) (s : Statement) (state : σ) :
    (executing s).Ends db state (db.execute s state).1 (db.execute s state).2
      [.executed s (db.execute s state).1] :=
  ⟨run_executing db s state, transcript_executing db s state⟩

theorem ends_lookingUp (db : Database σ) (r : TableRef) (state : σ) :
    (lookingUp r).Ends db state (db.lookUp r state).1 (db.lookUp r state).2
      [.lookedUp r (db.lookUp r state).1] :=
  ⟨run_lookingUp db r state, rfl⟩

/-- Two dialogues in sequence come to their end if both do. -/
theorem Ends.bind {x : Dialogue α} {f : α → Dialogue β} {a : α} {b : β}
    (hx : x.Ends db state a middle said) (hf : (f a).Ends db middle b final more) :
    (x >>= f).Ends db state b final (said ++ more) := by
  refine ⟨?_, ?_⟩
  · rw [run_bind_of_ok hx.run, hf.run]
  · rw [transcript_bind_of_ok hx.run, hx.transcript, hf.transcript]

/-- A dialogue behind which nothing more is said. -/
theorem Ends.bind_pure {x : Dialogue α} {f : α → Dialogue β} {a : α} {b : β}
    (hx : x.Ends db state a middle said) (hf : f a = pure b) :
    (x >>= f).Ends db state b middle said := by
  have hboth := hx.bind (f := f) (hf ▸ ends_pure db b middle)
  rwa [List.append_nil] at hboth

end Ends

/-! ## §3. Rules -/

/-- The conduct that is asked for after what was said. -/
abbrev Rule := List Exchange → Conduct

/-- The dialogue, which begins when `said` was said, heeds a rule, and `post` holds
    of the value at the end and of all that was said by then, whatever the answers
    are. -/
def Heeds (rule : Rule) (post : α → List Exchange → Prop) : Dialogue α → List Exchange → Prop
  | done a, said => post a said
  | fail _, said => (rule said).faults
  | execute s next, said =>
    (rule said).statements s
      ∧ ∀ answer, (next answer).Heeds rule post (said ++ [.executed s answer])
  | lookUp t next, said => ∀ answer, (next answer).Heeds rule post (said ++ [.lookedUp t answer])
  | askSchema next, said => ∀ answer, (next answer).Heeds rule post (said ++ [.askedSchema answer])
  | readClock next, said => ∀ time, (next time).Heeds rule post (said ++ [.readClock time])

section Heeds

variable {rule : Rule} {post : α → List Exchange → Prop} {final : β → List Exchange → Prop}
  {said : List Exchange} {conduct : Conduct}

theorem heeds_pure {a : α} (h : post a said) : (pure a : Dialogue α).Heeds rule post said := h

/-- The second dialogue begins when more was said. -/
theorem heeds_bind {x : Dialogue α} {f : α → Dialogue β} (hx : x.Heeds rule post said)
    (hf : ∀ a later, said <+: later → post a later → (f a).Heeds rule final later) :
    (x >>= f).Heeds rule final said := by
  show (x.bind f).Heeds rule final said
  induction x generalizing said with
  | done a => exact hf a said List.prefix_rfl hx
  | fail fault => exact hx
  | execute s next ih =>
    exact ⟨hx.1, fun answer => ih answer (hx.2 answer) fun a later hlater =>
      hf a later ((List.prefix_append said _).trans hlater)⟩
  | lookUp t next ih | askSchema next ih =>
    exact fun answer => ih answer (hx answer) fun a later hlater =>
      hf a later ((List.prefix_append said _).trans hlater)
  | readClock next ih =>
    exact fun time => ih time (hx time) fun a later hlater =>
      hf a later ((List.prefix_append said _).trans hlater)

theorem heeds_discard {x : Dialogue α} (hx : x.Heeds rule (fun _ _ => True) said) :
    (discard x).Heeds rule (fun _ _ => True) said :=
  heeds_bind hx fun _ _ _ _ => heeds_pure trivial

/-- The answer to a statement has been said. -/
theorem heeds_executing {s : Statement} (h : (rule said).statements s) :
    (executing s).Heeds rule (fun answer later => .executed s answer ∈ later) said :=
  ⟨h, fun _ => List.mem_append_right said List.mem_cons_self⟩

/-- A dialogue that heeds a rule heeds a wider one. -/
theorem Heeds.mono {wider : Rule} {weaker : α → List Exchange → Prop} {x : Dialogue α}
    (hx : x.Heeds rule post said)
    (hstatements : ∀ said s, (rule said).statements s → (wider said).statements s)
    (hfaults : ∀ said, (rule said).faults → (wider said).faults)
    (hpost : ∀ a later, post a later → weaker a later) : x.Heeds wider weaker said := by
  induction x generalizing said with
  | done a => exact hpost a said hx
  | fail fault => exact hfaults said hx
  | execute s next ih => exact ⟨hstatements said s hx.1, fun answer => ih answer (hx.2 answer)⟩
  | lookUp t next ih | askSchema next ih => exact fun answer => ih answer (hx answer)
  | readClock next ih => exact fun time => ih time (hx time)

/-- A dialogue that keeps to a conduct heeds every rule that always allows it. -/
theorem Ensures.heeds {kept : α → Prop} {x : Dialogue α} (hx : x.Ensures conduct kept)
    (hstatements : ∀ said s, conduct.statements s → (rule said).statements s)
    (hfaults : ∀ said, conduct.faults → (rule said).faults) (said : List Exchange) :
    x.Heeds rule (fun _ _ => True) said := by
  induction x generalizing said with
  | done a => trivial
  | fail fault => exact hfaults said hx
  | execute s next ih => exact ⟨hstatements said s hx.1, fun answer => ih answer (hx.2 answer) _⟩
  | lookUp t next ih | askSchema next ih => exact fun answer => ih answer (hx answer) _
  | readClock next ih => exact fun time => ih time (hx time) _

/-- A dialogue that heeds a rule keeps to every conduct that the rule stays within. -/
theorem Heeds.ensures {kept : α → Prop} {x : Dialogue α}
    (hx : x.Heeds rule (fun a _ => kept a) said)
    (hstatements : ∀ said s, (rule said).statements s → conduct.statements s)
    (hfaults : ∀ said, (rule said).faults → conduct.faults) : x.Ensures conduct kept := by
  induction x generalizing said with
  | done a => exact hx
  | fail fault => exact hfaults said hx
  | execute s next ih => exact ⟨hstatements said s hx.1, fun answer => ih answer (hx.2 answer)⟩
  | lookUp t next ih | askSchema next ih => exact fun answer => ih answer (hx answer)
  | readClock next ih => exact fun time => ih time (hx time)

/-- Every statement of a run is allowed after what was said before it. -/
theorem Heeds.statements_of_transcript_eq {db : Database σ} {x : Dialogue α} {state : σ}
    {front rest : List Exchange} {s : Statement} {answer : Except StatementError QueryResult}
    (hx : x.Heeds rule post said)
    (hsent : x.transcript db state = front ++ .executed s answer :: rest) :
    (rule (said ++ front)).statements s := by
  induction x generalizing state said front with
  | done a | fail fault => simp [transcript] at hsent
  | execute sent next ih =>
    cases front with
    | nil =>
      -- the statement is the one that is sent here, so the rule of this place allows it
      obtain ⟨hhere, -⟩ := List.cons.inj hsent
      injection hhere with hsame
      rw [List.append_nil]
      exact hsame ▸ hx.1
    | cons first front =>
      obtain ⟨rfl, hlater⟩ := List.cons.inj hsent
      have hallowed := ih _ (hx.2 _) hlater
      rwa [List.append_assoc] at hallowed
  | lookUp t next ih | askSchema next ih | readClock next ih =>
    cases front with
    | nil =>
      obtain ⟨hhere, -⟩ := List.cons.inj hsent
      injection hhere
    | cons first front =>
      obtain ⟨rfl, hlater⟩ := List.cons.inj hsent
      have hallowed := ih _ (hx _) hlater
      rwa [List.append_assoc] at hallowed

end Heeds

/-! ## §4. Going through a list -/

/-- A member of a list that is gone through, with the database as its turn finds it. -/
structure Stage (ι σ : Type) where
  item : ι
  found : σ

variable {ι : Type}

/-- The turns of the members of a list, one after the other. -/
def stages (db : Database σ) (step : ι → Dialogue α) : List ι → σ → List (Stage ι σ)
  | [], _ => []
  | item :: rest, state =>
    ⟨item, state⟩ :: stages db step rest ((step item).run db state).2

/-- The database when every member of a list had its turn. -/
def leftByStages (db : Database σ) (step : ι → Dialogue α) : List ι → σ → σ
  | [], state => state
  | item :: rest, state => leftByStages db step rest ((step item).run db state).2

/-- Every member of a list has its turn, in order. -/
@[simp] theorem map_item_stages (db : Database σ) (step : ι → Dialogue α) (items : List ι)
    (state : σ) : (stages db step items state).map Stage.item = items := by
  induction items generalizing state with
  | nil => rfl
  | cons item rest ih => exact congrArg (item :: ·) (ih _)

section

variable {db : Database σ} {step : ι → Dialogue α} (holds : σ → Prop)
  (hstep : ∀ item state, holds ((step item).run db state).2 → holds state)

include hstep

/-- What no turn brings about was there before the turns if it is there after them. -/
theorem of_leftByStages {items : List ι} {state : σ}
    (h : holds (leftByStages db step items state)) : holds state := by
  induction items generalizing state with
  | nil => exact h
  | cons item rest ih => exact hstep item state (ih h)

/-- It was there after each of the turns, too. -/
theorem run_of_mem_stages {items : List ι} {state : σ}
    (h : holds (leftByStages db step items state)) :
    ∀ stage ∈ stages db step items state, holds ((step stage.item).run db stage.found).2 := by
  induction items generalizing state with
  | nil => exact fun stage hstage => absurd hstage List.not_mem_nil
  | cons item rest ih =>
    intro stage hstage
    obtain rfl | hlater := List.mem_cons.mp hstage
    · exact of_leftByStages holds hstep h
    · exact ih h stage hlater

end

end Dialogue

end TableLedger
