/-
  TableLedger.Proofs.Script.Mention — classification in two steps.

  A script is searched for places where it mentions a table as created,
  dropped or renamed, and only then are the mentioned names read.  The
  first step knows nothing of the default schema and cannot fail; the
  second looks at one mention at a time.  `sightings_eq` says that the two
  steps make up the classification.

  Main statements:
    • `sightings_eq` — sightings are the mentions, settled one by one,
    • `mem_sightings`, `mem_events_classify` — the events of a script are those of its
      mentions,
    • `classify_eq_error_iff` — the failure of a script is that of its first mention that
      cannot be read.
-/

import TableLedger.Script.Classify

namespace TableLedger.Script

/-! ## §1. Gathering results -/

section Gathering

variable {α β ε : Type}

/-- The results of a function that may fail, one after the other; the first
    failure is the failure of the whole. -/
def gather (f : α → Except ε (List β)) : List α → Except ε (List β)
  | [] => .ok []
  | x :: rest => do
    let here ← f x
    let others ← gather f rest
    return here ++ others

/-- Lists that are gathered one by one are joined in order. -/
theorem flatten_mapM (f : α → Except ε (List β)) (xs : List α) :
    (do return (← xs.mapM f).flatten) = gather f xs := by
  induction xs with
  | nil => rfl
  | cons x rest ih =>
    rw [List.mapM_cons, gather]
    cases hx : f x with
    | error e => rfl
    | ok here =>
      rw [← ih]
      cases hrest : rest.mapM f with
      | error e => rfl
      | ok others => rfl

theorem gather_singleton (f : α → Except ε (List β)) (x : α) : gather f [x] = f x := by
  cases hx : f x with
  | error e => simp only [gather, hx]; rfl
  | ok here => simp only [gather, hx]; exact congrArg Except.ok (List.append_nil here)

/-- Two lists are gathered one after the other, and the first fault counts. -/
theorem gather_append (f : α → Except ε (List β)) (xs ys : List α) :
    gather f (xs ++ ys) = (do
      let first ← gather f xs
      let second ← gather f ys
      return first ++ second) := by
  induction xs with
  | nil =>
    show gather f ys = gather f ys >>= fun second => pure ([] ++ second)
    exact (bind_pure (gather f ys)).symm
  | cons x rest ih =>
    rw [List.cons_append, gather, gather, ih]
    -- the first failure in reading order is the failure of both sides
    cases f x with
    | error e => rfl
    | ok here =>
      cases gather f rest with
      | error e => rfl
      | ok others =>
        cases gather f ys with
        | error e => rfl
        | ok second => exact congrArg Except.ok (List.append_assoc here others second).symm

/-- Gathering over lists that are listed themselves. -/
theorem gather_flatMap {γ : Type} (f : α → Except ε (List β)) (g : γ → List α) (zs : List γ) :
    gather f (zs.flatMap g) = gather (fun z => gather f (g z)) zs := by
  induction zs with
  | nil => rfl
  | cons z rest ih => rw [List.flatMap_cons, gather_append, ih, gather]

theorem gather_map {γ : Type} (f : α → Except ε (List β)) (g : γ → α) (zs : List γ) :
    gather f (zs.map g) = gather (fun z => f (g z)) zs := by
  induction zs with
  | nil => rfl
  | cons z rest ih => rw [List.map_cons, gather, gather, ih]

/-- What is the same for every member is gathered alike. -/
theorem gather_congr {f g : α → Except ε (List β)} {xs : List α} (h : ∀ x ∈ xs, f x = g x) :
    gather f xs = gather g xs := by
  induction xs with
  | nil => rfl
  | cons x rest ih =>
    have hrest := ih fun y hy => h y (List.mem_cons_of_mem x hy)
    rw [gather, gather, h x List.mem_cons_self, hrest]

/-- What was gathered is what the function made of the elements. -/
theorem mem_gather {f : α → Except ε (List β)} {y : β} {xs : List α} {ys : List β}
    (h : gather f xs = .ok ys) : y ∈ ys ↔ ∃ x ∈ xs, ∃ made, f x = .ok made ∧ y ∈ made := by
  induction xs generalizing ys with
  | nil =>
    injection h with h
    subst h
    simp
  | cons x rest ih =>
    rw [gather] at h
    cases hx : f x with
    | error e => rw [hx] at h; injection h
    | ok here =>
      cases hrest : gather f rest with
      | error e => rw [hx, hrest] at h; injection h
      | ok others =>
        rw [hx, hrest] at h
        have hys : here ++ others = ys := by injection h
        rw [← hys, List.mem_append, ih hrest]
        simp [hx]

/-- What a function that may fail makes of an element, nothing if it fails. -/
def yielded (f : α → Except ε (List β)) (x : α) : List β := (f x).toOption.getD []

/-- Gathering succeeds if nothing fails, and then the order is that of the elements. -/
theorem gather_eq_ok_iff {f : α → Except ε (List β)} {xs : List α} {ys : List β} :
    gather f xs = .ok ys ↔ (∀ x ∈ xs, f x = .ok (yielded f x)) ∧ ys = xs.flatMap (yielded f) := by
  induction xs generalizing ys with
  | nil =>
    rw [gather, List.flatMap_nil, eq_comm (a := ys)]
    simp
  | cons x rest ih =>
    rw [gather, List.forall_mem_cons, List.flatMap_cons]
    cases hx : f x with
    | error e => simp [bind, Except.bind]
    | ok here =>
      have hhere : yielded f x = here := by rw [yielded, hx]; rfl
      cases hrest : gather f rest with
      | error e =>
        -- a list that cannot be gathered holds an element that fails
        have hfails : ¬∀ x ∈ rest, f x = .ok (yielded f x) := fun hall => by
          have hok := ih.mpr ⟨hall, rfl⟩
          rw [hrest] at hok
          injection hok
        simp [bind, Except.bind, hfails]
      | ok others =>
        obtain ⟨hall, hothers⟩ := ih.mp hrest
        rw [hhere, ← hothers]
        simp only [bind, Except.bind, pure, Except.pure, Except.ok.injEq, true_and]
        exact ⟨fun h => ⟨hall, h.symm⟩, fun h => h.2.symm⟩

/-- Gathering fails as the first element does that fails; the others are not looked at. -/
theorem gather_eq_error_iff {f : α → Except ε (List β)} {xs : List α} {e : ε} :
    gather f xs = .error e
      ↔ ∃ front x behind, xs = front ++ x :: behind
        ∧ (∀ y ∈ front, f y = .ok (yielded f y)) ∧ f x = .error e := by
  constructor
  · intro h
    induction xs with
    | nil => injection h
    | cons x rest ih =>
      -- the first element fails, or it does not and one of the others is the first to fail
      rw [gather] at h
      cases hx : f x with
      | error fault =>
        rw [hx] at h
        injection h with h
        exact ⟨[], x, rest, rfl, fun _ hy => absurd hy List.not_mem_nil, h ▸ hx⟩
      | ok here =>
        have hyielded : f x = .ok (yielded f x) := by rw [yielded, hx]; rfl
        cases hrest : gather f rest with
        | ok others => rw [hx, hrest] at h; injection h
        | error fault =>
          rw [hx, hrest] at h
          injection h with h
          obtain ⟨front, y, behind, rfl, hfront, hy⟩ := ih (h ▸ hrest)
          exact ⟨x :: front, y, behind, rfl, List.forall_mem_cons.mpr ⟨hyielded, hfront⟩, hy⟩
  · rintro ⟨front, x, behind, rfl, hfront, hx⟩
    rw [gather_append, gather_eq_ok_iff.mpr ⟨hfront, rfl⟩, gather, hx]
    rfl

end Gathering

/-! ## §2. Mentions -/

/-- What a script does to a table that it mentions. -/
inductive Change where
  | creation
  | drop
  /-- Give the table another name, as it is written. -/
  | rename (newName : Text)
  deriving DecidableEq, Repr

/-- A place where a script says that it changes a table. -/
structure Mention where
  /-- The word that announces the change, in lower case. -/
  word : Text
  /-- Byte offset of that word. -/
  trigger : Nat
  /-- Byte offset by which the change is placed among the others. -/
  offset : Nat
  /-- The table as it is written. -/
  reference : Text
  change : Change
  deriving DecidableEq, Repr

/-- The event of a change to a table. -/
def Change.event (d : Dialect) (table : TableRef) : Change → TableEvent
  | creation => .created table
  | drop => .dropped table
  | rename newName =>
    .renamed table.toLocal (table.toLocal.withName (Identifier.canonicalize d newName))

namespace Naming

/-- The event that a mention comes to; none if it is of a session table. -/
def event? (n : Naming) (m : Mention) : Except ReferenceError (Option TableEvent) :=
  (n.trackedTable? m.reference).map (Option.map fun table => m.change.event n.dialect table)

/-- The event of a mention, at its place. -/
def settle (n : Naming) (m : Mention) : Except ReferenceError (List Sighting) :=
  (n.event? m).map fun event? => (event?.map (Sighting.mk m.trigger m.offset)).toList

end Naming

/-! ## §3. Mentions by form -/

def creationMentions (word : Text) (m : Match) : List Mention :=
  match m.captured? .temporary, m.captured? .table with
  | none, some table => [⟨word, m.start, m.start, table.text, .creation⟩]
  | _, _ => []

def dropMentions (style : QuoteStyle) (m : Match) : List Mention :=
  match m.captured? .tables with
  | some tables =>
    ((reference style).matchesIn (Cursor.start tables.text)).map fun table =>
      ⟨"drop".toList, m.start, tables.start + table.start, table.text, .drop⟩
  | none => []

/-- The word that announces a rename of a form. -/
def RenameForm.word : RenameForm → Text
  | alterTable => "alter".toList
  | procedure => "sp_rename".toList
  | renameObject => "rename".toList

def renameMentions (form : RenameForm) (m : Match) : List Mention :=
  match Naming.renamedNames? form m with
  | some (old, new) => [⟨form.word, m.start, m.start, old, .rename new⟩]
  | none => []

/-- The names of a rename procedure, by the texts that were captured. -/
theorem renamedNames?_procedure (m : Match) :
    Naming.renamedNames? .procedure m
      = match (m.captured? .oldName).map Capture.text, (m.captured? .newName).map Capture.text with
        | some old, some new =>
          if ((m.captured? .objectType).map Capture.text).all fun argument =>
              (Naming.literalInside argument).trim.isEmpty then
            some (Text.undouble '\'' old, Text.undouble '\'' new)
          else none
        | _, _ => none := by
  unfold Naming.renamedNames?
  cases m.captured? .oldName with
  | none => rfl
  | some old =>
    cases m.captured? .newName with
    | none => rfl
    | some new =>
      cases m.captured? .objectType with
      | none => rfl
      | some objectType => rfl

/-- The text that renames of a form are searched for in. -/
def MaskedScript.searched (texts : MaskedScript) : RenameForm → Text
  | .procedure => texts.withLiterals
  | .alterTable | .renameObject => texts.code

/-- The matches of a rename form that begin in live code. -/
def MaskedScript.liveRenames (texts : MaskedScript) (style : QuoteStyle) (form : RenameForm) :
    List Match :=
  ((form.pattern style).matchesIn (Cursor.start (texts.searched form))).filter fun m =>
    charAt? m.start texts.code == charAt? m.start (texts.searched form)

/-- What the search for calls of the rename procedure finds in a script, in live code
    and elsewhere. -/
def procedureMatches (d : Dialect) (script : Text) : List Match :=
  (RenameForm.procedure.pattern d.quoteStyle).matchesIn
    (Cursor.start (MaskedScript.ofScript d script).withLiterals)

/-- The matches of SELECT INTO that belong to a selection. -/
def selectionsIn (style : QuoteStyle) (code : Text) : List Match :=
  ((selectInto style).matchesIn (Cursor.start code)).filter fun m =>
    Naming.belongsToSelect (statementWord.matchesIn (Cursor.start code)) m.start
      && Naming.selectsFrom m

/-- Every mention of a script, form by form. -/
def mentions (d : Dialect) (script : Text) : List Mention :=
  let style := d.quoteStyle
  let texts := MaskedScript.ofScript d script
  ((createTable style).matchesIn (Cursor.start texts.code)).flatMap
      (creationMentions "create".toList)
    ++ (selectionsIn style texts.code).flatMap (creationMentions "into".toList)
    ++ ((dropTable style).matchesIn (Cursor.start texts.code)).flatMap (dropMentions style)
    ++ d.renameForms.flatMap fun form =>
      (texts.liveRenames style form).flatMap (renameMentions form)

/-- Where a mention comes from: each is found by one of the searches. -/
theorem mem_mentions {d : Dialect} {script : Text} {m : Mention} :
    m ∈ mentions d script
      ↔ (∃ found ∈ (createTable d.quoteStyle).matchesIn
            (Cursor.start (MaskedScript.ofScript d script).code),
          m ∈ creationMentions "create".toList found)
        ∨ (∃ found ∈ selectionsIn d.quoteStyle (MaskedScript.ofScript d script).code,
          m ∈ creationMentions "into".toList found)
        ∨ (∃ found ∈ (dropTable d.quoteStyle).matchesIn
            (Cursor.start (MaskedScript.ofScript d script).code),
          m ∈ dropMentions d.quoteStyle found)
        ∨ ∃ form ∈ d.renameForms,
          ∃ found ∈ (MaskedScript.ofScript d script).liveRenames d.quoteStyle form,
            m ∈ renameMentions form found := by
  simp only [mentions, List.mem_append, List.mem_flatMap, or_assoc]

/-- The mention of a creation. -/
theorem mem_creationMentions {word : Text} {found : Match} {m : Mention} :
    m ∈ creationMentions word found
      ↔ found.captured? .temporary = none ∧ ∃ table, found.captured? .table = some table
        ∧ m = ⟨word, found.start, found.start, table.text, .creation⟩ := by
  unfold creationMentions
  cases found.captured? .temporary with
  | some temporary => simp
  | none =>
    cases found.captured? .table with
    | none => simp
    | some table => simp

/-- The mentions of drops, one for each table of the list. -/
theorem mem_dropMentions {style : QuoteStyle} {found : Match} {m : Mention} :
    m ∈ dropMentions style found
      ↔ ∃ tables, found.captured? .tables = some tables
        ∧ ∃ table ∈ (reference style).matchesIn (Cursor.start tables.text),
          m = ⟨"drop".toList, found.start, tables.start + table.start, table.text, .drop⟩ := by
  unfold dropMentions
  cases found.captured? .tables with
  | none => simp
  | some tables => simp [eq_comm]

/-- The mention of a rename. -/
theorem mem_renameMentions {form : RenameForm} {found : Match} {m : Mention} :
    m ∈ renameMentions form found
      ↔ ∃ old new, Naming.renamedNames? form found = some (old, new)
        ∧ m = ⟨form.word, found.start, found.start, old, .rename new⟩ := by
  unfold renameMentions
  cases Naming.renamedNames? form found with
  | none => simp
  | some names =>
    obtain ⟨old, new⟩ := names
    simp [and_assoc]

/-! ## §4. Classification by mentions -/

namespace Naming

variable (n : Naming)

theorem creation_eq (word : Text) (m : Match) :
    n.creation m = gather n.settle (creationMentions word m) := by
  unfold creation creationMentions
  cases m.captured? .temporary with
  | some temporary => rfl
  | none =>
    cases m.captured? .table with
    | none => rfl
    | some table =>
      simp only [gather_singleton, settle, event?]
      cases n.trackedTable? table.text with
      | error e => rfl
      | ok tracked? =>
        cases tracked? with
        | none => rfl
        | some table => rfl

theorem drop_eq (trigger offset : Nat) (m : Match) :
    n.drop trigger offset m
      = n.settle ⟨"drop".toList, trigger, offset + m.start, m.text, .drop⟩ := by
  simp only [drop, settle, event?]
  cases n.trackedTable? m.text with
  | error e => rfl
  | ok tracked? =>
    cases tracked? with
    | none => rfl
    | some table => rfl

theorem dropsOf_eq (m : Match) :
    n.dropsOf m = gather n.settle (dropMentions n.dialect.quoteStyle m) := by
  unfold dropsOf dropMentions
  cases m.captured? .tables with
  | none => rfl
  | some tables =>
    simp only [flatten_mapM]
    rw [gather_map]
    exact gather_congr fun table _ => n.drop_eq m.start tables.start table

theorem rename_eq (form : RenameForm) (m : Match) :
    n.rename form m = gather n.settle (renameMentions form m) := by
  unfold rename renameMentions
  cases renamedNames? form m with
  | none => rfl
  | some names =>
    obtain ⟨old, new⟩ := names
    simp only [gather_singleton, settle, event?]
    cases n.trackedTable? old with
    | error e => rfl
    | ok tracked? =>
      cases tracked? with
      | none => rfl
      | some table => rfl

/-- All creations of a text, as mentions that are settled. -/
theorem creations_eq (code : Text) :
    n.creations code = gather n.settle
      (((createTable n.dialect.quoteStyle).matchesIn (Cursor.start code)).flatMap
        (creationMentions "create".toList)) := by
  unfold creations
  rw [gather_flatMap]
  simp only [flatten_mapM]
  exact gather_congr fun m _ => n.creation_eq _ m

/-- All selections into a table. -/
theorem selections_eq (code : Text) :
    n.selections code = gather n.settle
      ((selectionsIn n.dialect.quoteStyle code).flatMap (creationMentions "into".toList)) := by
  unfold selections
  rw [gather_flatMap]
  simp only [flatten_mapM]
  exact gather_congr fun m _ => n.creation_eq _ m

/-- All drops. -/
theorem drops_eq (code : Text) :
    n.drops code = gather n.settle
      (((dropTable n.dialect.quoteStyle).matchesIn (Cursor.start code)).flatMap
        (dropMentions n.dialect.quoteStyle)) := by
  unfold drops
  rw [gather_flatMap]
  simp only [flatten_mapM]
  exact gather_congr fun m _ => n.dropsOf_eq m

/-- All renames of one form. -/
theorem renamesOf_eq (texts : MaskedScript) (form : RenameForm) :
    n.renamesOf texts form = gather n.settle
      ((texts.liveRenames n.dialect.quoteStyle form).flatMap (renameMentions form)) := by
  unfold renamesOf
  rw [gather_flatMap]
  simp only [flatten_mapM]
  cases form with
  | alterTable => exact gather_congr fun m _ => n.rename_eq _ m
  | procedure => exact gather_congr fun m _ => n.rename_eq _ m
  | renameObject => exact gather_congr fun m _ => n.rename_eq _ m

/-- All renames of the forms that the dialect has. -/
theorem renames_eq (texts : MaskedScript) :
    n.renames texts = gather n.settle (n.dialect.renameForms.flatMap fun form =>
      (texts.liveRenames n.dialect.quoteStyle form).flatMap (renameMentions form)) := by
  unfold renames
  rw [gather_flatMap, map_eq_pure_bind]
  show (do return (← n.dialect.renameForms.mapM (n.renamesOf texts)).flatten) = _
  rw [flatten_mapM]
  exact gather_congr fun form _ => n.renamesOf_eq texts form

end Naming

/-- The sightings of a script are its mentions, settled one by one. -/
theorem sightings_eq (d : Dialect) (defaultSchema script : Text) :
    sightings d defaultSchema script
      = gather (Naming.settle ⟨d, defaultSchema⟩) (mentions d script) := by
  unfold sightings mentions
  simp only [Naming.creations_eq, Naming.selections_eq, Naming.drops_eq, Naming.renames_eq,
    gather_append, bind_assoc, pure_bind, List.append_assoc]

/-- What settling a mention yields, if anything, is its event at its place. -/
theorem mem_settle {n : Naming} {m : Mention} {s : Sighting} :
    (∃ made, n.settle m = .ok made ∧ s ∈ made)
      ↔ n.event? m = .ok (some s.event) ∧ s.trigger = m.trigger ∧ s.offset = m.offset := by
  unfold Naming.settle
  cases n.event? m with
  | error e => simp [Except.map]
  | ok event? =>
    cases event? with
    | none => simp [Except.map]
    | some event =>
      obtain ⟨trigger, offset, found⟩ := s
      simp only [Except.map, Option.map_some, Option.toList_some, Except.ok.injEq,
        exists_eq_left', List.mem_singleton, Sighting.mk.injEq, Option.some.injEq]
      constructor
      · rintro ⟨rfl, rfl, rfl⟩
        exact ⟨rfl, rfl, rfl⟩
      · rintro ⟨rfl, rfl, rfl⟩
        exact ⟨rfl, rfl, rfl⟩

/-- The table of an event is the one that was read where it is mentioned. -/
theorem Naming.parse_of_event? {n : Naming} {m : Mention} {event : TableEvent}
    (h : n.event? m = .ok (some event)) :
    ∃ t, TableRef.parse n.dialect n.defaultSchema m.reference = .ok t
      ∧ event = m.change.event n.dialect t := by
  unfold event? trackedTable? at h
  cases hsession : isSessionTable n.dialect m.reference with
  | error e => rw [hsession] at h; injection h
  | ok session =>
    rw [hsession] at h
    cases session with
    | true => injection h with h; injection h
    | false =>
      cases hparse : TableRef.parse n.dialect n.defaultSchema m.reference with
      | error e => rw [hparse] at h; injection h
      | ok t =>
        rw [hparse] at h
        injection h with h
        injection h with h
        exact ⟨t, rfl, h.symm⟩

/-- Each sighting of a script comes from a mention, and each mention of a tracked
    table is sighted. -/
theorem mem_sightings {d : Dialect} {defaultSchema script : Text} {found : List Sighting}
    (h : sightings d defaultSchema script = .ok found) {s : Sighting} :
    s ∈ found ↔ ∃ m ∈ mentions d script,
      Naming.event? ⟨d, defaultSchema⟩ m = .ok (some s.event)
        ∧ s.trigger = m.trigger ∧ s.offset = m.offset := by
  rw [sightings_eq] at h
  rw [mem_gather h]
  exact exists_congr fun m => and_congr_right fun _ => mem_settle

/-- A classification is what the sightings of the script amount to. -/
theorem classify_eq_ok_iff {d : Dialect} {schema script : Text} {c : Classification} :
    classify d schema script = .ok c
      ↔ ∃ found, sightings d schema script = .ok found ∧ ofSightings found = c := by
  unfold classify
  cases sightings d schema script <;> simp [Except.map]

/-- The events of a script are those that its mentions come to. -/
theorem mem_events_classify {d : Dialect} {defaultSchema script : Text} {c : Classification}
    (h : classify d defaultSchema script = .ok c) {event : TableEvent} :
    event ∈ c.events ↔ ∃ m ∈ mentions d script,
      Naming.event? ⟨d, defaultSchema⟩ m = .ok (some event) := by
  obtain ⟨found, hfound, rfl⟩ := classify_eq_ok_iff.mp h
  have hevents : event ∈ (ofSightings found).events ↔ ∃ s ∈ found, s.event = event := by
    simp [ofSightings, List.mem_map]
  rw [hevents]
  constructor
  · rintro ⟨s, hs, rfl⟩
    obtain ⟨m, hm, hevent, -⟩ := (mem_sightings hfound).mp hs
    exact ⟨m, hm, hevent⟩
  · rintro ⟨m, hm, hevent⟩
    exact ⟨⟨m.trigger, m.offset, event⟩,
      (mem_sightings hfound).mpr ⟨m, hm, hevent, rfl, rfl⟩, rfl⟩

/-- A mention cannot be settled if its event cannot be told. -/
theorem settle_eq_error_iff {n : Naming} {m : Mention} {e : ReferenceError} :
    n.settle m = .error e ↔ n.event? m = .error e := by
  unfold Naming.settle
  cases n.event? m with
  | error fault => simp [Except.map]
  | ok event? => simp [Except.map]

/-- Otherwise it is settled, to an event or to none. -/
theorem settle_eq_ok_iff {n : Naming} {m : Mention} :
    n.settle m = .ok (yielded n.settle m) ↔ ∃ event?, n.event? m = .ok event? := by
  unfold yielded Naming.settle
  cases n.event? m with
  | error fault => simp [Except.map]
  | ok event? => simp [Except.map, Except.toOption]

/-- A script cannot be classified if and only if a mention cannot be read, and then the first
    such mention says why. -/
theorem classify_eq_error_iff {d : Dialect} {defaultSchema script : Text} {e : ReferenceError} :
    classify d defaultSchema script = .error e
      ↔ ∃ front m behind, mentions d script = front ++ m :: behind
        ∧ (∀ k ∈ front, ∃ event?, Naming.event? ⟨d, defaultSchema⟩ k = .ok event?)
        ∧ Naming.event? ⟨d, defaultSchema⟩ m = .error e := by
  have hmap : classify d defaultSchema script = .error e
      ↔ sightings d defaultSchema script = .error e := by
    unfold classify
    cases sightings d defaultSchema script with
    | error fault => simp [Except.map]
    | ok found => simp [Except.map]
  rw [hmap, sightings_eq, gather_eq_error_iff]
  simp only [settle_eq_ok_iff, settle_eq_error_iff]

end TableLedger.Script
