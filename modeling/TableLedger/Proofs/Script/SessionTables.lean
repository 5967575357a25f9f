/-
  TableLedger.Proofs.Script.SessionTables — tables that vanish by themselves.

  The name of a table of the server session begins with a number sign, and such a
  table is never tracked.  Whether a reference is to one is told from its last part as
  it is written: opening marks are passed over, and the character behind them decides.
  What is recorded is another text, the canonical name, from which up to two pairs of
  quotes were taken, each time with its doubled marks written once, or which was
  lower-cased.  None of this moves the character that decides, so that the two cannot
  disagree, however the name is quoted.

  Main statements:
    • `isSessionName_canonicalize` — a name is that of a session table as it is written
      if and only if it is in its canonical form,
    • `isSessionTable_of_parse` — and so is the name of the table that is read,
    • `session_tables_never_tracked` — no event is about a session table.
-/

import TableLedger.Proofs.Identifier.Requoting
import TableLedger.Proofs.Script.Reference

namespace TableLedger

/-- The table that an event is about: the one that is created, dropped or given another name. -/
def TableEvent.subject : TableEvent → TableRef
  | created table => table
  | dropped table => table
  | renamed old _ => old

namespace Script

open Identifier

variable {d : Dialect} {raw schema script : Text}

/-! ## §1. Canonical names -/

/-- Marks that are passed over to see whether a name is that of a session table. -/
def isOpeningMark (c : Char) : Bool := c == '[' || c == '"'

/-- The marks that open a quoted name have no case. -/
theorem isMark_of_isOpeningMark {c : Char} (h : isOpeningMark c = true) : Unicode.isMark c = true := by
  simp only [isOpeningMark, Bool.or_eq_true, beq_iff_eq] at h
  obtain rfl | rfl := h
  · decide
  · decide

/-- Taking quotes off leaves the character that decides where it is. -/
theorem head?_dropWhile_of_unquoteOnce? {style : QuoteStyle} {t inner : Text}
    (h : unquoteOnce? style t = some inner) :
    (inner.dropWhile isOpeningMark).head? = some '#'
      ↔ (t.dropWhile isOpeningMark).head? = some '#' := by
  obtain ⟨opening, closing, hmarks, hunwrap⟩ := exists_unwrap?_of_unquoteOnce? h
  obtain ⟨body, rfl, rfl⟩ := Text.exists_of_unwrap? hunwrap
  have hopening : isOpeningMark opening = true := by
    obtain ⟨rfl, -⟩ | ⟨rfl, -⟩ := hmarks
    · rfl
    · rfl
  have hclosing : '#' ≠ closing := by
    obtain ⟨-, rfl⟩ | ⟨-, rfl⟩ := hmarks
    · decide
    · decide
  rw [List.dropWhile_cons_of_pos hopening, Text.head?_dropWhile_concat hclosing,
    Text.head?_dropWhile_undouble]

/-- Taking the quotes away does not change what stands behind the opening marks. -/
theorem head?_dropWhile_of_unquote? {style : QuoteStyle} {t inner : Text}
    (h : unquote? style t = some inner) :
    (inner.dropWhile isOpeningMark).head? = some '#'
      ↔ (t.dropWhile isOpeningMark).head? = some '#' := by
  cases style with
  | doubleQuote =>
    have honce : unquoteOnce? .doubleQuote t = some inner := h
    exact head?_dropWhile_of_unquoteOnce? honce
  | bracket =>
    obtain ⟨once, honce, hinner⟩ := Option.map_eq_some_iff.mp h
    rw [← head?_dropWhile_of_unquoteOnce? honce, ← hinner]
    cases htwice : unquoteOnce? .bracket once with
    | none => rfl
    | some twice => exact head?_dropWhile_of_unquoteOnce? htwice

/-- A name that does not begin with a number sign is not that of a session table. -/
theorem isSessionName_eq_false {name : Text}
    (h : d.isServerFamily = true → (name.dropWhile isOpeningMark).head? ≠ some '#') :
    isSessionName d name = false :=
  Bool.and_eq_false_imp.mpr fun hserver => beq_eq_false_iff_ne.mpr (h hserver)

/-- Nothing but that character counts. -/
theorem isSessionName_congr {name name' : Text}
    (h : (name.dropWhile isOpeningMark).head? = some '#'
      ↔ (name'.dropWhile isOpeningMark).head? = some '#') :
    isSessionName d name = isSessionName d name' := by
  have hsame : ((name.dropWhile isOpeningMark).head? == some '#')
      = ((name'.dropWhile isOpeningMark).head? == some '#') := by
    rw [Bool.eq_iff_iff, beq_iff_eq, beq_iff_eq, h]
  exact congrArg (d.isServerFamily && ·) hsame

/-- No character of a blank name decides anything. -/
theorem isSessionName_of_blank (h : raw.trim = []) : isSessionName d raw = false := by
  have hblank := trim_isEmpty_iff.mp (List.isEmpty_iff.mpr h)
  refine isSessionName_eq_false fun _ hhead => ?_
  have hsign := (List.dropWhile_suffix isOpeningMark).subset (List.mem_of_head? hhead)
  exact absurd (hblank '#' hsign) (by decide)

/-- **A name is that of a session table as it is written if and only if it is in its canonical
    form**, whatever quotes it stands in and however many of them are taken off. -/
theorem isSessionName_canonicalize (d : Dialect) (raw : Text) :
    isSessionName d (canonicalize d raw) = isSessionName d raw.trim := by
  unfold canonicalize
  by_cases hblank : raw.trim = []
  · rw [if_pos (List.isEmpty_iff.mpr hblank), hblank, isSessionName_of_blank hblank]
    exact (isSessionName_of_blank rfl).symm
  · rw [if_neg (by simpa using hblank)]
    cases hunquote : unquote? d.quoteStyle raw.trim with
    | none =>
      exact isSessionName_congr
        (Unicode.head?_dropWhile_lowerAfter (fun _ => isMark_of_isOpeningMark) (by decide) [] _)
    | some inner => exact isSessionName_congr (head?_dropWhile_of_unquote? hunquote)

/-- So it is when the name is written in quotes. -/
theorem isSessionName_requote (d : Dialect) (name : Text) :
    isSessionName d (requote d name) = isSessionName d name := by
  rw [← (tight_requote d name).trim, ← isSessionName_canonicalize, canonicalize_requote]
  cases d.quoteStyle with
  | doubleQuote => rfl
  | bracket =>
    show isSessionName d ((unquoteOnce? .bracket name).getD name) = _
    cases hinner : unquoteOnce? .bracket name with
    | none => rfl
    | some inner => exact isSessionName_congr (head?_dropWhile_of_unquoteOnce? hinner)

/-! ## §2. References -/

/-- The table has its name from the last part. -/
theorem exists_table_of_ofParts {parts : List Text} {t : TableRef}
    (h : TableRef.ofParts d schema parts = .ok t) :
    ∃ part, parts.getLast? = some part ∧ t.table = canonicalize d part := by
  unfold TableRef.ofParts at h
  split at h
  case h_5 => injection h
  all_goals
    split at h
    · injection h
    · injection h with h
      subst h
      exact ⟨_, rfl, rfl⟩

/-- **A reference is to a session table if and only if the table that is read from it has the
    name of one.** -/
theorem isSessionTable_of_parse {t : TableRef} (h : TableRef.parse d schema raw = .ok t) :
    isSessionTable d raw = .ok (isSessionName d t.table) := by
  unfold TableRef.parse at h
  simp only at h
  split at h
  · injection h
  cases hsplit : TableRef.split d raw.trim with
  | error e => rw [hsplit] at h; injection h
  | ok parts =>
    simp only [hsplit] at h
    cases hparts : TableRef.ofParts d schema parts with
    | error fault => simp only [hparts] at h; injection h
    | ok read =>
      simp only [hparts] at h
      injection h with h
      subst h
      obtain ⟨part, hlast, htable⟩ := exists_table_of_ofParts hparts
      have htrim := TableRef.trim_of_mem_split hsplit part (List.mem_of_getLast? hlast)
      rw [isSessionTable_of_split hsplit, hlast, htable, isSessionName_canonicalize, htrim]
      rfl

/-- The table that is read from a reference is tracked, unless it has the name of a session
    table. -/
theorem trackedTable?_of_parse {t : TableRef} (h : TableRef.parse d schema raw = .ok t) :
    Naming.trackedTable? ⟨d, schema⟩ raw = .ok (if isSessionName d t.table then none else some t) := by
  unfold Naming.trackedTable?
  rw [isSessionTable_of_parse h, h]
  cases isSessionName d t.table with
  | true => rfl
  | false => rfl

/-! ## §3. Events -/

/-- An event is about the table that its statement mentions. -/
theorem Change.subject_event (d : Dialect) (t : TableRef) (change : Change) :
    (change.event d t).subject.table = t.table := by
  cases change with
  | creation | drop | rename newName => rfl

/-- What a mention comes to is not about a session table. -/
theorem isSessionName_of_event? {n : Naming} {m : Mention} {event : TableEvent}
    (h : n.event? m = .ok (some event)) : isSessionName n.dialect event.subject.table = false := by
  obtain ⟨t, hparse, rfl⟩ := Naming.parse_of_event? h
  have hsession := (isSessionTable_of_parse hparse).symm.trans (isSessionTable_of_event? h)
  rw [Change.subject_event]
  injection hsession

/-- **Session tables are never tracked.**  However a script of the SQL Server family writes the
    name of a table, in quotes, in quotes inside quotes, or behind other parts: if the script can
    be classified, no table that it is found to create, to drop or to give another name has a
    canonical name that begins with a number sign. -/
theorem session_tables_never_tracked {c : Classification} (hserver : d.isServerFamily = true)
    (hclassify : classify d schema script = .ok c) :
    ∀ event ∈ c.events, event.subject.table.head? ≠ some '#' := by
  intro event hevent hsign
  obtain ⟨m, -, hm⟩ := (mem_events_classify hclassify).mp hevent
  have hname : isSessionName d event.subject.table = false := isSessionName_of_event? hm
  obtain ⟨rest, htable⟩ := List.head?_eq_some_iff.mp hsign
  rw [htable, isSessionName, hserver] at hname
  exact Bool.noConfusion hname

/-- A table in two pairs of quotes behind a database, and one that is given another name: they are
    session tables and not tracked.  A table that is given the name of one is. -/
theorem session_tables_never_tracked_in_quotes :
    ∃ c, classify .ms "dbo".toList
        "DROP TABLE x..[\"#a]]\"], b; EXEC sp_rename '[#c]', 'd'; EXEC sp_rename 'e', '#f'".toList
          = .ok c
      ∧ c.events = [.dropped (.inSchema "dbo".toList "b".toList),
          .renamed (.inSchema "dbo".toList "e".toList) (.inSchema "dbo".toList "#f".toList)]
      ∧ ∀ event ∈ c.events, event.subject.table.head? ≠ some '#' := by
  have hclassify : classify .ms "dbo".toList
      "DROP TABLE x..[\"#a]]\"], b; EXEC sp_rename '[#c]', 'd'; EXEC sp_rename 'e', '#f'".toList
      = .ok ⟨[.dropped (.inSchema "dbo".toList "b".toList),
          .renamed (.inSchema "dbo".toList "e".toList) (.inSchema "dbo".toList "#f".toList)]⟩ :=
    classify_eq_ok_iff.mpr ⟨[
      ⟨0, 24, .dropped (.inSchema "dbo".toList "b".toList)⟩,
      ⟨60, 60, .renamed (.inSchema "dbo".toList "e".toList) (.inSchema "dbo".toList "#f".toList)⟩],
      by decide +kernel, by simp [ofSightings, List.mergeSort]⟩
  exact ⟨_, hclassify, rfl, session_tables_never_tracked (by decide) hclassify⟩

end Script

end TableLedger
