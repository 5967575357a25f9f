/-
  TableLedger.Proofs.Script.Vocabulary — what the statement forms have in common.

  Every statement form begins with a keyword behind a word edge, and so announces
  that keyword.  In PostgreSQL none of them takes a semicolon, except inside of
  double quotes: statements are made of keywords, blanks and names, and the only
  class of characters that a semicolon belongs to is what a quotation may hold.

  Main statements:
    • `createTable_announces`, `selectInto_announces`, `dropTable_announces`,
      `RenameForm.pattern_announces` — the keywords of the statement forms,
    • `createTable_avoids`, `selectInto_avoids`, `dropTable_avoids`,
      `alterTable_avoids`, `routineHeader_avoids` — the forms avoid semicolons.
-/

import TableLedger.Proofs.Pattern.Context
import TableLedger.Proofs.Script.Mention
import TableLedger.Script.Routine

namespace TableLedger.Script

open Pattern

/-! ## §1. Keywords -/

/-- A creation begins with CREATE. -/
theorem createTable_announces (style : QuoteStyle) :
    (createTable style).Announces "create".toList := by
  unfold createTable
  -- what stands behind the keyword does not matter
  iterate 8 apply Announces.seq
  exact announces_keyword _

/-- A SELECT INTO is found by its INTO. -/
theorem selectInto_announces (style : QuoteStyle) :
    (selectInto style).Announces "into".toList := by
  unfold selectInto
  iterate 4 apply Announces.seq
  exact announces_keyword _

/-- A drop begins with DROP. -/
theorem dropTable_announces (style : QuoteStyle) :
    (dropTable style).Announces "drop".toList := by
  unfold dropTable
  iterate 5 apply Announces.seq
  exact announces_keyword _

/-- Each rename form announces its own word. -/
theorem RenameForm.pattern_announces (style : QuoteStyle) (form : RenameForm) :
    (form.pattern style).Announces form.word := by
  cases form with
  | alterTable =>
    show (RenameForm.pattern style .alterTable).Announces "alter".toList
    unfold RenameForm.pattern
    iterate 12 apply Announces.seq
    exact announces_keyword _
  | procedure =>
    show (RenameForm.pattern style .procedure).Announces "sp_rename".toList
    unfold RenameForm.pattern
    iterate 11 apply Announces.seq
    exact announces_keyword _
  | renameObject =>
    show (RenameForm.pattern style .renameObject).Announces "rename".toList
    unfold RenameForm.pattern
    iterate 8 apply Announces.seq
    exact announces_keyword _

/-! ## §2. Semicolons -/

/-- The pattern takes no semicolon where no double quote is. -/
abbrev AvoidsSemicolon (p : Pattern) : Prop := p.Avoids ';' '"'

/-- A pattern that takes no semicolon finds the same in front of one. -/
theorem staysIn_front {p : Pattern} (hp : AvoidsSemicolon p) {u : Text} (hu : '"' ∉ u) :
    p.StaysIn (.front ';' u) '"' := by
  refine staysIn_of_avoids hp (Frame.markedBy_front ';' u) (by decide) ?_
  exact List.not_mem_cons_of_ne_of_not_mem (by decide) hu

theorem staysIn_back {p : Pattern} (hp : AvoidsSemicolon p) (t : Text) :
    p.StaysIn (.back t ';') '"' :=
  staysIn_of_avoids hp (Frame.markedBy_back t ';') (by decide) List.not_mem_nil

/-- A keyword takes no semicolon if it holds none. -/
theorem keyword_avoids {word : Text} (h : ';' ∉ word) : AvoidsSemicolon (keyword word) := by
  have hletter : ∀ {letter : Char}, letter ≠ ';' → isLetter letter ';' = false := by
    intro letter hne
    rw [← Bool.not_eq_true]
    exact fun hspelled => hne (eq_of_isLetter (by decide) (by decide) hspelled)
  induction word using keyword.induct with
  | case1 => exact .nothing
  | case2 letter => exact .one (hletter fun heq => h (heq ▸ List.mem_cons_self))
  | case3 letter word hword ih =>
    rw [keyword]
    · refine .append (.one (hletter fun heq => h (heq ▸ List.mem_cons_self))) (ih ?_)
      exact fun hmem => h (List.mem_cons_of_mem letter hmem)
    · exact hword

theorem optional_avoids {p : Pattern} (h : AvoidsSemicolon p) : AvoidsSemicolon (optional p) :=
  .alt h .nothing

theorem run1_avoids {accepts : Char → Bool} (h : accepts ';' = false) :
    AvoidsSemicolon (run1 accepts) := .append (.one h) (.run h)

theorem blanks_avoids : AvoidsSemicolon blanks := run1_avoids (by decide)

theorem anyOf_avoids {ps : List Pattern} (h : ∀ p ∈ ps, AvoidsSemicolon p) :
    AvoidsSemicolon (anyOf ps) := by
  induction ps using anyOf.induct with
  | case1 => exact .one rfl
  | case2 p => exact h p List.mem_cons_self
  | case3 p ps hps ih =>
    rw [anyOf]
    · exact .alt (h p List.mem_cons_self) (ih fun q hq => h q (List.mem_cons_of_mem p hq))
    · exact hps

/-- A choice between keywords. -/
theorem anyOf_keywords_avoids (words : List Text) (h : ∀ word ∈ words, ';' ∉ word) :
    AvoidsSemicolon (anyOf (words.map keyword)) := by
  refine anyOf_avoids fun p hp => ?_
  obtain ⟨word, hword, rfl⟩ := List.mem_map.mp hp
  exact keyword_avoids (h word hword)

/-- One keyword more, with blanks behind it. -/
theorem avoids_word {p : Pattern} (hp : AvoidsSemicolon p) (word : Text) (h : ';' ∉ word) :
    AvoidsSemicolon (p ++ keyword word ++ blanks) :=
  (hp.append (keyword_avoids h)).append blanks_avoids

/-- A keyword with blanks behind it. -/
theorem first_word_avoids (word : Text) (h : ';' ∉ word) :
    AvoidsSemicolon (keyword word ++ blanks) := (keyword_avoids h).append blanks_avoids

/-- What a quotation holds is out of reach where there is no double quote. -/
theorem segment_avoids : AvoidsSemicolon (segment .doubleQuote) :=
  .alt (.append (.unreached _) (.one (by decide))) (run1_avoids (by decide))

/-- A reference takes no semicolon outside of quotes. -/
theorem reference_avoids : AvoidsSemicolon (reference .doubleQuote) :=
  segment_avoids.append (.many (.append (.one (by decide)) segment_avoids))

/-! ## §3. Statement forms without semicolons -/

theorem persistence_avoids : AvoidsSemicolon persistence := by
  have htemporary := anyOf_keywords_avoids ["temp".toList, "temporary".toList] (by decide)
  exact optional_avoids (.alt (.append (.capture htemporary) blanks_avoids)
    (first_word_avoids "unlogged".toList (by decide)))

theorem createTable_avoids : AvoidsSemicolon (createTable .doubleQuote) := by
  have hscope := anyOf_keywords_avoids ["global".toList, "local".toList] (by decide)
  have hreplace := avoids_word (first_word_avoids "or".toList (by decide)) "replace".toList
    (by decide)
  have hexists := avoids_word (avoids_word (first_word_avoids "if".toList (by decide))
    "not".toList (by decide)) "exists".toList (by decide)
  have hfront := (avoids_word .wordEdge "create".toList (by decide)).append
    (optional_avoids hreplace) |>.append (optional_avoids (hscope.append blanks_avoids))
    |>.append persistence_avoids
  exact (avoids_word hfront "table".toList (by decide)).append (optional_avoids hexists)
    |>.append (.capture reference_avoids)

theorem selectInto_avoids : AvoidsSemicolon (selectInto .doubleQuote) :=
  (avoids_word .wordEdge "into".toList (by decide)).append persistence_avoids
    |>.append (optional_avoids (first_word_avoids "table".toList (by decide)))
    |>.append (.capture reference_avoids)

theorem dropTable_avoids : AvoidsSemicolon (dropTable .doubleQuote) := by
  have hexists := avoids_word (first_word_avoids "if".toList (by decide)) "exists".toList
    (by decide)
  have hcomma : AvoidsSemicolon (blanks? ++ char ',' ++ blanks? ++ reference .doubleQuote) :=
    Avoids.run (by decide) |>.append (.one (by decide)) |>.append (.run (by decide))
      |>.append reference_avoids
  have hfront := avoids_word (avoids_word .wordEdge "drop".toList (by decide)) "table".toList
    (by decide)
  exact hfront.append (optional_avoids hexists)
    |>.append (.capture (reference_avoids.append (.many hcomma)))

theorem alterTable_avoids : AvoidsSemicolon (RenameForm.alterTable.pattern .doubleQuote) := by
  have hexists := avoids_word (first_word_avoids "if".toList (by decide)) "exists".toList
    (by decide)
  have honly := first_word_avoids "only".toList (by decide)
  have hfront := avoids_word (avoids_word .wordEdge "alter".toList (by decide)) "table".toList
    (by decide)
  have hname : AvoidsSemicolon (capture .oldName (reference .doubleQuote)) :=
    .capture reference_avoids
  have hold := hfront.append (optional_avoids hexists) |>.append (optional_avoids honly)
    |>.append hname |>.append blanks_avoids
  exact (avoids_word (avoids_word hold "rename".toList (by decide)) "to".toList (by decide)).append
    (.capture segment_avoids)

theorem routineHeader_avoids : AvoidsSemicolon routineHeader := by
  have hother := anyOf_keywords_avoids ["replace".toList, "alter".toList] (by decide)
  have hkind := anyOf_keywords_avoids
    ["function".toList, "procedure".toList, "proc".toList, "trigger".toList] (by decide)
  have hreplace := ((first_word_avoids "or".toList (by decide)).append hother).append blanks_avoids
  exact (avoids_word .wordEdge "create".toList (by decide)).append (optional_avoids hreplace)
    |>.append hkind |>.append .wordEdge

/-- The words among the statement words; the semicolon is one as well. -/
theorem exists_statementWord_eq :
    ∃ words, AvoidsSemicolon words ∧ statementWord = alt words (char ';') := by
  have hwords := anyOf_keywords_avoids ["select".toList, "insert".toList, "merge".toList,
    "update".toList, "delete".toList, "into".toList, "create".toList, "alter".toList,
    "drop".toList, "exec".toList, "execute".toList, "values".toList] (by decide)
  exact ⟨_, (Avoids.wordEdge.append hwords).append .wordEdge, rfl⟩

end TableLedger.Script
