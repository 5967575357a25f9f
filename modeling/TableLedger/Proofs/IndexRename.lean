/-
  TableLedger.Proofs.IndexRename — index names, renamed or cut in two.

  The indexes of a renamed table are listed and renamed one after the other.  Each new name
  comes from replacing the old table name at bytes that were counted in the lower-case form
  of the index name.  One index name in which these bytes fall into a character breaks the
  whole dialogue off, and with it the statement that it belongs to.  Nothing else does:
  neither what the database answers, nor what the table is called now.

  Main statements:
    • `renameIndexes_run_eq_error_iff` — when renaming indexes breaks off,
    • `renames_as_meant_iff` — and when each new name is the one that is meant.
-/

import TableLedger.IndexRename
import TableLedger.Proofs.Text.Replaced
import TableLedger.Proofs.Transcript
import TableLedger.Proofs.Transcript

namespace TableLedger.IndexRename

open Dialogue Text

variable {σ : Type} {db : Database σ} {d : Dialect} {table : TableRef} {old : Text} {state : σ}
  {fault : Fault}

/-! ## §1. When renaming breaks off -/

/-- Renaming one index breaks off if the cut falls into a character, and for no other reason. -/
theorem renameIndex_run_eq_error_iff {index : Text} :
    ((renameIndex d table old index).run db state).1 = .error fault
      ↔ fault = .cutInsideCharacter ∧ CutsCharacter old index := by
  have hcuts : replaceIgnoringCase old table.table index = .cutsCharacter
      ↔ CutsCharacter old index := replaceIgnoringCase_eq_cutsCharacter_iff
  rw [← hcuts, renameIndex]
  cases replaceIgnoringCase old table.table index with
  | absent => simp
  | cutsCharacter => simp [Dialogue.run, eq_comm]
  | replaced newIndex =>
    rw [run_bind_of_ok (run_executing db _ state)]
    cases (db.execute (Catalog.renameIndex d table index newIndex) state).1 <;> simp

/-- Renaming several breaks off if it does for one of them, for nothing else stops it. -/
theorem renameEach_run_eq_error_iff {indexes : List Text} :
    ((renameEach d table old indexes).run db state).1 = .error fault
      ↔ fault = .cutInsideCharacter ∧ ∃ index ∈ indexes, CutsCharacter old index := by
  induction indexes generalizing state with
  | nil => simp [renameEach]
  | cons index rest ih =>
    have hrest : ∀ (renamed : Bool) (after : σ),
        ((renameEach d table old rest >>= fun others =>
          pure ((if renamed then 1 else 0) + others)).run db after).1 = .error fault
          ↔ fault = .cutInsideCharacter ∧ ∃ index ∈ rest, CutsCharacter old index := by
      intro renamed after
      rw [run_bind_eq_error_iff, ih]
      simp
    -- the first index is passed unless it breaks off, whether it is renamed or not
    have hpassed : (∃ renamed after,
        (renameIndex d table old index).run db state = (.ok renamed, after))
        ↔ ¬CutsCharacter old index := by
      rw [exists_run_eq_ok_iff]
      simp [renameIndex_run_eq_error_iff]
    rw [renameEach, run_bind_eq_error_iff, renameIndex_run_eq_error_iff, List.exists_mem_cons_iff]
    simp only [hrest, exists_and_right, hpassed]
    tauto

/-- **When renaming indexes breaks off**: the indexes are listed, and the old name occurs in
    one of them at bytes that fall into a character. -/
theorem renameIndexes_run_eq_error_iff :
    ((renameIndexes d table old).run db state).1 = .error fault
      ↔ fault = .cutInsideCharacter ∧ old ≠ [] ∧ old ≠ table.table
        ∧ ∃ listed, (db.execute (Catalog.listIndexes d table) state).1 = .ok listed
          ∧ ∃ index ∈ listed.columnTexts Catalog.indexNameColumn, CutsCharacter old index := by
  rw [renameIndexes]
  by_cases hskip : old.isEmpty = true ∨ old = table.table
  · rw [if_pos hskip]
    rw [List.isEmpty_iff] at hskip
    exact iff_of_false nofun fun h => hskip.elim h.2.1 h.2.2.1
  · rw [if_neg hskip, run_bind_of_ok (run_executing db _ state)]
    rw [List.isEmpty_iff, not_or] at hskip
    cases hlisted : (db.execute (Catalog.listIndexes d table) state).1 with
    | error e => simp
    | ok listed =>
      rw [run_bind_eq_error_iff, renameEach_run_eq_error_iff]
      simp [hskip]

/-! ## §2. When indexes are renamed as meant -/

/-- A name in which something is replaced is what the database is told. -/
theorem renameIndex_ends_of_replaced {index newIndex : Text} {rows : QueryResult} {after : σ}
    (hreplaced : replaceIgnoringCase old table.table index = .replaced newIndex)
    (hanswer : db.execute (Catalog.renameIndex d table index newIndex) state = (.ok rows, after)) :
    (renameIndex d table old index).Ends db state true after
      [.executed (Catalog.renameIndex d table index newIndex) (.ok rows)] := by
  have hexecuting := ends_executing db (Catalog.renameIndex d table index newIndex) state
  rw [hanswer] at hexecuting
  rw [renameIndex, hreplaced]
  exact hexecuting.bind_pure rfl

/-- The only index that is listed is given the name in which something is replaced. -/
theorem renameIndexes_ends_of_replaced {index newIndex : Text} {indexes rows : QueryResult}
    {middle after : σ} (hold : old ≠ []) (hother : old ≠ table.table)
    (hlisting : db.execute (Catalog.listIndexes d table) state = (.ok indexes, middle))
    (hnames : indexes.columnTexts Catalog.indexNameColumn = [index])
    (hreplaced : replaceIgnoringCase old table.table index = .replaced newIndex)
    (hanswer : db.execute (Catalog.renameIndex d table index newIndex) middle
      = (.ok rows, after)) :
    (renameIndexes d table old).Ends db state (.ok 1) after
      [.executed (Catalog.listIndexes d table) (.ok indexes),
        .executed (Catalog.renameIndex d table index newIndex) (.ok rows)] := by
  have hskip : ¬(old.isEmpty ∨ old = table.table) := by simp [hold, hother]
  have hexecuting := ends_executing db (Catalog.listIndexes d table) state
  rw [hlisting] at hexecuting
  have hrenamed := renameIndex_ends_of_replaced hreplaced hanswer
  have heach : (renameEach d table old [index]).Ends db middle 1 after _ :=
    hrenamed.bind_pure rfl
  rw [renameIndexes, if_neg hskip]
  refine hexecuting.bind ?_
  simp only [hnames]
  exact heach.bind_pure rfl

/-- **Which index names are renamed, and to what.**  Renaming the indexes of a table that had
    another name breaks off if and only if the old name occurs in a listed one at bytes that
    fall into a character.  A name is replaced as meant, whatever comes in its place, if and
    only if the pieces between the bytes at which it is found are the pieces between the
    characters that make it up in lower case; they are if every character keeps its size.
    What is meant is nothing if lengths change as a whole or no characters make the name up. -/
theorem renames_as_meant_iff (db : Database σ) (state : σ) (d : Dialect) (table : TableRef)
    {old : Text} (hold : old ≠ []) :
    (∀ fault, ((renameIndexes d table old).run db state).1 = .error fault
        ↔ fault = .cutInsideCharacter ∧ old ≠ table.table
          ∧ ∃ listed, (db.execute (Catalog.listIndexes d table) state).1 = .ok listed
            ∧ ∃ index ∈ listed.columnTexts Catalog.indexNameColumn, CutsCharacter old index)
      ∧ ∀ t : Text,
        ((∀ replacement,
            replaceIgnoringCase old replacement t = replaceLocated old replacement t)
          ↔ (KeepsLength old t → piecesFound? old t = some (piecesMeant old t)))
        ∧ (KeepsSizes (cased t) → ∀ replacement,
            replaceIgnoringCase old replacement t = replaceLocated old replacement t)
        ∧ ∀ replacement, replaceLocated old replacement t = .absent
          ↔ ¬(KeepsLength old t ∧ ∃ front found behind, cased t = front ++ (found ++ behind)
            ∧ lowers found = old.lowercase) := by
  refine ⟨fun fault => ?_, fun t => ⟨replaceIgnoringCase_eq_replaceLocated_iff, ?_, ?_⟩⟩
  · rw [renameIndexes_run_eq_error_iff]
    simp [hold]
  · exact fun hsizes => replaceIgnoringCase_eq_replaceLocated_iff.mpr fun hkeeps =>
      pieces_of_keepsSizes hold hkeeps hsizes
  · exact fun replacement => replaceLocated_eq_absent_iff hold

/-- The rows that list one index. -/
def listed (index : Text) : QueryResult := ⟨[.object [(Catalog.indexNameColumn, .text index)]]⟩

/-- A database that lists one index, whatever it is asked. -/
def listing (index : Text) : Database Unit where
  execute _ _ := (.ok (listed index), ())
  lookUp _ _ := (.ok true, ())
  askSchema _ := (.ok [], ())
  readClock _ := (⟨0, 0⟩, ())

/-- An index name without such characters, and one in which they stand in front of the
    occurrence and cancel out there. -/
theorem renames_test_as_meant :
    (∀ fault, ((renameIndexes .pg (.inSchema "public".toList "node".toList) "test".toList).run
        (listing "IX_Test_Id".toList) ()).1 ≠ .error fault)
      ∧ replaceIgnoringCase "test".toList "node".toList "IX_Test_Id".toList
        = .replaced "IX_node_Id".toList
      ∧ (∀ replacement, replaceIgnoringCase "test".toList replacement "\u0130\u2126_Test".toList
        = replaceLocated "test".toList replacement "\u0130\u2126_Test".toList)
      ∧ ∀ front found behind, cased "pk_other".toList = front ++ (found ++ behind) →
        lowers found ≠ Text.lowercase "test".toList := by
  have hold : "test".toList ≠ [] := by decide
  obtain ⟨hbreaks, hreplaces⟩ := renames_as_meant_iff (listing "IX_Test_Id".toList) () .pg
    (.inSchema "public".toList "node".toList) hold
  obtain ⟨-, hsizes, -⟩ := hreplaces "IX_Test_Id".toList
  obtain ⟨hpieces, -, -⟩ := hreplaces "\u0130\u2126_Test".toList
  obtain ⟨-, -, habsent⟩ := hreplaces "pk_other".toList
  refine ⟨fun fault hfault => ?_, ?_, hpieces.mpr fun _ => by decide +kernel, ?_⟩
  · obtain ⟨-, -, listed, hlisted, hcuts⟩ := (hbreaks fault).mp hfault
    injection hlisted with hlisted
    subst hlisted
    exact absurd hcuts (by decide +kernel)
  · rw [hsizes (by decide +kernel)]
    decide +kernel
  · intro front found behind hcased hfound
    exact (habsent "node".toList).mp (by decide +kernel)
      ⟨by decide +kernel, front, found, behind, hcased, hfound⟩

/-- The capital I with a dot grows by a byte and the ohm sign shrinks by one, so what stands
    between them is found one byte too late.  The database is told to give an index a name in
    which the wrong bytes are replaced; without the line under it, the byte falls into the ohm
    sign and the renaming breaks off. -/
theorem not_renamed_as_meant :
    (renameIndexes .pg (.inSchema "public".toList "new".toList) "old".toList).Ends
        (listing "\u0130old_\u2126".toList) () (.ok 1) ()
        [.executed (Catalog.listIndexes .pg (.inSchema "public".toList "new".toList))
          (.ok (listed "\u0130old_\u2126".toList)),
        .executed (Catalog.renameIndex .pg (.inSchema "public".toList "new".toList)
          "\u0130old_\u2126".toList "\u0130onew\u2126".toList)
          (.ok (listed "\u0130old_\u2126".toList))]
      ∧ replaceIgnoringCase "old".toList "new".toList "\u0130old_\u2126".toList
        = .replaced "\u0130onew\u2126".toList
      ∧ replaceLocated "old".toList "new".toList "\u0130old_\u2126".toList
        = .replaced "\u0130new_\u2126".toList
      ∧ ((renameIndexes .pg (.inSchema "public".toList "new".toList) "old".toList).run
          (listing "\u0130old\u2126".toList) ()).1 = .error .cutInsideCharacter
      ∧ replaceLocated "old".toList "new".toList "\u0130old\u2126".toList
        = .replaced "\u0130new\u2126".toList := by
  have hreplaced : replaceIgnoringCase "old".toList "new".toList "\u0130old_\u2126".toList
      = .replaced "\u0130onew\u2126".toList := by decide +kernel
  refine ⟨?_, hreplaced, ?_, ?_, ?_⟩
  · exact renameIndexes_ends_of_replaced (by decide) (by decide) rfl rfl hreplaced rfl
  · decide +kernel
  · decide +kernel
  · decide +kernel

end TableLedger.IndexRename
