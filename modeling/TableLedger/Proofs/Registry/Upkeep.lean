/-
  TableLedger.Proofs.Registry.Upkeep — the registry under all of its operations.

  A registry records events, starts statements, hands its list of created tables
  over and is reset.  Its references may be local or not, so an operation may find
  an entry that is only to the same table as its argument.  Whatever was done to a
  registry before, no table is listed twice; the list of dropped tables grows at
  its end until it is reset; and a drop or a rename concerns a single entry.

  The last of these is stated by cutting the list at the entry: `Loses` for a
  drop, `Renamed` for a rename, which may in addition remove the entry that had
  the new name already.

  Main statements:
    • `loses_recordDropped`, `renamed_recordRenamed` — one operation on a list
      without repetition,
    • `nodup_created_run` — no sequence of operations lists a table twice,
    • `dropped_run` — the dropped tables, between two resets,
    • `one_entry_per_operation` — all of it, for every sequence of operations.
-/

import Mathlib.Data.List.Nodup
import TableLedger.Proofs.Registry

namespace TableLedger

/-! ## §1. Operations -/

/-- What a registry may be asked to do. -/
inductive RegistryOperation where
  | record (event : TableEvent)
  | beginStatement
  | takeCreated
  | reset
  deriving DecidableEq, Repr

/-- The tables that an operation lists as dropped. -/
def RegistryOperation.drops : RegistryOperation → List TableRef
  | record (.dropped table) => [table]
  | record (.renamed old _) => [old]
  | record (.created _) | beginStatement | takeCreated | reset => []

namespace Registry

/-- The registry after an operation. -/
def perform (r : Registry) : RegistryOperation → Registry
  | .record event => r.record event
  | .beginStatement => r.beginStatement
  | .takeCreated => r.takeCreated.2
  | .reset => empty

/-- The registry after operations, one after the other. -/
def run (r : Registry) (operations : List RegistryOperation) : Registry :=
  operations.foldl perform r

/-! ## §2. One entry of a list -/

variable {r : Registry} {table old new entry t : TableRef} {front back created : List TableRef}

/-- Lists of tables before and after the drop of a table: no entry was to that
    table and nothing changed, or one entry that was to it is gone. -/
inductive Loses (table : TableRef) : List TableRef → List TableRef → Prop where
  | nothing {created : List TableRef} (hnone : ∀ t ∈ created, t.sameTable table = false) :
      Loses table created created
  | one {front back : List TableRef} {entry : TableRef} (hentry : entry.sameTable table = true) :
      Loses table (front ++ entry :: back) (front ++ back)

/-- Lists of tables before and after the rename of `old` to `name`: no entry was
    to `old` and nothing changed, or one entry that was to it has the new name.
    It stands where it stood and an equal entry behind it is gone, or an equal
    entry in front of it stands for both. -/
inductive Renamed (old : TableRef) (name : Text) : List TableRef → List TableRef → Prop where
  | nothing {created : List TableRef} (hnone : ∀ t ∈ created, t.sameTable old = false) :
      Renamed old name created created
  | inPlace {front back : List TableRef} {entry : TableRef} (hentry : entry.sameTable old = true)
      (hfront : entry.withName name ∉ front) :
      Renamed old name (front ++ entry :: back)
        (front ++ entry.withName name :: back.erase (entry.withName name))
  | joined {front back : List TableRef} {entry : TableRef} (hentry : entry.sameTable old = true)
      (hfront : entry.withName name ∈ front) :
      Renamed old name (front ++ entry :: back) (front ++ back)

/-- A reference that is found nowhere is to no entry. -/
theorem sameTable_eq_false_of_entryFor?_eq_none (h : entryFor? created table = none)
    (ht : t ∈ created) : t.sameTable table = false := by
  unfold entryFor? at h
  cases hexact : created.find? (· == table) with
  | some found => rw [hexact] at h; injection h
  | none =>
    have hloose : created.find? (·.sameTable table) = none := by simpa [hexact] using h
    simpa using List.find?_eq_none.mp hloose t ht

/-- The entry that a reference is found at, where the list is cut first. -/
theorem exists_cut_of_entryFor? (h : entryFor? created table = some entry) :
    ∃ front back, created = front ++ entry :: back ∧ entry ∉ front
      ∧ entry.sameTable table = true := by
  obtain ⟨hmem, hsame⟩ := entryFor?_spec h
  obtain ⟨front, back, hcut, hfront⟩ := List.eq_append_cons_of_mem hmem
  exact ⟨front, back, hcut, hfront, hsame⟩

/-- In front of the first entry nothing changes. -/
theorem keepFirst_append_of_not_mem (h : table ∉ front) :
    keepFirst table (front ++ back) = front ++ keepFirst table back := by
  induction front with
  | nil => rfl
  | cons s front ih =>
    rw [List.mem_cons, not_or] at h
    rw [List.cons_append, keepFirst, if_neg (Ne.symm h.1), ih h.2, List.cons_append]

/-- Behind the first entry all the others are taken out. -/
theorem keepFirst_append_of_mem (hnodup : front.Nodup) (h : table ∈ front) :
    keepFirst table (front ++ back) = front ++ back.filter (· != table) := by
  induction front with
  | nil => exact absurd h List.not_mem_nil
  | cons s front ih =>
    obtain ⟨hs, hfront⟩ := List.nodup_cons.mp hnodup
    rw [List.cons_append, keepFirst]
    split
    · -- the rest of the front does not repeat the table
      next heq =>
      have hkept : front.filter (· != table) = front := by
        refine List.filter_eq_self.mpr fun u hu => ?_
        rw [bne_iff_ne]
        rintro rfl
        exact hs (heq ▸ hu)
      rw [List.filter_append, hkept, List.cons_append]
    · next hne =>
      have hmem : table ∈ front := (List.mem_cons.mp h).resolve_left (Ne.symm hne)
      rw [ih hfront hmem, List.cons_append]

/-! ## §3. One operation -/

/-- Recording a drop takes one entry for the table away, at most. -/
theorem loses_recordDropped (r : Registry) (table : TableRef) :
    Loses table r.created (r.recordDropped table).created := by
  unfold recordDropped
  cases hentry : entryFor? r.created table with
  | none => exact .nothing fun t => sameTable_eq_false_of_entryFor?_eq_none hentry
  | some entry =>
    obtain ⟨front, back, hcut, hfront, hsame⟩ := exists_cut_of_entryFor? hentry
    dsimp only
    rw [hcut, List.erase_append_right _ hfront, List.erase_cons_head]
    exact .one hsame

/-- A table that was dropped is not listed. -/
theorem not_mem_created_recordDropped (hnodup : r.created.Nodup) (table : TableRef) :
    table ∉ (r.recordDropped table).created := by
  by_cases hlisted : table ∈ r.created
  · -- a listed table is found at itself, and was listed once
    unfold recordDropped
    simp only [entryFor?_of_mem hlisted]
    exact hnodup.not_mem_erase
  · exact fun h => hlisted (mem_created_recordDropped h)

/-- Recording a rename concerns one entry for the old name, at most. -/
theorem renamed_recordRenamed (hnodup : r.created.Nodup) (old new : TableRef) :
    Renamed old new.table r.created (r.recordRenamed old new).created := by
  unfold recordRenamed
  cases hentry : entryFor? r.created old with
  | none => exact .nothing fun t => sameTable_eq_false_of_entryFor?_eq_none hentry
  | some entry =>
    obtain ⟨front, back, hcut, hfront, hsame⟩ := exists_cut_of_entryFor? hentry
    rw [hcut] at hnodup
    have hfrontNodup : front.Nodup := hnodup.of_append_left
    have hbackNodup : back.Nodup := (List.nodup_cons.mp hnodup.of_append_right).2
    dsimp only
    rw [hcut, List.replace_append_right hfront, List.replace_cons_self]
    by_cases hthere : entry.withName new.table ∈ front
    · -- the entry under its new name repeats one in front of it
      have hapart : entry.withName new.table ∉ back := fun hback =>
        List.disjoint_of_nodup_append hnodup hthere (List.mem_cons_of_mem _ hback)
      have hback : (entry.withName new.table :: back).filter (· != entry.withName new.table)
          = back := by
        rw [List.filter_cons_of_neg (by simp), ← hbackNodup.erase_eq_filter,
          List.erase_of_not_mem hapart]
      rw [keepFirst_append_of_mem hfrontNodup hthere, hback]
      exact .joined hsame hthere
    · rw [keepFirst_append_of_not_mem hthere, keepFirst, if_pos rfl,
        ← hbackNodup.erase_eq_filter]
      exact .inPlace hsame hthere

/-- A table that was renamed to another name is not listed. -/
theorem not_mem_created_recordRenamed (hnodup : r.created.Nodup) (hname : old.table ≠ new.table) :
    old ∉ (r.recordRenamed old new).created := by
  by_cases hlisted : old ∈ r.created
  · exact (not_mem_created_recordRenamed_iff hnodup hlisted).mpr
      ⟨entryFor?_of_mem hlisted, hname.symm⟩
  · -- what the rename lists anew has the new name
    intro h
    obtain h | ⟨hintroduced, -⟩ := mem_created_recordRenamed h
    · exact hlisted h
    · exact hname hintroduced

/-- No operation lists a table twice. -/
theorem nodup_created_perform (h : r.created.Nodup) (operation : RegistryOperation) :
    (r.perform operation).created.Nodup := by
  cases operation with
  | record event => exact nodup_created_record h event
  | beginStatement => exact h
  | takeCreated | reset => exact List.nodup_nil

/-- Every operation but a reset lists its drops behind the earlier ones. -/
theorem dropped_perform {operation : RegistryOperation} (h : operation ≠ .reset) :
    (r.perform operation).dropped = r.dropped ++ operation.drops := by
  cases operation with
  | reset => exact absurd rfl h
  | beginStatement | takeCreated => exact (List.append_nil _).symm
  | record event =>
    cases event with
    | dropped table | renamed old new => rfl
    | created table =>
      show (r.recordCreated table).dropped = r.dropped ++ []
      rw [List.append_nil]
      unfold recordCreated
      split
      · rfl
      · rfl

/-! ## §4. Sequences of operations -/

/-- No operations bring a table into the list twice. -/
theorem nodup_created_run (h : r.created.Nodup) (operations : List RegistryOperation) :
    (r.run operations).created.Nodup := by
  induction operations generalizing r with
  | nil => exact h
  | cons operation rest ih => exact ih (nodup_created_perform h operation)

/-- Without a reset, the dropped tables are the earlier ones and then those of the
    operations, in order. -/
theorem dropped_run (operations : List RegistryOperation) (h : .reset ∉ operations) :
    (r.run operations).dropped = r.dropped ++ operations.flatMap RegistryOperation.drops := by
  induction operations generalizing r with
  | nil => exact (List.append_nil _).symm
  | cons operation rest ih =>
    rw [List.mem_cons, not_or] at h
    have hrest : ((r.perform operation).run rest).dropped = _ := ih h.2
    rw [dropped_perform (Ne.symm h.1), List.append_assoc] at hrest
    exact hrest

/-- **One entry per operation.**  After any operations on a new registry no table
    is listed twice.  From there, further operations without a reset list their
    drops at the end.  A drop takes away one entry for its table, at most, and the
    table is then not listed; a rename gives one entry for the old name the new
    one, at most, and the old name is then not listed if the two differ. -/
theorem one_entry_per_operation (operations : List RegistryOperation) :
    (empty.run operations).created.Nodup
      ∧ (∀ more : List RegistryOperation, .reset ∉ more →
          ((empty.run operations).run more).dropped
            = (empty.run operations).dropped ++ more.flatMap RegistryOperation.drops)
      ∧ (∀ table,
          table ∉ ((empty.run operations).recordDropped table).created
            ∧ Loses table (empty.run operations).created
              ((empty.run operations).recordDropped table).created)
      ∧ ∀ old new : TableRef,
          (old.table ≠ new.table → old ∉ ((empty.run operations).recordRenamed old new).created)
            ∧ Renamed old new.table (empty.run operations).created
              ((empty.run operations).recordRenamed old new).created := by
  have hnodup : (empty.run operations).created.Nodup := nodup_created_run List.nodup_nil operations
  refine ⟨hnodup, dropped_run, fun table => ?_, fun old new => ?_⟩
  · exact ⟨not_mem_created_recordDropped hnodup table, loses_recordDropped _ table⟩
  · exact ⟨not_mem_created_recordRenamed hnodup, renamed_recordRenamed hnodup old new⟩

/-- Two tables of one name, one of them of another database, and a third one that
    takes over that name. -/
def overtakingByLooseName : List RegistryOperation :=
  let there : TableRef := ⟨none, some "db".toList, "dbo".toList, "t".toList⟩
  let a : TableRef := .inSchema "dbo".toList "a".toList
  let t : TableRef := .inSchema "dbo".toList "t".toList
  [.record (.created there), .record (.created a), .beginStatement, .record (.dropped t),
    .record (.created t), .record (.created there)]

/-- A loose name that overtakes two entries at once. -/
theorem one_entry_per_operation_overtaking :
    let before := empty.run overtakingByLooseName
    let a : TableRef := .inSchema "dbo".toList "a".toList
    let t : TableRef := .inSchema "dbo".toList "t".toList
    before.created.length = 3 ∧ before.created.Nodup
      ∧ .reset ∉ [RegistryOperation.takeCreated, .record (.renamed a t)]
      ∧ (before.run [.takeCreated, .record (.renamed a t)]).dropped = before.dropped ++ [a]
      ∧ t ∉ (before.recordDropped t).created
      ∧ a.table ≠ t.table ∧ a ∉ (before.recordRenamed a t).created := by
  intro before a t
  obtain ⟨hnodup, hdropped, hdrop, hrename⟩ := one_entry_per_operation overtakingByLooseName
  have hmore : .reset ∉ [RegistryOperation.takeCreated, .record (.renamed a t)] := by decide
  have hname : a.table ≠ t.table := by decide
  refine ⟨by decide, hnodup, hmore, hdropped _ hmore, (hdrop t).1, hname, (hrename a t).1 hname⟩

end Registry

end TableLedger
