/-
  TableLedger.Proofs.Registry.Refinement — the registry as a set of tables.

  The tables that a registry lists as created stand for a set.  On tables of
  the session's own database, where a rename changes the name and nothing
  else, the events of scripts act on that set as they act on a catalog:
  a creation inserts, a drop removes, and a rename moves a table that is
  there, whatever had its new name before.

  The registry works on a list.  It renames in place, takes out what the new
  name repeats, and finds its entries by equality first and by the qualifiers
  known on both sides second.  `Mirrors` is the simulation between the two:
  each event keeps it, so every sequence of events does.

  Main statements:
    • `entryFor?_eq_none_of_isLocal` — a local reference is found at itself
      or not at all,
    • `Mirrors.record` — one event takes mirrored states to mirrored states,
    • `toFinset_created_foldl_record` — after any local events the registry
      lists the tables of the set.
-/

import Mathlib.Data.Finset.Dedup
import Mathlib.Data.Finset.Erase
import Mathlib.Data.Finset.Insert
import TableLedger.Proofs.Registry

namespace TableLedger

/-! ## §1. Sets of tables -/

/-- A catalog as nothing but the set of its tables. -/
abbrev TableSet := Finset TableRef

/-- Change a set of tables as an event says.  A rename moves a table that is
    there; a table that had the new name gives way. -/
def TableSet.apply (tables : TableSet) : TableEvent → TableSet
  | .created table => insert table tables
  | .dropped table => tables.erase table
  | .renamed old new => if old ∈ tables then insert new (tables.erase old) else tables

namespace TableEvent

/-- The event is about tables of the session's own database, and a rename
    changes the name only. -/
def StaysLocal : TableEvent → Prop
  | created table => table.isLocal = true
  | dropped table => table.isLocal = true
  | renamed old new => old.isLocal = true ∧ new = old.withName new.table

instance : DecidablePred StaysLocal
  | created table => inferInstanceAs (Decidable (table.isLocal = true))
  | dropped table => inferInstanceAs (Decidable (table.isLocal = true))
  | renamed old new =>
    inferInstanceAs (Decidable (old.isLocal = true ∧ new = old.withName new.table))

end TableEvent

/-- Local events keep a set of local tables one. -/
theorem TableSet.isLocal_of_mem_apply {tables : TableSet} {event : TableEvent}
    (htables : ∀ t ∈ tables, t.isLocal = true) (hevent : event.StaysLocal) :
    ∀ t ∈ tables.apply event, t.isLocal = true := by
  intro t ht
  cases event with
  | created table =>
    obtain rfl | ht := Finset.mem_insert.mp ht
    · exact hevent
    · exact htables t ht
  | dropped table => exact htables t (Finset.mem_of_mem_erase ht)
  | renamed old new =>
    have ht : t ∈ if old ∈ tables then insert new (tables.erase old) else tables := ht
    split at ht
    · obtain rfl | ht := Finset.mem_insert.mp ht
      · -- the new name stands at the place of the old one
        rw [hevent.2]
        exact hevent.1
      · exact htables t (Finset.mem_of_mem_erase ht)
    · exact htables t ht

/-! ## §2. Local tables -/

namespace TableRef

/-- Two local references are to the same table only if they are equal. -/
theorem eq_of_sameTable_of_isLocal {r s : TableRef} (hr : r.isLocal = true)
    (hs : s.isLocal = true) (h : r.sameTable s = true) : r = s := by
  obtain ⟨server, database, schema, table⟩ := r
  obtain ⟨server', database', schema', table'⟩ := s
  obtain ⟨rfl, rfl⟩ := isLocal_iff.mp hr
  obtain ⟨rfl, rfl⟩ := isLocal_iff.mp hs
  simp only [sameTable, Bool.and_eq_true, beq_iff_eq] at h
  obtain ⟨⟨⟨rfl, rfl⟩, -⟩, -⟩ := h
  rfl

end TableRef

namespace Registry

/-- A local reference is found at no other local table. -/
theorem entryFor?_eq_none_of_isLocal {created : List TableRef} {table : TableRef}
    (hcreated : ∀ t ∈ created, t.isLocal = true) (htable : table.isLocal = true)
    (hnot : table ∉ created) : entryFor? created table = none := by
  cases hentry : entryFor? created table with
  | none => rfl
  | some entry =>
    -- an entry that agrees with the reference would be equal to it
    obtain ⟨hmem, hsame⟩ := entryFor?_spec hentry
    have heq := TableRef.eq_of_sameTable_of_isLocal (hcreated entry hmem) htable hsame
    exact absurd (heq ▸ hmem) hnot

/-! ## §3. The simulation -/

/-- The registry lists the tables of the set, each once, and all are local. -/
structure Mirrors (r : Registry) (tables : TableSet) : Prop where
  isLocal : ∀ t ∈ r.created, t.isLocal = true
  nodup : r.created.Nodup
  mem_iff : ∀ t, t ∈ r.created ↔ t ∈ tables

variable {r : Registry} {tables : TableSet} {table old new : TableRef}

theorem mirrors_empty : empty.Mirrors ∅ :=
  ⟨fun _ h => absurd h List.not_mem_nil, List.nodup_nil, fun _ => by simp [empty]⟩

/-- A creation is mirrored. -/
theorem Mirrors.mem_recordCreated (h : r.Mirrors tables) (t : TableRef) :
    t ∈ (r.recordCreated table).created ↔ t ∈ tables.apply (.created table) := by
  show _ ↔ t ∈ insert table tables
  rw [Finset.mem_insert, ← h.mem_iff]
  unfold recordCreated
  split
  · next hlisted =>
    have hmem : table ∈ r.created := by simpa using hlisted
    exact ⟨Or.inr, fun ht => ht.elim (fun heq => heq ▸ hmem) id⟩
  · rw [List.mem_append, List.mem_singleton, or_comm]

/-- A drop is mirrored if its table is named without a database. -/
theorem Mirrors.mem_recordDropped (h : r.Mirrors tables) (htable : table.isLocal = true)
    (t : TableRef) :
    t ∈ (r.recordDropped table).created ↔ t ∈ tables.apply (.dropped table) := by
  show _ ↔ t ∈ tables.erase table
  rw [Finset.mem_erase, ← h.mem_iff]
  unfold recordDropped
  by_cases hlisted : table ∈ r.created
  · simp only [entryFor?_of_mem hlisted]
    exact h.nodup.mem_erase_iff
  · -- there is nothing to take away on either side
    simp only [entryFor?_eq_none_of_isLocal h.isLocal htable hlisted]
    have hother : t ∈ r.created → t ≠ table := fun ht heq => hlisted (heq ▸ ht)
    exact (and_iff_right_of_imp hother).symm

/-- A rename within its schema is mirrored. -/
theorem Mirrors.mem_recordRenamed (h : r.Mirrors tables) (hold : old.isLocal = true)
    (hnew : new = old.withName new.table) (t : TableRef) :
    t ∈ (r.recordRenamed old new).created ↔ t ∈ tables.apply (.renamed old new) := by
  show _ ↔ t ∈ if old ∈ tables then insert new (tables.erase old) else tables
  unfold recordRenamed
  by_cases hlisted : old ∈ r.created
  · have hthere : old ∈ tables := (h.mem_iff old).mp hlisted
    simp only [entryFor?_of_mem hlisted, ← hnew, if_pos hthere]
    rw [mem_keepFirst, mem_replace_iff h.nodup hlisted, Finset.mem_insert, Finset.mem_erase,
      h.mem_iff, and_comm]
  · -- the registry passes over a rename of a table that it does not list
    have hmissing : old ∉ tables := fun hthere => hlisted ((h.mem_iff old).mpr hthere)
    simp only [entryFor?_eq_none_of_isLocal h.isLocal hold hlisted, if_neg hmissing]
    exact h.mem_iff t

/-- Every event that stays local is mirrored. -/
theorem Mirrors.mem_record (h : r.Mirrors tables) {event : TableEvent}
    (hevent : event.StaysLocal) (t : TableRef) :
    t ∈ (r.record event).created ↔ t ∈ tables.apply event := by
  cases event with
  | created table => exact h.mem_recordCreated t
  | dropped table => exact h.mem_recordDropped hevent t
  | renamed old new => exact h.mem_recordRenamed hevent.1 hevent.2 t

/-- One event takes mirrored states to mirrored states. -/
theorem Mirrors.record (h : r.Mirrors tables) {event : TableEvent} (hevent : event.StaysLocal) :
    (r.record event).Mirrors (tables.apply event) where
  isLocal t ht :=
    TableSet.isLocal_of_mem_apply (fun s hs => h.isLocal s ((h.mem_iff s).mpr hs)) hevent t
      ((h.mem_record hevent t).mp ht)
  nodup := nodup_created_record h.nodup event
  mem_iff := h.mem_record hevent

/-- Any number of events takes mirrored states to mirrored states. -/
theorem Mirrors.foldl_record (h : r.Mirrors tables) {events : List TableEvent}
    (hevents : ∀ event ∈ events, event.StaysLocal) :
    (events.foldl Registry.record r).Mirrors (events.foldl TableSet.apply tables) := by
  induction events generalizing r tables with
  | nil => exact h
  | cons event rest ih =>
    have hfirst := h.record (hevents event List.mem_cons_self)
    exact ih hfirst fun e he => hevents e (List.mem_cons_of_mem event he)

/-- **Tracking refines the catalog.**  After any local events, the tables that a
    new registry lists as created are those of the set that starts empty and
    takes in the same events. -/
theorem toFinset_created_foldl_record {events : List TableEvent}
    (hevents : ∀ event ∈ events, event.StaysLocal) :
    (events.foldl Registry.record empty).created.toFinset = events.foldl TableSet.apply ∅ := by
  have hmirrors := mirrors_empty.foldl_record hevents
  ext t
  rw [List.mem_toFinset]
  exact hmirrors.mem_iff t

/-- Two tables that swap their names by way of a third one, and a rename onto a
    table that is there. -/
def swapAndOvertake : List TableEvent :=
  let a : TableRef := .inSchema "public".toList "a".toList
  let b : TableRef := .inSchema "public".toList "b".toList
  let c : TableRef := .inSchema "public".toList "c".toList
  [.created a, .created b, .renamed a c, .renamed b a, .renamed c b, .created c, .renamed a c]

/-- Two tables that swap their names over a third one, and a rename onto a table that is
    there. -/
theorem toFinset_created_swapAndOvertake :
    (∀ event ∈ swapAndOvertake, event.StaysLocal)
      ∧ (swapAndOvertake.foldl Registry.record empty).created.toFinset
        = {.inSchema "public".toList "b".toList, .inSchema "public".toList "c".toList} := by
  have hlocal : ∀ event ∈ swapAndOvertake, event.StaysLocal := by decide
  refine ⟨hlocal, ?_⟩
  rw [toFinset_created_foldl_record hlocal]
  decide

end Registry

end TableLedger
