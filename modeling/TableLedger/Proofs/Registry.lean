/-
  TableLedger.Proofs.Registry — where the entries of a registry come from.

  A registry changes by one event at a time.  An entry that it lists as
  created either was listed before, or the event introduces it: the event
  creates it, or it renames a table of the same place to it.  Over a list
  of events the same holds with one of the events.

  Main statements:
    • `entryFor?_spec` — the entry that a reference is found at,
    • `mem_created_foldl` — an entry was there at first, or an event
      introduces it,
    • `nodup_created_record` — no event lists a table twice,
    • `Agrees.foldl_record` — what a registry makes of events does not
      depend on the renames that it remembers.
-/

import TableLedger.Registry

namespace TableLedger

/-! ## §1. Tables that an event introduces -/

/-- Whether recording the event may list a table as created: the event creates
    it, or renames a table that differs from it in the name only. -/
def TableEvent.Introduces : TableEvent → TableRef → Prop
  | .created table, r => r = table
  | .dropped _, _ => False
  | .renamed old new, r =>
    r.table = new.table ∧ (r.withName old.table).sameTable old = true

namespace TableRef

theorem agree_self : ∀ q : Option Text, agree q q = true
  | none => rfl
  | some _ => by simp [agree]

theorem sameTable_self (r : TableRef) : r.sameTable r = true := by
  simp [sameTable, agree_self]

theorem isLocal_iff {r : TableRef} : r.isLocal = true ↔ r.server = none ∧ r.database = none := by
  simp [isLocal]

/-- Nothing but schema and name counts when a local reference is compared. -/
theorem sameTable_of_isLocal {r s : TableRef} (hs : s.isLocal = true) :
    r.sameTable s = (r.schema == s.schema && r.table == s.table) := by
  obtain ⟨hserver, hdatabase⟩ := isLocal_iff.mp hs
  simp [sameTable, hserver, hdatabase, agree]

/-- References to the same table name the same table. -/
theorem table_eq_of_sameTable {r s : TableRef} (h : r.sameTable s = true) : r.table = s.table := by
  simp only [sameTable, Bool.and_eq_true, beq_iff_eq] at h
  exact h.1.1.2

/-- Renaming and renaming back. -/
theorem withName_withName_self {r : TableRef} {name other : Text} (h : r.table = name) :
    (r.withName other).withName name = r := by
  subst h
  rfl

end TableRef

namespace Registry

/-! ## §2. Looking entries up -/

/-- The entry found for a reference is listed and is to the same table. -/
theorem entryFor?_spec {created : List TableRef} {table entry : TableRef}
    (h : entryFor? created table = some entry) :
    entry ∈ created ∧ entry.sameTable table = true := by
  unfold entryFor? at h
  cases hexact : created.find? (· == table) with
  | some found =>
    -- an entry that equals the reference wins over one that only agrees with it
    have hfound : found = entry := by simpa [hexact] using h
    have heq : found = table := by simpa using List.find?_some hexact
    refine ⟨hfound ▸ List.mem_of_find?_eq_some hexact, ?_⟩
    rw [← hfound, heq]
    exact table.sameTable_self
  | none =>
    have hloose : created.find? (·.sameTable table) = some entry := by simpa [hexact] using h
    exact ⟨List.mem_of_find?_eq_some hloose, by simpa using List.find?_some hloose⟩

/-- A table that is listed is found at itself. -/
theorem entryFor?_of_mem {created : List TableRef} {table : TableRef} (h : table ∈ created) :
    entryFor? created table = some table := by
  have hexact : created.find? (· == table) = some table := by
    cases hfind : created.find? (· == table) with
    | none => exact absurd (List.find?_eq_none.mp hfind table h) (by simp)
    | some found =>
      have heq : found = table := by simpa using List.find?_some hfind
      rw [heq]
  simp [entryFor?, hexact]

/-- A local reference that is not listed itself is found at the first entry of
    its schema and name, in whatever database. -/
theorem entryFor?_of_isLocal {created : List TableRef} {table : TableRef}
    (htable : table.isLocal = true) (hnot : table ∉ created) :
    entryFor? created table
      = created.find? fun t => t.schema == table.schema && t.table == table.table := by
  have hexact : created.find? (· == table) = none := by
    rw [List.find?_eq_none]
    intro t ht heq
    exact hnot (beq_iff_eq.mp heq ▸ ht)
  simp [entryFor?, hexact, TableRef.sameTable_of_isLocal htable]

/-- Removing repetitions of a table loses no table. -/
theorem mem_keepFirst {table t : TableRef} {created : List TableRef} :
    t ∈ keepFirst table created ↔ t ∈ created := by
  induction created with
  | nil => exact Iff.rfl
  | cons r rest ih =>
    unfold keepFirst
    split
    · -- the first entry is kept, and what is filtered out behind it equals it
      next hr =>
      rw [List.mem_cons, List.mem_cons, List.mem_filter, bne_iff_ne, ← hr]
      constructor
      · exact Or.imp_right And.left
      · by_cases ht : t = r
        · exact fun _ => Or.inl ht
        · exact Or.imp_right fun h => ⟨h, ht⟩
    · rw [List.mem_cons, List.mem_cons, ih]

/-- Replacing brings in the replacement only. -/
theorem mem_of_mem_replace {old new t : TableRef} {created : List TableRef}
    (h : t ∈ created.replace old new) : t ∈ created ∨ t = new := by
  induction created with
  | nil => exact Or.inl h
  | cons r rest ih =>
    rw [List.replace_cons] at h
    split at h
    · -- only the first occurrence gives way
      obtain rfl | h := List.mem_cons.mp h
      · exact Or.inr rfl
      · exact Or.inl (List.mem_cons_of_mem _ h)
    · obtain rfl | h := List.mem_cons.mp h
      · exact Or.inl List.mem_cons_self
      · exact (ih h).imp_left (List.mem_cons_of_mem _)

/-! ## §3. Where entries come from -/

/-- A creation brings in its own table only. -/
theorem mem_created_recordCreated {r : Registry} {table t : TableRef}
    (h : t ∈ (r.recordCreated table).created) : t ∈ r.created ∨ t = table := by
  unfold recordCreated at h
  split at h
  · exact Or.inl h
  · exact (List.mem_append.mp h).imp_right List.mem_singleton.mp

/-- A drop brings in nothing. -/
theorem mem_created_recordDropped {r : Registry} {table t : TableRef}
    (h : t ∈ (r.recordDropped table).created) : t ∈ r.created := by
  cases hentry : entryFor? r.created table with
  | none => simpa [recordDropped, hentry] using h
  | some entry => exact List.mem_of_mem_erase (by simpa [recordDropped, hentry] using h)

/-- A rename brings in its new name only, where it introduces that. -/
theorem mem_created_recordRenamed {r : Registry} {old new t : TableRef}
    (h : t ∈ (r.recordRenamed old new).created) :
    t ∈ r.created ∨ (TableEvent.renamed old new).Introduces t := by
  cases hentry : entryFor? r.created old with
  | none => exact Or.inl (by simpa [recordRenamed, hentry] using h)
  | some entry =>
    have hkept : t ∈ keepFirst (entry.withName new.table)
        (r.created.replace entry (entry.withName new.table)) := by
      simpa [recordRenamed, hentry] using h
    -- what is new is the entry under its new name, and it keeps its qualifiers
    refine (mem_of_mem_replace (mem_keepFirst.mp hkept)).imp_right fun ht => ?_
    have hsame := (entryFor?_spec hentry).2
    have hback : t.withName old.table = entry := by
      rw [ht, TableRef.withName_withName_self (TableRef.table_eq_of_sameTable hsame)]
    refine ⟨by rw [ht]; rfl, ?_⟩
    rw [hback]
    exact hsame

/-- An entry listed after an event was listed before it, or the event introduces it. -/
theorem mem_created_record {r : Registry} {event : TableEvent} {t : TableRef}
    (h : t ∈ (r.record event).created) : t ∈ r.created ∨ event.Introduces t := by
  cases event with
  | created table => exact mem_created_recordCreated h
  | dropped table => exact Or.inl (mem_created_recordDropped h)
  | renamed old new => exact mem_created_recordRenamed h

/-- An entry listed after events was listed before them, or one of them introduces it. -/
theorem mem_created_foldl {t : TableRef} {events : List TableEvent} {r : Registry}
    (h : t ∈ (events.foldl record r).created) :
    t ∈ r.created ∨ ∃ event ∈ events, event.Introduces t := by
  -- the registry that the rest starts from is the one after the first event
  induction events generalizing r with
  | nil => exact Or.inl h
  | cons event rest ih =>
    rw [List.foldl_cons] at h
    obtain h | ⟨e, he, hintro⟩ := ih h
    · exact (mem_created_record h).imp_right fun hintro => ⟨event, List.mem_cons_self, hintro⟩
    · exact Or.inr ⟨e, List.mem_cons_of_mem _ he, hintro⟩

/-! ## §4. No entry twice -/

/-- Keeping one of several equal entries leaves no two of them. -/
theorem nodup_keepFirst {table : TableRef} {created : List TableRef}
    (h : (created.filter (· != table)).Nodup) : (keepFirst table created).Nodup := by
  induction created with
  | nil => exact List.nodup_nil
  | cons r rest ih =>
    unfold keepFirst
    split
    · next hr =>
      have hrest : (rest.filter (· != table)).Nodup := by simpa [hr] using h
      exact List.nodup_cons.mpr ⟨by simp [hr], hrest⟩
    · next hr =>
      have hcons : (r :: rest.filter (· != table)).Nodup := by simpa [hr] using h
      obtain ⟨hnew, hrest⟩ := List.nodup_cons.mp hcons
      refine List.nodup_cons.mpr ⟨fun hmem => hnew ?_, ih hrest⟩
      exact List.mem_filter.mpr ⟨mem_keepFirst.mp hmem, bne_iff_ne.mpr hr⟩

/-- Apart from the new entry, replacing an entry leaves entries that were there. -/
theorem filter_replace_sublist (old new : TableRef) (created : List TableRef) :
    ((created.replace old new).filter (· != new)).Sublist created := by
  induction created with
  | nil => exact List.Sublist.refl []
  | cons r rest ih =>
    rw [List.replace_cons]
    split
    · rw [List.filter_cons_of_neg (by simp)]
      exact List.filter_sublist.cons r
    · by_cases hr : r = new
      · rw [List.filter_cons_of_neg (by simp [hr])]
        exact ih.cons r
      · rw [List.filter_cons_of_pos (by simp [hr])]
        exact ih.cons_cons r

/-- No event lists a table twice. -/
theorem nodup_created_record {r : Registry} (h : r.created.Nodup) (event : TableEvent) :
    (r.record event).created.Nodup := by
  cases event with
  | created table =>
    show (r.recordCreated table).created.Nodup
    unfold recordCreated
    split
    · exact h
    · next hnew =>
      have hnew : table ∉ r.created := by simpa using hnew
      refine List.nodup_append.mpr ⟨h, List.pairwise_singleton _ _, fun t ht s hs heq => hnew ?_⟩
      rw [← List.mem_singleton.mp hs, ← heq]
      exact ht
  | dropped table =>
    show (r.recordDropped table).created.Nodup
    unfold recordDropped
    dsimp only
    split
    · exact h.erase _
    · exact h
  | renamed old new =>
    show (r.recordRenamed old new).created.Nodup
    unfold recordRenamed
    dsimp only
    split
    · -- only the new name can stand twice once it is put in, and of it the first occurrence is kept
      exact nodup_keepFirst (h.sublist (filter_replace_sublist _ _ _))
    · exact h

/-- No table is listed twice after any events. -/
theorem nodup_created_foldl {r : Registry} (h : r.created.Nodup) (events : List TableEvent) :
    (events.foldl record r).created.Nodup := by
  induction events generalizing r with
  | nil => exact h
  | cons event rest ih => exact ih (nodup_created_record h event)

/-- Replacing the one occurrence of an entry. -/
theorem mem_replace_iff {old new t : TableRef} {created : List TableRef}
    (hnodup : created.Nodup) (hold : old ∈ created) :
    t ∈ created.replace old new ↔ t = new ∨ t ∈ created ∧ t ≠ old := by
  induction created with
  | nil => exact absurd hold List.not_mem_nil
  | cons r rest ih =>
    obtain ⟨hr, hrest⟩ := List.nodup_cons.mp hnodup
    rw [List.replace_cons]
    split
    · -- the entry is found here, so it does not stand in the rest
      next hbeq =>
      obtain rfl : old = r := beq_iff_eq.mp hbeq
      have hne : ∀ {t}, t ∈ rest → t ≠ old := fun ht heq => hr (heq ▸ ht)
      rw [List.mem_cons, List.mem_cons]
      constructor
      · exact Or.imp_right fun ht => ⟨Or.inr ht, hne ht⟩
      · exact Or.imp_right fun ht => ht.1.resolve_left ht.2
    · next hbeq =>
      have hne : old ≠ r := by simpa using hbeq
      have hmem : old ∈ rest := (List.mem_cons.mp hold).resolve_left hne
      rw [List.mem_cons, List.mem_cons, ih hrest hmem]
      constructor
      · rintro (rfl | rfl | ⟨ht, hold⟩)
        · exact Or.inr ⟨Or.inl rfl, hne.symm⟩
        · exact Or.inl rfl
        · exact Or.inr ⟨Or.inr ht, hold⟩
      · rintro (rfl | ⟨rfl | ht, hold⟩)
        · exact Or.inr (Or.inl rfl)
        · exact Or.inl rfl
        · exact Or.inr (Or.inr ⟨ht, hold⟩)

/-- An entry gives way to a rename if and only if the old name is found at it and
    the new name is another one. -/
theorem not_mem_created_recordRenamed_iff {r : Registry} {old new t : TableRef}
    (hnodup : r.created.Nodup) (ht : t ∈ r.created) :
    t ∉ (r.recordRenamed old new).created
      ↔ entryFor? r.created old = some t ∧ new.table ≠ t.table := by
  unfold recordRenamed
  cases hentry : entryFor? r.created old with
  | none => simp [ht]
  | some entry =>
    have hmem := (entryFor?_spec hentry).1
    simp only [mem_keepFirst, mem_replace_iff hnodup hmem, Option.some.injEq]
    by_cases heq : entry = t
    · -- under its new name the entry is the same only if the name is
      subst heq
      have hname : entry = entry.withName new.table ↔ new.table = entry.table :=
        ⟨fun h => (congrArg TableRef.table h).symm, fun h => by rw [h]; rfl⟩
      simp [hname]
    · simp [heq, ht, Ne.symm heq]

/-- The entry that gives way is listed under its new name. -/
theorem mem_created_recordRenamed_of_entryFor? {r : Registry} {old new t : TableRef}
    (hnodup : r.created.Nodup) (h : entryFor? r.created old = some t) :
    t.withName new.table ∈ (r.recordRenamed old new).created := by
  unfold recordRenamed
  simp only [h, mem_keepFirst]
  exact (mem_replace_iff hnodup (entryFor?_spec h).1).mpr (Or.inl rfl)

/-! ## §5. Registries that differ in renames only -/

/-- Two registries list the same tables as created and as dropped. -/
structure Agrees (r s : Registry) : Prop where
  created : r.created = s.created
  dropped : r.dropped = s.dropped

theorem agrees_refl (r : Registry) : r.Agrees r := ⟨rfl, rfl⟩

theorem Agrees.trans {r s t : Registry} (h : r.Agrees s) (k : s.Agrees t) : r.Agrees t :=
  ⟨h.created.trans k.created, h.dropped.trans k.dropped⟩

/-- The beginning of a statement leaves the tables alone. -/
theorem beginStatement_agrees (r : Registry) : r.beginStatement.Agrees r := ⟨rfl, rfl⟩

/-- Registries that agree still do after the same event. -/
theorem Agrees.record {r s : Registry} (h : r.Agrees s) (event : TableEvent) :
    (r.record event).Agrees (s.record event) := by
  obtain ⟨created, dropped, renames⟩ := r
  obtain ⟨created', dropped', renames'⟩ := s
  obtain ⟨rfl, rfl⟩ := h
  cases event with
  | created table =>
    show (recordCreated _ table).Agrees (recordCreated _ table)
    unfold recordCreated
    split
    · exact ⟨rfl, rfl⟩
    · exact ⟨rfl, rfl⟩
  | dropped table => exact ⟨rfl, rfl⟩
  | renamed old new => exact ⟨rfl, rfl⟩

/-- Registries that agree still do after the same events. -/
theorem Agrees.foldl_record {r s : Registry} (h : r.Agrees s) (events : List TableEvent) :
    (events.foldl Registry.record r).Agrees (events.foldl Registry.record s) := by
  induction events generalizing r s with
  | nil => exact h
  | cons event rest ih => exact ih (h.record event)

end Registry

end TableLedger
