/-
  TableLedger.Proofs.Script.CapturedReference — what can be wrong with a captured reference.

  How names are quoted is said twice.  The pattern for references says it as segments with
  dots between them, and may give back what it has read to let the rest of a statement match;
  the reader of references says it as a machine that is outside quotes or inside.  The two
  agree: in whatever way the pattern is matched, what it takes is a series of segments, and the
  machine cuts it into these very segments and ends outside quotes.  So two things are left that
  can be wrong with a captured reference: it has more than four parts, or its database is left
  out.  Nothing of this holds for the argument of a rename procedure, which is any text.

  Main statements:
    • `exists_series_of_leadsTo` — what the pattern for references takes,
    • `split_series`, `ofParts_series_eq_error_iff` — and how it is read,
    • `exists_series_of_mem_mentions` — every reference is such a series, but for rename
      procedures,
    • `captured_references_are_readable` — why a script cannot be classified.
-/

import TableLedger.Proofs.Pattern.Captures
import TableLedger.Proofs.Script.Reference

namespace TableLedger

/-! ## §1. Series of segments -/

namespace Text

theorem join_append {separator : Text} {xs ys : List Text} (hxs : xs ≠ []) (hys : ys ≠ []) :
    join separator (xs ++ ys) = join separator xs ++ separator ++ join separator ys := by
  induction xs with
  | nil => exact absurd rfl hxs
  | cons x xs ih =>
    cases xs with
    | nil => obtain ⟨y, ys, rfl⟩ := List.exists_cons_of_ne_nil hys; rfl
    | cons x' xs =>
      have hjoin := ih (List.cons_ne_nil x' xs)
      rw [List.cons_append] at hjoin
      simp only [List.cons_append, join, hjoin, List.append_assoc]

end Text

namespace Script

open Pattern

variable {style : QuoteStyle} {parts : List Text}

theorem IsSegment.ne_nil {part : Text} (h : IsSegment style part) : part ≠ [] := h.tight.ne_nil

/-- The parts of a reference as the pattern takes it.  In the SQL Server family a part may
    be left out between two others. -/
inductive IsSeries (style : QuoteStyle) : List Text → Prop where
  | last {part : Text} (hpart : IsSegment style part) : IsSeries style [part]
  | next {part : Text} {rest : List Text} (hpart : IsSegment style part)
      (hrest : IsSeries style rest) : IsSeries style (part :: rest)
  | skip {part : Text} {rest : List Text} (hstyle : style = .bracket) (hpart : IsSegment style part)
      (hrest : IsSeries style rest) : IsSeries style (part :: [] :: rest)

namespace IsSeries

variable {others : List Text}

/-- A series is not empty. -/
theorem ne_nil (h : IsSeries style parts) : parts ≠ [] := by
  cases h with
  | last | next | skip => exact List.cons_ne_nil _ _

theorem append (h : IsSeries style parts) (hothers : IsSeries style others) :
    IsSeries style (parts ++ others) := by
  induction h with
  | last hpart => exact .next hpart hothers
  | next hpart _ ih => exact .next hpart ih
  | skip hstyle hpart _ ih => exact .skip hstyle hpart ih

/-- With two dots between them there is an empty part. -/
theorem append_skip (hstyle : style = .bracket) (h : IsSeries style parts)
    (hothers : IsSeries style others) : IsSeries style (parts ++ [] :: others) := by
  induction h with
  | last hpart => exact .skip hstyle hpart hothers
  | next hpart _ ih => exact .next hpart ih
  | skip hskip hpart _ ih => exact .skip hskip hpart ih

/-- A part is a segment or left out. -/
theorem segment_or_omitted (h : IsSeries style parts) :
    ∀ part ∈ parts, IsSegment style part ∨ style = .bracket ∧ part = [] := by
  induction h with
  | last hpart => exact List.forall_mem_cons.mpr ⟨.inl hpart, fun _ hx => absurd hx List.not_mem_nil⟩
  | next hpart _ ih => exact List.forall_mem_cons.mpr ⟨.inl hpart, ih⟩
  | skip hstyle hpart _ ih =>
    exact List.forall_mem_cons.mpr ⟨.inl hpart, List.forall_mem_cons.mpr ⟨.inr ⟨hstyle, rfl⟩, ih⟩⟩

/-- In PostgreSQL no part is left out. -/
theorem ne_nil_of_mem {part : Text} (h : IsSeries .doubleQuote parts) (hpart : part ∈ parts) :
    part ≠ [] := by
  obtain hsegment | ⟨hstyle, -⟩ := h.segment_or_omitted part hpart
  · exact hsegment.ne_nil
  · exact QuoteStyle.noConfusion hstyle

/-- The first part is not left out, -/
theorem head_ne_nil {part : Text} (h : IsSeries style (part :: others)) : part ≠ [] := by
  cases h with
  | last hpart | next hpart _ | skip _ hpart _ => exact hpart.ne_nil

/-- and neither is the last one. -/
theorem getLast?_ne (h : IsSeries style parts) : parts.getLast? ≠ some [] := by
  induction h with
  | last hpart => exact fun hlast => hpart.ne_nil (Option.some.inj hlast)
  | next _ hrest ih | skip _ _ hrest ih =>
    obtain ⟨next, rest, rfl⟩ := List.exists_cons_of_ne_nil hrest.ne_nil
    exact ih

/-- A series has no white space at its ends. -/
theorem tight (h : IsSeries style parts) : (Text.join ['.'] parts).Tight := by
  induction h with
  | last hpart => exact hpart.tight
  | @next part rest hpart hrest ih =>
    have hjoin : Text.join ['.'] ([part] ++ rest) = part ++ ['.'] ++ Text.join ['.'] rest :=
      Text.join_append (List.cons_ne_nil _ _) hrest.ne_nil
    exact (congrArg Text.Tight hjoin).mpr (hpart.tight.append ih _)
  | @skip part rest _ hpart hrest ih =>
    have hjoin : Text.join ['.'] ([part, []] ++ rest)
        = part ++ ['.', '.'] ++ Text.join ['.'] rest := by
      rw [Text.join_append (List.cons_ne_nil _ _) hrest.ne_nil]
      simp [Text.join]
    exact (congrArg Text.Tight hjoin).mpr (hpart.tight.append ih _)

end IsSeries

/-! ## §2. What the pattern for references takes -/

/-- The text between two places is a series. -/
def SeriesTo (style : QuoteStyle) (c d : Cursor) : Prop :=
  ∃ parts, IsSeries style parts ∧ c.rest = Text.join ['.'] parts ++ d.rest

/-- What the pattern for a part takes is a part. -/
theorem exists_segment_of_mem_ways {w v : Way} (hv : v ∈ (segment style).ways w) :
    ∃ part, IsSegment style part ∧ w.cursor.rest = part ++ v.cursor.rest := by
  obtain hv | ⟨hstyle, hv⟩ | hv := mem_ways_segment_cases hv
  · obtain ⟨name, hname⟩ := exists_of_mem_ways_quotation hv
    exact ⟨_, .quoted style name, hname⟩
  · obtain ⟨name, hname⟩ := exists_of_mem_ways_quotation hv
    exact ⟨_, hstyle ▸ .bracketed name, hname⟩
  · obtain ⟨ch, t, hrest, hch, hall⟩ := exists_of_mem_ways_run1 hv
    exact ⟨ch :: t, .bare (List.cons_ne_nil ch t) (List.forall_mem_cons.mpr ⟨hch, hall⟩), hrest⟩

/-- A dot takes a dot. -/
theorem rest_of_mem_ways_dot {w v : Way} (hv : v ∈ (char '.').ways w) :
    w.cursor.rest = '.' :: v.cursor.rest := by
  obtain ⟨ch, hch, hrest⟩ := mem_ways_one hv
  rw [hrest, beq_iff_eq.mp hch]

/-- In the SQL Server family there may be two of them. -/
theorem rest_of_mem_ways_dots {w v : Way} (hv : v ∈ (dots style).ways w) :
    w.cursor.rest = '.' :: v.cursor.rest
      ∨ style = .bracket ∧ w.cursor.rest = '.' :: '.' :: v.cursor.rest := by
  cases style with
  | doubleQuote => exact .inl (rest_of_mem_ways_dot hv)
  | bracket =>
    obtain ⟨u, hu, hv⟩ := List.mem_flatMap.mp hv
    have hfirst := rest_of_mem_ways_dot hu
    obtain hv | rfl := mem_ways_optional hv
    · exact .inr ⟨rfl, by rw [hfirst, rest_of_mem_ways_dot hv]⟩
    · exact .inl hfirst

/-- A joint puts a segment behind a series, or two parts of which the first is left out. -/
theorem seriesTo_of_mem_ways_joint {c : Cursor} {w v : Way} (hw : SeriesTo style c w.cursor)
    (hv : v ∈ (joint style).ways w) : SeriesTo style c v.cursor := by
  obtain ⟨parts, hparts, hrest⟩ := hw
  obtain ⟨u, hu, hv⟩ := List.mem_flatMap.mp hv
  obtain ⟨part, hpart, hbehind⟩ := exists_segment_of_mem_ways hv
  obtain hdots | ⟨hstyle, hdots⟩ := rest_of_mem_ways_dots hu
  · refine ⟨parts ++ [part], hparts.append (.last hpart), ?_⟩
    rw [hrest, hdots, hbehind, Text.join_append hparts.ne_nil (List.cons_ne_nil _ _)]
    simp [Text.join]
  · refine ⟨parts ++ [[], part], hparts.append_skip hstyle (.last hpart), ?_⟩
    rw [hrest, hdots, hbehind, Text.join_append hparts.ne_nil (List.cons_ne_nil _ _)]
    simp [Text.join]

/-- **What the pattern for references takes is a series,** in whatever way it is matched. -/
theorem exists_series_of_leadsTo {c d : Cursor} (h : (reference style).LeadsTo c d) :
    ∃ parts, IsSeries style parts ∧ c.textTo d = Text.join ['.'] parts := by
  obtain ⟨w, v, hv, rfl, rfl⟩ := h
  obtain ⟨u, hu, hv⟩ := List.mem_flatMap.mp hv
  obtain ⟨part, hpart, hfirst⟩ := exists_segment_of_mem_ways hu
  have hstart : SeriesTo style w.cursor u.cursor := ⟨[part], .last hpart, hfirst⟩
  obtain ⟨parts, hparts, hrest⟩ := of_mem_ways_many (p := joint style)
    (fun _ hw _ hv => seriesTo_of_mem_ways_joint hw hv) hstart hv
  exact ⟨parts, hparts, Cursor.textTo_of_append hrest⟩

/-! ## §3. How a series is read -/

variable {d : Dialect}

/-- **A series is cut into its parts,** whatever its names hold in their quotes. -/
theorem split_series (h : IsSeries d.quoteStyle parts) :
    TableRef.split d (Text.join ['.'] parts) = .ok parts := by
  refine TableRef.split_of_cut (TableRef.cut_join h.ne_nil fun part hpart rest hrest => ?_)
    fun part hpart => ?_
  · obtain hpart | ⟨-, rfl⟩ := h.segment_or_omitted part hpart
    · exact cut_segment hpart hrest
    · exact Option.map_id'.symm
  · obtain hpart | ⟨-, rfl⟩ := h.segment_or_omitted part hpart
    · exact hpart.tight.trim
    · rfl

/-- What is wrong with a reference of these parts: there are too many, or the database that
    stands between the server and the schema is left out. -/
def PartsFault (parts : List Text) (fault : ReferenceFault) : Prop :=
  4 < parts.length ∧ fault = .tooManyParts parts.length
    ∨ (∃ server schema table, parts = [server, [], schema, table]) ∧ fault = .emptyPart

theorem isServerFamily_of_bracket (h : d.quoteStyle = .bracket) : d.isServerFamily = true := by
  cases d with
  | pg => exact QuoteStyle.noConfusion h
  | ms | azure => rfl

/-- A series of parts is refused for the faults of its parts only. -/
theorem ofParts_series_eq_error_iff (h : IsSeries d.quoteStyle parts) (schema : Text)
    {fault : ReferenceFault} :
    TableRef.ofParts d schema parts = .error fault ↔ PartsFault parts fault := by
  have hlast := h.getLast?_ne
  have homitted : ∀ part ∈ parts, TableRef.ofParts.omitted d part = false := by
    intro part hpart
    obtain hsegment | ⟨hstyle, -⟩ := h.segment_or_omitted part hpart
    · simp [TableRef.ofParts.omitted, hsegment.ne_nil]
    · simp [TableRef.ofParts.omitted, isServerFamily_of_bracket hstyle]
  unfold PartsFault
  obtain _ | ⟨first, _ | ⟨second, _ | ⟨third, _ | ⟨fourth, _ | ⟨fifth, rest⟩⟩⟩⟩⟩ := parts
  · exact absurd rfl h.ne_nil
  · simp [TableRef.ofParts, h.head_ne_nil]
  · have htable : second ≠ [] := by simpa using hlast
    simp [TableRef.ofParts, h.head_ne_nil, htable]
  · have htable : third ≠ [] := by simpa using hlast
    simp [TableRef.ofParts, h.head_ne_nil, htable, homitted second]
  · -- the second of four parts is the database
    have htable : fourth ≠ [] := by simpa using hlast
    by_cases hdatabase : second = []
    · simp [TableRef.ofParts, hdatabase, eq_comm]
    · simp [TableRef.ofParts, h.head_ne_nil, htable, homitted third, hdatabase]
  · simp [TableRef.ofParts, eq_comm]

/-- Of a reference that is a series nothing else can be wrong, unless it is to a session table:
    then it is not read at all. -/
theorem event?_series_eq_error_iff {schema : Text} {m : Mention} {e : ReferenceError}
    (h : IsSeries d.quoteStyle parts) (hreference : m.reference = Text.join ['.'] parts) :
    Naming.event? ⟨d, schema⟩ m = .error e
      ↔ parts.getLast?.any (isSessionName d) = false ∧ e.reference = m.reference
        ∧ PartsFault parts e.fault := by
  have htight := hreference ▸ h.tight
  have hsplit := hreference ▸ split_series h
  unfold Naming.event?
  rw [trackedTable?_of_split htight hsplit, TableRef.parse_of_split htight hsplit]
  cases hsession : parts.getLast?.any (isSessionName d) with
  | true => simp [Except.map]
  | false =>
    rw [← ofParts_series_eq_error_iff h schema]
    cases TableRef.ofParts d schema parts with
    | ok t => simp [Except.map, Except.mapError]
    | error fault =>
      obtain ⟨reference, found⟩ := e
      simp [Except.map, Except.mapError, eq_comm]

/-! ## §4. What is captured in a script -/

theorem groups_reference (style : QuoteStyle) : (reference style).groups = [] := by
  cases style with
  | doubleQuote | bracket => rfl

theorem groups_segment (style : QuoteStyle) : (segment style).groups = [] := by
  cases style with
  | doubleQuote | bracket => rfl

/-- A slot whose only group is the pattern for references captures a series. -/
theorem exists_series_of_captured? {p : Pattern} {slot : Slot} {c : Cursor} {found : Match}
    {table : Capture} (hgroups : ∀ q, (slot, q) ∈ p.groups → q = reference style)
    (hfound : found ∈ p.matchesIn c) (htable : found.captured? slot = some table) :
    ∃ parts, IsSeries style parts ∧ table.text = Text.join ['.'] parts := by
  obtain ⟨q, hq, hleads⟩ := leadsTo_of_captured? hfound htable
  exact exists_series_of_leadsTo (hgroups q hq ▸ hleads)

/-- A creation captures a reference. -/
theorem createTable_groups (style : QuoteStyle) :
    ∀ q, (Slot.table, q) ∈ (createTable style).groups → q = reference style := by
  simp [createTable, persistence, groups_reference]

theorem selectInto_groups (style : QuoteStyle) :
    ∀ q, (Slot.table, q) ∈ (selectInto style).groups → q = reference style := by
  simp [selectInto, persistence, groups_reference]

/-- The forms of renames that do not call the procedure capture a reference. -/
theorem rename_groups (style : QuoteStyle) {form : RenameForm} (hform : form ≠ .procedure) :
    ∀ q, (Slot.oldName, q) ∈ (form.pattern style).groups → q = reference style := by
  cases form with
  | procedure => exact absurd rfl hform
  | alterTable | renameObject =>
    simp [RenameForm.pattern, groups_reference, groups_segment]

/-- The old name of a rename is what was captured; a rename procedure has it in a literal. -/
theorem exists_oldName_of_renamedNames? {form : RenameForm} {found : Match} {old new : Text}
    (h : Naming.renamedNames? form found = some (old, new)) :
    ∃ table, found.captured? .oldName = some table
      ∧ old = if form = .procedure then Text.undouble '\'' table.text else table.text := by
  unfold Naming.renamedNames? at h
  cases hold : found.captured? .oldName with
  | none => simp [hold] at h
  | some table =>
    cases hnew : found.captured? .newName with
    | none => simp [hold, hnew] at h
    | some name =>
      refine ⟨table, rfl, ?_⟩
      cases form with
      | alterTable | renameObject =>
        simp only [hold, hnew, Option.some.injEq, Prod.mk.injEq] at h
        exact h.1.symm
      | procedure =>
        simp only [hold, hnew, Option.ite_none_right_eq_some, Option.some.injEq, Prod.mk.injEq] at h
        exact h.2.1.symm

variable {script : Text} {m : Mention}

/-- The reference is the first argument in a call of the rename procedure, its quotes written
    once. -/
def Mention.IsArgument (d : Dialect) (script : Text) (m : Mention) : Prop :=
  m.word = RenameForm.procedure.word ∧ ∃ call ∈ procedureMatches d script,
    ∃ old, call.captured? .oldName = some old ∧ m.reference = Text.undouble '\'' old.text

/-- **Every reference of a script is a series** or the argument of a rename procedure, of which
    PostgreSQL has none. -/
theorem series_or_argument (hm : m ∈ mentions d script) :
    (∃ parts, IsSeries d.quoteStyle parts ∧ m.reference = Text.join ['.'] parts)
      ∨ d.isServerFamily = true ∧ m.IsArgument d script := by
  obtain ⟨found, hfound, hm⟩ | ⟨found, hfound, hm⟩ | ⟨found, hfound, hm⟩
    | ⟨form, hform, found, hfound, hm⟩ := mem_mentions.mp hm
  · obtain ⟨-, table, htable, rfl⟩ := mem_creationMentions.mp hm
    exact .inl (exists_series_of_captured? (createTable_groups _) hfound htable)
  · obtain ⟨-, table, htable, rfl⟩ := mem_creationMentions.mp hm
    exact .inl (exists_series_of_captured? (selectInto_groups _) (List.mem_filter.mp hfound).1 htable)
  · -- the tables of a list are found by the pattern for references itself
    obtain ⟨tables, -, table, htable, rfl⟩ := mem_dropMentions.mp hm
    exact .inl (exists_series_of_leadsTo (leadsTo_of_mem_matchesIn htable))
  · obtain ⟨old, new, hnames, rfl⟩ := mem_renameMentions.mp hm
    obtain ⟨table, htable, hold⟩ := exists_oldName_of_renamedNames? hnames
    have hmatch := (List.mem_filter.mp hfound).1
    by_cases hprocedure : form = .procedure
    · subst hprocedure
      have hserver : d.isServerFamily = true := by
        cases d with
        | pg => exact absurd hform (by decide)
        | ms | azure => rfl
      exact .inr ⟨hserver, rfl, found, hmatch, table, htable, hold⟩
    · rw [if_neg hprocedure] at hold
      subst hold
      exact .inl (exists_series_of_captured? (rename_groups _ hprocedure) hmatch htable)

/-! ## §5. Why a script cannot be classified -/

/-- What is said of a reference that cannot be told apart into parts. -/
def quotingMessages : List Text :=
  ["unterminated quoted identifier".toList, "empty reference".toList, "no name parts".toList]

theorem length_quotingMessages : ∀ message ∈ quotingMessages, message.length ≤ 30 := by decide

/-- Messages about quotes are shorter than the one about the number of parts. -/
theorem lt_length_tooManyParts (n : Nat) : 30 < (ReferenceFault.tooManyParts n).message.length := by
  have hsuffix : " dot-separated parts, at most 4 allowed".toList.length = 39 := by decide
  show 30 < (Text.ofNat n ++ " dot-separated parts, at most 4 allowed".toList).length
  rw [List.length_append, hsuffix]
  omega

/-- Nothing of this is said of parts. -/
theorem PartsFault.message_not_mem {fault : ReferenceFault} (h : PartsFault parts fault) :
    fault.message ∉ quotingMessages := by
  obtain ⟨-, rfl⟩ | ⟨-, rfl⟩ := h
  · intro hmem
    exact Nat.not_le_of_lt (lt_length_tooManyParts _) (length_quotingMessages _ hmem)
  · decide

/-- **What the patterns capture can be read.**  A script that cannot be classified fails at one
    reference, the first that cannot be read.  In PostgreSQL it has more than four parts.  In the
    SQL Server family it has, too, or its database is left out, unless it is the argument of a
    rename procedure.  Only such an argument fails for quotes that are not closed, for being empty
    or for having no parts. -/
theorem captured_references_are_readable {schema : Text} {e : ReferenceError}
    (h : classify d schema script = .error e) :
    ∃ front m behind, mentions d script = front ++ m :: behind
      ∧ (∀ k ∈ front, ∃ event?, Naming.event? ⟨d, schema⟩ k = .ok event?)
      ∧ Naming.event? ⟨d, schema⟩ m = .error e
      ∧ (d = .pg → ∃ parts, TableRef.split d m.reference = .ok parts
          ∧ 4 < parts.length ∧ e = ⟨m.reference, .tooManyParts parts.length⟩)
      ∧ (m.word ≠ RenameForm.procedure.word → ∃ parts, TableRef.split d m.reference = .ok parts
          ∧ PartsFault parts e.fault ∧ e.reference = m.reference)
      ∧ (e.fault.message ∈ quotingMessages → m.IsArgument d script) := by
  obtain ⟨front, m, behind, hmentions, hfront, hm⟩ := classify_eq_error_iff.mp h
  have hmem : m ∈ mentions d script := by simp [hmentions]
  refine ⟨front, m, behind, hmentions, hfront, hm, ?_⟩
  obtain ⟨parts, hparts, hreference⟩ | ⟨hserver, hargument⟩ := series_or_argument hmem
  · have hsplit : TableRef.split d m.reference = .ok parts := hreference ▸ split_series hparts
    obtain ⟨-, hsame, hfault⟩ := (event?_series_eq_error_iff hparts hreference).mp hm
    refine ⟨?_, fun _ => ⟨parts, hsplit, hfault, hsame⟩,
      fun hmessage => absurd hmessage hfault.message_not_mem⟩
    rintro rfl
    obtain ⟨hmany, hfault⟩ | ⟨⟨server, schemaPart, table, rfl⟩, -⟩ := hfault
    · exact ⟨parts, hsplit, hmany, by rw [← hsame, ← hfault]⟩
    · exact absurd rfl (hparts.ne_nil_of_mem (List.mem_cons_of_mem server List.mem_cons_self))
  · refine ⟨?_, fun hword => absurd hargument.1 hword, fun _ => hargument⟩
    rintro rfl
    exact Bool.noConfusion hserver

/-- Five parts, a database that is left out, and a bracket that is not closed: what is wrong with
    three scripts, each time behind a statement that can be read. -/
theorem captured_references_are_readable_but_for_arguments :
    (classify .pg "public".toList "DROP TABLE t; CREATE TABLE \"a.\"\"b\".c.d.e.f (x int)".toList
          = .error ⟨"\"a.\"\"b\".c.d.e.f".toList, .tooManyParts 5⟩
        ∧ ∃ parts, TableRef.split .pg "\"a.\"\"b\".c.d.e.f".toList = .ok parts ∧ parts.length = 5)
      ∧ (classify .ms "dbo".toList "DROP TABLE t, a..[b.]]].c".toList
          = .error ⟨"a..[b.]]].c".toList, .emptyPart⟩
        ∧ ∃ parts, TableRef.split .ms "a..[b.]]].c".toList = .ok parts ∧ PartsFault parts .emptyPart)
      ∧ classify .ms "dbo".toList "DROP TABLE t; EXEC sp_rename '[b', 'c'".toList
          = .error ⟨"[b".toList, .unterminated⟩
        ∧ ∃ m ∈ mentions .ms "DROP TABLE t; EXEC sp_rename '[b', 'c'".toList,
          m.IsArgument .ms "DROP TABLE t; EXEC sp_rename '[b', 'c'".toList := by
  have hmany : classify .pg "public".toList
      "DROP TABLE t; CREATE TABLE \"a.\"\"b\".c.d.e.f (x int)".toList
        = .error ⟨"\"a.\"\"b\".c.d.e.f".toList, .tooManyParts 5⟩ := by decide +kernel
  have hempty : classify .ms "dbo".toList "DROP TABLE t, a..[b.]]].c".toList
      = .error ⟨"a..[b.]]].c".toList, .emptyPart⟩ := by decide +kernel
  have hopen : classify .ms "dbo".toList "DROP TABLE t; EXEC sp_rename '[b', 'c'".toList
      = .error ⟨"[b".toList, .unterminated⟩ := by decide +kernel
  refine ⟨⟨hmany, ?_⟩, ⟨hempty, ?_⟩, hopen, ?_⟩
  · obtain ⟨front, m, behind, -, -, -, hpg, -⟩ := captured_references_are_readable hmany
    obtain ⟨parts, hsplit, -, hfault⟩ := hpg rfl
    injection hfault with hreference hcount
    injection hcount with hcount
    exact ⟨parts, hreference ▸ hsplit, hcount.symm⟩
  · -- nothing in this script is a call, so the fault is not one of an argument
    have hwords : ((mentions .ms "DROP TABLE t, a..[b.]]].c".toList).all
        fun m => m.word != RenameForm.procedure.word) = true := by decide +kernel
    obtain ⟨front, m, behind, hmentions, -, -, -, hserver, -⟩ :=
      captured_references_are_readable hempty
    rw [hmentions] at hwords
    have hword : m.word ≠ RenameForm.procedure.word :=
      bne_iff_ne.mp (List.all_eq_true.mp hwords m (by simp))
    obtain ⟨parts, hsplit, hfault, hreference⟩ := hserver hword
    rw [← hreference] at hsplit
    exact ⟨parts, hsplit, hfault⟩
  · obtain ⟨front, m, behind, hmentions, -, -, -, -, hargument⟩ :=
      captured_references_are_readable hopen
    exact ⟨m, hmentions ▸ List.mem_append_right front List.mem_cons_self, hargument (by decide)⟩

end Script

end TableLedger
