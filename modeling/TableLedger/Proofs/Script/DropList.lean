/-
  TableLedger.Proofs.Script.DropList — lists of written tables.

  A table is written as its parts, each bare or in quotes, with dots between them.  What
  stands in quotes may be anything, commas, dots and comment marks included: the masks
  show it, the patterns pass over it, and the cut at the dots takes it for one part.  So
  a list of written tables is read as this list, and every table as itself.  The words
  of a statement might stand in quotes too, but not without white space behind them.

  Main statements:
    • `isPart_requote` — a written name is one part of a reference,
    • `mask_list`, `silent_list` — nothing in a list is hidden, and nothing is announced,
    • `mentions_dropList` — a drop mentions the references of its list,
    • `classify_dropScript` — drops and creations report the tables that are written.
-/

import TableLedger.Proofs.Script.SessionTables
import TableLedger.Proofs.Script.SpacedReference

namespace TableLedger.Script

open Pattern Identifier

/-! ## §1. Written tables -/

variable {d : Dialect} {name : Text}

/-- Each dollar sign of a bare name stands behind another character. -/
theorem singleDollars_of_not_infix {inName : Bool} (hfirst : inName = false → name.head? ≠ some '$')
    (h : ¬['$', '$'] <:+: name) : singleDollars inName name = true := by
  induction name generalizing inName with
  | nil => rfl
  | cons c name ih =>
    have hnext : (c != '$') = false → name.head? ≠ some '$' := by
      intro hc hname
      obtain ⟨rest, rfl⟩ := List.head?_eq_some_iff.mp hname
      rw [bne_eq_false_iff_eq] at hc
      exact h (hc ▸ ⟨[], rest, rfl⟩)
    have hone : c ≠ '$' ∨ inName = true := by
      cases inName with
      | true => exact .inr rfl
      | false => exact .inl fun hc => hfirst rfl (congrArg some hc)
    rw [singleDollars, ih hnext fun hinside => h (hinside.trans (List.suffix_cons c name).isInfix),
      Bool.and_true, Bool.or_eq_true, bne_iff_ne]
    exact hone

/-- Bare names are written with characters of bare names. -/
theorem bareChar_of_continuesBare {c : Char} (h : continuesBare c = true) :
    bareChar .doubleQuote c = true := by
  have hcode := toNat_of_continuesBare h
  have hword : Unicode.isWord c = Unicode.isAsciiWord c := by
    unfold Unicode.isWord
    rw [if_pos (by omega)]
  show (Unicode.isWord c || c == '$') = true
  rw [hword]
  simp only [continuesBare, Bool.or_eq_true, beq_iff_eq] at h
  simp only [Unicode.isAsciiWord, Unicode.isAlphanum_iff, Bool.or_eq_true, beq_iff_eq]
  tauto

/-- **A written name is one part of a reference.** -/
theorem isPart_requote (h : d = .pg → ¬['$', '$'] <:+: name) : IsPart d.quoteStyle (requote d name) := by
  unfold requote
  cases hstyle : d.quoteStyle with
  | bracket => exact .bracketed name
  | doubleQuote =>
    show IsPart .doubleQuote (if isBare name then name else Text.wrap '"' '"' name)
    split
    · next hbare =>
      have hpg : d = .pg := by
        cases d with
        | pg => rfl
        | ms | azure => exact absurd hstyle (by decide)
      -- only Postgres leaves a name bare, and there the hypothesis keeps two dollars apart
      refine .bare ?_ (fun c hc => bareChar_of_continuesBare (continuesBare_of_mem_of_isBare hbare hc))
        fun _ => singleDollars_of_not_infix (fun _ hdollar => ?_) (h hpg)
      · rintro rfl
        exact absurd hbare (by decide)
      · obtain ⟨rest, rfl⟩ := List.head?_eq_some_iff.mp hdollar
        exact absurd hbare (by simp [isBare, opensBare])
    · exact .quoted _ name

/-- A written name holds no white space if the name holds none. -/
theorem isBlank_of_mem_requote (h : ∀ c ∈ name, Unicode.isBlank c = false) :
    ∀ c ∈ requote d name, Unicode.isBlank c = false := by
  have hwrap : ∀ {opening closing : Char}, Unicode.isBlank opening = false →
      Unicode.isBlank closing = false →
      ∀ c ∈ Text.wrap opening closing name, Unicode.isBlank c = false := by
    intro opening closing hopening hclosing c hc
    obtain rfl | hc := List.mem_cons.mp hc
    · exact hopening
    · obtain hc | hc := List.mem_append.mp hc
      · exact h c (mem_double.mp hc)
      · rwa [List.mem_singleton.mp hc]
  unfold requote
  cases d.quoteStyle with
  | bracket => exact hwrap (by decide) (by decide)
  | doubleQuote =>
    show ∀ c ∈ if isBare name then name else Text.wrap '"' '"' name, _
    split
    · exact h
    · exact hwrap (by decide) (by decide)

/-- Tables that are told apart in a list, and from session tables: no white space in their parts, in
    PostgreSQL no two dollar signs in a row, no server without a database, and in the SQL Server family
    no part that looks quoted itself. -/
structure Listable (d : Dialect) (table : TableRef) : Prop where
  unspaced : ∀ part ∈ table.parts, ∀ c ∈ part, Unicode.isBlank c = false
  dollars : d = .pg → ∀ part ∈ table.parts, ¬['$', '$'] <:+: part
  server : table.server.isSome = true → table.database.isSome = true
  unquoted : d.isServerFamily = true → ∀ part ∈ table.parts, ¬LooksQuoted part
  permanent : d.isServerFamily = true → (table.table.dropWhile isOpeningMark).head? ≠ some '#'

/-- A reference with plain dots. -/
def Dotted.plain : List Text → Dotted
  | [] => ⟨[], []⟩
  | first :: others => ⟨first, others.map (Joint.mk [] [])⟩

/-- A table as it is written, as a reference. -/
def written (d : Dialect) (table : TableRef) : Dotted := .plain (table.parts.map (requote d))

variable {table : TableRef}

/-- A reference that is written from its table has no gaps. -/
theorem isClosed_written (d : Dialect) (table : TableRef) : (written d table).IsClosed := by
  unfold written
  cases table.parts.map (requote d) with
  | nil => exact fun _ hj => absurd hj List.not_mem_nil
  | cons first others =>
    intro j hj
    obtain ⟨part, -, rfl⟩ := List.mem_map.mp hj
    rfl

theorem parts_written (d : Dialect) (table : TableRef) :
    (written d table).parts = table.parts.map (requote d) := by
  have hne : table.parts.map (requote d) ≠ [] := by simpa using table.parts_ne_nil
  unfold written
  cases hparts : table.parts.map (requote d) with
  | nil => exact absurd hparts hne
  | cons first others =>
    show first :: (others.map (Joint.mk [] [])).map Joint.part = _
    rw [List.map_map]
    exact congrArg (first :: ·) (List.map_id others)

/-- Its text is the qualified name. -/
theorem text_written (d : Dialect) (table : TableRef) : (written d table).text = table.qualified d := by
  rw [(isClosed_written d table).text_eq, parts_written, TableRef.qualified]

/-- Gaps that are none. -/
theorem gaps_written {gap : Text → Prop} (hgap : gap []) (d : Dialect) (table : TableRef) :
    ∀ j ∈ (written d table).joints, gap j.front ∧ gap j.behind := fun j hj => by
  obtain ⟨hfront, hbehind⟩ := Joint.isClosed_iff.mp (isClosed_written d table j hj)
  rw [hfront, hbehind]
  exact ⟨hgap, hgap⟩

section

variable (h : Listable d table)
include h

/-- A table that can be listed is written as a reference, with no gaps needed. -/
theorem Listable.written {gap : Text → Prop} (hgap : gap []) :
    (Script.written d table).Written gap d.quoteStyle where
  parts := by
    rw [parts_written]
    intro part hpart
    obtain ⟨name, hname, rfl⟩ := List.mem_map.mp hpart
    exact isPart_requote fun hd => h.dollars hd name hname
  gaps := gaps_written hgap d table

/-- Its parts announce no statement. -/
theorem Listable.not_holdsAnnouncement :
    ∀ part ∈ (Script.written d table).parts, ¬HoldsAnnouncement d part := by
  rw [parts_written]
  intro part hpart
  obtain ⟨name, hname, rfl⟩ := List.mem_map.mp hpart
  exact Script.not_holdsAnnouncement (isBlank_of_mem_requote (h.unspaced name hname))

/-- A written table is read as itself. -/
theorem Listable.parse_eq (schema : Text) :
    TableRef.parse d schema (table.qualified d) = .ok table := by
  have hstyle : d.quoteStyle = .bracket → d.isServerFamily = true := by cases d <;> decide
  exact ((TableRef.reads_back_qualified d table).2 schema).mpr
    ⟨h.server, fun hbracket => h.unquoted (hstyle hbracket)⟩

/-- Its parts name it. -/
theorem Listable.ofParts_eq (schema : Text) :
    TableRef.ofParts d schema (Script.written d table).parts = .ok table := by
  have hread := h.parse_eq schema
  rw [TableRef.parse_qualified] at hread
  rw [parts_written]
  cases hparts : TableRef.ofParts d schema (table.parts.map (requote d)) with
  | error fault =>
    rw [hparts] at hread
    injection hread
  | ok t =>
    rw [hparts] at hread
    injection hread with hread
    exact congrArg Except.ok hread

/-- Its name is not that of a session table. -/
theorem Listable.isSessionName_eq :
    (Script.written d table).parts.getLast?.any (isSessionName d) = false := by
  have hlast : table.parts.getLast? = some table.table := by
    simp [TableRef.parts]
  rw [parts_written, List.getLast?_map, hlast]
  exact (isSessionName_requote d table.table).trans (isSessionName_eq_false h.permanent)

end

/-- **A creation reports the table that is written.** -/
theorem classify_create_written (h : Listable d table) (schema : Text) :
    classify d schema (StatementForm.create.script (table.qualified d)) = .ok ⟨[.created table]⟩ := by
  have hhead := (isClosed_written d table).head_eq
  rw [← text_written, classify_of_ofParts (h.written .nil) h.not_holdsAnnouncement
    (fun hform => absurd hform (by decide)) (by rw [hhead]; exact h.ofParts_eq schema), hhead,
    h.isSessionName_eq]
  rfl

/-! ## §2. Lists as they are shown -/

section

variable {hides : Hiding} {r : Dotted} {ls : List Listed}

/-- A reference without gaps is one with spacing, too. -/
theorem Dotted.IsClosed.written_spacing {style : QuoteStyle} (hclosed : r.IsClosed)
    (hr : r.Written IsGap style) : r.Written Spacing style where
  parts := hr.parts
  gaps j hj := by
    obtain ⟨hfront, hbehind⟩ := Joint.isClosed_iff.mp (hclosed j hj)
    rw [hfront, hbehind]
    exact ⟨.nil, .nil⟩

/-- A reference without gaps is shown as it is written. -/
theorem shownBefore_reference (hcomment : hides .comment = true) (hplain : hides .plain = false)
    (hname : hides .quotedName = false) (hr : r.Written IsGap d.quoteStyle) (hclosed : r.IsClosed) :
    ShownBefore hides d r.text := by
  obtain ⟨shown, -, hparts, -, hshownClosed, hshown⟩ :=
    Dotted.exists_shown (d := d) hcomment hplain hname (hclosed.written_spacing hr)
  have htext : shown.text = r.text := by
    rw [(hshownClosed.mpr hclosed).text_eq, hclosed.text_eq, hparts]
  rwa [htext] at hshown

/-- **What stands behind the first reference of a list is shown as it is written.** -/
theorem shownBefore_listed (hcomment : hides .comment = true) (hplain : hides .plain = false)
    (hname : hides .quotedName = false) (hls : ∀ l ∈ ls, l.Written d.quoteStyle) :
    ShownBefore hides d (ls.flatMap Listed.text) := by
  induction ls with
  | nil => exact fun before rest _ => rfl
  | cons l ls ih =>
    intro before rest hrest
    have hl := hls l List.mem_cons_self
    have hothers := fun k hk => hls k (List.mem_cons_of_mem l hk)
    have hcomma : ShownAs hides d [','] [','] := shownAs_char hplain (by decide)
    have hfront : ShownAs hides d l.front l.front := shownAs_gap hplain hl.front
    have hgaps := (hfront.append hcomma).append (shownAs_gap hplain hl.behind)
    have hreference := shownBefore_reference hcomment hplain hname hl.reference hl.closed
    have htext : (l :: ls).flatMap Listed.text
        = (l.front ++ [','] ++ l.behind) ++ (l.reference.text ++ ls.flatMap Listed.text) := by
      rw [List.flatMap_cons, Listed.text]
      simp only [List.append_assoc, List.cons_append, List.nil_append]
    have hsplit : (l :: ls).flatMap Listed.text ++ rest
        = (l.front ++ [','] ++ l.behind) ++ (l.reference.text ++ (ls.flatMap Listed.text ++ rest)) := by
      rw [htext]
      simp only [List.append_assoc]
    rw [hsplit, hgaps, hreference _ _ (stopsPart_listed hothers hrest), ih hothers _ _ hrest, htext]
    simp only [List.append_assoc, List.reverse_append]

/-- A list of references without gaps. -/
def listText (r : Dotted) (ls : List Listed) : Text := r.text ++ ls.flatMap Listed.text

/-- **No region opens in a list**: the statement is shown as it is written. -/
theorem mask_list (hides : Hiding) {front : Text} (hcomment : hides .comment = true)
    (hplain : hides .plain = false) (hname : hides .quotedName = false) (hfront : IsPlain front)
    (hr : r.Written IsGap d.quoteStyle) (hclosed : r.IsClosed) (hls : ∀ l ∈ ls, l.Written d.quoteStyle) :
    mask hides d (front ++ listText r ls) = front ++ listText r ls := by
  have hnil : StopsPart d.quoteStyle [] := stopsReference_nil.part
  have hothers := shownBefore_listed hcomment hplain hname hls
  have hreference := shownBefore_reference hcomment hplain hname hr hclosed
  have hlist : ∀ before, shownBehind hides d before (listText r ls) = listText r ls := by
    intro before
    have hend := hothers (r.text.reverse ++ before) [] hnil
    rw [List.append_nil, shownBehind_nil, List.append_nil] at hend
    have hstop : StopsPart d.quoteStyle (ls.flatMap Listed.text) := by
      rw [← List.append_nil (ls.flatMap Listed.text)]
      exact stopsPart_listed hls hnil
    rw [listText, hreference _ _ hstop, hend]
  show shownBehind hides d [] (front ++ listText r ls) = _
  rw [hfront.shownBehind_append hplain, hlist]

/-- Behind a table of the list no word goes on with the statement: a comma follows, or nothing. -/
theorem ends_listed (hls : ∀ l ∈ ls, l.Written d.quoteStyle) : Ends ',' (ls.flatMap Listed.text) := by
  cases ls with
  | nil => exact ends_nil ','
  | cons l ls =>
    rw [List.flatMap_cons, Listed.text, List.append_assoc]
    exact ends_of_gap (hls l List.mem_cons_self).front (by decide +kernel) (by decide) (by decide) _

/-- **Nothing is announced in a list** whose parts hold no announcements. -/
theorem silent_list (hr : r.Written IsGap d.quoteStyle) (hls : ∀ l ∈ ls, l.Written d.quoteStyle)
    (hparts : ∀ part ∈ r.parts, ¬HoldsAnnouncement d part)
    (hothers : ∀ l ∈ ls, ∀ part ∈ l.reference.parts, ¬HoldsAnnouncement d part) :
    Silent d ',' (listText r ls) := by
  induction ls generalizing r with
  | nil => exact silent_reference hparts hr.gaps (ends_nil ',') (silent_of_tails (by cases d <;> decide) _)
  | cons l ls ih =>
    have hl := hls l List.mem_cons_self
    have hlater := ih hl.reference (fun k hk => hls k (List.mem_cons_of_mem l hk))
      (hothers l List.mem_cons_self) fun k hk => hothers k (List.mem_cons_of_mem l hk)
    have hcomma : ∀ c ∈ l.front ++ ',' :: l.behind, Unicode.isWord c = false := by
      intro c hc
      obtain hc | hc := List.mem_append.mp hc
      · exact isWord_of_isBlank (hl.front c hc)
      · obtain rfl | hc := List.mem_cons.mp hc
        · decide +kernel
        · exact isWord_of_isBlank (hl.behind c hc)
    have htext : (l :: ls).flatMap Listed.text
        = (l.front ++ ',' :: l.behind) ++ listText l.reference ls := by
      rw [List.flatMap_cons, Listed.text, listText]
      simp only [List.append_assoc, List.cons_append]
    refine silent_reference hparts hr.gaps (ends_listed hls) ?_
    rw [htext]
    exact silent_of_isWord_eq_false hcomma hlater

end

/-! ## §3. Lists as they are read -/

/-- The words in front of the list. -/
def dropWords : Text := "DROP TABLE IF EXISTS ".toList

section

variable {style : QuoteStyle} {c : Cursor} {cs : List Capture} {r : Dotted} {ls : List Listed}

/-- The optional words are taken where they stand. -/
theorem prefers_ifExists {rest : Text} (h : c.rest = "IF EXISTS ".toList ++ rest)
    (hrest : ∀ ch ∈ rest.head?, Unicode.isBlank ch = false) :
    ifExists.Prefers ⟨c, cs⟩ ⟨c.past "IF EXISTS ".toList rest, cs⟩ := by
  have h : c.rest = "IF".toList ++ ' ' :: ("EXISTS ".toList ++ rest) := h
  have hread : (keyword "if".toList).Prefers ⟨c, cs⟩
      ⟨c.past "IF".toList (' ' :: ("EXISTS ".toList ++ rest)), cs⟩ := prefers_keyword h (by decide)
  have hread := hread.past (prefers_blanks rfl (isBlank_head?_cons (by decide) _))
  exact hread.word _ "EXISTS".toList rest (by decide) hrest

variable (hr : r.Written IsGap style) (hclosed : r.IsClosed) (hls : ∀ l ∈ ls, l.Written style)
include hr hclosed hls

/-- **A drop takes the whole list.** -/
theorem prefers_dropList (hedge : c.atWordEdge = true) (h : c.rest = dropWords ++ listText r ls) :
    (dropTable style).Prefers ⟨c, cs⟩
      ⟨c.past (dropWords ++ listText r ls) [],
        ⟨.tables, c.past dropWords (listText r ls), c.past (dropWords ++ listText r ls) []⟩ :: cs⟩ := by
  have hblank : ∀ ch ∈ (listText r ls).head?, Unicode.isBlank ch = false := Dotted.isBlank_head?_text hr _
  have hread : (tableLead "drop".toList).Prefers ⟨c, cs⟩
      ⟨c.past "DROP TABLE ".toList ("IF EXISTS ".toList ++ listText r ls), cs⟩ :=
    prefers_tableLead "DROP".toList hedge h (by decide) (isBlank_head?_cons (by decide) _)
  have hread := hread.past (Prefers.optional (prefers_ifExists rfl hblank))
  have hlist : (c.past dropWords (listText r ls)).rest = r.text ++ (ls.flatMap Listed.text ++ []) := by
    rw [List.append_nil]
    rfl
  have htables := prefers_tables hr hclosed hls stopsReference_nil (by decide) hlist cs
  rw [Cursor.past_past] at htables
  rw [dropTable_eq]
  exact hread.append (htables.capture .tables)

/-- What it mentions is what the search for references finds in the list. -/
theorem dropMentions_of_dropList (hedge : c.atWordEdge = true) (h : c.rest = dropWords ++ listText r ls) :
    ((dropTable style).matchAt? c).toList.flatMap (dropMentions style)
      = ((reference style).matchesIn (Cursor.start (listText r ls))).map fun table =>
          ⟨"drop".toList, c.offset, (c.past dropWords (listText r ls)).offset + table.start, table.text,
            .drop⟩ := by
  rw [(prefers_dropList hr hclosed hls hedge h).matchAt?, Option.toList_some, List.flatMap_singleton]
  have hlist := Cursor.textTo_past (c := c.past dropWords (listText r ls))
    (List.append_nil (listText r ls)).symm
  rw [Cursor.past_past] at hlist
  show ((reference style).matchesIn (Cursor.start ((c.past dropWords (listText r ls)).textTo
    (c.past (dropWords ++ listText r ls) [])))).map _ = _
  rw [hlist]
  rfl

end

/-! ## §4. Lists of written tables -/

section

variable {r : Dotted} {ls : List Listed} (hr : r.Written IsGap d.quoteStyle) (hclosed : r.IsClosed)
  (hls : ∀ l ∈ ls, l.Written d.quoteStyle) (hparts : ∀ part ∈ r.parts, ¬HoldsAnnouncement d part)
  (hothers : ∀ l ∈ ls, ∀ part ∈ l.reference.parts, ¬HoldsAnnouncement d part)
include hr hclosed hls hparts hothers

/-- **A drop mentions the references of its list,** one after the other, and nothing else. -/
theorem mentions_dropList :
    mentions d (dropWords ++ listText r ls)
      = ((reference d.quoteStyle).matchesIn (Cursor.start (listText r ls))).map fun table =>
          ⟨"drop".toList, 0, Text.byteLength dropWords + table.start, table.text, .drop⟩ := by
  have hstop : Closing d.quoteStyle ',' := closing_of_mem (by decide)
  have hplain : IsPlain dropWords := isPlain_of_all (by decide)
  have hcode := mask_list hidesLiterals rfl rfl rfl hplain hr hclosed hls
  have hliterals := mask_list hidesComments rfl rfl rfl hplain hr hclosed hls
  have hsilent : Silent d ',' ("ROP TABLE IF EXISTS ".toList ++ listText r ls) :=
    silent_append_of_tails (by decide) (by cases d <;> decide) (silent_list hr hls hparts hothers)
  have hshown : ShownTwice d (dropWords ++ listText r ls) 'D'
      ("ROP TABLE IF EXISTS ".toList ++ listText r ls)
      ("ROP TABLE IF EXISTS ".toList ++ listText r ls) := ⟨hcode, hliterals⟩
  have hmentions := dropMentions_of_dropList (c := Cursor.start (dropWords ++ listText r ls)) hr hclosed hls
    rfl rfl
  rw [mentions_dropTable hstop hsilent hsilent hshown]
  rw [Cursor.past_offset, show (Cursor.start (dropWords ++ listText r ls)).offset = 0 from rfl,
    Nat.zero_add] at hmentions
  exact hmentions

/-- A drop reports the tables that the references of its list name. -/
theorem classify_of_list {schema : Text} {tables : List TableRef}
    (htables : (r.text :: ls.map fun l => l.reference.text).map (Naming.trackedTable? ⟨d, schema⟩)
      = tables.map fun table => .ok (some table)) :
    classify d schema (dropWords ++ listText r ls) = .ok ⟨tables.map .dropped⟩ := by
  refine classify_of_mentions (mentions_dropList hr hclosed hls hparts hothers) ?_ ?_
  · rw [List.map_map, List.pairwise_map]
    exact (pairwise_start_matchesFrom 0 none 0 (listText r ls)).imp fun h => Nat.add_le_add_left h _
  · rw [← map_text_matchesIn_tables hr hclosed hls, List.map_map] at htables
    have hevents := congrArg (List.map fun tracked? : Except ReferenceError (Option TableRef) =>
      tracked?.map (Option.map TableEvent.dropped)) htables
    rw [List.map_map, List.map_map] at hevents
    rw [List.map_map, List.map_map]
    exact hevents

end

/-- A table of a list, behind a comma with what stands around it. -/
structure ListedTable where
  front : Text
  behind : Text
  table : TableRef

/-- How it is written. -/
def ListedTable.text (d : Dialect) (l : ListedTable) : Text :=
  l.front ++ ',' :: (l.behind ++ l.table.qualified d)

/-- The statement that drops the tables. -/
def dropScript (d : Dialect) (first : TableRef) (others : List ListedTable) : Text :=
  dropWords ++ (first.qualified d ++ others.flatMap (ListedTable.text d))

/-- The list of written tables as a list of references. -/
def ListedTable.written (d : Dialect) (l : ListedTable) : Listed :=
  ⟨l.front, l.behind, Script.written d l.table⟩

/-- The script is the words of the drop with a written list behind them. -/
theorem dropScript_eq (d : Dialect) (first : TableRef) (others : List ListedTable) :
    dropScript d first others
      = dropWords ++ listText (written d first) (others.map (ListedTable.written d)) := by
  have hone : ∀ l : ListedTable, (l.written d).text = l.text d := fun l => by
    rw [Listed.text, ListedTable.text, ListedTable.written, text_written]
  rw [dropScript, listText, text_written, List.flatMap_map]
  simp only [hone]

/-- The table that a written one is tracked as. -/
theorem Listable.trackedTable?_eq {table : TableRef} (h : Listable d table) (schema : Text) :
    Naming.trackedTable? ⟨d, schema⟩ (Script.written d table).text = .ok (some table) := by
  rw [text_written, trackedTable?_of_parse (h.parse_eq schema), isSessionName_eq_false h.permanent]
  rfl

/-- **Drop lists are split exactly.**  For tables that can be told apart, a drop of their list reports
    a drop of each of them, in the order of the list, and nothing else; and the creation of each of
    them reports just this creation. -/
theorem classify_dropScript (schema : Text) {first : TableRef} {others : List ListedTable}
    (hfirst : Listable d first)
    (hothers : ∀ l ∈ others, Listable d l.table ∧ IsGap l.front ∧ IsGap l.behind) :
    classify d schema (dropScript d first others)
        = .ok ⟨(first :: others.map ListedTable.table).map .dropped⟩
      ∧ ∀ table ∈ first :: others.map ListedTable.table,
          classify d schema ("CREATE TABLE ".toList ++ (table.qualified d ++ " (id int)".toList))
            = .ok ⟨[.created table]⟩ := by
  have hlistable : ∀ table ∈ first :: others.map ListedTable.table, Listable d table := by
    refine List.forall_mem_cons.mpr ⟨hfirst, fun table htable => ?_⟩
    obtain ⟨l, hl, rfl⟩ := List.mem_map.mp htable
    exact (hothers l hl).1
  refine ⟨?_, fun table htable => classify_create_written (hlistable table htable) schema⟩
  have hwritten : ∀ l ∈ others.map (ListedTable.written d), l.Written d.quoteStyle := by
    intro l hl
    obtain ⟨k, hk, rfl⟩ := List.mem_map.mp hl
    obtain ⟨htable, hfront, hbehind⟩ := hothers k hk
    exact ⟨htable.written isGap_nil, isClosed_written d k.table, hfront, hbehind⟩
  have hquiet : ∀ l ∈ others.map (ListedTable.written d), ∀ part ∈ l.reference.parts,
      ¬HoldsAnnouncement d part := by
    intro l hl
    obtain ⟨k, hk, rfl⟩ := List.mem_map.mp hl
    exact (hothers k hk).1.not_holdsAnnouncement
  rw [dropScript_eq]
  refine classify_of_list (hfirst.written isGap_nil) (isClosed_written d first) hwritten
    hfirst.not_holdsAnnouncement hquiet ?_
  -- each reference is read as the table that was written
  have htracked : (first :: others.map ListedTable.table).map
        (fun table => Naming.trackedTable? ⟨d, schema⟩ (written d table).text)
      = (first :: others.map ListedTable.table).map fun table => .ok (some table) :=
    List.map_congr_left fun table htable => (hlistable table htable).trackedTable?_eq schema
  rw [← htracked]
  simp only [List.map_cons, List.map_map]
  rfl

/-- Names with a comma, a dot and the mark of a comment. -/
def markedTable : TableRef := ⟨none, some "a,b".toList, "c.d".toList, "--".toList⟩

/-- A name that closes its quotes and opens others, with a comma between. -/
def quotedTable : TableRef := .inSchema "public".toList "e\",\"f".toList

/-- The quotes keep such names apart. -/
theorem marked_names_dropped :
    Listable .pg markedTable ∧ Listable .pg quotedTable
      ∧ dropScript .pg markedTable [⟨[' '], ['\n'], quotedTable⟩]
        = "DROP TABLE IF EXISTS \"a,b\".\"c.d\".\"--\" ,\npublic.\"e\"\",\"\"f\"".toList
      ∧ classify .pg "public".toList (dropScript .pg markedTable [⟨[' '], ['\n'], quotedTable⟩])
        = .ok ⟨[.dropped markedTable, .dropped quotedTable]⟩ := by
  have hall : ([markedTable, quotedTable].all fun table =>
      table.parts.all fun part => part.all fun c => !Unicode.isBlank c) = true := by decide +kernel
  have hunspaced : ∀ table ∈ [markedTable, quotedTable], ∀ part ∈ table.parts, ∀ c ∈ part,
      Unicode.isBlank c = false := by
    intro table htable part hpart c hc
    have htable := List.all_eq_true.mp hall table htable
    simpa using List.all_eq_true.mp (List.all_eq_true.mp htable part hpart) c hc
  have hfamily : ∀ {P : Prop}, Dialect.isServerFamily .pg = true → P := fun h => Bool.noConfusion h
  have hmarked : Listable .pg markedTable :=
    ⟨hunspaced _ (by decide), by decide, by decide, hfamily, hfamily⟩
  have hquoted : Listable .pg quotedTable :=
    ⟨hunspaced _ (by decide), by decide, by decide, hfamily, hfamily⟩
  refine ⟨hmarked, hquoted, by decide +kernel, (classify_dropScript _ hmarked fun l hl => ?_).1⟩
  rw [List.mem_singleton.mp hl]
  exact ⟨hquoted, isGap_space, fun c hc => by rw [List.mem_singleton.mp hc]; decide⟩

end TableLedger.Script
