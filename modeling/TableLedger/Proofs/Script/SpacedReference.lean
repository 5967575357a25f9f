/-
  TableLedger.Proofs.Script.SpacedReference — references with spacing at their dots.

  There may be white space and comments around the dots of a reference: the cut at the
  dots trims the parts, and the argument of a rename procedure is read in this way.  The
  patterns for statements stop in front of such a dot.  CREATE TABLE and DROP TABLE then
  report another table, the one that the parts before it name, and ALTER TABLE reports
  nothing.  It goes unnoticed only where that other table happens to be the same.

  Main statements:
    • `exists_mention_of_form` — what a statement mentions,
    • `ofParts_eq_iff_of_prefix` — when parts in front of a dot name the same table,
    • `classify_spaced_eq_iff` — the references whose spacing makes no difference.
-/

import TableLedger.Proofs.Script.TableStatement

namespace TableLedger.Script

open Pattern

/-! ## §1. Statements as they are shown -/

variable {d : Dialect} {hides : Hiding} {r shown : Dotted}

/-- A reference as it is shown: with the same parts, and gaps where there is spacing. -/
structure Dotted.ShownAs (style : QuoteStyle) (r shown : Dotted) : Prop where
  written : shown.Written IsGap style
  parts : shown.parts = r.parts
  head : shown.head.parts = r.head.parts
  closed : shown.IsClosed ↔ r.IsClosed

/-- A reference is shown with the same head. -/
theorem Dotted.ShownAs.text_head {style : QuoteStyle} (h : r.ShownAs style shown) :
    shown.head.text = r.head.text := by
  rw [shown.isClosed_head.text_eq, r.isClosed_head.text_eq, h.head]

/-- No region opens in the text. -/
def IsPlain (t : Text) : Prop := ∀ c ∈ t, c ∉ ['-', '/', '\'', '"', '[', '$']

theorem isPlain_of_all {t : Text}
    (h : (t.all fun c => c ∉ ['-', '/', '\'', '"', '[', '$']) = true) : IsPlain t := fun c hc => by
  simpa using List.all_eq_true.mp h c hc

/-- A plain text is shown as it is, whatever stands around it. -/
theorem IsPlain.shownBehind_append {t : Text} (h : IsPlain t) (hplain : hides .plain = false)
    (before rest : Text) :
    shownBehind hides d before (t ++ rest) = t ++ shownBehind hides d (t.reverse ++ before) rest :=
  shownAs_chars hplain h before rest

theorem IsPlain.shownBehind_eq_self {t : Text} (h : IsPlain t) (hplain : hides .plain = false)
    (before : Text) : shownBehind hides d before t = t := by
  have hshown : shownBehind hides d before (t ++ []) = _ := h.shownBehind_append hplain before []
  rwa [shownBehind_nil, List.append_nil] at hshown

/-- **A statement is shown with its words, and with its reference as that is shown.** -/
theorem exists_shown_statement (hides : Hiding) {front rest : Text} (hcomment : hides .comment = true)
    (hplain : hides .plain = false) (hname : hides .quotedName = false)
    (hr : r.Written Spacing d.quoteStyle) (hfront : IsPlain front) (hrest : IsPlain rest)
    (hstop : StopsPart d.quoteStyle rest) :
    ∃ shown, r.ShownAs d.quoteStyle shown
      ∧ mask hides d (front ++ (r.text ++ rest)) = front ++ (shown.text ++ rest) := by
  obtain ⟨shown, hwritten, hparts, hhead, hclosed, hshown⟩ := Dotted.exists_shown hcomment hplain hname hr
  refine ⟨shown, ⟨hwritten, hparts, hhead, hclosed⟩, ?_⟩
  show shownBehind hides d [] (front ++ (r.text ++ rest)) = _
  rw [hfront.shownBehind_append hplain, hshown _ rest hstop, hrest.shownBehind_eq_self hplain]

/-- The statements that name a table. -/
inductive StatementForm where
  | create
  | drop
  | rename
  deriving DecidableEq

namespace StatementForm

/-- The words in front of the reference. -/
def words : StatementForm → Text
  | create => "CREATE TABLE ".toList
  | drop => "DROP TABLE ".toList
  | rename => "ALTER TABLE ".toList

/-- What closes the statement. -/
def closing : StatementForm → Text
  | create => " (id int)".toList
  | drop => []
  | rename => renameTail

def script (form : StatementForm) (reference : Text) : Text :=
  form.words ++ (reference ++ form.closing)

/-- What it does to the table. -/
def change : StatementForm → Change
  | create => .creation
  | drop => .drop
  | rename => .rename "x".toList

/-- The character that closes it. -/
def stop : StatementForm → Char
  | create | drop => '('
  | rename => 'R'

variable (form : StatementForm)

theorem isPlain_words : IsPlain form.words := isPlain_of_all (by cases form <;> decide)

theorem isPlain_closing : IsPlain form.closing := isPlain_of_all (by cases form <;> decide)

/-- The end of a statement stops a reference. -/
theorem stopsReference_closing {style : QuoteStyle} : StopsReference style form.closing := by
  cases form with
  | create =>
    have hmark : '(' ∈ ['.', ',', '('] := by decide
    exact ⟨stopsPart_of_gap isGap_space hmark, by decide⟩
  | drop => exact stopsReference_nil
  | rename => exact stopsReference_renameTail

/-- The end of a statement begins with no word that goes on with it. -/
theorem ends_closing : Ends form.stop form.closing := by
  cases form with
  | create => exact ends_of_gap isGap_space (by decide +kernel) (by decide) (by decide) _
  | drop => exact ends_nil '('
  | rename => exact ends_renameTail

/-- The statement of a dialect announces nothing behind its first character, if the parts of the
    reference hold no announcements. -/
theorem silent_statement (hform : form = .rename → d = .pg) (hshown : r.ShownAs d.quoteStyle shown)
    (hparts : ∀ part ∈ r.parts, ¬HoldsAnnouncement d part) :
    Silent d form.stop (form.words.tail ++ (shown.text ++ form.closing)) := by
  have hclosing : Silent d form.stop form.closing := by
    refine silent_of_tails ?_ _
    cases form with
    | create | drop => cases d <;> decide
    | rename =>
      rw [hform rfl]
      decide
  have hreference := silent_reference (by rwa [hshown.parts]) hshown.written.gaps form.ends_closing hclosing
  refine silent_append_of_tails ?_ ?_ hreference
  · cases form <;> decide
  · cases form <;> cases d <;> decide

/-- How both masks show the statement. -/
theorem exists_shownTwice (hr : r.Written Spacing d.quoteStyle) :
    ∃ shown shown', r.ShownAs d.quoteStyle shown ∧ r.ShownAs d.quoteStyle shown'
      ∧ maskCommentsAndLiterals d (form.script r.text) = form.words ++ (shown.text ++ form.closing)
      ∧ maskComments d (form.script r.text) = form.words ++ (shown'.text ++ form.closing) := by
  obtain ⟨shown, hs, hcode⟩ := exists_shown_statement hidesLiterals rfl rfl rfl hr
    form.isPlain_words form.isPlain_closing form.stopsReference_closing.part
  obtain ⟨shown', hs', hliterals⟩ := exists_shown_statement hidesComments rfl rfl rfl hr
    form.isPlain_words form.isPlain_closing form.stopsReference_closing.part
  exact ⟨shown, shown', hs, hs', hcode, hliterals⟩

end StatementForm

/-! ## §2. What a statement mentions -/

/-- A rename selects nothing: behind its reference there is no FROM. -/
theorem selectionsIn_rename (hs : r.ShownAs .doubleQuote shown)
    (hparts : ∀ part ∈ r.parts, ¬HoldsAnnouncement .pg part) :
    selectionsIn .doubleQuote ('A' :: ("LTER TABLE ".toList ++ (shown.text ++ renameTail))) = [] := by
  have hreference : Silent .pg '(' (shown.text ++ []) :=
    silent_reference (by rwa [hs.parts]) hs.written.gaps (ends_nil '(') (silent_of_tails (by decide) _)
  have hsilent : Silent .pg '(' ("LTER TABLE ".toList ++ (shown.text ++ [])) :=
    silent_append_of_tails (by decide) (by decide) hreference
  have hfrom : (renameTail.all fun c => !isLetter 'f' c) = true := by decide
  rw [List.append_nil] at hsilent
  rw [← List.append_assoc]
  refine selectionsIn_eq_nil (closing_of_mem (by decide)) hsilent (by decide) fun c hc => ?_
  simpa using List.all_eq_true.mp hfrom c hc

/-- A reference of several parts has joints. -/
theorem Dotted.one_lt_length_parts_iff : 1 < r.parts.length ↔ r.joints ≠ [] := by
  rw [Dotted.parts, List.length_cons, List.length_map, ← List.length_pos_iff]
  omega

section

variable {form : StatementForm} (hr : r.Written Spacing d.quoteStyle)
  (hparts : ∀ part ∈ r.parts, ¬HoldsAnnouncement d part)
include hr hparts

/-- **A statement mentions the head of its reference**; a rename does so if the reference has no
    gaps. -/
theorem exists_mention_of_form
    (hform : form = .rename → d = .pg ∧ r.IsClosed ∧ 1 < r.parts.length) :
    ∃ m, mentions d (form.script r.text) = [m] ∧ m.reference = r.head.text ∧ m.change = form.change := by
  obtain ⟨shown, shown', hs, hs', hcode, hliterals⟩ := form.exists_shownTwice hr
  have ht := form.silent_statement (fun h => (hform h).1) hs hparts
  have ht' := form.silent_statement (fun h => (hform h).1) hs' hparts
  have hrest : StopsReference d.quoteStyle form.closing := form.stopsReference_closing
  cases form with
  | create =>
    -- the column list behind the reference is no part of it
    have hstop : Closing d.quoteStyle '(' := closing_of_mem (by decide)
    have hshown : ShownTwice d (StatementForm.create.script r.text) 'C' _ _ := ⟨hcode, hliterals⟩
    have hends := StatementForm.create.ends_closing
    rw [mentions_createTable hstop ht ht' hshown (matchAt?_routineHeader rfl),
      creationMentions_of_createTable hstop.letters hs.written hrest hends rfl rfl]
    exact ⟨_, rfl, hs.text_head, rfl⟩
  | drop =>
    have hstop : Closing d.quoteStyle '(' := closing_of_mem (by decide)
    have hshown : ShownTwice d (StatementForm.drop.script r.text) 'D' _ _ := ⟨hcode, hliterals⟩
    obtain ⟨offset, hmentions⟩ := dropMentions_of_dropTable hstop.letters hs.written
      (c := Cursor.start ("DROP TABLE ".toList ++ (shown.text ++ []))) rfl (by rw [List.append_nil]; rfl)
    rw [mentions_dropTable hstop ht ht' hshown]
    exact ⟨_, hmentions, hs.text_head, rfl⟩
  | rename =>
    obtain ⟨rfl, hclosed, hlength⟩ := hform rfl
    -- the new name must follow the whole reference, so this form does not stop at the head
    have hclosed : shown.IsClosed := hs.closed.mpr hclosed
    have hjoints : shown.joints ≠ [] := by
      rwa [← Dotted.one_lt_length_parts_iff, hs.parts]
    have hshown : ShownTwice .pg (StatementForm.rename.script r.text) 'A'
        ("LTER TABLE ".toList ++ (shown.text ++ renameTail))
        ("LTER TABLE ".toList ++ (shown'.text ++ renameTail)) := ⟨hcode, hliterals⟩
    have hhead : shown.text = r.head.text := by
      rw [← hs.text_head, hclosed.head_eq]
    have hwritten : shown.Written IsGap .doubleQuote := hs.written
    have hmentions := renameMentions_of_alterTable hwritten hclosed hjoints
      (c := Cursor.start ('A' :: ("LTER TABLE ".toList ++ (shown.text ++ renameTail)))) rfl rfl
    rw [mentions_alterTable letters_R hshown ht (selectionsIn_rename hs hparts)]
    exact ⟨_, hmentions, hhead, rfl⟩

end

/-- A rename with spacing at a dot mentions nothing. -/
theorem mentions_rename_of_open (hr : r.Written Spacing .doubleQuote)
    (hparts : ∀ part ∈ r.parts, ¬HoldsAnnouncement .pg part) (hopen : ¬r.IsClosed) :
    mentions .pg (StatementForm.rename.script r.text) = [] := by
  obtain ⟨shown, shown', hs, hs', hcode, hliterals⟩ := StatementForm.rename.exists_shownTwice (d := .pg) hr
  have ht := StatementForm.rename.silent_statement (d := .pg) (fun _ => rfl) hs hparts
  have hshown : ShownTwice .pg (StatementForm.rename.script r.text) 'A' _ _ := ⟨hcode, hliterals⟩
  have hwritten : shown.Written IsGap .doubleQuote := hs.written
  have hnone := matchAt?_alterTable_of_open
    (c := Cursor.start ("ALTER TABLE ".toList ++ (shown.text ++ renameTail))) hwritten
    (fun h => hopen (hs.closed.mp h)) rfl
  rw [mentions_alterTable letters_R hshown ht (selectionsIn_rename hs hparts)]
  exact congrArg (fun found : Option Match => found.toList.flatMap (renameMentions .alterTable)) hnone

/-! ## §3. What a statement reports -/

/-- A statement reports what the head of its reference names. -/
theorem classify_of_form {form : StatementForm} (hr : r.Written Spacing d.quoteStyle)
    (hparts : ∀ part ∈ r.parts, ¬HoldsAnnouncement d part)
    (hform : form = .rename → d = .pg ∧ r.IsClosed ∧ 1 < r.parts.length) (schema : Text) :
    classify d schema (form.script r.text)
      = (Naming.trackedTable? ⟨d, schema⟩ r.head.text).map fun table? =>
          ⟨(table?.map (form.change.event d)).toList⟩ := by
  obtain ⟨m, hmentions, hreference, hchange⟩ := exists_mention_of_form hr hparts hform
  rw [classify_of_mentions_singleton hmentions, Naming.event?, hreference, hchange]
  cases Naming.trackedTable? ⟨d, schema⟩ r.head.text with
  | error e => rfl
  | ok table? => rfl

/-- One to four parts, none of them empty, name a table. -/
theorem exists_ofParts_eq_ok {parts : List Text} (schema : Text) (hne : parts ≠ [])
    (hlength : parts.length ≤ 4) (hparts : ∀ part ∈ parts, part ≠ []) :
    ∃ t, TableRef.ofParts d schema parts = .ok t := by
  match parts with
  | [] => exact absurd rfl hne
  | [a] | [a, b] | [a, b, c] | [a, b, c, e] => simp_all [TableRef.ofParts, TableRef.ofParts.omitted]
  | a :: b :: c :: e :: f :: parts =>
    simp only [List.length_cons] at hlength
    omega

/-- A database is named by the third part from behind, and a server by the fourth. -/
theorem qualifiers_of_ofParts {parts : List Text} {schema : Text} {t : TableRef}
    (h : TableRef.ofParts d schema parts = .ok t) :
    (t.database.isSome = true ↔ 3 ≤ parts.length) ∧ (t.server.isSome = true ↔ 4 ≤ parts.length) := by
  unfold TableRef.ofParts at h
  split at h
  case h_5 => injection h
  all_goals
    split at h
    · injection h
    · injection h with h
      subst h
      simp [TableRef.inSchema]

/-- **The parts in front of a dot name the same table as all of them** only if they are one part out
    of two, and both read like the default schema. -/
theorem ofParts_eq_iff_of_prefix {front behind : List Text} (schema : Text) (hfront : front ≠ [])
    (hbehind : behind ≠ []) (hlength : (front ++ behind).length ≤ 4)
    (hparts : ∀ part ∈ front ++ behind, part ≠ []) :
    TableRef.ofParts d schema front = TableRef.ofParts d schema (front ++ behind)
      ↔ ∃ a b, front = [a] ∧ behind = [b]
        ∧ Identifier.canonicalize d a = Identifier.canonicalize d schema
        ∧ Identifier.canonicalize d b = Identifier.canonicalize d schema := by
  have htwo : ∀ {a b : Text}, a ≠ [] → b ≠ [] →
      (TableRef.ofParts d schema [a] = TableRef.ofParts d schema [a, b]
        ↔ Identifier.canonicalize d schema = Identifier.canonicalize d a
          ∧ Identifier.canonicalize d a = Identifier.canonicalize d b) := by
    intro a b ha hb
    simp [TableRef.ofParts, TableRef.ofParts.canonical, TableRef.inSchema, ha, hb]
  constructor
  · intro heq
    have hne : front ++ behind ≠ [] := List.append_ne_nil_of_left_ne_nil hfront behind
    obtain ⟨t, ht⟩ := exists_ofParts_eq_ok schema hne hlength hparts
    -- a third part is a database and a fourth a server, so that there are one and two parts
    obtain ⟨hdatabase, hserver⟩ := qualifiers_of_ofParts ht
    obtain ⟨hdatabase', hserver'⟩ := qualifiers_of_ofParts (heq.trans ht)
    have hthree := hdatabase.symm.trans hdatabase'
    have hfour := hserver.symm.trans hserver'
    have hfrontPos := List.length_pos_of_ne_nil hfront
    have hbehindPos := List.length_pos_of_ne_nil hbehind
    rw [List.length_append] at hlength hthree hfour
    obtain ⟨a, rfl⟩ := List.length_eq_one_iff.mp (show front.length = 1 by omega)
    obtain ⟨b, rfl⟩ := List.length_eq_one_iff.mp (show behind.length = 1 by omega)
    obtain ⟨ha, hb⟩ := (htwo (hparts a (by simp)) (hparts b (by simp))).mp heq
    exact ⟨a, b, rfl, rfl, ha.symm, (ha.trans hb).symm⟩
  · rintro ⟨a, b, rfl, rfl, ha, hb⟩
    exact (htwo (hparts a (by simp)) (hparts b (by simp))).mpr ⟨ha.symm, ha.trans hb.symm⟩

/-! ## §4. Spacing that makes a difference -/

/-- A reference is written as well without its gaps. -/
theorem Dotted.Written.closed {style : QuoteStyle} (hr : r.Written Spacing style) :
    r.closed.Written Spacing style where
  parts := by rw [r.parts_closed]; exact hr.parts
  gaps j hj := by
    obtain ⟨k, -, rfl⟩ := List.mem_map.mp hj
    exact ⟨.nil, .nil⟩

/-- If the head has all the parts, there is no gap. -/
theorem Dotted.isClosed_of_parts_head (h : r.head.parts = r.parts) : r.IsClosed := by
  have hjoints := congrArg List.length (List.cons.inj h).2
  rw [List.length_map, List.length_map] at hjoints
  exact List.takeWhile_eq_self_iff.mp ((List.takeWhile_prefix _).eq_of_length hjoints)

/-- Two parts, with something in front and something behind. -/
theorem append_eq_pair_iff {front behind : List Text} (hfront : front ≠ []) (hbehind : behind ≠ [])
    {a b : Text} : front ++ behind = [a, b] ↔ front = [a] ∧ behind = [b] := by
  constructor
  · intro h
    have hfrontPos := List.length_pos_of_ne_nil hfront
    have hbehindPos := List.length_pos_of_ne_nil hbehind
    have htotal := congrArg List.length h
    rw [List.length_append, List.length_cons, List.length_singleton] at htotal
    have h : front ++ behind = [a] ++ [b] := h
    refine List.append_inj h ?_
    rw [List.length_singleton]
    omega
  · rintro ⟨rfl, rfl⟩
    rfl

/-- The table that a reference without gaps names. -/
theorem trackedTable?_of_isClosed (hclosed : r.IsClosed)
    (hparts : ∀ part ∈ r.parts, IsPart d.quoteStyle part) {schema : Text} {t : TableRef}
    (h : TableRef.ofParts d schema r.parts = .ok t) :
    Naming.trackedTable? ⟨d, schema⟩ r.text
      = .ok (if r.parts.getLast?.any (isSessionName d) then none else some t) := by
  rw [hclosed.text_eq, trackedTable?_join r.parts_ne_nil hparts, parse_join r.parts_ne_nil hparts, h]
  split <;> rfl

/-- A statement reports the table that the head of its reference names. -/
theorem classify_of_ofParts {form : StatementForm} {schema : Text} {t : TableRef}
    (hr : r.Written Spacing d.quoteStyle) (hparts : ∀ part ∈ r.parts, ¬HoldsAnnouncement d part)
    (hform : form = .rename → d = .pg ∧ r.IsClosed ∧ 1 < r.parts.length)
    (h : TableRef.ofParts d schema r.head.parts = .ok t) :
    classify d schema (form.script r.text)
      = .ok ⟨if r.head.parts.getLast?.any (isSessionName d) then [] else [form.change.event d t]⟩ := by
  rw [classify_of_form hr hparts hform, trackedTable?_of_isClosed r.isClosed_head
    (fun part hpart => hr.parts part (r.parts_head_prefix.subset hpart)) h]
  split <;> rfl

/-- A creation or a drop reports by the first part of two what it reports by both, if the first part is
    not the name of a session table and both read like the default schema. -/
theorem report_eq_iff_of_prefix {form : StatementForm} {schema : Text} {front behind : List Text}
    {t t' : TableRef} (hform : form ≠ .rename) (hfront : front ≠ []) (hbehind : behind ≠ [])
    (hlength : (front ++ behind).length ≤ 4) (hparts : ∀ part ∈ front ++ behind, part ≠ [])
    (ht' : TableRef.ofParts d schema front = .ok t')
    (ht : TableRef.ofParts d schema (front ++ behind) = .ok t) :
    (if front.getLast?.any (isSessionName d) then [] else [form.change.event d t'])
        = [form.change.event d t]
      ↔ ∃ a b, front ++ behind = [a, b] ∧ isSessionName d a = false
          ∧ Identifier.canonicalize d a = Identifier.canonicalize d schema
          ∧ Identifier.canonicalize d b = Identifier.canonicalize d schema := by
  have hsame := ofParts_eq_iff_of_prefix (d := d) schema hfront hbehind hlength hparts
  rw [ht, ht', Except.ok.injEq] at hsame
  have hevent : form.change.event d t' = form.change.event d t ↔ t' = t := by
    cases form with
    | create | drop => simp [StatementForm.change, Change.event]
    | rename => exact absurd rfl hform
  simp only [append_eq_pair_iff hfront hbehind]
  cases hsession : front.getLast?.any (isSessionName d) with
  | true =>
    refine iff_of_false (List.cons_ne_nil _ _).symm ?_
    rintro ⟨a, b, ⟨rfl, -⟩, hnot, -⟩
    exact Bool.noConfusion (hnot.symm.trans hsession)
  | false =>
    rw [if_neg Bool.false_ne_true, List.singleton_inj, hevent, hsame]
    constructor
    · rintro ⟨a, b, rfl, hb, hreads⟩
      exact ⟨a, b, ⟨rfl, hb⟩, hsession, hreads⟩
    · rintro ⟨a, b, ⟨ha, hb⟩, -, hreads⟩
      exact ⟨a, b, ha, hb, hreads⟩

/-- **Spacing at the dots makes a difference.**  A statement with a reference of two to four parts, not
    that of a session table, reports what it reports with plain dots if and only if the dots are plain,
    or it creates or drops the table that is named like the default schema, in that schema.

    The parts are such as a script shows for what they are.  No part in quotes holds a word that
    announces a statement with white space behind it, for that would be read as a statement of its own.
    And in a bare name of PostgreSQL each dollar sign stands behind a character that is none
    (`IsPart.bare`): the second of two in a row may open a dollar-quoted body.  Of other parts nothing
    is said here. -/
theorem classify_spaced_eq_iff {form : StatementForm} (hform : form = .rename → d = .pg) (schema : Text)
    (hr : r.Written Spacing d.quoteStyle) (hlength : 2 ≤ r.parts.length ∧ r.parts.length ≤ 4)
    (hsession : r.parts.getLast?.any (isSessionName d) = false)
    (hparts : ∀ part ∈ r.parts, ¬HoldsAnnouncement d part) :
    classify d schema (form.script r.text) = classify d schema (form.script r.closed.text)
      ↔ r.IsClosed ∨ form ≠ .rename ∧ ∃ a b, r.parts = [a, b] ∧ isSessionName d a = false
          ∧ Identifier.canonicalize d a = Identifier.canonicalize d schema
          ∧ Identifier.canonicalize d b = Identifier.canonicalize d schema := by
  have hne : ∀ part ∈ r.parts, part ≠ [] := fun part hpart => (hr.parts part hpart).tight.ne_nil
  obtain ⟨t, ht⟩ := exists_ofParts_eq_ok (d := d) schema r.parts_ne_nil hlength.2 hne
  have hplain : classify d schema (form.script r.closed.text) = .ok ⟨[form.change.event d t]⟩ := by
    have hhead : r.closed.head.parts = r.parts := by rw [r.isClosed_closed.head_eq, r.parts_closed]
    rw [classify_of_ofParts hr.closed (by rwa [r.parts_closed])
      (fun h => ⟨hform h, r.isClosed_closed, by rw [r.parts_closed]; exact hlength.1⟩)
      (by rw [hhead]; exact ht), hhead, hsession]
    rfl
  by_cases hclosed : r.IsClosed
  · rw [Dotted.closed_eq_self_iff.mpr hclosed]
    exact iff_of_true rfl (.inl hclosed)
  rw [or_iff_right hclosed, hplain]
  by_cases hrename : form = .rename
  · -- with a gap in it, the old name has no RENAME behind it and nothing is reported
    subst hrename
    obtain rfl := hform rfl
    rw [classify_of_mentions_nil (mentions_rename_of_open hr hparts hclosed)]
    exact iff_of_false (by simp) fun h => h.1 rfl
  · -- only the parts in front of the first gap are read
    have hhead := r.parts_head_prefix
    obtain ⟨t', ht'⟩ := exists_ofParts_eq_ok (d := d) schema r.head.parts_ne_nil
      (hhead.length_le.trans hlength.2) fun part hpart => hne part (hhead.subset hpart)
    rw [and_iff_right hrename, classify_of_ofParts hr hparts (fun h => absurd h hrename) ht',
      Except.ok.injEq, Classification.mk.injEq]
    obtain ⟨behind, hbehind⟩ := hhead
    have hbehindNe : behind ≠ [] := by
      rintro rfl
      exact hclosed (Dotted.isClosed_of_parts_head (by rwa [List.append_nil] at hbehind))
    rw [← hbehind] at ht hlength hne ⊢
    exact report_eq_iff_of_prefix hrename r.head.parts_ne_nil hbehindNe hlength.2 hne ht' ht

/-- A schema and a table, with white space and a comment at the dot. -/
def spacedPair : Dotted := ⟨"a".toList, [⟨[' '], "/* */".toList, "b".toList⟩]⟩

/-- The table that is reported is not the one of the schema. -/
theorem spacedPair_reported_elsewhere :
    spacedPair.Written Spacing .doubleQuote ∧ (∀ part ∈ spacedPair.parts, ¬HoldsAnnouncement .pg part)
      ∧ classify .pg "public".toList (StatementForm.create.script spacedPair.text)
        ≠ classify .pg "public".toList (StatementForm.create.script spacedPair.closed.text) := by
  have hwritten : spacedPair.Written Spacing .doubleQuote := by
    refine ⟨fun part hpart => ?_, fun j hj => ?_⟩
    · obtain rfl | rfl : part = "a".toList ∨ part = "b".toList := by
        simpa [spacedPair, Dotted.parts] using hpart
      · exact isPart_singleton (by decide +kernel) (by decide)
      · exact isPart_singleton (by decide +kernel) (by decide)
    · obtain rfl := List.mem_singleton.mp hj
      exact ⟨.of_filler (.blank ' ' (by decide)), .of_filler (.blockComment [' '] (by decide))⟩
  have hquiet : ∀ part ∈ spacedPair.parts, ¬HoldsAnnouncement .pg part := fun part hpart =>
    not_holdsAnnouncement fun c hc => by
      have hall : (spacedPair.parts.all fun part => part.all fun c => !Unicode.isBlank c) = true := by
        decide
      simpa using List.all_eq_true.mp (List.all_eq_true.mp hall part hpart) c hc
  refine ⟨hwritten, hquiet, fun hsame => ?_⟩
  obtain hclosed | ⟨-, a, b, hparts, -, ha, -⟩ := (classify_spaced_eq_iff (d := .pg) (fun _ => rfl) _
    hwritten (by decide) (by decide) hquiet).mp hsame
  · exact absurd (hclosed _ List.mem_cons_self) (by decide)
  · obtain rfl : "a".toList = a := (List.cons.inj hparts).1
    exact absurd ha (by decide +kernel)

/-- White space at the dot turns the schema into the table. -/
theorem spaced_schema_reported_as_table :
    classify .pg "public".toList "CREATE TABLE a . b (id int)".toList
        = .ok ⟨[.created (.inSchema "public".toList "a".toList)]⟩
      ∧ classify .pg "public".toList "CREATE TABLE a.b (id int)".toList
        = .ok ⟨[.created (.inSchema "a".toList "b".toList)]⟩
      ∧ classify .pg "public".toList "CREATE TABLE a . b (id int)".toList
        ≠ classify .pg "public".toList "CREATE TABLE a.b (id int)".toList := by
  have hspaced : classify .pg "public".toList "CREATE TABLE a . b (id int)".toList
      = .ok ⟨[.created (.inSchema "public".toList "a".toList)]⟩ := by decide +kernel
  have hplain : classify .pg "public".toList "CREATE TABLE a.b (id int)".toList
      = .ok ⟨[.created (.inSchema "a".toList "b".toList)]⟩ := by decide +kernel
  refine ⟨hspaced, hplain, ?_⟩
  rw [hspaced, hplain]
  simp [TableRef.inSchema]

end TableLedger.Script
