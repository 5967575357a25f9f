/-
  TableLedger.Proofs.Script.Semicolon — no statement reaches over a semicolon.

  The code of a PostgreSQL script is searched as a whole, form by form; where its
  statements end is never worked out.  Yet in code without double quotes no form
  matches over a semicolon, the word that an INTO belongs to is sought no further
  in front than the nearest semicolon, and a FROM no further behind than the next
  one.  So code that a semicolon cuts in two mentions what its pieces mention:

      mentions of t ; u  =  mentions of t, and mentions of u further behind

  Main statements:
    • `cuts_matchesIn`, `cuts_selectionsIn` — what is found on either side of a
      semicolon,
    • `mentions_pg` — the mentions of a script, search by search,
    • `filter_mentionsIn_front`, `filter_mentionsIn_back` — what is mentioned in
      front of a semicolon and behind it.
-/

import TableLedger.Proofs.Script.Vocabulary

namespace TableLedger.Script

open Pattern

/-! ## §1. Searches that a semicolon cuts -/

/-- A search for matches that goes on behind a semicolon as at the beginning of a
    text: what it finds in a text with a semicolon in it, it finds on either side. -/
structure Cuts (search : Text → List Match) : Prop where
  append : ∀ {t u : Text}, '"' ∉ t → '"' ∉ u →
    search (t ++ ';' :: u) = (search t).map (Match.within (.front ';' u))
      ++ (search u).map (Match.within (.back t ';'))
  leads : ∀ {t : Text} {m : Match}, m ∈ search t → (Cursor.start t).Reaches m.first
    ∧ ∀ c ∈ m.captures, (Cursor.start t).Reaches c.first ∧ c.first.Reaches c.last

/-- A form that announces a word finds nothing at the semicolon itself. -/
theorem cuts_matchesIn {p : Pattern} {word : Text} (hp : AvoidsSemicolon p)
    (hannounces : p.Announces word) (hword : word ≠ []) (hnot : ';' ∉ word) :
    Cuts fun t => p.matchesIn (Cursor.start t) where
  append := by
    intro t u ht hu
    have hnone : ∀ before, p.matchAt? ⟨before, Text.byteLength t, ';' :: u⟩ = none :=
      fun before =>
        matchAt?_eq_none_of_announces hannounces hword hnot (by decide) (by decide) before _ u
    obtain ⟨last, hcut⟩ := matchesIn_append_mark (staysIn_front hp hu) ht (staysIn_back hp t) hu
      fun before m hm => by rw [hnone before] at hm; exact nomatch hm
    show p.matchesIn _ = _
    rw [hcut, hnone last, Option.toList_none, List.append_nil]
  leads := leads_of_mem_matchesIn

/-! ## §2. Selections -/

section Selections

variable {t u : Text}

/-- Statement words at a place of a part of the text, where anything is left of it.
    Nothing but a semicolon takes a semicolon, and that one takes nothing more. -/
theorem staysIn_statementWord {f : Frame} (hf : f.MarkedBy ';') (hbehind : '"' ∉ f.behind) :
    statementWord.StaysIn f '"' := by
  obtain ⟨words, hwords, hstatementWord⟩ := exists_statementWord_eq
  intro c hrest hc
  rw [hstatementWord]
  refine matchAt?_within ?_
  have hfirst := ways_within hwords hf (by decide) hbehind (w := ⟨c, []⟩) hc
  have hsecond : (char ';').ways ((⟨c, []⟩ : Way).within f)
      = ((char ';').ways ⟨c, []⟩).map (Way.within f) := by
    obtain ⟨before, offset, rest⟩ := c
    cases rest with
    | nil => exact absurd rfl hrest
    | cons ch rest =>
      simp only [char, ways, Way.within, Cursor.within, List.cons_append]
      split
      · rw [List.map_singleton]
        simp [Way.within, Cursor.within, Cursor.step, Nat.add_assoc]
      · rfl
  show words.ways _ ++ (char ';').ways _ = (words.ways _ ++ (char ';').ways _).map _
  rw [hfirst, hsecond, List.map_append]

/-- The statement word at a semicolon takes no more than the semicolon. -/
theorem exists_statementWord_at_semicolon (before : Option Char) (offset : Nat) (hu : '"' ∉ u) :
    ∃ m, statementWord.matchAt? ⟨before, offset, ';' :: u⟩ = some m ∧ m.stop ≤ offset + 1 := by
  obtain ⟨words, hwords, hstatementWord⟩ := exists_statementWord_eq
  have hlast : (char ';').ways ⟨⟨before, offset, ';' :: u⟩, []⟩
      = [⟨⟨some ';', offset + 1, u⟩, []⟩] := rfl
  have hways : statementWord.ways ⟨⟨before, offset, ';' :: u⟩, []⟩
      = words.ways ⟨⟨before, offset, ';' :: u⟩, []⟩ ++ [⟨⟨some ';', offset + 1, u⟩, []⟩] := by
    rw [hstatementWord, ← hlast]
    rfl
  have hstop : ∀ v ∈ words.ways ⟨⟨before, offset, ';' :: u⟩, []⟩, v.cursor.offset = offset :=
    fun v hv => offset_eq_of_avoids hwords (by decide)
      (List.not_mem_cons_of_ne_of_not_mem (by decide) hu) hv
  unfold matchAt?
  rw [hways]
  cases hfound : words.ways ⟨⟨before, offset, ';' :: u⟩, []⟩ with
  | nil => exact ⟨_, rfl, Nat.le_refl _⟩
  | cons v rest =>
    refine ⟨_, rfl, ?_⟩
    show v.cursor.offset ≤ offset + 1
    rw [hstop v (hfound ▸ List.mem_cons_self)]
    exact Nat.le_succ offset

/-- So short a text is not the word SELECT. -/
theorem text_ne_select {m : Match} (hreaches : m.first.Reaches m.last)
    (hstop : m.stop ≤ m.start + 1) : m.text.asciiLowercase ≠ "select".toList := by
  have hlength : ∀ text : Text, text.length ≤ Text.byteLength text := by
    intro text
    induction text with
    | nil => exact Nat.le_refl 0
    | cons ch rest ih =>
      have hpos := ch.utf8Size_pos
      rw [List.length_cons, Text.byteLength_cons]
      omega
  have hsize := hreaches.offset_eq
  have htext := hlength m.text
  intro hselect
  have hsix := congrArg List.length hselect
  rw [Text.asciiLowercase, List.length_map] at hsix
  have hsix : m.text.length = 6 := hsix
  unfold Match.stop Match.start at hstop
  unfold Match.text at htext hsix
  omega

/-- The statement words on either side of a semicolon, and the semicolon. -/
theorem matchesIn_statementWord (ht : '"' ∉ t) (hu : '"' ∉ u) :
    ∃ semicolon : Match, semicolon.start = Text.byteLength t
      ∧ semicolon.text.asciiLowercase ≠ "select".toList
      ∧ statementWord.matchesIn (Cursor.start (t ++ ';' :: u))
        = (statementWord.matchesIn (Cursor.start t)).map (Match.within (.front ';' u))
          ++ semicolon
            :: (statementWord.matchesIn (Cursor.start u)).map (Match.within (.back t ';')) := by
  have hmark : '"' ∉ ';' :: u := List.not_mem_cons_of_ne_of_not_mem (by decide) hu
  have hstop : ∀ before m, statementWord.matchAt? ⟨before, Text.byteLength t, ';' :: u⟩ = some m →
      m.stop ≤ Text.byteLength t + 1 := by
    intro before m hm
    obtain ⟨m', hm', hstop⟩ := exists_statementWord_at_semicolon before (Text.byteLength t) hu
    rw [hm'] at hm
    exact Option.some.inj hm ▸ hstop
  obtain ⟨last, hcut⟩ := matchesIn_append_mark
    (staysIn_statementWord (Frame.markedBy_front ';' u) hmark) ht
    (staysIn_statementWord (Frame.markedBy_back t ';') List.not_mem_nil) hu hstop
  obtain ⟨m, hm, hshort⟩ := exists_statementWord_at_semicolon last (Text.byteLength t) hu
  obtain ⟨hfirst, hreaches, -⟩ := leads_of_matchAt?_eq_some hm
  have hstart : m.start = Text.byteLength t := by rw [Match.start, hfirst]
  refine ⟨m, hstart, text_ne_select (hfirst ▸ hreaches) (hstart ▸ hshort), ?_⟩
  rw [hcut, hm, List.append_assoc]
  rfl

/-! Which statement word is the nearest one. -/

variable {words words' : List Match} {last : Match} {offset : Nat}

/-- Whether an INTO belongs to a SELECT does not depend on the frame. -/
theorem belongsToSelect_within (f : Frame) (words : List Match) (offset : Nat) :
    Naming.belongsToSelect (words.map (Match.within f)) (f.offset + offset)
      = Naming.belongsToSelect words offset := by
  have hstart : ((fun w : Match => decide (w.start < f.offset + offset)) ∘ Match.within f)
      = fun w => decide (w.start < offset) := by
    funext w
    simp
  unfold Naming.belongsToSelect
  rw [List.takeWhile_map, hstart, List.getLast?_map]
  cases (words.takeWhile fun w => decide (w.start < offset)).getLast? with
  | none => rfl
  | some w => simp

/-- Words from a place on have no effect in front of it. -/
theorem belongsToSelect_append_of_le (hlast : offset ≤ last.start) :
    Naming.belongsToSelect (words ++ last :: words') offset
      = Naming.belongsToSelect words offset := by
  have htake : ((words ++ last :: words').takeWhile fun w => decide (w.start < offset))
      = words.takeWhile fun w => decide (w.start < offset) := by
    induction words with
    | nil => simp [hlast]
    | cons w words ih => simp only [List.cons_append, List.takeWhile_cons, ih]
  unfold Naming.belongsToSelect
  rw [htake]

/-- Behind a word other than SELECT, what stands in front of that word has no effect. -/
theorem belongsToSelect_append_of_lt (hwords : ∀ w ∈ words, w.start < offset)
    (hlast : last.start < offset) (htext : last.text.asciiLowercase ≠ "select".toList) :
    Naming.belongsToSelect (words ++ last :: words') offset
      = Naming.belongsToSelect words' offset := by
  have htake : ((words ++ last :: words').takeWhile fun w => decide (w.start < offset))
      = words ++ last :: words'.takeWhile fun w => decide (w.start < offset) := by
    rw [List.takeWhile_append_of_pos fun w hw => decide_eq_true (hwords w hw),
      List.takeWhile_cons_of_pos (by exact decide_eq_true hlast)]
  unfold Naming.belongsToSelect
  rw [htake, List.getLast?_append_cons, List.getLast?_cons]
  cases (words'.takeWhile fun w => decide (w.start < offset)).getLast? with
  | none => exact beq_false_of_ne htext
  | some w => rfl

/-- In front of a semicolon the nearest statement word is the one that the text there
    has by itself. -/
theorem belongsToSelect_front (ht : '"' ∉ t) (hu : '"' ∉ u) {m : Match}
    (hm : m.start ≤ Text.byteLength t) :
    Naming.belongsToSelect (statementWord.matchesIn (Cursor.start (t ++ ';' :: u)))
        (m.within (.front ';' u)).start
      = Naming.belongsToSelect (statementWord.matchesIn (Cursor.start t)) m.start := by
  obtain ⟨semicolon, hstart, -, hwords⟩ := matchesIn_statementWord ht hu
  have hle : 0 + m.start ≤ semicolon.start := by
    rw [Nat.zero_add, hstart]
    exact hm
  rw [hwords, Match.start_within]
  exact (belongsToSelect_append_of_le hle).trans (belongsToSelect_within _ _ m.start)

/-- Behind a semicolon, too: if there is none on that side, the semicolon is nearest,
    and no INTO belongs to it. -/
theorem belongsToSelect_back (ht : '"' ∉ t) (hu : '"' ∉ u) (m : Match) :
    Naming.belongsToSelect (statementWord.matchesIn (Cursor.start (t ++ ';' :: u)))
        (m.within (.back t ';')).start
      = Naming.belongsToSelect (statementWord.matchesIn (Cursor.start u)) m.start := by
  obtain ⟨semicolon, hstart, htext, hwords⟩ := matchesIn_statementWord ht hu
  have hlt : ∀ {offset : Nat}, offset ≤ Text.byteLength t →
      offset < Text.byteLength t + 1 + m.start := by
    intro offset h
    omega
  have hbehind : ∀ w ∈ (statementWord.matchesIn (Cursor.start t)).map
      (Match.within (.front ';' u)), w.start < Text.byteLength t + 1 + m.start := by
    intro w hw
    obtain ⟨found, hfound, rfl⟩ := List.mem_map.mp hw
    rw [Match.start_within]
    exact hlt ((Nat.zero_add found.start).symm ▸ start_le_of_mem_matchesIn hfound)
  rw [hwords, Match.start_within]
  exact (belongsToSelect_append_of_lt hbehind (hlt (Nat.le_of_eq hstart)) htext).trans
    (belongsToSelect_within _ _ m.start)

/-- A FROM is sought as far as the next semicolon, so a part of the text will do. -/
theorem selectsFrom_within {f : Frame} (hf : f.behind.upTo ';' = []) (m : Match) :
    Naming.selectsFrom (m.within f) = Naming.selectsFrom m := by
  have hupTo : ∀ rest : Text, (rest ++ f.behind).upTo ';' = rest.upTo ';' := by
    intro rest
    induction rest with
    | nil => exact hf
    | cons ch rest ih =>
      unfold Text.upTo at ih ⊢
      simp only [List.cons_append, List.takeWhile_cons, ih]
  unfold Naming.selectsFrom
  rw [Match.captured?_within]
  cases m.captured? .table with
  | none => rfl
  | some table =>
    show fromWord.occursIn (Cursor.start ((table.last.rest ++ f.behind).upTo ';')) = _
    rw [hupTo]

/-- Selections are found apart: the words that decide on one side of the semicolon
    are the words of that side. -/
theorem cuts_selectionsIn : Cuts (selectionsIn .doubleQuote) where
  append := by
    intro t u ht hu
    have hfound := (cuts_matchesIn selectInto_avoids (selectInto_announces .doubleQuote)
      (by decide) (by decide)).append ht hu
    unfold selectionsIn
    rw [hfound, List.filter_append, List.filter_map, List.filter_map]
    congr 2
    · refine List.filter_congr fun m hm => ?_
      show (Naming.belongsToSelect _ _ && Naming.selectsFrom _) = _
      rw [belongsToSelect_front ht hu (start_le_of_mem_matchesIn hm), selectsFrom_within rfl]
    · refine List.filter_congr fun m _ => ?_
      show (Naming.belongsToSelect _ _ && Naming.selectsFrom _) = _
      rw [belongsToSelect_back ht hu m, selectsFrom_within rfl]
  leads hm := leads_of_mem_matchesIn (List.mem_filter.mp hm).1

end Selections

/-! ## §3. Searches for mentions -/

/-- The mention as it stands in a text with `n` bytes more in front. -/
def Mention.shift (n : Nat) (m : Mention) : Mention :=
  { m with trigger := n + m.trigger, offset := n + m.offset }

@[simp] theorem Mention.shift_zero (m : Mention) : m.shift 0 = m := by
  simp [shift]

theorem Mention.map_shift_zero (ms : List Mention) : ms.map (Mention.shift 0) = ms := by
  rw [List.map_congr_left fun m _ => m.shift_zero, List.map_id']

/-- What a match mentions does not depend on where the match stands, and lies within
    the match. -/
structure MentionsWithin (mentionsOf : Match → List Mention) : Prop where
  within : ∀ f m, mentionsOf (m.within f) = (mentionsOf m).map (Mention.shift f.offset)
  offset_le : ∀ {t : Text} {m : Match}, (Cursor.start t).Reaches m.first →
    (∀ c ∈ m.captures, (Cursor.start t).Reaches c.first ∧ c.first.Reaches c.last) →
    ∀ mention ∈ mentionsOf m, mention.offset ≤ Text.byteLength t

/-- A creation is mentioned at its place inside the frame. -/
theorem creationMentions_within (word : Text) : MentionsWithin (creationMentions word) where
  within f m := by
    unfold creationMentions
    rw [Match.captured?_within, Match.captured?_within]
    cases m.captured? .temporary with
    | some temporary => rfl
    | none =>
      cases m.captured? .table with
      | none => rfl
      | some table => simp [Mention.shift]
  offset_le hfirst _ mention h := by
    obtain ⟨-, table, -, rfl⟩ := mem_creationMentions.mp h
    exact hfirst.offset_le_byteLength

/-- What a slot has captured is one of the captures. -/
theorem mem_captures_of_captured? {m : Match} {slot : Slot} {c : Capture}
    (h : m.captured? slot = some c) : c ∈ m.captures := List.mem_of_find?_eq_some h

theorem dropMentions_within (style : QuoteStyle) : MentionsWithin (dropMentions style) where
  within f m := by
    unfold dropMentions
    rw [Match.captured?_within]
    cases m.captured? .tables with
    | none => rfl
    | some tables => simp [Mention.shift, Nat.add_assoc]
  offset_le := by
    intro t m _ hcaptures mention h
    obtain ⟨tables, htables, table, htable, rfl⟩ := mem_dropMentions.mp h
    -- the list of tables is searched by itself, and what it names lies in the list
    obtain ⟨hfirst, hlast⟩ := hcaptures tables (mem_captures_of_captured? htables)
    have hend : tables.first.offset + Text.byteLength tables.text ≤ Text.byteLength t := by
      rw [Capture.text, ← hlast.offset_eq]
      exact (hfirst.trans hlast).offset_le_byteLength
    have hinside := start_le_of_mem_matchesIn htable
    exact Nat.le_trans (Nat.add_le_add_left hinside _) hend

theorem renameMentions_within (form : RenameForm) : MentionsWithin (renameMentions form) where
  within f m := by
    -- the names are texts of captures, and these do not depend on where the match stands
    have hnames : Naming.renamedNames? form (m.within f) = Naming.renamedNames? form m := by
      unfold Naming.renamedNames?
      simp only [Match.captured?_within]
      cases m.captured? .oldName with
      | none => rfl
      | some old =>
        cases m.captured? .newName with
        | none => rfl
        | some new =>
          cases form with
          | alterTable => simp
          | renameObject => simp
          | procedure => simp [Function.comp_def]
    unfold renameMentions
    rw [hnames]
    cases Naming.renamedNames? form m with
    | none => rfl
    | some names => rfl
  offset_le hfirst _ mention h := by
    obtain ⟨old, new, -, rfl⟩ := mem_renameMentions.mp h
    exact hfirst.offset_le_byteLength

/-- A search for mentions, by matches that a semicolon cuts and what each of them mentions. -/
structure Search where
  found : Text → List Match
  mentionsOf : Match → List Mention
  cuts : Cuts found
  within : MentionsWithin mentionsOf

namespace Search

/-- What the search finds mentioned in code. -/
def mentions (s : Search) (code : Text) : List Mention := (s.found code).flatMap s.mentionsOf

variable {t u : Text}

/-- No mention stands behind the end of the text. -/
theorem offset_le (s : Search) : ∀ m ∈ s.mentions t, m.offset ≤ Text.byteLength t := by
  intro m hm
  obtain ⟨found, hfound, hm⟩ := List.mem_flatMap.mp hm
  obtain ⟨hfirst, hcaptures⟩ := s.cuts.leads hfound
  exact s.within.offset_le hfirst hcaptures m hm

/-- What is mentioned on either side of a semicolon. -/
theorem mentions_append (s : Search) (ht : '"' ∉ t) (hu : '"' ∉ u) :
    s.mentions (t ++ ';' :: u)
      = s.mentions t ++ (s.mentions u).map (Mention.shift (Text.byteLength t + 1)) := by
  have hshift : ∀ (f : Frame) (ms : List Match),
      (ms.map (Match.within f)).flatMap s.mentionsOf
        = (ms.flatMap s.mentionsOf).map (Mention.shift f.offset) := by
    intro f ms
    rw [List.flatMap_map, List.map_flatMap]
    exact List.flatMap_congr fun m _ => s.within.within f m
  unfold mentions
  rw [s.cuts.append ht hu, List.flatMap_append, hshift, hshift]
  exact congrArg (· ++ _) (Mention.map_shift_zero _)

end Search

/-! ## §4. The mentions of a script -/

/-- The searches of the code of a PostgreSQL script, in their order. -/
def searches : List Search := [
  ⟨_, creationMentions "create".toList,
    cuts_matchesIn createTable_avoids (createTable_announces _) (by decide) (by decide),
    creationMentions_within _⟩,
  ⟨_, creationMentions "into".toList, cuts_selectionsIn, creationMentions_within _⟩,
  ⟨_, dropMentions .doubleQuote,
    cuts_matchesIn dropTable_avoids (dropTable_announces _) (by decide) (by decide),
    dropMentions_within _⟩,
  ⟨_, renameMentions .alterTable,
    cuts_matchesIn alterTable_avoids (RenameForm.pattern_announces _ _) (by decide) (by decide),
    renameMentions_within _⟩]

/-- Everything that code mentions, search by search. -/
def mentionsIn (code : Text) : List Mention := searches.flatMap (Search.mentions · code)

/-- In PostgreSQL everything is mentioned in the code. -/
theorem mentions_pg (script : Text) :
    mentions .pg script = mentionsIn (MaskedScript.ofScript .pg script).code := by
  have hlive : (MaskedScript.ofScript .pg script).liveRenames .doubleQuote .alterTable
      = (RenameForm.alterTable.pattern .doubleQuote).matchesIn
        (Cursor.start (MaskedScript.ofScript .pg script).code) :=
    List.filter_eq_self.mpr fun m _ => beq_self_eq_true _
  unfold mentions mentionsIn searches
  simp only [Dialect.quoteStyle, Dialect.renameForms, List.flatMap_cons, List.flatMap_nil,
    List.append_nil, hlive, Search.mentions, List.append_assoc]

section

variable {t u : Text}

/-- What a piece of code mentions is placed in front of the semicolon behind it, and
    what is mentioned behind the semicolon is not. -/
theorem filter_mentions_append (s : Search) (ht : '"' ∉ t) (hu : '"' ∉ u) :
    (s.mentions (t ++ ';' :: u)).filter (fun m => m.offset ≤ Text.byteLength t) = s.mentions t
      ∧ (s.mentions (t ++ ';' :: u)).filter (fun m => !decide (m.offset ≤ Text.byteLength t))
        = (s.mentions u).map (Mention.shift (Text.byteLength t + 1)) := by
  have hfront : ∀ m ∈ s.mentions t, decide (m.offset ≤ Text.byteLength t) = true :=
    fun m hm => decide_eq_true (s.offset_le m hm)
  have hback : ∀ m ∈ (s.mentions u).map (Mention.shift (Text.byteLength t + 1)),
      decide (m.offset ≤ Text.byteLength t) = false := by
    intro m hm
    obtain ⟨m, -, rfl⟩ := List.mem_map.mp hm
    refine decide_eq_false (Nat.not_le.mpr ?_)
    exact Nat.lt_of_lt_of_le (Nat.lt_succ_self _) (Nat.le_add_right _ m.offset)
  rw [s.mentions_append ht hu, List.filter_append, List.filter_append]
  constructor
  · rw [List.filter_eq_self.mpr hfront, List.filter_eq_nil_iff.mpr fun m hm => by simp [hback m hm],
      List.append_nil]
  · rw [List.filter_eq_nil_iff.mpr fun m hm => by simp [hfront m hm],
      List.filter_eq_self.mpr fun m hm => by simp [hback m hm], List.nil_append]

/-- **No statement reaches over a semicolon.**  What is mentioned in front of it is
    what the code in front of it mentions by itself. -/
theorem filter_mentionsIn_front (ht : '"' ∉ t) (hu : '"' ∉ u) :
    (mentionsIn (t ++ ';' :: u)).filter (fun m => m.offset ≤ Text.byteLength t)
      = mentionsIn t := by
  unfold mentionsIn
  rw [List.filter_flatMap]
  exact List.flatMap_congr fun s _ => (filter_mentions_append s ht hu).1

/-- What is mentioned behind a semicolon is what the code there mentions by itself. -/
theorem filter_mentionsIn_back (ht : '"' ∉ t) (hu : '"' ∉ u) :
    (mentionsIn (t ++ ';' :: u)).filter (fun m => !decide (m.offset ≤ Text.byteLength t))
      = (mentionsIn u).map (Mention.shift (Text.byteLength t + 1)) := by
  unfold mentionsIn
  rw [List.filter_flatMap, List.map_flatMap]
  exact List.flatMap_congr fun s _ => (filter_mentions_append s ht hu).2

end

end TableLedger.Script
