/-
  TableLedger.Proofs.Script.LiveCode — where the words stand that announce events.

  Every event of a classification is announced by a word of the script, and
  that word is never part of a comment, a string literal, a dollar-quoted
  body or a routine definition.  Quoted names are not blanked in the texts
  that are searched, so the word may well be part of one; it lies in live
  code if and only if its first character does.

  Main statements:
    • `exists_word_of_mention` — the word of a mention, glyph by glyph,
    • `visible_triggers_of_classify` — the same for every event of a
      classification.
-/

import TableLedger.Proofs.Pattern
import TableLedger.Proofs.Script.Glyph
import TableLedger.Proofs.Script.Vocabulary

namespace TableLedger

/-- The words that announce an event. -/
def TableEvent.announcers : TableEvent → List Text
  | .created _ => ["create".toList, "into".toList]
  | .dropped _ => ["drop".toList]
  | .renamed _ _ => ["alter".toList, "sp_rename".toList, "rename".toList]

namespace Script

open Pattern

/-! ## §1. Characters by byte offset -/

/-- The character behind a text stands at its length. -/
theorem charAt?_byteLength (c : Char) (front rest : Text) :
    charAt? (Text.byteLength front) (front ++ c :: rest) = some c := by
  induction front with
  | nil => rfl
  | cons x front ih =>
    have hpos := x.utf8Size_pos
    obtain ⟨n, hn⟩ : ∃ n, Text.byteLength (x :: front) = n + 1 :=
      ⟨x.utf8Size + Text.byteLength front - 1, by rw [Text.byteLength_cons]; omega⟩
    have hrest : n + 1 - x.utf8Size = Text.byteLength front := by
      rw [Text.byteLength_cons] at hn
      omega
    have hle : ¬n + 1 < x.utf8Size := by
      rw [Text.byteLength_cons] at hn
      omega
    rw [hn, List.cons_append, charAt?, if_neg hle, hrest]
    exact ih

/-- A character at an offset has as many bytes in front. -/
theorem exists_append_of_charAt? {c : Char} {t : Text} {offset : Nat}
    (h : charAt? offset t = some c) :
    ∃ front rest, t = front ++ c :: rest ∧ Text.byteLength front = offset := by
  fun_induction charAt? offset t with
  | case1 offset => exact absurd h (by simp)
  | case2 x rest =>
    injection h with h
    exact ⟨[], rest, by rw [h]; rfl, rfl⟩
  | case3 offset x rest hinside =>
    -- an offset inside a character is the offset of none
    exact absurd h (by simp)
  | case4 offset x rest hbehind ih =>
    obtain ⟨front, back, hrest, hlen⟩ := ih h
    refine ⟨x :: front, back, by rw [hrest]; rfl, ?_⟩
    rw [Text.byteLength_cons, hlen]
    omega

/-- The character at a place of a text. -/
theorem charAt?_append (front rest : Text) :
    charAt? (Text.byteLength front) (front ++ rest) = rest.head? := by
  cases rest with
  | cons c rest => exact charAt?_byteLength c front rest
  | nil =>
    -- no character begins at the end
    show charAt? (Text.byteLength front) (front ++ []) = none
    rw [Option.eq_none_iff_forall_ne_some]
    intro c hc
    obtain ⟨front', rest', ht, hlength⟩ := exists_append_of_charAt? hc
    have hsize := c.utf8Size_pos
    rw [List.append_nil] at ht
    rw [ht, Text.byteLength_append, Text.byteLength_cons] at hlength
    omega

/-- Where a match begins, the text that was searched shows its first character. -/
theorem charAt?_of_mem_matchesIn {p : Pattern} {t : Text} {m : Match}
    (h : m ∈ p.matchesIn (Cursor.start t)) : charAt? m.start t = m.first.rest.head? := by
  obtain ⟨front, ht, hstart, -⟩ := mem_matchesIn_start h
  rw [hstart]
  calc charAt? (Text.byteLength front) t
      = charAt? (Text.byteLength front) (front ++ m.first.rest) := by rw [← ht]
    _ = m.first.rest.head? := charAt?_append front m.first.rest

/-! ## §2. Matches behind mentions -/

/-- What is found for a mention: a match of a pattern that announces its word, in
    one of the two texts, whose first character both texts show. -/
structure FoundFor (d : Dialect) (script : Text) (m : Mention) (p : Pattern) (hides : Hiding)
    (found : Match) : Prop where
  announces : p.Announces m.word
  hides_eq : hides = hidesLiterals ∨ hides = hidesComments
  mem : found ∈ p.matchesIn
    (Cursor.start (shownFrom hides (hiddenSpans d script) 0 (glyphs d script)))
  start : found.start = m.trigger
  live : charAt? found.start
      (shownFrom hidesLiterals (hiddenSpans d script) 0 (glyphs d script))
    = charAt? found.start (shownFrom hides (hiddenSpans d script) 0 (glyphs d script))
  word : ∀ table, m.word ∈ (m.change.event d table).announcers

/-- A match in the code is found for a mention that begins where it does. -/
theorem foundFor_of_mem_code {d : Dialect} {script : Text} {m : Mention} {p : Pattern}
    {found : Match} (hannounces : p.Announces m.word)
    (hmem : found ∈ p.matchesIn (Cursor.start (MaskedScript.ofScript d script).code))
    (hstart : found.start = m.trigger)
    (hword : ∀ table, m.word ∈ (m.change.event d table).announcers) :
    FoundFor d script m p hidesLiterals found := by
  rw [ofScript_eq] at hmem
  exact ⟨hannounces, Or.inl rfl, hmem, hstart, rfl, hword⟩

/-- A creation is found for its word. -/
theorem foundFor_creation {d : Dialect} {script : Text} {m : Mention} {p : Pattern}
    {word : Text} {found : Match} (hannounces : p.Announces word)
    (hword : word ∈ ["create".toList, "into".toList])
    (hmem : found ∈ p.matchesIn (Cursor.start (MaskedScript.ofScript d script).code))
    (hm : m ∈ creationMentions word found) : FoundFor d script m p hidesLiterals found := by
  obtain ⟨-, table, -, rfl⟩ := mem_creationMentions.mp hm
  exact foundFor_of_mem_code hannounces hmem rfl fun table => hword

theorem foundFor_drop {d : Dialect} {script : Text} {m : Mention} {style : QuoteStyle}
    {found : Match}
    (hmem : found ∈ (dropTable style).matchesIn
      (Cursor.start (MaskedScript.ofScript d script).code))
    (hm : m ∈ dropMentions style found) :
    FoundFor d script m (dropTable style) hidesLiterals found := by
  obtain ⟨tables, -, table, -, rfl⟩ := mem_dropMentions.mp hm
  exact foundFor_of_mem_code (dropTable_announces style) hmem rfl
    fun table => List.mem_singleton.mpr rfl

/-- A rename is found for its word, in the code or between literals that are shown. -/
theorem exists_foundFor_rename {d : Dialect} {script : Text} {m : Mention} {style : QuoteStyle}
    {form : RenameForm} {found : Match}
    (hmem : found ∈ (MaskedScript.ofScript d script).liveRenames style form)
    (hm : m ∈ renameMentions form found) :
    ∃ hides, FoundFor d script m (form.pattern style) hides found := by
  obtain ⟨old, new, -, rfl⟩ := mem_renameMentions.mp hm
  have hannounces := form.pattern_announces style
  -- the filter on matches is what keeps a rename procedure out of literals
  obtain ⟨hmem, hlive⟩ := List.mem_filter.mp hmem
  have hlive := beq_iff_eq.mp hlive
  rw [ofScript_eq] at hmem hlive
  cases form with
  | alterTable =>
    exact ⟨hidesLiterals, hannounces, Or.inl rfl, hmem, rfl, hlive, fun _ => List.mem_cons_self⟩
  | procedure =>
    exact ⟨hidesComments, hannounces, Or.inr rfl, hmem, rfl, hlive,
      fun _ => List.mem_cons_of_mem _ List.mem_cons_self⟩
  | renameObject =>
    exact ⟨hidesLiterals, hannounces, Or.inl rfl, hmem, rfl, hlive,
      fun _ => List.mem_cons_of_mem _ (List.mem_cons_of_mem _ List.mem_cons_self)⟩

/-- Every mention is found for some word. -/
theorem exists_foundFor {d : Dialect} {script : Text} {m : Mention}
    (hm : m ∈ mentions d script) : ∃ p hides found, FoundFor d script m p hides found := by
  obtain ⟨found, hfound, hm⟩ | ⟨found, hfound, hm⟩ | ⟨found, hfound, hm⟩
    | ⟨form, -, found, hfound, hm⟩ := mem_mentions.mp hm
  · exact ⟨_, _, found, foundFor_creation (createTable_announces _) List.mem_cons_self hfound hm⟩
  · exact ⟨_, _, found, foundFor_creation (selectInto_announces _)
      (List.mem_cons_of_mem _ List.mem_cons_self) (List.mem_filter.mp hfound).1 hm⟩
  · exact ⟨_, _, found, foundFor_drop hfound hm⟩
  · obtain ⟨hides, hfor⟩ := exists_foundFor_rename hfound hm
    exact ⟨_, hides, found, hfor⟩

/-! ## §3. The words of mentions -/

/-- Every word that announces an event. -/
def announcingWords : List Text :=
  ["create".toList, "into".toList] ++
    (["drop".toList] ++ ["alter".toList, "sp_rename".toList, "rename".toList])

theorem mem_announcingWords {event : TableEvent} {word : Text} (h : word ∈ event.announcers) :
    word ∈ announcingWords := by
  cases event with
  | created table => exact List.mem_append_left _ h
  | dropped table => exact List.mem_append_right _ (List.mem_append_left _ h)
  | renamed old new => exact List.mem_append_right _ (List.mem_append_right _ h)

/-- Blanks and the characters that open a region: what no announcing word contains. -/
def separators : List Char := ' ' :: '\n' :: openingMarks

/-- The separators have no case and are characters of ASCII. -/
theorem separators_fixed : ∀ c ∈ separators, c.toLower = c ∧ c.toNat < 0x80 := by
  have hall : (separators.all fun c => c.toLower == c && decide (c.toNat < 0x80)) = true := by
    decide
  intro c hc
  have h := List.all_eq_true.mp hall c hc
  rw [Bool.and_eq_true, beq_iff_eq, decide_eq_true_iff] at h
  exact h

/-- No word that announces holds a separator. -/
theorem announcingWords_chars :
    ∀ word ∈ announcingWords, word ≠ [] ∧ ∀ c ∈ separators, c ∉ word := by
  have hall : (announcingWords.all fun word =>
      !word.isEmpty && separators.all fun c => !word.contains c) = true := by decide
  intro word hword
  have h := List.all_eq_true.mp hall word hword
  rw [Bool.and_eq_true, List.all_eq_true] at h
  refine ⟨fun hempty => ?_, fun c hc hmem => ?_⟩
  · rw [hempty] at h
    exact absurd h.1 (by decide)
  · have hcontains := h.2 c hc
    rw [List.contains_iff_mem.mpr hmem] at hcontains
    exact absurd hcontains (by decide)

/-- Of what spells such a word, no character is blank or opens a region. -/
theorem not_mem_of_spells_announcer {event : TableEvent} {word found : Text} {c : Char}
    (hword : word ∈ event.announcers) (hspells : spells word found = true)
    (hc : c ∈ separators) : c ∉ found := by
  obtain ⟨hlower, hascii⟩ := separators_fixed c hc
  have hnot := (announcingWords_chars word (mem_announcingWords hword)).2 c hc
  exact not_mem_of_spells hlower hascii hspells hnot

/-- A mask of literals shows code and quoted names only. -/
theorem kind_of_not_hidesLiterals {kind : RegionKind} (h : hidesLiterals kind = false) :
    kind = .plain ∨ kind = .quotedName := by
  cases kind with
  | plain => exact Or.inl rfl
  | quotedName => exact Or.inr rfl
  | comment | literal | dollarBody => exact absurd h (by decide)

/-- The word of a mention as it stands in the script.  The text that was searched
    shows all of it, and the code shows its first character. -/
theorem FoundFor.exists_word {d : Dialect} {script : Text} {m : Mention} {p : Pattern}
    {hides : Hiding} {found : Match} (h : FoundFor d script m p hides found) (table : TableRef) :
    ∃ before first word behind, glyphs d script = before ++ first :: word ++ behind
      ∧ Text.byteLength (chars before) = m.trigger
      ∧ spells m.word (chars (first :: word)) = true
      ∧ Visible hides (hiddenSpans d script) m.trigger (first :: word)
      ∧ hidesLiterals first.kind = false := by
  obtain ⟨front, text, rest, hsearched, hstart, hspells⟩ :=
    spelled_of_mem_matchesIn h.announces h.mem
  have hnot : ∀ c ∈ separators, c ∉ text :=
    fun c hc => not_mem_of_spells_announcer (h.word table) hspells hc
  cases text with
  | nil =>
    -- no announcing word is empty
    have hempty : m.word = [] := by
      cases hw : m.word with
      | nil => rfl
      | cons letter word => rw [hw] at hspells; simp [spells] at hspells
    exact absurd hempty (announcingWords_chars _ (mem_announcingWords (h.word table))).1
  | cons c text =>
    have hspaces := hnot ' ' (by decide)
    have hbreaks := hnot '\n' (by decide)
    obtain ⟨before, word, behind, hgs, hlen, hchars, hvisible⟩ :=
      exists_word_of_shownFrom hspaces hbreaks hsearched
    -- the code shows the same character at that byte, and so a glyph for it
    have hcode := h.live
    rw [hstart, hsearched, List.append_assoc, List.cons_append, charAt?_byteLength] at hcode
    obtain ⟨front', rest', hcode, hlen'⟩ := exists_append_of_charAt? hcode
    rw [List.mem_cons, not_or] at hspaces hbreaks
    obtain ⟨before', g, behind', hgs', -, hlen'', hkind, -, -⟩ :=
      exists_glyph_of_shownFrom (Ne.symm hspaces.1) (Ne.symm hbreaks.1) hcode
    -- both texts show the character for the same glyph
    have hcut : before ++ (word ++ behind) = before' ++ (g :: behind') := by
      rw [← List.append_assoc, ← hgs, hgs']
    obtain ⟨-, hback⟩ := append_inj_of_byteLength hcut (by rw [hlen, hlen'', hlen'])
    have htrigger : Text.byteLength front = m.trigger := by rw [← hstart, h.start]
    cases word with
    | nil => exact absurd hchars (by simp)
    | cons first word =>
      rw [List.cons_append] at hback
      injection hback with hfirst _
      rw [htrigger] at hlen hvisible
      rw [← hchars] at hspells
      exact ⟨before, first, word, behind, hgs, hlen, hspells, hvisible, hfirst ▸ hkind⟩

/-- A word that is visible in one of the masks, and begins neither in a comment nor
    in a literal, is in live code unless it begins in a quoted name. -/
theorem visible_hidesNames_iff {hides : Hiding} {spans : List Span} {offset : Nat} {first : Glyph}
    {word : List Glyph} (hvisible : Visible hides spans offset (first :: word))
    (hfirst : hidesLiterals first.kind = false)
    (hkinds : ∀ g ∈ first :: word, g.kind = first.kind ∨ g.kind = .plain) :
    Visible hidesLiterals spans offset (first :: word)
      ∧ (Visible hidesNames spans offset (first :: word) ↔ first.kind ≠ .quotedName) := by
  have hall : ∀ hides' : Hiding, hides' .plain = false → hides' first.kind = false →
      Visible hides' spans offset (first :: word) := by
    intro hides' hplain hshown
    refine hvisible.of_kinds fun g hg => ?_
    obtain hg | hg := hkinds g hg
    · rw [hg]
      exact hshown
    · rw [hg]
      exact hplain
  refine ⟨hall hidesLiterals rfl hfirst, ?_⟩
  constructor
  · intro hlive hquoted
    have hshown := hlive.1
    rw [hquoted] at hshown
    exact absurd hshown (by decide)
  · intro hquoted
    have hplain := (kind_of_not_hidesLiterals hfirst).resolve_right hquoted
    exact hall hidesNames rfl (by rw [hplain]; rfl)

/-- The word of a mention is visible but for quoted names, and lies in live code if
    and only if it does not begin in a quoted name. -/
theorem exists_word_of_mention {d : Dialect} {script : Text} {m : Mention} (table : TableRef)
    (hm : m ∈ mentions d script) :
    m.word ∈ (m.change.event d table).announcers ∧
      ∃ before first word behind, glyphs d script = before ++ first :: word ++ behind
        ∧ Text.byteLength (chars before) = m.trigger
        ∧ spells m.word (chars (first :: word)) = true
        ∧ Visible hidesLiterals (hiddenSpans d script) m.trigger (first :: word)
        ∧ (Visible hidesNames (hiddenSpans d script) m.trigger (first :: word)
            ↔ first.kind ≠ .quotedName) := by
  obtain ⟨p, hides, found, hfor⟩ := exists_foundFor hm
  obtain ⟨before, first, word, behind, hgs, hlen, hspells, hvisible, hfirst⟩ :=
    hfor.exists_word table
  -- no letter of the word opens a region, so the word stays where it begins
  have hmarks : ∀ c ∈ openingMarks, c ∉ chars word := by
    intro c hc hmem
    have hnot := not_mem_of_spells_announcer (hfor.word table) hspells
      (List.mem_cons_of_mem _ (List.mem_cons_of_mem _ hc))
    exact hnot (List.mem_cons_of_mem _ hmem)
  have hvisibles := visible_hidesNames_iff hvisible hfirst (kind_of_mem_glyphs hgs hmarks)
  exact ⟨hfor.word table, before, first, word, behind, hgs, hlen, hspells, hvisibles⟩

/-! ## §4. The words of events -/

/-- **What announces an event.**  The events of a classification are sighted one by
    one.  Where an event is sighted stands one of its announcing words, outside
    comments, string literals, dollar-quoted bodies and routine definitions; the
    word lies in live code, that is outside quoted names as well, if and only if
    its first character is no part of a quoted name. -/
theorem visible_triggers_of_classify {d : Dialect} {defaultSchema script : Text}
    {c : Classification} (h : classify d defaultSchema script = .ok c) :
    ∃ found, sightings d defaultSchema script = .ok found ∧ c = ofSightings found
      ∧ ∀ s ∈ found, ∃ announcer ∈ s.event.announcers, ∃ before first word behind,
          glyphs d script = before ++ first :: word ++ behind
            ∧ Text.byteLength (chars before) = s.trigger
            ∧ spells announcer (chars (first :: word)) = true
            ∧ Visible hidesLiterals (hiddenSpans d script) s.trigger (first :: word)
            ∧ (Visible hidesNames (hiddenSpans d script) s.trigger (first :: word)
                ↔ first.kind ≠ .quotedName) := by
  obtain ⟨found, hfound, hc⟩ := classify_eq_ok_iff.mp h
  refine ⟨found, hfound, hc.symm, fun s hs => ?_⟩
  obtain ⟨m, hm, hevent, htrigger, -⟩ := (mem_sightings hfound).mp hs
  obtain ⟨table, -, htable⟩ := Naming.parse_of_event? hevent
  obtain ⟨hannouncer, hword⟩ := exists_word_of_mention table hm
  rw [← htrigger] at hword
  exact ⟨m.word, by rw [htable]; exact hannouncer, hword⟩

/-- The word that announces the drop of a table at the front of a script. -/
theorem visible_triggers_of_drop :
    sightings .pg "public".toList "DROP TABLE t".toList
        = .ok [⟨0, 11, .dropped (.inSchema "public".toList "t".toList)⟩]
      ∧ ∃ announcer ∈ ["drop".toList], ∃ first word behind,
          glyphs .pg "DROP TABLE t".toList = first :: word ++ behind
            ∧ spells announcer (chars (first :: word)) = true
            ∧ Visible hidesNames (hiddenSpans .pg "DROP TABLE t".toList) 0 (first :: word) := by
  have hclassify : classify .pg "public".toList "DROP TABLE t".toList
      = .ok ⟨[.dropped (.inSchema "public".toList "t".toList)]⟩ := by decide +kernel
  have hsightings : sightings .pg "public".toList "DROP TABLE t".toList
      = .ok [⟨0, 11, .dropped (.inSchema "public".toList "t".toList)⟩] := by decide +kernel
  have hfront : (glyphs .pg "DROP TABLE t".toList).head? = some ⟨.plain, 'D'⟩ := by decide +kernel
  obtain ⟨found, hfound, -, hwords⟩ := visible_triggers_of_classify hclassify
  rw [hsightings] at hfound
  injection hfound with hfound
  subst hfound
  obtain ⟨announcer, hannouncer, before, first, word, behind, hglyphs, hlen, hspells, -, hiff⟩ :=
    hwords _ List.mem_cons_self
  -- the word is announced at the front, so nothing stands before it
  have hbefore : before = [] := (append_inj_of_byteLength
    (show before ++ (first :: word ++ behind) = [] ++ (before ++ (first :: word ++ behind)) from rfl)
    hlen).1
  subst hbefore
  rw [hglyphs] at hfront
  have hfirst : first = ⟨.plain, 'D'⟩ := by simpa using hfront
  refine ⟨hsightings, announcer, hannouncer, first, word, behind, hglyphs, hspells, ?_⟩
  refine hiff.mpr ?_
  rw [hfirst]
  exact RegionKind.noConfusion

/-- A creation is reported though its word is part of a quoted name, which is no
    live code. -/
theorem not_visible_trigger_in_quotedName :
    sightings .pg "public".toList "SELECT \"create table t\"".toList
        = .ok [⟨8, 8, .created (.inSchema "public".toList "t".toList)⟩]
      ∧ ∃ before word behind,
          glyphs .pg "SELECT \"create table t\"".toList = before ++ word ++ behind
            ∧ Text.byteLength (chars before) = 8
            ∧ word = "create".toList.map (Glyph.mk .quotedName)
            ∧ ¬Visible hidesNames (hiddenSpans .pg "SELECT \"create table t\"".toList) 8 word := by
  have hsightings : sightings .pg "public".toList "SELECT \"create table t\"".toList
      = .ok [⟨8, 8, .created (.inSchema "public".toList "t".toList)⟩] := by decide +kernel
  have hglyphs : glyphs .pg "SELECT \"create table t\"".toList
      = "SELECT ".toList.map (Glyph.mk .plain) ++ [⟨.quotedName, '"'⟩]
        ++ "create".toList.map (Glyph.mk .quotedName)
        ++ " table t\"".toList.map (Glyph.mk .quotedName) := by decide +kernel
  refine ⟨hsightings, _, _, _, hglyphs, by decide, rfl, fun hlive => ?_⟩
  exact absurd hlive.1 (by decide)

end Script

end TableLedger
