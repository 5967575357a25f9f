/-
  TableLedger.Proofs.Script.Announcement — where statements are announced.

  Every statement form begins with its word, white space, and a character that goes on
  with the statement: no white space, and no dot.  In the text of a dotted reference
  this is not to be found, unless a part in quotes holds it: what follows a part is a
  dot, or white space with a dot behind it.  So the forms match a statement that names
  one table nowhere but at its beginning, and at the last part, if what closes the
  statement goes on there.

  Main statements:
    • `createTable_introduces` and its companions — how the forms begin,
    • `silent_part`, `silent_reference` — parts and references that announce nothing.
-/

import Mathlib.Data.List.Infix
import TableLedger.Proofs.Script.Words

namespace TableLedger

open Script

/-! ## §1. Patterns that announce -/

/-- The text begins with a word and white space, and then comes `behind`. -/
def Announced (word behind t : Text) : Prop :=
  ∃ found gap, t = found ++ (gap ++ behind) ∧ Pattern.spells word found = true
    ∧ gap ≠ [] ∧ IsGap gap

/-- What is announced begins with a letter of the word. -/
theorem Announced.isLetter_first {letter x : Char} {word behind t : Text}
    (h : Announced (letter :: word) behind (x :: t)) : Pattern.isLetter letter x = true := by
  obtain ⟨found, gap, hfound, hspells, -⟩ := h
  cases found with
  | nil => exact absurd hspells (by simp [Pattern.spells])
  | cons y found =>
    rw [Pattern.spells, Bool.and_eq_true, ← (List.cons.inj hfound).1] at hspells
    exact hspells.1

/-- What may come next in a statement: no white space, no dot and not `stop`. -/
def goesOn (stop next : Char) : Bool := !Unicode.isBlank next && next != '.' && next != stop

namespace Pattern

/-- The pattern takes a first character of this class. -/
def Opens (p : Pattern) (accepts : Char → Bool) : Prop :=
  ∀ w v, v ∈ p.ways w → ∃ c rest, w.cursor.rest = c :: rest ∧ accepts c = true

/-- The way takes a word, white space, and then a character of this class. -/
def IntroducedBy (word : Text) (accepts : Char → Bool) (w v : Way) : Prop :=
  ∃ next left, accepts next = true ∧ Announced word (next :: left) w.cursor.rest
    ∧ v.cursor.rest <:+ next :: left

/-- Every way of the pattern does so. -/
def Introduces (p : Pattern) (word : Text) (accepts : Char → Bool) : Prop :=
  ∀ w v, v ∈ p.ways w → IntroducedBy word accepts w v

/-- The same, or it has taken only the word and the white space yet. -/
def Awaits (p : Pattern) (word : Text) (accepts : Char → Bool) : Prop :=
  ∀ w v, v ∈ p.ways w → IntroducedBy word accepts w v ∨ Announced word v.cursor.rest w.cursor.rest

variable {p q : Pattern} {word : Text} {accepts : Char → Bool}

theorem Opens.append (h : p.Opens accepts) (q : Pattern) : (p ++ q).Opens accepts := by
  intro w v hv
  obtain ⟨u, hu, -⟩ := List.mem_flatMap.mp hv
  exact h w u hu

theorem Opens.alt (hp : p.Opens accepts) (hq : q.Opens accepts) : (alt p q).Opens accepts := by
  intro w v hv
  obtain hv | hv := List.mem_append.mp hv
  · exact hp w v hv
  · exact hq w v hv

theorem Opens.capture (h : p.Opens accepts) (slot : Slot) : (capture slot p).Opens accepts := by
  intro w v hv
  obtain ⟨u, hu, -⟩ := List.mem_map.mp hv
  exact h w u hu

theorem opens_one {class' : Char → Bool} (h : ∀ c, class' c = true → accepts c = true) :
    (one class').Opens accepts := by
  intro w v hv
  obtain ⟨c, hc, hrest⟩ := mem_ways_one hv
  exact ⟨c, v.cursor.rest, hrest, h c hc⟩

/-- A keyword opens with its first letter. -/
theorem opens_keyword {letter : Char} (h : ∀ c, isLetter letter c = true → accepts c = true) :
    (keyword (letter :: word)).Opens accepts := by
  cases word with
  | nil => exact opens_one h
  | cons x word => exact (opens_one h).append (keyword (x :: word))

/-- What may be left out opens as what comes behind it. -/
theorem Opens.optional_append (hp : p.Opens accepts) (hq : q.Opens accepts) :
    (optional p ++ q).Opens accepts := by
  intro w v hv
  obtain ⟨u, hu, hv⟩ := List.mem_flatMap.mp hv
  obtain hu | hu := List.mem_append.mp hu
  · exact hp w u hu
  · rw [List.mem_singleton.mp hu] at hv
    exact hq w v hv

/-- White space is taken as a gap. -/
theorem mem_ways_blanks {w v : Way} (h : v ∈ blanks.ways w) :
    ∃ gap, w.cursor.rest = gap ++ v.cursor.rest ∧ gap ≠ [] ∧ IsGap gap := by
  obtain ⟨x, hx, hv⟩ := List.mem_flatMap.mp h
  obtain ⟨b, hb, hfirst⟩ := mem_ways_one hx
  obtain ⟨gap, hgap, hblank⟩ := mem_ways_run hv
  refine ⟨b :: gap, ?_, List.cons_ne_nil b gap, List.forall_mem_cons.mpr ⟨hb, hblank⟩⟩
  rw [hfirst, hgap]
  rfl

/-- A word with white space behind it is taken as it is spelled. -/
theorem mem_ways_word {w v : Way} (h : v ∈ (keyword word ++ blanks).ways w) :
    Announced word v.cursor.rest w.cursor.rest := by
  obtain ⟨u, hu, hv⟩ := List.mem_flatMap.mp h
  obtain ⟨found, hfound, hspells⟩ := mem_ways_keyword hu
  obtain ⟨gap, hrest, hne, hgap⟩ := mem_ways_blanks hv
  exact ⟨found, gap, by rw [hfound, hrest], hspells, hne, hgap⟩

/-- The edge in front of a word takes nothing. -/
theorem mem_ways_word_of_edge {w v : Way} (h : v ∈ (wordEdge ++ keyword word ++ blanks).ways w) :
    v ∈ (keyword word ++ blanks).ways w := by
  rw [ways_append_assoc] at h
  obtain ⟨edge, hedge, hv⟩ := List.mem_flatMap.mp h
  obtain ⟨rfl, -⟩ := mem_ways_wordEdge hedge
  exact hv

/-- Behind a word with white space the pattern waits for what goes on. -/
theorem awaits_word (word : Text) (accepts : Char → Bool) : (keyword word ++ blanks).Awaits word accepts :=
  fun _ _ hv => .inr (mem_ways_word hv)

theorem awaits_first_word (word : Text) (accepts : Char → Bool) :
    (wordEdge ++ keyword word ++ blanks).Awaits word accepts :=
  fun _ _ hv => .inr (mem_ways_word (mem_ways_word_of_edge hv))

/-- What is left behind a way is left behind what it leads to. -/
theorem suffix_of_mem_ways {w v : Way} (h : v ∈ p.ways w) : v.cursor.rest <:+ w.cursor.rest := by
  obtain ⟨taken, hrest, -⟩ := follows_of_mem_ways h
  exact ⟨taken, hrest.symm⟩

/-- The pattern takes nothing from a text without this letter. -/
def Requires (p : Pattern) (letter : Char) : Prop :=
  ∀ w v, v ∈ p.ways w → ∃ c ∈ w.cursor.rest, isLetter letter c = true

/-- A keyword requires each of its letters. -/
theorem requires_keyword {letter : Char} (h : letter ∈ word) : (keyword word).Requires letter := by
  intro w v hv
  obtain ⟨found, hfound, hspells⟩ := mem_ways_keyword hv
  obtain ⟨c, hc, hletter⟩ := exists_mem_of_spells hspells letter h
  exact ⟨c, hfound ▸ List.mem_append_left _ hc, hletter⟩

theorem Requires.append {letter : Char} (h : p.Requires letter) (q : Pattern) :
    (p ++ q).Requires letter := by
  intro w v hv
  obtain ⟨u, hu, -⟩ := List.mem_flatMap.mp hv
  exact h w u hu

/-- What is required behind another pattern stands in what that one leaves. -/
theorem Requires.behind {letter : Char} (h : q.Requires letter) (p : Pattern) :
    (p ++ q).Requires letter := by
  intro w v hv
  obtain ⟨u, hu, hv⟩ := List.mem_flatMap.mp hv
  obtain ⟨c, hc, hletter⟩ := h u v hv
  exact ⟨c, (suffix_of_mem_ways hu).subset hc, hletter⟩

/-- A pattern does not match where a letter that it requires is missing. -/
theorem Requires.matchAt?_eq_none {letter : Char} (h : p.Requires letter) {c : Cursor}
    (hc : ∀ x ∈ c.rest, isLetter letter x = false) : p.matchAt? c = none := by
  rw [Option.eq_none_iff_forall_ne_some]
  intro m hm
  obtain ⟨-, v, hv⟩ := matchAt?_eq_some hm
  obtain ⟨x, hx, hletter⟩ := h _ v hv
  rw [hc x hx] at hletter
  exact Bool.noConfusion hletter

/-- Nothing is found in a text without the letter. -/
theorem Requires.matchesIn_eq_nil {letter : Char} (h : p.Requires letter) {t : Text}
    (ht : ∀ x ∈ t, isLetter letter x = false) : p.matchesIn (Cursor.start t) = [] := by
  rw [List.eq_nil_iff_forall_not_mem]
  intro m hm
  obtain ⟨c, hreaches, hmatch⟩ := exists_matchAt?_of_mem_matchesFrom hm
  rw [h.matchAt?_eq_none fun x hx => ht x (hreaches.mem_of_mem hx)] at hmatch
  injection hmatch

/-- What is taken at a character that is accepted, behind the word. -/
theorem Opens.introducedBy {w u v : Way} (hq : q.Opens accepts)
    (hword : Announced word u.cursor.rest w.cursor.rest) (hv : v ∈ q.ways u) :
    IntroducedBy word accepts w v := by
  obtain ⟨next, left, hnext, haccepts⟩ := hq u v hv
  rw [hnext] at hword
  exact ⟨next, left, haccepts, hword, hnext ▸ suffix_of_mem_ways hv⟩

/-- A way that was introduced by a word goes on as one. -/
theorem IntroducedBy.trans {w u v : Way} (h : IntroducedBy word accepts w u) (hv : v ∈ q.ways u) :
    IntroducedBy word accepts w v := by
  obtain ⟨next, left, haccepts, hword, hleft⟩ := h
  exact ⟨next, left, haccepts, hword, (suffix_of_mem_ways hv).trans hleft⟩

/-- An optional part that opens as awaited may be left out, and the pattern still waits. -/
theorem Awaits.optional (hp : p.Awaits word accepts) (hq : q.Opens accepts) :
    (p ++ optional q).Awaits word accepts := by
  intro w v hv
  obtain ⟨u, hu, hv⟩ := List.mem_flatMap.mp hv
  obtain hintroduced | hword := hp w u hu
  · exact .inl (hintroduced.trans hv)
  · obtain hv | hv := List.mem_append.mp hv
    · exact .inl (hq.introducedBy hword hv)
    · rw [List.mem_singleton.mp hv]
      exact .inr hword

/-- A part that must stand there ends the waiting. -/
theorem Awaits.introduces (hp : p.Awaits word accepts) (hq : q.Opens accepts) :
    (p ++ q).Introduces word accepts := by
  intro w v hv
  obtain ⟨u, hu, hv⟩ := List.mem_flatMap.mp hv
  obtain hintroduced | hword := hp w u hu
  · exact hintroduced.trans hv
  · exact hq.introducedBy hword hv

theorem Introduces.append (h : p.Introduces word accepts) (q : Pattern) :
    (p ++ q).Introduces word accepts := by
  intro w v hv
  obtain ⟨u, hu, hv⟩ := List.mem_flatMap.mp hv
  exact (h w u hu).trans hv

end Pattern

namespace Script

open Pattern

/-! ## §2. How the forms begin -/

variable {stop : Char} {style : QuoteStyle}

/-- A letter that is not the one to stop at goes on with the statement. -/
theorem goesOn_of_isLetter {letter c : Char} (hlower : letter.isLower = true)
    (hstop : isLetter letter stop = false) (h : isLetter letter c = true) : goesOn stop c = true := by
  have hdot : c ≠ '.' := by
    rintro rfl
    obtain rfl : letter = '.' := eq_of_isLetter (by decide) (by decide) h
    exact absurd hlower (by decide)
  have hne : c ≠ stop := by
    rintro rfl
    rw [h] at hstop
    exact Bool.noConfusion hstop
  simp [goesOn, isBlank_of_isLetter hlower h, hdot, hne]

/-- A word whose first letter is not the one to stop at goes on with the statement. -/
theorem opens_word {letter : Char} (word : Text) (hlower : letter.isLower = true)
    (hstop : isLetter letter stop = false) : (keyword (letter :: word)).Opens (goesOn stop) :=
  opens_keyword fun _ => goesOn_of_isLetter hlower hstop

/-- The first letters of the words that go on with a statement. -/
def nextLetters : Text := ['o', 'g', 'l', 't', 'u', 'f', 'p', 'n', 'e']

section

variable (hstop : ∀ letter ∈ nextLetters, isLetter letter stop = false)
include hstop

/-- None of the words that go on with a statement begins with the letter to stop at. -/
theorem opens_next (letter : Char) (hletter : letter ∈ nextLetters) (word : Text) :
    (keyword (letter :: word)).Opens (goesOn stop) := by
  have hlower : nextLetters.all Char.isLower = true := by decide
  exact opens_word word (List.all_eq_true.mp hlower letter hletter) (hstop letter hletter)

/-- The words that say how long a table lasts go on with the statement. -/
theorem opens_persistence :
    (anyOf [Pattern.capture .temporary (anyOf [keyword "temp".toList, keyword "temporary".toList])
      ++ blanks, keyword "unlogged".toList ++ blanks]).Opens (goesOn stop) := by
  have htemp := opens_next hstop 't' (by decide)
  exact (((htemp _).alt (htemp _)).capture .temporary |>.append blanks).alt
    ((opens_next hstop 'u' (by decide) _).append blanks)

/-- A creation is introduced by its first word. -/
theorem createTable_introduces (style : QuoteStyle) :
    (createTable style).Introduces "create".toList (goesOn stop) := by
  have hor := ((opens_next hstop 'o' (by decide) ['r']).append blanks).append
    (keyword "replace".toList) |>.append blanks
  have hscope := ((opens_next hstop 'g' (by decide) "lobal".toList).alt
    (opens_next hstop 'l' (by decide) "ocal".toList)).append blanks
  have htable := opens_next hstop 't' (by decide) "able".toList
  unfold createTable
  iterate 3 refine Introduces.append ?_ _
  exact (((awaits_first_word "create".toList _).optional hor).optional hscope).optional
    (opens_persistence hstop) |>.introduces htable

theorem dropTable_introduces (style : QuoteStyle) :
    (dropTable style).Introduces "drop".toList (goesOn stop) := by
  unfold dropTable
  iterate 3 refine Introduces.append ?_ _
  exact (awaits_first_word "drop".toList _).introduces (opens_next hstop 't' (by decide) "able".toList)

theorem alterTable_introduces (style : QuoteStyle) :
    (RenameForm.alterTable.pattern style).Introduces "alter".toList (goesOn stop) := by
  unfold RenameForm.pattern
  iterate 10 refine Introduces.append ?_ _
  exact (awaits_first_word "alter".toList _).introduces (opens_next hstop 't' (by decide) "able".toList)

/-- The header of a routine is introduced like a creation. -/
theorem routineHeader_introduces : routineHeader.Introduces "create".toList (goesOn stop) := by
  have hor := (((opens_next hstop 'o' (by decide) ['r']).append blanks).append
    (anyOf [keyword "replace".toList, keyword "alter".toList])).append blanks
  have hkind := (opens_next hstop 'f' (by decide) "unction".toList).alt
    ((opens_next hstop 'p' (by decide) "rocedure".toList).alt
      ((opens_next hstop 'p' (by decide) "roc".toList).alt
        (opens_next hstop 't' (by decide) "rigger".toList)))
  unfold routineHeader
  refine Introduces.append ?_ _
  exact ((awaits_first_word "create".toList _).optional hor).introduces hkind

end

/-- A character that no statement goes on with: it begins no word behind one that announces, no
    name and no literal. -/
structure Closing (style : QuoteStyle) (stop : Char) : Prop where
  letters : ∀ letter ∈ nextLetters, isLetter letter stop = false
  bare : bareChar style stop = false
  marks : stop ∉ ['"', '[', '\'']

/-- Such characters are the bracket behind a table, and the comma between tables. -/
theorem closing_of_mem (h : stop ∈ ['(', ',']) : Closing style stop := by
  have hall : (['(', ','].all fun stop => nextLetters.all fun letter => !isLetter letter stop) = true := by
    decide
  refine ⟨fun letter hletter => ?_, bareChar_of_mem_marks ?_, fun hmark => ?_⟩
  · simpa using List.all_eq_true.mp (List.all_eq_true.mp hall stop h) letter hletter
  · simp only [syntaxMarks, List.mem_cons, List.not_mem_nil, or_false] at h ⊢
    tauto
  · simp only [List.mem_cons, List.not_mem_nil, or_false] at h hmark
    obtain rfl | rfl := h <;> exact absurd hmark (by decide)

section

variable (hstop : Closing style stop)
include hstop

theorem Closing.goesOn_mark {c : Char} (h : c ∈ ['"', '[', '\'']) : goesOn stop c = true := by
  have hall : (['"', '[', '\''].all fun c => !Unicode.isBlank c && c != '.') = true := by decide
  have hone := List.all_eq_true.mp hall c h
  have hne : c ≠ stop := fun heq => hstop.marks (heq ▸ h)
  unfold goesOn
  rw [hone, Bool.true_and, bne_iff_ne]
  exact hne

/-- A part of a reference goes on with the statement. -/
theorem opens_segment : (segment style).Opens (goesOn stop) := by
  intro w v hv
  by_contra hnot
  have hnone : (segment style).ways ⟨w.cursor, w.captures⟩ = [] := by
    refine ways_segment_of_not fun x hx => ?_
    obtain ⟨rest, hrest⟩ : ∃ rest, w.cursor.rest = x :: rest := List.head?_eq_some_iff.mp hx
    have hx : ¬goesOn stop x = true := fun hx => hnot ⟨x, rest, hrest, hx⟩
    have hmark : ∀ mark ∈ ['"', '[', '\''], x ≠ mark := fun mark hmark heq =>
      hx (heq ▸ hstop.goesOn_mark hmark)
    refine ⟨?_, hmark _ (by decide), hmark _ (by decide)⟩
    rw [← Bool.not_eq_true]
    intro hbare
    refine hx ?_
    have hdot : x ≠ '.' := ne_of_bareChar hbare (bareChar_of_mem_marks (by decide))
    have hparen : x ≠ stop := ne_of_bareChar hbare hstop.bare
    simp [goesOn, isBlank_of_bareChar hbare, hdot, hparen]
  rw [hnone] at hv
  exact absurd hv List.not_mem_nil

/-- A SELECT INTO is introduced by INTO. -/
theorem selectInto_introduces : (selectInto style).Introduces "into".toList (goesOn stop) := by
  have htable := (opens_next hstop.letters 't' (by decide) "able".toList).append blanks
  have hreference := ((opens_segment hstop).append (many (dots style ++ segment style))).capture .table
  exact ((awaits_first_word "into".toList _).optional (opens_persistence hstop.letters)).optional
    htable |>.introduces hreference

/-- Every rename form, by its word. -/
theorem RenameForm.pattern_introduces (form : RenameForm) :
    (form.pattern style).Introduces form.word (goesOn stop) := by
  cases form with
  | alterTable => exact alterTable_introduces hstop.letters style
  | procedure =>
    have hmark : (one (isLetter 'n')).Opens (goesOn stop) :=
      opens_word [] (by decide) (hstop.letters 'n' (by decide))
    have hquote : (char '\'').Opens (goesOn stop) := opens_one fun c hc => by
      rw [beq_iff_eq.mp hc]
      exact hstop.goesOn_mark (by decide)
    unfold RenameForm.pattern
    iterate 9 refine Introduces.append ?_ _
    exact (awaits_first_word "sp_rename".toList _).introduces (hmark.optional_append hquote)
  | renameObject =>
    unfold RenameForm.pattern
    iterate 6 refine Introduces.append ?_ _
    exact (awaits_first_word "rename".toList _).introduces
      (opens_next hstop.letters 'o' (by decide) "bject".toList)

end

/-! ## §3. Where nothing is announced -/

/-- The words that announce the statements of a dialect. -/
def statementWords (d : Dialect) : List Text :=
  ["create".toList, "into".toList, "drop".toList] ++ d.renameForms.map RenameForm.word

/-- Creations and drops are announced in every dialect. -/
theorem mem_statementWords {d : Dialect} {word : Text}
    (h : word ∈ ["create".toList, "into".toList, "drop".toList]) : word ∈ statementWords d :=
  List.mem_append_left _ h

/-- Renames are announced by the words of the forms that the dialect has. -/
theorem word_mem_statementWords {d : Dialect} {form : RenameForm} (h : form ∈ d.renameForms) :
    form.word ∈ statementWords d := List.mem_append_right _ (List.mem_map_of_mem h)

/-- Nowhere in the text is a statement of the dialect announced that goes on with other than
    `stop`. -/
def Silent (d : Dialect) (stop : Char) (t : Text) : Prop :=
  ∀ word ∈ statementWords d, ∀ next left, goesOn stop next = true →
    ∀ u, u <:+ t → ¬Announced word (next :: left) u

/-- No word goes on with the text, and no statement that a word in front of it announces. -/
structure Ends (stop : Char) (rest : Text) : Prop where
  word : ∀ c ∈ rest.head?, Unicode.isWord c = false
  next : ∀ c ∈ rest.trimStart.head?, goesOn stop c = false

/-- A word that announces a statement, with white space behind it, is part of the text. -/
def HoldsAnnouncement (d : Dialect) (t : Text) : Prop :=
  ∃ word ∈ statementWords d, ∃ found b, spells word found = true ∧ Unicode.isBlank b = true
    ∧ found ++ [b] <:+: t

variable {d : Dialect}

/-- The words that announce are spelled with word characters, and not with none. -/
theorem isWord_of_announcing {word found : Text} (hword : word ∈ statementWords d)
    (hspells : spells word found = true) : found ≠ [] ∧ ∀ c ∈ found, Unicode.isWord c = true := by
  have hall : ((statementWords d).all fun word =>
      word != [] && word.all fun letter => letter.isLower || letter == '_') = true := by
    cases d <;> decide
  have hone := List.all_eq_true.mp hall word hword
  rw [Bool.and_eq_true, bne_iff_ne] at hone
  refine ⟨ne_nil_of_spells hone.1 hspells, fun c hc => ?_⟩
  obtain ⟨letter, hmem, hletter⟩ := exists_letter_of_spells hspells c hc
  have hletters := List.all_eq_true.mp hone.2 letter hmem
  rw [Bool.or_eq_true, beq_iff_eq] at hletters
  obtain hlower | rfl := hletters
  · exact isWord_of_isLetter hlower hletter
  · rw [eq_underscore_of_isLetter hletter]
    decide +kernel

variable {t u rest : Text}

/-- Where a word is announced in front of such a text, it does not reach into it. -/
theorem silent_of_isWord_eq_false (ht : ∀ c ∈ t, Unicode.isWord c = false) (h : Silent d stop rest) :
    Silent d stop (t ++ rest) := by
  intro word hword next left hnext u hu hannounced
  obtain ⟨front, hfront⟩ := hu
  obtain ⟨more, -, hrest⟩ | ⟨inside, rfl, hu⟩ := List.append_eq_append_iff.mp hfront.symm
  · exact h word hword next left hnext u ⟨more, hrest.symm⟩ hannounced
  · cases inside with
    | nil => exact h word hword next left hnext u ⟨[], hu⟩ hannounced
    | cons x inside =>
      obtain ⟨found, gap, hfound, hspells, -, -⟩ := hannounced
      obtain ⟨hne, hchars⟩ := isWord_of_announcing hword hspells
      obtain ⟨y, found, rfl⟩ := List.exists_cons_of_ne_nil hne
      rw [hu] at hfound
      have hx := ht x (List.mem_append_right front List.mem_cons_self)
      rw [(List.cons.inj hfound).1, hchars y List.mem_cons_self] at hx
      exact Bool.noConfusion hx

/-- What ends a statement does not go on with it. -/
theorem Ends.not_announced {word found left : Text} {next : Char} (hrest : Ends stop rest)
    (hnext : goesOn stop next = true) (hspells : spells word found = true) :
    ¬Announced word (next :: left) (found ++ rest) := by
  rintro ⟨found', gap, hfound, hspells', -, hgap⟩
  have hlength := (spells_length hspells).trans (spells_length hspells').symm
  obtain ⟨-, rfl⟩ := List.append_inj hfound hlength
  have hblank : ¬Unicode.isBlank next = true := by
    unfold goesOn at hnext
    simp only [Bool.and_eq_true, Bool.not_eq_true'] at hnext
    rw [hnext.1.1]
    exact Bool.false_ne_true
  have htrim : (gap ++ next :: left).trimStart = next :: left := by
    unfold Text.trimStart
    rw [List.dropWhile_append_of_pos hgap, List.dropWhile_cons_of_neg hblank]
  have hends := hrest.next next (by rw [htrim]; rfl)
  rw [hnext] at hends
  exact Bool.noConfusion hends

/-- A part that holds no announcement announces nothing, if the statement ends behind it. -/
theorem silent_part (hpart : ¬HoldsAnnouncement d t) (hrest : Ends stop rest) (h : Silent d stop rest) :
    Silent d stop (t ++ rest) := by
  intro word hword next left hnext u hu hannounced
  obtain ⟨front, hfront⟩ := hu
  obtain ⟨more, -, hrest'⟩ | ⟨inside, ht, hu⟩ := List.append_eq_append_iff.mp hfront.symm
  · exact h word hword next left hnext u ⟨more, hrest'.symm⟩ hannounced
  · have hwhole : ∀ found, spells word found = true → u ≠ found ++ rest := by
      rintro found hspells rfl
      exact hrest.not_announced hnext hspells hannounced
    obtain ⟨found, gap, hfound, hspells, hne, hgap⟩ := hannounced
    have hsame := hu.symm.trans hfound
    obtain ⟨x, rfl, hx⟩ | ⟨x, rfl, hx⟩ := List.append_eq_append_iff.mp hsame
    · -- the word does not reach beyond the part
      cases x with
      | nil => exact hwhole inside (by rwa [List.append_nil] at hspells) hu
      | cons c x =>
        have hword := (isWord_of_announcing hword hspells).2 c
          (List.mem_append_right inside List.mem_cons_self)
        rw [hrest.word c (by rw [hx]; rfl)] at hword
        exact Bool.noConfusion hword
    · cases x with
      | nil => exact hwhole found hspells (by rw [hu, List.append_nil])
      | cons b x =>
        -- the white space behind the word stands in the part
        obtain ⟨b', gap, rfl⟩ := List.exists_cons_of_ne_nil hne
        obtain rfl : b' = b := (List.cons.inj hx).1
        refine hpart ⟨word, hword, found, b', hspells, hgap b' List.mem_cons_self, front, x, ?_⟩
        rw [ht]
        simp only [List.append_assoc, List.singleton_append]

/-- Without white space there is no announcement. -/
theorem not_holdsAnnouncement (h : ∀ c ∈ t, Unicode.isBlank c = false) : ¬HoldsAnnouncement d t := by
  rintro ⟨word, -, found, b, -, hblank, hinside⟩
  have hb := h b (hinside.subset (List.mem_append_right found List.mem_cons_self))
  rw [hb] at hblank
  exact Bool.noConfusion hblank

/-- Texts in which no word stands that announces. -/
theorem silent_of_tails (h : (t.tails.all fun u => (statementWords d).all fun word =>
    !spells word (u.take word.length)) = true) (stop : Char) : Silent d stop t := by
  rintro word hword next left - u hu ⟨found, gap, hfound, hspells, -, -⟩
  have hone := List.all_eq_true.mp (List.all_eq_true.mp h u ((List.mem_tails u t).mpr hu)) word hword
  rw [hfound, ← spells_length hspells, List.take_left, hspells] at hone
  exact Bool.noConfusion hone

/-- What is announced in front of the rest of a text goes on with the rest, unless it goes on in a
    text that is not silent. -/
theorem suffix_of_announced {word left : Text} {next : Char} (h : Silent d stop t)
    (hword : word ∈ statementWords d) (hnext : goesOn stop next = true) (hu : u <:+ t ++ rest)
    (hannounced : Announced word (next :: left) u) : next :: left <:+ rest := by
  obtain ⟨front, hfront⟩ := hu
  obtain ⟨found, gap, rfl, hspells, hne, hgap⟩ := hannounced
  have hsame : t ++ rest = (front ++ found ++ gap) ++ next :: left := by
    rw [← hfront]
    simp only [List.append_assoc]
  obtain ⟨x, -, hrest⟩ | ⟨x, ht, hleft⟩ := List.append_eq_append_iff.mp hsame
  · exact ⟨x, hrest.symm⟩
  · cases x with
    | nil => exact ⟨[], hleft⟩
    | cons c x =>
      obtain rfl : next = c := (List.cons.inj hleft).1
      refine absurd ⟨found, gap, rfl, hspells, hne, hgap⟩ (h word hword next x hnext _ ⟨front, ?_⟩)
      rw [ht]
      simp only [List.append_assoc]

/-- White space with a mark behind it that no statement goes on with. -/
theorem ends_of_gap {gap : Text} {mark : Char} (hgap : IsGap gap) (hword : Unicode.isWord mark = false)
    (hblank : Unicode.isBlank mark = false) (hmark : goesOn stop mark = false) (left : Text) :
    Ends stop (gap ++ mark :: left) := by
  have htrim : (gap ++ mark :: left).trimStart = mark :: left := by
    unfold Text.trimStart
    rw [List.dropWhile_append_of_pos hgap, List.dropWhile_cons_of_neg (by simp [hblank])]
  refine ⟨fun c hc => ?_, fun c hc => ?_⟩
  · cases gap with
    | nil => rwa [← Option.some.inj hc]
    | cons x gap =>
      rw [← Option.some.inj hc]
      exact isWord_of_isBlank (hgap x List.mem_cons_self)
  · rw [htrim] at hc
    rwa [← Option.some.inj hc]

theorem goesOn_dot (stop : Char) : goesOn stop '.' = false := by
  unfold goesOn
  rw [show ('.' != '.') = false from by decide, Bool.and_false, Bool.false_and]

/-- **A reference announces nothing** if its parts hold no announcements and the statement ends
    behind it. -/
theorem silent_reference {r : Dotted} (hparts : ∀ part ∈ r.parts, ¬HoldsAnnouncement d part)
    (hgaps : ∀ j ∈ r.joints, IsGap j.front ∧ IsGap j.behind) (hends : Ends stop rest)
    (h : Silent d stop rest) : Silent d stop (r.text ++ rest) := by
  obtain ⟨first, joints⟩ := r
  change ∀ part ∈ first :: joints.map Joint.part, ¬HoldsAnnouncement d part at hparts
  change ∀ j ∈ joints, IsGap j.front ∧ IsGap j.behind at hgaps
  show Silent d stop (first ++ joints.flatMap Joint.text ++ rest)
  rw [List.append_assoc]
  induction joints generalizing first with
  | nil => exact silent_part (hparts first List.mem_cons_self) hends h
  | cons j js ih =>
    obtain ⟨hfirst, hothers⟩ := List.forall_mem_cons.mp hparts
    obtain ⟨⟨hfront, hbehind⟩, hgaps⟩ := List.forall_mem_cons.mp hgaps
    -- neither a dot nor the white space around it is part of a word
    have hgap : ∀ c ∈ j.front ++ '.' :: j.behind, Unicode.isWord c = false := by
      intro c hc
      obtain hc | hc := List.mem_append.mp hc
      · exact isWord_of_isBlank (hfront c hc)
      · obtain rfl | hc := List.mem_cons.mp hc
        · decide +kernel
        · exact isWord_of_isBlank (hbehind c hc)
    have htext : (j :: js).flatMap Joint.text ++ rest
        = (j.front ++ '.' :: j.behind) ++ (j.part ++ (js.flatMap Joint.text ++ rest)) := by
      rw [List.flatMap_cons, Joint.text]
      simp only [List.append_assoc, List.cons_append]
    refine silent_part hfirst ?_ ?_
    · rw [htext, List.append_assoc]
      exact ends_of_gap hfront (by decide +kernel) (by decide) (goesOn_dot stop) _
    · rw [htext]
      exact silent_of_isWord_eq_false hgap (ih j.part hothers hgaps)

end Script

end TableLedger
