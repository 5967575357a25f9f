/-
  TableLedger.Proofs.Script.SingleStatement — scripts of one statement.

  Every statement form is searched for in the whole script.  Where nothing is announced
  behind the first character, a form is found at the beginning or not at all, and only
  the form whose word stands there can be: so what a script of one statement mentions is
  what that one match mentions, and no routine definition hides any of it.

  Main statements:
    • `matchesIn_of_silent`, `routineSpans_of_silent` — the searches of such a script,
    • `mentions_createTable` and its companions — what it mentions,
    • `classify_of_mentions` — and its classification.
-/

import TableLedger.Proofs.Script.Announcement
import TableLedger.Proofs.Script.Positions
import TableLedger.Proofs.Script.Spacing

namespace TableLedger.Script

open Pattern

/-! ## §1. The search of a silent text -/

variable {d : Dialect} {p : Pattern} {stop first : Char} {t : Text}

/-- A form of the dialect that begins with a word of this first letter. -/
def Heralded (d : Dialect) (stop letter : Char) (p : Pattern) : Prop :=
  ∃ word, letter :: word ∈ statementWords d ∧ p.Introduces (letter :: word) (goesOn stop)

section

variable (hstop : ∀ letter ∈ nextLetters, isLetter letter stop = false) (style : QuoteStyle)
include hstop

/-- A creation is heralded by its letter. -/
theorem heralded_createTable : Heralded d stop 'c' (createTable style) :=
  ⟨"reate".toList, mem_statementWords (by decide), createTable_introduces hstop style⟩

theorem heralded_dropTable : Heralded d stop 'd' (dropTable style) :=
  ⟨"rop".toList, mem_statementWords (by decide), dropTable_introduces hstop style⟩

theorem heralded_routineHeader : Heralded d stop 'c' routineHeader :=
  ⟨"reate".toList, mem_statementWords (by decide), routineHeader_introduces hstop⟩

end

variable {letter : Char}

/-- A form that needs an announcement does not match where there is none. -/
theorem matchAt?_eq_none_of_silent (hp : Heralded d stop letter p) (h : Silent d stop t) {c : Cursor}
    (hc : c.rest <:+ t) : p.matchAt? c = none := by
  rw [Option.eq_none_iff_forall_ne_some]
  intro m hm
  obtain ⟨v, hv, -⟩ := Option.map_eq_some_iff.mp hm
  obtain ⟨word, hword, hintroduces⟩ := hp
  obtain ⟨next, left, hnext, hannounced, -⟩ := hintroduces _ v (List.mem_of_mem_head? hv)
  exact h _ hword next left hnext c.rest hc hannounced

/-- In a silent text nothing heralded is found. -/
theorem matchesFrom_of_silent (hp : Heralded d stop letter p) (h : Silent d stop t) (resume : Nat)
    (before : Option Char) (offset : Nat) : p.matchesFrom resume before offset t = [] := by
  rw [List.eq_nil_iff_forall_not_mem]
  intro m hm
  obtain ⟨c, hreaches, hmatch⟩ := exists_matchAt?_of_mem_matchesFrom hm
  obtain ⟨front, hfront, -⟩ := hreaches
  rw [matchAt?_eq_none_of_silent hp h ⟨front, hfront.symm⟩] at hmatch
  injection hmatch

/-- **Behind its first character a silent text has no matches.** -/
theorem matchesIn_of_silent (hp : Heralded d stop letter p) (h : Silent d stop t) :
    p.matchesIn (Cursor.start (first :: t)) = (p.matchAt? (Cursor.start (first :: t))).toList := by
  show p.matchesFrom 0 none 0 (first :: t) = (p.matchAt? ⟨none, 0, first :: t⟩).toList
  rw [matchesFrom, if_neg (Nat.not_lt_zero 0)]
  cases p.matchAt? ⟨none, 0, first :: t⟩ with
  | none => exact matchesFrom_of_silent hp h _ _ _
  | some m => exact congrArg (m :: ·) (matchesFrom_of_silent hp h _ _ _)

/-- No form matches where another letter stands. -/
theorem matchAt?_eq_none_of_letter (hp : Heralded d stop letter p)
    (hfirst : isLetter letter first = false) : p.matchAt? (Cursor.start (first :: t)) = none := by
  rw [Option.eq_none_iff_forall_ne_some]
  intro m hm
  obtain ⟨v, hv, -⟩ := Option.map_eq_some_iff.mp hm
  obtain ⟨word, -, hintroduces⟩ := hp
  obtain ⟨next, left, -, hannounced, -⟩ := hintroduces _ v (List.mem_of_mem_head? hv)
  have hletter : isLetter letter first = true := hannounced.isLetter_first
  rw [hfirst] at hletter
  exact Bool.noConfusion hletter

/-- A form is not found where its word has another first letter. -/
theorem matchesIn_eq_nil_of_letter (hp : Heralded d stop letter p) (h : Silent d stop t)
    (hfirst : isLetter letter first = false) : p.matchesIn (Cursor.start (first :: t)) = [] := by
  rw [matchesIn_of_silent hp h, matchAt?_eq_none_of_letter hp hfirst]
  rfl

/-- **A silent text opens no routine definition,** if none is opened at its first character. -/
theorem routineSpans_of_silent (hstop : ∀ letter ∈ nextLetters, isLetter letter stop = false)
    (h : Silent d stop t) (hfirst : routineHeader.matchAt? (Cursor.start (first :: t)) = none) :
    routineSpans d (first :: t) = [] := by
  rw [List.eq_nil_iff_forall_not_mem]
  intro span hspan
  obtain ⟨place, header, ⟨taken, htext, hplace⟩, -, hmatch, -⟩ :=
    exists_header_of_mem_routineSpansFrom (c := Cursor.start (first :: t)) hspan
  cases taken with
  | nil =>
    have htext : first :: t = place.rest := htext
    rw [← htext] at hplace
    have hplace : place = Cursor.start (first :: t) := hplace
    rw [hplace, hfirst] at hmatch
    injection hmatch
  | cons c taken =>
    have hsuffix : place.rest <:+ t := ⟨taken, (List.cons.inj htext).2.symm⟩
    rw [matchAt?_eq_none_of_silent (heralded_routineHeader hstop) h hsuffix] at hmatch
    injection hmatch

/-- A text that ends with white space, in which no word stands that announces, and behind it a
    silent one. -/
theorem silent_append_of_tails {lead : Text} (hend : lead.getLast?.any Unicode.isBlank = true)
    (hlead : (lead.tails.all fun u => (statementWords d).all fun word =>
      !spells word (u.take word.length)) = true) (h : Silent d stop t) : Silent d stop (lead ++ t) := by
  rintro word hword next left hnext u ⟨front, hfront⟩ hannounced
  obtain ⟨more, -, hrest⟩ | ⟨inside, rfl, hu⟩ := List.append_eq_append_iff.mp hfront.symm
  · exact h word hword next left hnext u ⟨more, hrest.symm⟩ hannounced
  · by_cases hne : inside = []
    · exact h word hword next left hnext u ⟨[], by rw [hu, hne]; rfl⟩ hannounced
    · obtain ⟨found, gap, hfound, hspells, -, -⟩ := hannounced
      obtain ⟨x, rfl, -⟩ | ⟨x, rfl, -⟩ := List.append_eq_append_iff.mp (hu.symm.trans hfound)
      · -- the word would hold the white space that ends the text in front
        rw [List.getLast?_append_of_ne_nil _ hne, List.getLast?_eq_some_getLast hne] at hend
        have hlast := (isWord_of_announcing hword hspells).2 _
          (List.mem_append_left x (List.getLast_mem hne))
        rw [isWord_of_isBlank hend] at hlast
        exact Bool.noConfusion hlast
      · have hmem : found ++ x ∈ (front ++ (found ++ x)).tails :=
          (List.mem_tails _ _).mpr (List.suffix_append front (found ++ x))
        have hnot := List.all_eq_true.mp (List.all_eq_true.mp hlead _ hmem) word hword
        rw [← spells_length hspells, List.take_left, hspells] at hnot
        exact Bool.noConfusion hnot

/-! ## §2. What a statement mentions -/

/-- A text as each mask of a script shows it: the code, and what keeps literals. -/
structure ShownTwice (d : Dialect) (script : Text) (first : Char) (t t' : Text) : Prop where
  code : maskCommentsAndLiterals d script = first :: t
  withLiterals : maskComments d script = first :: t'

variable {script t' : Text}

/-- Without routines the masks are the two texts that the script is shown as. -/
theorem ShownTwice.ofScript_eq (h : ShownTwice d script first t t')
    (hroutines : routineSpans d (first :: t) = []) :
    MaskedScript.ofScript d script = ⟨first :: t, first :: t'⟩ := by
  unfold MaskedScript.ofScript
  rw [h.code, h.withLiterals]
  show MaskedScript.mk (blankSpans (routineSpans d _) _) (blankSpans (routineSpans d _) _) = _
  rw [hroutines, blankSpans_nil, blankSpans_nil]

/-- The mentions of a script by its masked texts. -/
theorem mentions_of_ofScript {texts : MaskedScript} (h : MaskedScript.ofScript d script = texts) :
    mentions d script
      = ((createTable d.quoteStyle).matchesIn (Cursor.start texts.code)).flatMap
          (creationMentions "create".toList)
        ++ (selectionsIn d.quoteStyle texts.code).flatMap (creationMentions "into".toList)
        ++ ((dropTable d.quoteStyle).matchesIn (Cursor.start texts.code)).flatMap
          (dropMentions d.quoteStyle)
        ++ d.renameForms.flatMap fun form =>
          (texts.liveRenames d.quoteStyle form).flatMap (renameMentions form) := by
  subst h
  rfl

/-- No rename begins with the letter of a creation or of a drop. -/
theorem not_letter_of_word (hfirst : first ∈ ['C', 'D']) (form : RenameForm) :
    ∀ letter ∈ form.word.head?, isLetter letter first = false := by
  have hall : (['C', 'D'].all fun first => form.word.head?.all fun letter => !isLetter letter first)
      = true := by cases form <;> decide
  intro letter hletter
  have hone := List.all_eq_true.mp hall first hfirst
  rw [hletter] at hone
  simpa using hone

section

variable (hstop : Closing d.quoteStyle stop) (ht : Silent d stop t) (ht' : Silent d stop t')
include hstop ht ht'

/-- Where a statement begins that renames nothing, no renames are found. -/
theorem liveRenames_eq_nil
    (hfirst : ∀ form : RenameForm, ∀ letter ∈ form.word.head?, isLetter letter first = false) :
    ∀ form ∈ d.renameForms,
      MaskedScript.liveRenames ⟨first :: t, first :: t'⟩ d.quoteStyle form = [] := by
  intro form hform
  obtain ⟨letter, word, hword⟩ : ∃ letter word, form.word = letter :: word := by
    cases form <;> exact ⟨_, _, rfl⟩
  have hherald : Heralded d stop letter (form.pattern d.quoteStyle) :=
    ⟨word, hword ▸ word_mem_statementWords hform, hword ▸ RenameForm.pattern_introduces hstop form⟩
  have hletter := hfirst form letter (by rw [hword]; rfl)
  have hcode := matchesIn_eq_nil_of_letter hherald ht hletter
  have hliterals := matchesIn_eq_nil_of_letter hherald ht' hletter
  unfold MaskedScript.liveRenames
  cases form with
  | alterTable | renameObject =>
    show ((_ : Pattern).matchesIn (Cursor.start (first :: t))).filter _ = []
    rw [hcode]
    rfl
  | procedure =>
    show ((_ : Pattern).matchesIn (Cursor.start (first :: t'))).filter _ = []
    rw [hliterals]
    rfl

/-- Statements that neither select nor rename: what they mention are creations and drops. -/
theorem mentions_of_silent (hshown : ShownTwice d script first t t')
    (hroutine : routineHeader.matchAt? (Cursor.start (first :: t)) = none)
    (hinto : isLetter 'i' first = false)
    (hfirst : ∀ form : RenameForm, ∀ letter ∈ form.word.head?, isLetter letter first = false) :
    mentions d script
      = ((createTable d.quoteStyle).matchesIn (Cursor.start (first :: t))).flatMap
          (creationMentions "create".toList)
        ++ ((dropTable d.quoteStyle).matchesIn (Cursor.start (first :: t))).flatMap
          (dropMentions d.quoteStyle) := by
  have hspans := routineSpans_of_silent hstop.letters ht hroutine
  have hselections : selectionsIn d.quoteStyle (first :: t) = [] := by
    have hherald : Heralded d stop 'i' (selectInto d.quoteStyle) :=
      ⟨"nto".toList, mem_statementWords (by decide), selectInto_introduces hstop⟩
    unfold selectionsIn
    rw [matchesIn_eq_nil_of_letter hherald ht hinto]
    rfl
  have hrenames : (d.renameForms.flatMap fun form =>
      (MaskedScript.liveRenames ⟨first :: t, first :: t'⟩ d.quoteStyle form).flatMap
        (renameMentions form)) = [] := by
    rw [List.flatMap_eq_nil_iff]
    intro form hform
    rw [liveRenames_eq_nil hstop ht ht' hfirst form hform, List.flatMap_nil]
  rw [mentions_of_ofScript (hshown.ofScript_eq hspans), hrenames, hselections, List.flatMap_nil,
    List.append_nil, List.append_nil]

/-- **A statement that begins with CREATE** mentions what is created at its beginning. -/
theorem mentions_createTable (hshown : ShownTwice d script 'C' t t')
    (hroutine : routineHeader.matchAt? (Cursor.start ('C' :: t)) = none) :
    mentions d script
      = ((createTable d.quoteStyle).matchAt? (Cursor.start ('C' :: t))).toList.flatMap
          (creationMentions "create".toList) := by
  rw [mentions_of_silent hstop ht ht' hshown hroutine (by decide) (not_letter_of_word (by decide)),
    matchesIn_eq_nil_of_letter (heralded_dropTable hstop.letters _) ht (by decide),
    matchesIn_of_silent (heralded_createTable hstop.letters _) ht, List.flatMap_nil, List.append_nil]

/-- **A statement that begins with DROP** mentions what is dropped at its beginning. -/
theorem mentions_dropTable (hshown : ShownTwice d script 'D' t t') :
    mentions d script
      = ((dropTable d.quoteStyle).matchAt? (Cursor.start ('D' :: t))).toList.flatMap
          (dropMentions d.quoteStyle) := by
  have hroutine : routineHeader.matchAt? (Cursor.start ('D' :: t)) = none :=
    matchAt?_eq_none_of_letter (heralded_routineHeader (d := d) hstop.letters) (by decide)
  rw [mentions_of_silent hstop ht ht' hshown hroutine (by decide) (not_letter_of_word (by decide)),
    matchesIn_eq_nil_of_letter (heralded_createTable hstop.letters _) ht (by decide),
    matchesIn_of_silent (heralded_dropTable hstop.letters _) ht, List.flatMap_nil, List.nil_append]

end

/-- **A statement that begins with ALTER** and selects nothing mentions the rename at its
    beginning. -/
theorem mentions_alterTable (hstop : ∀ letter ∈ nextLetters, isLetter letter stop = false)
    (hshown : ShownTwice .pg script 'A' t t') (ht : Silent .pg stop t)
    (hselections : selectionsIn .doubleQuote ('A' :: t) = []) :
    mentions .pg script
      = ((RenameForm.alterTable.pattern .doubleQuote).matchAt? (Cursor.start ('A' :: t))).toList.flatMap
          (renameMentions .alterTable) := by
  have hroutine : routineHeader.matchAt? (Cursor.start ('A' :: t)) = none :=
    matchAt?_eq_none_of_letter (heralded_routineHeader (d := .pg) hstop) (by decide)
  have hspans := routineSpans_of_silent hstop ht hroutine
  have hlive : MaskedScript.liveRenames ⟨'A' :: t, 'A' :: t'⟩ .doubleQuote .alterTable
      = (RenameForm.alterTable.pattern .doubleQuote).matchesIn (Cursor.start ('A' :: t)) :=
    List.filter_eq_self.mpr fun m _ => beq_self_eq_true _
  have hforms : Dialect.renameForms .pg = [.alterTable] := rfl
  have hword : RenameForm.alterTable.word ∈ statementWords .pg := word_mem_statementWords List.mem_cons_self
  have halter : Heralded .pg stop 'a' (RenameForm.alterTable.pattern .doubleQuote) :=
    ⟨"lter".toList, hword, alterTable_introduces hstop _⟩
  have hstyle : Dialect.quoteStyle .pg = .doubleQuote := rfl
  rw [mentions_of_ofScript (hshown.ofScript_eq hspans), hforms, hstyle, List.flatMap_singleton, hlive,
    hselections, matchesIn_eq_nil_of_letter (heralded_createTable hstop _) ht (by decide),
    matchesIn_eq_nil_of_letter (heralded_dropTable hstop _) ht (by decide), matchesIn_of_silent halter ht]
  simp only [List.flatMap_nil, List.nil_append]

/-- What a selection creates is captured last. -/
theorem exists_captured_selectInto {style : QuoteStyle} {w v : Way} (h : v ∈ (selectInto style).ways w) :
    ∃ table, v.captures.find? (·.slot == .table) = some table ∧ table.last = v.cursor := by
  obtain ⟨u, -, hv⟩ := List.mem_flatMap.mp h
  obtain ⟨read, -, rfl⟩ := List.mem_map.mp hv
  exact ⟨⟨.table, u.cursor, read.cursor⟩, rfl, rfl⟩

/-- Where no letter F stands, there is no FROM. -/
theorem occursIn_fromWord_eq_false (h : ∀ c ∈ t, isLetter 'f' c = false) :
    fromWord.occursIn (Cursor.start t) = false := by
  have hfrom : fromWord.Requires 'f' :=
    ((@requires_keyword "from".toList 'f' (by decide)).behind _).append _
  rw [← Bool.not_eq_true]
  intro hoccurs
  obtain ⟨m, hm⟩ := Option.isSome_iff_exists.mp hoccurs
  obtain ⟨c, hreaches, hmatch⟩ := exists_matchAt?_of_find?_eq_some hm
  rw [hfrom.matchAt?_eq_none fun x hx => h x (hreaches.mem_of_mem hx)] at hmatch
  injection hmatch

/-- **No selection ends a script that says nothing of FROM** behind a silent text. -/
theorem selectionsIn_eq_nil {style : QuoteStyle} {rest : Text} (hstop : Closing style stop)
    (h : Silent d stop t) (hfirst : isLetter 'i' first = false)
    (hrest : ∀ c ∈ rest, isLetter 'f' c = false) : selectionsIn style (first :: (t ++ rest)) = [] := by
  unfold selectionsIn
  rw [List.filter_eq_nil_iff]
  intro m hm
  obtain ⟨c, ⟨front, hfront, -⟩, hmatch⟩ := exists_matchAt?_of_mem_matchesFrom hm
  obtain ⟨v, hv, rfl⟩ := Option.map_eq_some_iff.mp hmatch
  have hv := List.mem_of_mem_head? hv
  obtain ⟨next, left, hnext, hannounced, hleft⟩ := selectInto_introduces hstop _ v hv
  -- an INTO does not begin with the first letter, so it lies behind the silent text
  have hsuffix : c.rest <:+ t ++ rest := by
    cases front with
    | cons x front => exact ⟨front, (List.cons.inj hfront).2.symm⟩
    | nil =>
      have hannounced : Announced "into".toList (next :: left) c.rest := hannounced
      have hfront : first :: (t ++ rest) = c.rest := hfront
      rw [← hfront] at hannounced
      have hletter : isLetter 'i' first = true := hannounced.isLetter_first
      rw [hfirst] at hletter
      exact Bool.noConfusion hletter
  have hend : v.cursor.rest <:+ rest :=
    hleft.trans (suffix_of_announced h (mem_statementWords (by decide)) hnext hsuffix hannounced)
  obtain ⟨table, hcaptured, hlast⟩ := exists_captured_selectInto hv
  have hselects : Naming.selectsFrom ⟨c, v.cursor, v.captures⟩ = false := by
    unfold Naming.selectsFrom Match.captured?
    rw [hcaptured]
    refine occursIn_fromWord_eq_false fun x hx => hrest x (hend.subset ?_)
    rw [← hlast]
    exact (List.takeWhile_prefix _).subset hx
  rw [hselects, Bool.and_false]
  exact Bool.false_ne_true

/-! ## §3. What a mention amounts to -/

/-- Mentions that come to events are settled one after the other. -/
theorem exists_gather_settle {n : Naming} {ms : List Mention} {events : List TableEvent}
    (h : ms.map n.event? = events.map fun event => .ok (some event)) :
    ∃ found, gather n.settle ms = .ok found ∧ found.map Sighting.event = events
      ∧ found.map Sighting.offset = ms.map Mention.offset := by
  induction ms generalizing events with
  | nil =>
    rw [List.map_nil, eq_comm, List.map_eq_nil_iff] at h
    exact ⟨[], rfl, h.symm, rfl⟩
  | cons m ms ih =>
    cases events with
    | nil => exact absurd h (by simp)
    | cons event events =>
      obtain ⟨hevent, hothers⟩ := List.cons.inj h
      obtain ⟨found, hfound, hevents, hoffsets⟩ := ih hothers
      refine ⟨⟨m.trigger, m.offset, event⟩ :: found, ?_, by rw [List.map_cons, hevents],
        by rw [List.map_cons, hoffsets, List.map_cons]⟩
      rw [gather, Naming.settle, hevent, hfound]
      rfl

/-- **What is mentioned from the left is reported in that order.** -/
theorem classify_of_mentions {schema : Text} {ms : List Mention} {events : List TableEvent}
    (h : mentions d script = ms) (hsorted : (ms.map Mention.offset).Pairwise (· ≤ ·))
    (hevents : ms.map (Naming.event? ⟨d, schema⟩) = events.map fun event => .ok (some event)) :
    classify d schema script = .ok ⟨events⟩ := by
  obtain ⟨found, hfound, hreported, hoffsets⟩ := exists_gather_settle hevents
  rw [← hoffsets, List.pairwise_map] at hsorted
  refine classify_eq_ok_iff.mpr ⟨found, by rw [sightings_eq, h, hfound], ?_⟩
  rw [ofSightings, List.mergeSort_of_pairwise (by simpa using hsorted), hreported]

/-- A script that mentions one thing is classified by what that amounts to. -/
theorem classify_of_mentions_singleton {schema : Text} {m : Mention} (h : mentions d script = [m]) :
    classify d schema script
      = (Naming.event? ⟨d, schema⟩ m).map fun event? => ⟨event?.toList⟩ := by
  unfold classify
  rw [sightings_eq, h, gather_singleton, Naming.settle]
  cases Naming.event? ⟨d, schema⟩ m with
  | error e => rfl
  | ok event? =>
    cases event? with
    | none => exact congrArg Except.ok (by simp [ofSightings])
    | some event => exact congrArg Except.ok (by simp [ofSightings])

/-- A script that mentions nothing reports nothing. -/
theorem classify_of_mentions_nil {schema : Text} (h : mentions d script = []) :
    classify d schema script = .ok ⟨[]⟩ := classify_of_mentions h .nil rfl

end TableLedger.Script
