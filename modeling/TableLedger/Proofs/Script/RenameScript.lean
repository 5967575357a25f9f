/-
  TableLedger.Proofs.Script.RenameScript — a rename, written and read again.

  The names of a rename procedure are encoded twice: a name is written in brackets, with
  its closing brackets doubled, and the reference that comes of it in a literal, with its
  quotes doubled.  Reading goes the other way, and by a detour: the script is masked, the
  call is found where literals are kept, and each literal is taken as it is written, its
  doubled quotes are written once, and what is left is read as a reference.  Whatever the
  names hold, comment marks, quotes or whole statements, the mask takes the literal for
  one region, so nothing of a name is ever seen by another search: in the code there
  remain a few words without the letter T, which every other statement needs.

  Main statements:
    • `mask_call` — a call as the masks show it,
    • `mentions_of_call` — a script of one call mentions one rename,
    • `classify_renameScript` — which is reported with the names that were encoded.
-/

import TableLedger.Proofs.Script.DropList

namespace TableLedger.Script

open Pattern Identifier

/-! ## §1. What the other statements need -/

section

variable (style : QuoteStyle)

theorem createTable_requires : (createTable style).Requires 't' := by
  have hword : (wordEdge ++ keyword "create".toList).Requires 't' :=
    (requires_keyword (by decide)).behind _
  unfold createTable
  iterate 8 refine Requires.append ?_ _
  exact hword

theorem selectInto_requires : (selectInto style).Requires 't' := by
  have hword : (wordEdge ++ keyword "into".toList).Requires 't' :=
    (requires_keyword (by decide)).behind _
  unfold selectInto
  iterate 4 refine Requires.append ?_ _
  exact hword

theorem dropTable_requires : (dropTable style).Requires 't' := by
  have hword : (wordEdge ++ keyword "drop".toList ++ blanks ++ keyword "table".toList).Requires 't' :=
    (requires_keyword (by decide)).behind _
  unfold dropTable
  iterate 3 refine Requires.append ?_ _
  exact hword

theorem renameObject_requires : (RenameForm.renameObject.pattern style).Requires 't' := by
  have hword : (wordEdge ++ keyword "rename".toList ++ blanks ++ keyword "object".toList).Requires 't' :=
    (requires_keyword (by decide)).behind _
  unfold RenameForm.pattern
  iterate 6 refine Requires.append ?_ _
  exact hword

end

theorem routineHeader_requires : routineHeader.Requires 't' := by
  have hword : (wordEdge ++ keyword "create".toList).Requires 't' :=
    (requires_keyword (by decide)).behind _
  unfold routineHeader
  iterate 4 refine Requires.append ?_ _
  exact hword

theorem isLetter_eq_false_of_all {letter : Char} {t : Text}
    (h : (t.all fun c => !isLetter letter c) = true) : ∀ c ∈ t, isLetter letter c = false := fun c hc => by
  simpa using List.all_eq_true.mp h c hc

/-- A word without a letter is not spelled with it. -/
theorem isLetter_eq_false_of_spells {letter : Char} {word found : Text} (hletter : letter.isLower = true)
    (hword : (word.all fun x => (x.isLower || x == '_') && x != letter) = true)
    (h : spells word found = true) : ∀ c ∈ found, isLetter letter c = false := by
  intro c hc
  obtain ⟨x, hx, hspelled⟩ := exists_letter_of_spells h c hc
  have hboth := List.all_eq_true.mp hword x hx
  simp only [Bool.and_eq_true, Bool.or_eq_true, beq_iff_eq, bne_iff_ne] at hboth
  obtain ⟨hlower | rfl, hne⟩ := hboth
  · rw [← Bool.not_eq_true]
    exact fun hsame => hne (letter_unique hlower hletter hspelled hsame)
  · rw [eq_underscore_of_isLetter hspelled, ← Bool.not_eq_true]
    intro hsame
    have hself : letter = '_' := eq_of_isLetter (by decide) (by decide) hsame
    exact hne hself.symm

/-- There are no letters in a gap. -/
theorem isLetter_eq_false_of_isGap {letter : Char} {gap : Text} (hletter : letter.isLower = true)
    (hgap : IsGap gap) : ∀ c ∈ gap, isLetter letter c = false := by
  intro c hc
  rw [← Bool.not_eq_true]
  intro hsame
  have hblank := hgap c hc
  rw [isBlank_of_isLetter hletter hsame] at hblank
  exact Bool.noConfusion hblank

/-! ## §2. What a call is shown as -/

/-- A literal as a mask shows it: its mark, and what the mask makes of the rest. -/
def Literal.shown (hides : Hiding) (l : Literal) : Text :=
  l.mark ++ Region.masked hides ⟨.literal, Text.wrap '\'' '\'' l.inside⟩

def Argument.shown (hides : Hiding) (a : Argument) : Text :=
  a.gap ++ ',' :: (a.gapBehind ++ a.literal.shown hides)

def Call.shown (hides : Hiding) (call : Call) : Text :=
  call.word ++ (call.gap ++ (call.oldName.shown hides ++ call.newName.shown hides))

variable {d : Dialect} {hides : Hiding}

/-- A mask that keeps literals shows a call as it is written. -/
theorem Call.shown_eq_text (hliteral : hides .literal = false) (call : Call) :
    call.shown hides = call.text := by
  have hshown : ∀ l : Literal, l.shown hides = l.text := fun l => by
    rw [Literal.shown, masked_of_shown hliteral, Literal.text]
  rw [Call.shown, Argument.shown, hshown, hshown, Call.text, Argument.text]

/-- The mark in front of a literal is a letter. -/
theorem Literal.isWord_of_mem_mark (l : Literal) : ∀ c ∈ l.mark, Unicode.isWord c = true := by
  obtain hmark | hmark := l.mark_spells
  · rw [hmark]
    exact fun _ hc => absurd hc List.not_mem_nil
  · have hword : IsKeyword "n".toList := fun letter hletter => by
      rw [List.mem_singleton.mp hletter]
      decide
    exact isWord_of_spells hword hmark

/-- A literal is one region, whatever it stands for. -/
theorem Literal.shownBehind_text (hserver : d.isServerFamily = true) (hplain : hides .plain = false)
    (l : Literal) (before : Text) {rest : Text} (hrest : rest.head? ≠ some '\'') :
    shownBehind hides d before (l.text ++ rest)
      = l.shown hides ++ shownBehind hides d (l.text.reverse ++ before) rest := by
  let inside := Text.double '\'' l.inside ++ ['\'']
  have hregion : regionAt d (l.mark.reverse ++ before) '\'' (inside ++ rest)
      = (.literal, inside.length) := by
    have hlength : quotedLength '\'' (Text.double '\'' l.inside ++ '\'' :: rest) = _ :=
      quotedLength_double l.inside hrest
    rw [regionAt_of_isServerFamily hserver]
    simp [inside, hlength]
  have hmark := shownAs_word (d := d) hplain l.isWord_of_mem_mark before ('\'' :: (inside ++ rest))
  rw [shownBehind_cons hregion] at hmark
  have htext : l.text ++ rest = l.mark ++ '\'' :: (inside ++ rest) := by
    simp [Literal.text, Text.wrap, inside]
  have hreverse : l.text.reverse ++ before
      = ('\'' :: inside).reverse ++ (l.mark.reverse ++ before) := by
    simp [Literal.text, Text.wrap, inside]
  rw [htext, hmark, hreverse, Literal.shown, List.append_assoc]
  rfl

/-- **A call as the masks show it.** -/
theorem mask_call (hserver : d.isServerFamily = true) (hplain : hides .plain = false) {lead : Text}
    (hlead : IsPlain lead) (call : Call) :
    mask hides d (lead ++ call.text) = lead ++ call.shown hides := by
  have hword : ∀ c ∈ call.word, Unicode.isWord c = true := by
    have hannounces : "sp_rename".toList ∈ statementWords .ms := by decide
    exact (isWord_of_announcing hannounces call.word_spells).2
  have hcomma : ShownAs hides d [','] [','] := shownAs_char hplain (by decide)
  -- what stands between the two literals, and in front of both
  have hbetween : ShownAs hides d (call.newName.gap ++ ([','] ++ call.newName.gapBehind))
      (call.newName.gap ++ ([','] ++ call.newName.gapBehind)) :=
    (shownAs_gap hplain call.newName.gap_isGap).append
      (hcomma.append (shownAs_gap hplain call.newName.gapBehind_isGap))
  have hfront : ShownAs hides d (lead ++ (call.word ++ call.gap)) (lead ++ (call.word ++ call.gap)) :=
    (shownAs_chars hplain hlead).append
      ((shownAs_word hplain hword).append (shownAs_gap hplain call.gap_isGap))
  have hquote : (call.newName.gap ++ ([','] ++ call.newName.gapBehind)
      ++ call.newName.literal.text).head? ≠ some '\'' := by
    rw [List.append_assoc]
    exact call.newName.gap_isGap.head?_comma_ne _
  have hold := call.oldName.shownBehind_text hserver hplain (lead ++ (call.word ++ call.gap)).reverse
    hquote
  have hend : ([] : Text).head? ≠ some '\'' := nofun
  have hnew := call.newName.literal.shownBehind_text hserver hplain
    ((call.newName.gap ++ ([','] ++ call.newName.gapBehind)).reverse
      ++ (call.oldName.text.reverse ++ (lead ++ (call.word ++ call.gap)).reverse)) hend
  rw [shownBehind_nil, List.append_nil, List.append_nil] at hnew
  have htext : lead ++ call.text = lead ++ (call.word ++ call.gap) ++ (call.oldName.text
      ++ (call.newName.gap ++ ([','] ++ call.newName.gapBehind) ++ call.newName.literal.text)) := by
    simp [Call.text, Argument.text]
  show shownBehind hides d [] (lead ++ call.text) = _
  rw [htext, hfront, List.append_nil, hold, hbetween, hnew]
  simp [Call.shown, Argument.shown]

/-! ## §3. A script of one call -/

/-- A script that calls the rename procedure. -/
def callScript (call : Call) : Text := "EXEC ".toList ++ call.text

/-- Where literals are blanked, no letter T is left of a call. -/
theorem isLetter_of_mem_shown (call : Call) :
    ∀ c ∈ "EXEC ".toList ++ call.shown hidesLiterals, isLetter 't' c = false := by
  have hlower : 't'.isLower = true := by decide
  have hgap : ∀ {gap : Text}, IsGap gap → ∀ c ∈ gap, isLetter 't' c = false :=
    isLetter_eq_false_of_isGap hlower
  -- of a literal the mark in front of it is left, which is N or nothing
  have hliteral : ∀ l : Literal, ∀ c ∈ l.shown hidesLiterals, isLetter 't' c = false := by
    intro l c hc
    rw [Literal.shown, masked_of_hidden rfl] at hc
    obtain hc | hc := List.mem_append.mp hc
    · obtain hmark | hmark := l.mark_spells
      · rw [hmark] at hc
        exact absurd hc List.not_mem_nil
      · exact isLetter_eq_false_of_spells hlower (by decide) hmark c hc
    · exact hgap (isGap_blank _) c hc
  have hlead : ∀ c ∈ "EXEC ".toList, isLetter 't' c = false := isLetter_eq_false_of_all (by decide)
  have hcomma : isLetter 't' ',' = false := by decide
  intro c hc
  simp only [Call.shown, Argument.shown, List.mem_append, List.mem_cons] at hc
  obtain hc | hc | hc | hc | hc | rfl | hc | hc := hc
  · exact hlead c hc
  · exact isLetter_eq_false_of_spells hlower (by decide) call.word_spells c hc
  · exact hgap call.gap_isGap c hc
  · exact hliteral _ c hc
  · exact hgap call.newName.gap_isGap c hc
  · exact hcomma
  · exact hgap call.newName.gapBehind_isGap c hc
  · exact hliteral _ c hc

/-- The masked texts of such a script. -/
theorem ofScript_callScript (hserver : d.isServerFamily = true) (call : Call) :
    MaskedScript.ofScript d (callScript call)
      = ⟨"EXEC ".toList ++ call.shown hidesLiterals, callScript call⟩ := by
  have hlead : IsPlain "EXEC ".toList := isPlain_of_all (by decide)
  have hcode : maskCommentsAndLiterals d (callScript call)
      = "EXEC ".toList ++ call.shown hidesLiterals := mask_call hserver rfl hlead call
  have hliterals : maskComments d (callScript call) = callScript call := by
    have hshown : maskComments d (callScript call) = "EXEC ".toList ++ call.shown hidesComments :=
      mask_call hserver rfl hlead call
    rw [hshown, call.shown_eq_text rfl, callScript]
  -- a routine header holds a character that no call shows, so nothing is blanked as a body
  have hspans : routineSpans d ("EXEC ".toList ++ call.shown hidesLiterals) = [] := by
    rw [List.eq_nil_iff_forall_not_mem]
    intro span hspan
    obtain ⟨place, header, hplace, -, hmatch, -⟩ := exists_header_of_mem_routineSpansFrom
      (c := Cursor.start ("EXEC ".toList ++ call.shown hidesLiterals)) hspan
    rw [routineHeader_requires.matchAt?_eq_none fun x hx =>
      isLetter_of_mem_shown call x (hplace.reaches.mem_of_mem hx)] at hmatch
    injection hmatch
  unfold MaskedScript.ofScript
  rw [hcode, hliterals]
  show MaskedScript.mk (blankSpans (routineSpans d _) _) (blankSpans (routineSpans d _) _) = _
  rw [hspans, blankSpans_nil, blankSpans_nil]

/-- A call behind white space begins at the edge of a word. -/
theorem Call.atWordEdge (call : Call) {c : Cursor} {b : Char} (hbefore : c.before = some b)
    (hblank : Unicode.isBlank b = true) {behind : Text} (h : c.rest = call.text ++ behind) :
    c.atWordEdge = true := by
  obtain ⟨letter, word, hword, hletter⟩ := call.exists_letter
  have hfirst : c.rest.head? = some letter := by
    rw [h, Call.text, hword]
    rfl
  have hs : 's'.isLower = true := by decide
  unfold Cursor.atWordEdge
  rw [hbefore, hfirst, Option.any_some, Option.any_some, isWord_of_isBlank hblank,
    isWord_of_isLetter hs hletter]
  rfl

/-- A call at the end of a text is read up to there. -/
theorem exists_prefers_procedure (style : QuoteStyle) (call : Call) {c : Cursor}
    (hedge : c.atWordEdge = true) (h : c.rest = call.text ++ []) :
    ∃ cs, (RenameForm.procedure.pattern style).Prefers ⟨c, []⟩ ⟨c.past call.text [], cs⟩ := by
  obtain ⟨old, new, hread, -⟩ := prefers_call call hedge h (by simp)
  have hthird : (Pattern.capture .objectType thirdArgument).ways
      ⟨c.past call.text [], [new, old]⟩ = [] := by
    refine ways_capture_of_nil ?_ _
    rw [List.eq_nil_iff_forall_not_mem]
    intro v hv
    obtain ⟨a, ha⟩ := mem_ways_thirdArgument hv
    exact absurd ha.symm (by simp [Argument.text_append])
  refine ⟨[new, old], ?_⟩
  rw [procedure_pattern_eq]
  exact hread.append (prefers_optional_of_nil hthird)

/-- The one match of the rename procedure: behind the lead, and up to the end. -/
theorem matchesIn_callScript (style : QuoteStyle) (call : Call) :
    ∃ m, (RenameForm.procedure.pattern style).matchesIn (Cursor.start (callScript call)) = [m]
      ∧ m.start = 5
      ∧ renameMentions .procedure m = [⟨"sp_rename".toList, 5, 5, call.oldName.inside,
          .rename call.newName.literal.inside⟩] := by
  let place : Cursor := ⟨some ' ', 5, call.text ++ []⟩
  have hne : call.text ≠ [] := by
    obtain ⟨letter, word, hword, -⟩ := call.exists_letter
    rw [Call.text, hword]
    exact List.cons_ne_nil _ _
  obtain ⟨cs, hread⟩ := exists_prefers_procedure style call
    (call.atWordEdge (c := place) rfl (by decide) rfl) rfl
  -- no match begins in the lead, since none of its letters is an s
  have hlead : ∀ x ∈ "EXEC ".toList, ∀ before offset rest,
      (RenameForm.procedure.pattern style).matchAt? ⟨before, offset, x :: rest⟩ = none := by
    have hother : ∀ x ∈ "EXEC ".toList, isLetter 's' x = false := isLetter_eq_false_of_all (by decide)
    exact fun x hx =>
      Announces.matchAt?_eq_none (RenameForm.procedure.pattern_announces style) (hother x hx)
  have hlast : ("EXEC ".toList.getLast? <|> none) = some ' ' := by decide +kernel
  have hlength : 0 + Text.byteLength "EXEC ".toList = 5 := by decide +kernel
  have htext : callScript call = "EXEC ".toList ++ (call.text ++ []) := by
    rw [List.append_nil, callScript]
  refine ⟨⟨place, place.past call.text [], cs⟩, ?_, rfl, ?_⟩
  · show (RenameForm.procedure.pattern style).matchesFrom 0 none 0 (callScript call) = _
    rw [htext, matchesFrom_append_of_none hlead, hlast, hlength]
    exact Prefers.matchesFrom_append hne hread
  · -- no third argument, so a table is renamed
    have hnamed : ¬NamesObjectType [] := by
      rintro ⟨a, rest, hrest, -⟩
      exact absurd hrest (by simp [Argument.text_append])
    unfold renameMentions
    rw [(renamedNames?_of_call call hread.matchAt? rfl (by simp)).2 hnamed]
    rfl

section

variable {script : Text} {texts : MaskedScript} {m : Match} {style : QuoteStyle}

/-- A single match in live code is the only rename. -/
theorem liveRenames_procedure
    (hmatches : (RenameForm.procedure.pattern style).matchesIn (Cursor.start texts.withLiterals) = [m])
    (hlive : charAt? m.start texts.code = charAt? m.start texts.withLiterals) :
    texts.liveRenames style .procedure = [m] := by
  have hkept : ∀ found ∈ [m], (charAt? found.start texts.code
      == charAt? found.start texts.withLiterals) = true := fun found hfound => by
    rw [List.mem_singleton.mp hfound]
    exact beq_iff_eq.mpr hlive
  rw [← hmatches] at hkept ⊢
  exact List.filter_eq_self.mpr hkept

/-- **A text without the letter T mentions nothing** but calls of the rename procedure, which are
    searched for elsewhere. -/
theorem mentions_of_procedure (hserver : d.isServerFamily = true)
    (htexts : MaskedScript.ofScript d script = texts)
    (hcode : ∀ c ∈ texts.code, isLetter 't' c = false)
    (hmatches : (RenameForm.procedure.pattern d.quoteStyle).matchesIn
      (Cursor.start texts.withLiterals) = [m])
    (hlive : charAt? m.start texts.code = charAt? m.start texts.withLiterals) :
    mentions d script = renameMentions .procedure m := by
  -- the T is in INTO and TABLE, and in the OBJECT of the other rename
  have hselections : selectionsIn d.quoteStyle texts.code = [] := by
    unfold selectionsIn
    rw [(selectInto_requires _).matchesIn_eq_nil hcode]
    rfl
  have hprocedure := liveRenames_procedure hmatches hlive
  have hobject : texts.liveRenames d.quoteStyle .renameObject = [] := by
    show ((RenameForm.renameObject.pattern d.quoteStyle).matchesIn (Cursor.start texts.code)).filter _
      = []
    rw [(renameObject_requires _).matchesIn_eq_nil hcode]
    rfl
  have hrenames : (d.renameForms.flatMap fun form =>
      (texts.liveRenames d.quoteStyle form).flatMap (renameMentions form))
        = renameMentions .procedure m := by
    cases d with
    | pg => exact Bool.noConfusion hserver
    | ms =>
      rw [show Dialect.renameForms .ms = [.procedure] from rfl, List.flatMap_singleton, hprocedure,
        List.flatMap_singleton]
    | azure =>
      rw [show Dialect.renameForms .azure = [.procedure, .renameObject] from rfl, List.flatMap_cons,
        List.flatMap_singleton, hprocedure, hobject, List.flatMap_singleton, List.flatMap_nil,
        List.append_nil]
  rw [mentions_of_ofScript htexts, hrenames, hselections,
    (createTable_requires _).matchesIn_eq_nil hcode,
    (dropTable_requires _).matchesIn_eq_nil hcode]
  rfl

end

/-- **A script of one call mentions one rename**, of the names that its literals stand for. -/
theorem mentions_of_call (hserver : d.isServerFamily = true) (call : Call) :
    mentions d (callScript call) = [⟨"sp_rename".toList, 5, 5, call.oldName.inside,
      .rename call.newName.literal.inside⟩] := by
  obtain ⟨m, hmatches, hstart, hmentions⟩ := matchesIn_callScript d.quoteStyle call
  -- the call stands in live code: its first letter is shown in both texts
  have hfirst : ∀ rest : Text, charAt? m.start ("EXEC ".toList ++ (call.word ++ rest))
      = (call.word ++ rest).head? := fun rest => by
    rw [hstart, show 5 = Text.byteLength "EXEC ".toList by decide +kernel, charAt?_append]
  have hlive : charAt? m.start ("EXEC ".toList ++ call.shown hidesLiterals)
      = charAt? m.start (callScript call) := by
    obtain ⟨letter, word, hword, -⟩ := call.exists_letter
    rw [callScript, Call.text, Call.shown, hfirst, hfirst, hword]
    rfl
  rw [mentions_of_procedure hserver (ofScript_callScript hserver call) (isLetter_of_mem_shown call)
    hmatches hlive, hmentions]

/-! ## §4. Names in names -/

/-- A literal that is marked as one of wide characters. -/
def markedLiteral (inside : Text) : Literal := ⟨"N".toList, .inr (by decide), inside⟩

/-- The call that gives a table another name. -/
def renameCall (d : Dialect) (table : TableRef) (name : Text) : Call where
  word := "sp_rename".toList
  word_spells := spells_sp_rename
  gap := [' ']
  gap_ne_nil := space_ne_nil
  gap_isGap := isGap_space
  oldName := markedLiteral (table.qualified d)
  oldName_ne_nil := (table.tight_qualified d).ne_nil
  newName := ⟨[], isGap_nil, [' '], isGap_space, markedLiteral (requote d name)⟩
  newName_ne_nil := (tight_requote d name).ne_nil

/-- A rename as a script: the table and the new name are written as they are in any statement,
    and put in literals. -/
def renameScript (d : Dialect) (table : TableRef) (name : Text) : Text :=
  "EXEC sp_rename N".toList ++ Text.wrap '\'' '\'' (table.qualified d)
    ++ ", N".toList ++ Text.wrap '\'' '\'' (requote d name)

/-- The call for a table is the script that renames it. -/
theorem callScript_renameCall (d : Dialect) (table : TableRef) (name : Text) :
    callScript (renameCall d table name) = renameScript d table name := by
  have hlead : "EXEC sp_rename N".toList
      = "EXEC ".toList ++ ("sp_rename".toList ++ ([' '] ++ "N".toList)) := by decide +kernel
  have hcomma : ", N".toList = [','] ++ ([' '] ++ "N".toList) := by decide +kernel
  let old := "N".toList ++ Text.wrap '\'' '\'' (table.qualified d)
  let new := "N".toList ++ Text.wrap '\'' '\'' (requote d name)
  show "EXEC ".toList ++ ("sp_rename".toList ++ ([' '] ++ (old ++ ([','] ++ ([' '] ++ new))))) = _
  unfold renameScript
  rw [hlead, hcomma]
  generalize "EXEC ".toList = lead
  generalize "sp_rename".toList = word
  simp only [old, new, List.append_assoc]

/-- **A rename is reported with the names that were encoded.**  A table, whose server comes with a
    database, is written with its parts in brackets, and so is a new name; none of these names is
    itself in quotes, and that of the table is not that of a session table.  The rename of the one
    to the other, with both in literals, is classified as this rename and nothing else, whatever
    stands in the names: quotes, semicolons, comment marks, line breaks, or other statements. -/
theorem classify_renameScript (hserver : d.isServerFamily = true) (schema : Text) {table : TableRef}
    {name : Text} (hdatabase : table.server.isSome = true → table.database.isSome = true)
    (hparts : ∀ part ∈ table.parts, ¬LooksQuoted part) (hname : ¬LooksQuoted name)
    (hpermanent : (table.table.dropWhile isOpeningMark).head? ≠ some '#') :
    classify d schema (renameScript d table name)
      = .ok ⟨[.renamed table.toLocal (table.toLocal.withName name)]⟩ := by
  have hparse : TableRef.parse d schema (table.qualified d) = .ok table :=
    ((TableRef.reads_back_qualified d table).2 schema).mpr ⟨hdatabase, fun _ => hparts⟩
  have htracked : Naming.trackedTable? ⟨d, schema⟩ (table.qualified d) = .ok (some table) := by
    rw [trackedTable?_of_parse hparse, isSessionName_eq_false fun _ => hpermanent]
    rfl
  have hnew : canonicalize d (requote d name) = name :=
    canonicalize_requote_eq_self_iff.mpr fun _ => hname
  rw [← callScript_renameCall, classify_of_mentions_singleton (mentions_of_call hserver _),
    Naming.event?]
  show ((Naming.trackedTable? ⟨d, schema⟩ (table.qualified d)).map (Option.map fun t =>
    TableEvent.renamed t.toLocal (t.toLocal.withName (canonicalize d (requote d name))))).map _ = _
  rw [htracked, hnew]
  rfl

/-- A table with names that end quotes, begin comments or literals, or hold statements. -/
def troubled : TableRef :=
  ⟨none, some "a'; --".toList, "b]/*".toList, "DROP TABLE c\nGO".toList⟩

/-- Such names arrive as they are. -/
theorem classify_renameScript_of_troubled :
    renameScript .azure troubled "'t', N'u'".toList
        = ("EXEC sp_rename N'[a''; --].[b]]/*].[DROP TABLE c\nGO]', ".toList
          ++ "N'[''t'', N''u'']'".toList)
      ∧ classify .azure "dbo".toList (renameScript .azure troubled "'t', N'u'".toList)
        = .ok ⟨[.renamed (.inSchema "b]/*".toList "DROP TABLE c\nGO".toList)
            (.inSchema "b]/*".toList "'t', N'u'".toList)]⟩ := by
  have hnone : (("'t', N'u'".toList :: troubled.parts).all fun name =>
      (unquoteOnce? .bracket name).isNone) = true := by decide +kernel
  have hquoted : ∀ name ∈ "'t', N'u'".toList :: troubled.parts, ¬LooksQuoted name := fun name hname =>
    unquoteOnce?_bracket_eq_none_iff.mp
      (Option.isNone_iff_eq_none.mp (List.all_eq_true.mp hnone name hname))
  have hpermanent : (troubled.table.dropWhile isOpeningMark).head? ≠ some '#' := by decide +kernel
  refine ⟨by decide +kernel, ?_⟩
  exact classify_renameScript (by decide) "dbo".toList (fun h => Bool.noConfusion h)
    (fun part hpart => hquoted part (List.mem_cons_of_mem _ hpart)) (hquoted _ List.mem_cons_self)
    hpermanent

end TableLedger.Script
