/-
  TableLedger.Proofs.Script.TableStatement — statements at the reference they name.

  CREATE TABLE, DROP TABLE and ALTER TABLE are read word by word up to the reference.
  There may be words between, as in IF NOT EXISTS, and a reference may begin with a part
  that is spelled like one of them: but a word goes on behind white space with the next
  one, and behind a part comes a dot, or what closes the statement.  From there on the
  reference is read up to its first gap.  That is the end of the pattern for a creation
  or a drop; a rename has words to come, and finds them only behind a reference without
  gaps.

  Main statements:
    • `ways_eq_nil_at_part` — no optional words begin at a part,
    • `creationMentions_of_createTable`, `dropMentions_of_dropTable` — creations and
      drops mention what stands in front of the first gap,
    • `renameMentions_of_alterTable`, `matchAt?_alterTable_of_open` — renames are found
      without gaps, and not found with one.
-/

import TableLedger.Proofs.Script.SingleStatement
import TableLedger.Proofs.Script.TableList

namespace TableLedger.Script

open Pattern

/-! ## §1. Words at a part -/

variable {style : QuoteStyle} {stop : Char} {p : Pattern} {c : Cursor} {cs : List Capture}
  {part rest word : Text}

/-- What cannot stand in a bare name is no word character. -/
theorem isWord_of_bareChar_eq_false {x : Char} (h : bareChar style x = false) :
    Unicode.isWord x = false := by
  cases style with
  | doubleQuote =>
    simp only [bareChar, isBareChar, Bool.or_eq_false_iff] at h
    exact h.1
  | bracket =>
    simp only [bareChar, isServerBareChar, isBareChar, Bool.or_eq_false_iff] at h
    exact h.1.1.1

/-- A word with white space behind it, where a part begins, is the whole part. -/
theorem IsPart.of_announced {behind : Text} (hpart : IsPart style part) (hrest : StopsPart style rest)
    (hword : IsKeyword word) (hne : word ≠ []) (h : Announced word behind (part ++ rest)) :
    spells word part = true ∧ ∃ gap, rest = gap ++ behind ∧ gap ≠ [] ∧ IsGap gap := by
  obtain ⟨found, gap, hfound, hspells, hgapNe, hgap⟩ := h
  have hchars := isWord_of_spells hword hspells
  obtain ⟨y, more, rfl⟩ := List.exists_cons_of_ne_nil (ne_nil_of_spells hne hspells)
  have hquoted : ∀ {mark : Char} {t : Text}, Unicode.isWord mark = false →
      mark :: t ≠ y :: more ++ (gap ++ behind) := by
    intro mark t hmark heq
    have hy := hchars y List.mem_cons_self
    rw [← (List.cons.inj heq).1, hmark] at hy
    exact Bool.noConfusion hy
  cases hpart with
  | bare _ hbare _ =>
    obtain ⟨x, hx, hrest'⟩ | ⟨x, hx, hgap'⟩ := List.append_eq_append_iff.mp hfound
    · cases x with
      | nil => exact ⟨by rwa [hx, List.append_nil] at hspells, gap, hrest', hgapNe, hgap⟩
      | cons b x =>
        -- the word would go on behind the part
        have hb := hchars b (by rw [hx]; exact List.mem_append_right _ List.mem_cons_self)
        have hstop := hrest b (by rw [hrest']; rfl)
        rw [isWord_of_bareChar_eq_false hstop.1] at hb
        exact Bool.noConfusion hb
    · cases x with
      | nil =>
        rw [List.append_nil] at hx
        exact ⟨by rwa [hx], gap, hgap'.symm, hgapNe, hgap⟩
      | cons b x =>
        -- the part would hold the white space
        obtain ⟨b', gap, rfl⟩ := List.exists_cons_of_ne_nil hgapNe
        obtain rfl : b' = b := (List.cons.inj hgap').1
        have hb := hbare b' (by rw [hx]; exact List.mem_append_right _ List.mem_cons_self)
        rw [bareChar_of_isBlank (hgap b' List.mem_cons_self)] at hb
        exact Bool.noConfusion hb
  | quoted _ name => exact absurd hfound (hquoted (by decide +kernel))
  | bracketed name => exact absurd hfound (hquoted (by decide +kernel))

/-- **No optional words begin at a part** if no statement goes on behind it. -/
theorem ways_eq_nil_at_part (hp : p.Introduces word (goesOn stop)) (hword : IsKeyword word)
    (hne : word ≠ []) (hpart : IsPart style part) (hrest : StopsPart style rest)
    (hends : Ends stop rest) (h : c.rest = part ++ rest) : p.ways ⟨c, cs⟩ = [] := by
  rw [List.eq_nil_iff_forall_not_mem]
  intro v hv
  obtain ⟨next, left, hnext, hannounced, -⟩ := hp _ v hv
  have hannounced : Announced word (next :: left) c.rest := hannounced
  rw [h] at hannounced
  have hspells := (hpart.of_announced hrest hword hne hannounced).1
  exact hends.not_announced hnext hspells hannounced

/-- The word `if` with other words behind it, and white space behind each of them. -/
def ifWords (first : Text) (others : List Text) : Pattern :=
  others.foldl (fun p word => p ++ keyword word ++ blanks)
    (keyword "if".toList ++ blanks ++ keyword first ++ blanks)

/-- The words that may stand in front of a reference to be created. -/
def ifNotExists : Pattern := ifWords "not".toList ["exists".toList]

/-- Those in front of one to be dropped or renamed. -/
def ifExists : Pattern := ifWords "exists".toList []

/-- Whatever words they are, the word `if` announces that the statement goes on. -/
theorem ifWords_introduces (hstop : ∀ letter ∈ nextLetters, isLetter letter stop = false)
    {first : Text} (hfirst : ∃ letter ∈ nextLetters, first.head? = some letter)
    (others : List Text) : (ifWords first others).Introduces "if".toList (goesOn stop) := by
  obtain ⟨letter, hletter, hhead⟩ := hfirst
  obtain ⟨word, rfl⟩ := List.head?_eq_some_iff.mp hhead
  have hfront : (keyword "if".toList ++ blanks ++ keyword (letter :: word) ++ blanks).Introduces
      "if".toList (goesOn stop) :=
    ((awaits_word "if".toList _).introduces (opens_next hstop letter hletter word)).append _
  unfold ifWords
  -- the words behind the first one make no difference
  generalize keyword "if".toList ++ blanks ++ keyword (letter :: word) ++ blanks = front at hfront
  induction others generalizing front with
  | nil => exact hfront
  | cons other others ih => exact ih _ ((hfront.append _).append _)

/-- A statement that ends behind a reference ends behind its first part. -/
theorem ends_joints {js : List Joint} (hgaps : ∀ j ∈ js, IsGap j.front ∧ IsGap j.behind)
    (hrest : Ends stop rest) : Ends stop (js.flatMap Joint.text ++ rest) := by
  cases js with
  | nil => exact hrest
  | cons j js =>
    rw [List.flatMap_cons, Joint.text, List.append_assoc, List.append_assoc]
    exact ends_of_gap (hgaps j List.mem_cons_self).1 (by decide +kernel) (by decide) (goesOn_dot stop) _

/-- The optional words are not found at a reference. -/
theorem ways_eq_nil_at_reference {r : Dotted} (hp : p.Introduces "if".toList (goesOn stop))
    (hr : r.Written IsGap style) (hrest : StopsPart style rest) (hends : Ends stop rest)
    (h : c.rest = r.text ++ rest) : p.ways ⟨c, cs⟩ = [] := by
  rw [Dotted.text, List.append_assoc] at h
  have hkeyword : IsKeyword "if".toList := List.all_eq_true.mp (by decide)
  exact ways_eq_nil_at_part hp hkeyword (by decide) (hr.parts r.first List.mem_cons_self)
    (stopsPart_joints hr.gaps hrest) (ends_joints hr.gaps hends) h

/-- A keyword is not read where it is not spelled. -/
theorem ways_keyword_of_take (h : spells word (c.rest.take word.length) = false) :
    (keyword word).ways ⟨c, cs⟩ = [] := by
  rw [List.eq_nil_iff_forall_not_mem]
  intro v hv
  obtain ⟨found, hfound, hspells⟩ := mem_ways_keyword hv
  have hfound : c.rest = found ++ v.cursor.rest := hfound
  rw [hfound, ← spells_length hspells, List.take_left, hspells] at h
  exact Bool.noConfusion h

/-- Behind a word and one space it is announced what stands there. -/
theorem behind_of_announced (found : Text) {behind : Text} (h : c.rest = found ++ ' ' :: rest)
    (hspells : spells word found = true) (hrest : ∀ ch ∈ rest.head?, Unicode.isBlank ch = false)
    (hannounced : Announced word behind c.rest) : behind = rest := by
  obtain ⟨found', gap, hfound, hspells', hne, hgap⟩ := hannounced
  rw [h] at hfound
  have hlength := (spells_length hspells).trans (spells_length hspells').symm
  have hbehind := List.append_inj_right hfound hlength
  obtain ⟨b, gap, rfl⟩ := List.exists_cons_of_ne_nil hne
  have hbehind : rest = gap ++ behind := (List.cons.inj hbehind).2
  cases gap with
  | nil => exact hbehind.symm
  | cons b' gap =>
    have hblank := hgap b' (List.mem_cons_of_mem b List.mem_cons_self)
    rw [hrest b' (by rw [hbehind]; rfl)] at hblank
    exact Bool.noConfusion hblank

/-! ## §2. Creations and drops -/

theorem isBlank_head?_cons {x : Char} (h : Unicode.isBlank x = false) (t : Text) :
    ∀ ch ∈ (x :: t).head?, Unicode.isBlank ch = false := fun ch hch => by
  rwa [← Option.some.inj hch]

/-- CREATE TABLE up to the words in front of the reference. -/
def createLead : Pattern :=
  wordEdge ++ keyword "create".toList ++ blanks
    ++ optional (keyword "or".toList ++ blanks ++ keyword "replace".toList ++ blanks)
    ++ optional (anyOf [keyword "global".toList, keyword "local".toList] ++ blanks)
    ++ persistence
    ++ keyword "table".toList ++ blanks

/-- A creation: its first words, optional ones, and the reference. -/
theorem createTable_eq (style : QuoteStyle) :
    createTable style = createLead ++ optional ifNotExists ++ capture .table (reference style) := rfl

/-- The first words of a creation are taken. -/
theorem prefers_createLead (hedge : c.atWordEdge = true) (h : c.rest = "CREATE TABLE ".toList ++ rest)
    (hrest : ∀ ch ∈ rest.head?, Unicode.isBlank ch = false) :
    createLead.Prefers ⟨c, cs⟩ ⟨c.past "CREATE TABLE ".toList rest, cs⟩ := by
  have hread : (wordEdge ++ keyword "create".toList ++ blanks).Prefers ⟨c, cs⟩
      ⟨c.past "CREATE ".toList ("TABLE ".toList ++ rest), cs⟩ :=
    prefers_first_word "CREATE".toList hedge h (by decide) (isBlank_head?_cons (by decide) _)
  have hnot : ∀ {word : Text}, spells word (("TABLE ".toList ++ rest).take word.length) = false →
      (keyword word).ways ⟨c.past "CREATE ".toList ("TABLE ".toList ++ rest), cs⟩ = [] :=
    fun h => ways_keyword_of_take h
  refine (((hread.skip ?_).skip ?_).skip ?_).word _ "TABLE".toList _ (by decide) hrest
  · exact ways_append_of_nil (ways_append_of_nil (ways_append_of_nil (hnot rfl) _) _) _
  · exact ways_append_of_nil (ways_alt_of_nil (hnot rfl) (hnot rfl)) _
  · refine ways_alt_of_nil (ways_append_of_nil (ways_capture_of_nil ?_ _) _)
      (ways_append_of_nil (hnot rfl) _)
    exact ways_alt_of_nil (hnot rfl) (hnot rfl)

/-- No routine is defined where a table is created. -/
theorem matchAt?_routineHeader (h : c.rest = "CREATE TABLE ".toList ++ rest) :
    routineHeader.matchAt? c = none := by
  have hnone : routineHeader.ways ⟨c, []⟩ = [] := by
    refine ways_append_of_nil ?_ _
    rw [List.eq_nil_iff_forall_not_mem]
    intro v hv
    obtain ⟨u, hu, hkind⟩ := List.mem_flatMap.mp hv
    obtain ⟨w, hw, hu⟩ := List.mem_flatMap.mp hu
    have hw : w.cursor.rest = "TABLE ".toList ++ rest :=
      behind_of_announced "CREATE".toList h (by decide)
        (isBlank_head?_cons (by decide) _)
        (mem_ways_word (mem_ways_word_of_edge hw))
    have hnot : ∀ {word : Text}, spells word (("TABLE ".toList ++ rest).take word.length) = false →
        (keyword word).ways w = [] := fun h => ways_keyword_of_take (c := w.cursor) (by rwa [hw])
    obtain hu | hu := mem_ways_optional hu
    · rw [ways_append_of_nil (ways_append_of_nil (ways_append_of_nil (hnot rfl) _) _) _] at hu
      exact absurd hu List.not_mem_nil
    · have hnone : (anyOf [keyword "function".toList, keyword "procedure".toList,
          keyword "proc".toList, keyword "trigger".toList]).ways w = [] :=
        ways_alt_of_nil (hnot rfl) (ways_alt_of_nil (hnot rfl) (ways_alt_of_nil (hnot rfl) (hnot rfl)))
      rw [hu, hnone] at hkind
      exact absurd hkind List.not_mem_nil
  unfold Pattern.matchAt?
  rw [hnone]
  rfl

variable {r : Dotted}

/-- What a creation takes. -/
theorem prefers_createTable (hstop : ∀ letter ∈ nextLetters, isLetter letter stop = false)
    (hr : r.Written IsGap style) (hrest : StopsReference style rest) (hends : Ends stop rest)
    (hedge : c.atWordEdge = true) (h : c.rest = "CREATE TABLE ".toList ++ (r.text ++ rest)) :
    (createTable style).Prefers ⟨c, cs⟩
      ⟨c.past ("CREATE TABLE ".toList ++ r.head.text) (r.tail ++ rest),
        ⟨.table, c.past "CREATE TABLE ".toList (r.text ++ rest),
          c.past ("CREATE TABLE ".toList ++ r.head.text) (r.tail ++ rest)⟩ :: cs⟩ := by
  have hread : createLead.Prefers ⟨c, cs⟩ ⟨c.past "CREATE TABLE ".toList (r.text ++ rest), cs⟩ :=
    prefers_createLead hedge h (Dotted.isBlank_head?_text hr rest)
  have hread := hread.skip (ways_eq_nil_at_reference (p := ifNotExists)
    (ifWords_introduces hstop ⟨'n', by decide, rfl⟩ _) hr hrest.part hends rfl)
  have hreference := (prefers_reference (c := c.past "CREATE TABLE ".toList (r.text ++ rest)) hr hrest
    rfl cs).capture .table
  rw [Cursor.past_past] at hreference
  rw [createTable_eq]
  exact hread.append hreference

/-- What is read up to the first gap is the head of the reference. -/
theorem textTo_head (t rest : Text) :
    (c.past t (r.text ++ rest)).textTo (c.past (t ++ r.head.text) (r.tail ++ rest)) = r.head.text := by
  rw [← Cursor.past_past c t r.head.text (r.text ++ rest)]
  refine Cursor.textTo_past ?_
  rw [Cursor.past_rest, ← List.append_assoc, r.head_append_tail]

/-- **A creation mentions what stands in front of the first gap.** -/
theorem creationMentions_of_createTable (hstop : ∀ letter ∈ nextLetters, isLetter letter stop = false)
    (hr : r.Written IsGap style) (hrest : StopsReference style rest) (hends : Ends stop rest)
    (hedge : c.atWordEdge = true) (h : c.rest = "CREATE TABLE ".toList ++ (r.text ++ rest)) :
    ((createTable style).matchAt? c).toList.flatMap (creationMentions "create".toList)
      = [⟨"create".toList, c.offset, c.offset, r.head.text, .creation⟩] := by
  rw [(prefers_createTable hstop hr hrest hends hedge h).matchAt?, Option.toList_some,
    List.flatMap_singleton]
  exact congrArg (fun t => [(⟨"create".toList, c.offset, c.offset, t, .creation⟩ : Mention)])
    (textTo_head "CREATE TABLE ".toList rest)

/-- DROP TABLE or ALTER TABLE up to the words in front of the reference. -/
def tableLead (word : Text) : Pattern :=
  wordEdge ++ keyword word ++ blanks ++ keyword "table".toList ++ blanks

theorem prefers_tableLead (found : Text) (hedge : c.atWordEdge = true)
    (h : c.rest = found ++ " TABLE ".toList ++ rest) (hspells : spells word found = true)
    (hrest : ∀ ch ∈ rest.head?, Unicode.isBlank ch = false) :
    (tableLead word).Prefers ⟨c, cs⟩ ⟨c.past (found ++ " TABLE ".toList) rest, cs⟩ := by
  have h : c.rest = found ++ ' ' :: ("TABLE".toList ++ ' ' :: rest) := by
    rw [h, List.append_assoc]
    rfl
  have hread : (wordEdge ++ keyword word ++ blanks).Prefers ⟨c, cs⟩
      ⟨c.past (found ++ [' ']) ("TABLE".toList ++ ' ' :: rest), cs⟩ :=
    prefers_first_word found hedge h hspells (isBlank_head?_cons (by decide) _)
  have hread := hread.word "table".toList "TABLE".toList rest (by decide) hrest
  have htaken : found ++ [' '] ++ "TABLE".toList ++ [' '] = found ++ " TABLE ".toList := by
    simp only [List.append_assoc]
    rfl
  rwa [htaken] at hread

/-- A drop: its first words, optional ones, and the list. -/
theorem dropTable_eq (style : QuoteStyle) :
    dropTable style = tableLead "drop".toList ++ optional ifExists ++ capture .tables (tables style) := rfl

/-- What stands behind the head of a reference at the end of a script is no comma. -/
theorem head?_tail_ne (hr : r.Written IsGap style) : r.tail.trimStart.head? ≠ some ',' := by
  obtain htail | ⟨front, left, htail, hfront⟩ := hr.tail_cases
  · rw [htail]
    exact fun h => absurd h (by simp [Text.trimStart])
  · rw [htail, Text.trimStart, List.dropWhile_append_of_pos hfront,
      List.dropWhile_cons_of_neg (by decide)]
    exact fun h => absurd (Option.some.inj h) (by decide)

/-- The head of a reference is written as the reference is. -/
theorem Dotted.Written.head {gap : Text → Prop} (hr : r.Written gap style) : r.head.Written gap style where
  parts part hpart := hr.parts part (r.parts_head_prefix.subset hpart)
  gaps j hj := hr.gaps j ((List.takeWhile_prefix _).subset hj)

/-- At the end of a script no statement goes on. -/
theorem ends_nil (stop : Char) : Ends stop [] :=
  ⟨fun _ hx => absurd hx (by simp), fun _ hx => absurd hx (by simp [Text.trimStart])⟩

/-- What a drop takes. -/
theorem prefers_dropTable (hstop : ∀ letter ∈ nextLetters, isLetter letter stop = false)
    (hr : r.Written IsGap style) (hedge : c.atWordEdge = true)
    (h : c.rest = "DROP TABLE ".toList ++ r.text) :
    (dropTable style).Prefers ⟨c, cs⟩
      ⟨c.past ("DROP TABLE ".toList ++ r.head.text) r.tail,
        ⟨.tables, c.past "DROP TABLE ".toList r.text,
          c.past ("DROP TABLE ".toList ++ r.head.text) r.tail⟩ :: cs⟩ := by
  have hrest : (c.past "DROP TABLE ".toList r.text).rest = r.text ++ [] := (List.append_nil _).symm
  have hblank := Dotted.isBlank_head?_text hr []
  rw [List.append_nil] at hblank
  have hread : (tableLead "drop".toList).Prefers ⟨c, cs⟩ ⟨c.past "DROP TABLE ".toList r.text, cs⟩ :=
    prefers_tableLead "DROP".toList hedge h (by decide) hblank
  have hread := hread.skip (ways_eq_nil_at_reference (p := ifExists)
    (ifWords_introduces hstop ⟨'e', by decide, rfl⟩ _) hr stopsReference_nil.part
    (ends_nil stop) hrest)
  have hreference := prefers_reference hr stopsReference_nil hrest cs
  rw [List.append_nil, Cursor.past_past] at hreference
  have hnone : (another style).ways ⟨c.past ("DROP TABLE ".toList ++ r.head.text) r.tail, cs⟩ = [] :=
    ways_another_of_ne (head?_tail_ne hr)
  have htables : (tables style).Prefers ⟨c.past "DROP TABLE ".toList r.text, cs⟩ _ :=
    hreference.append (prefers_many_of_nil hnone)
  rw [dropTable_eq]
  exact hread.append (htables.capture .tables)

/-- **A drop mentions what stands in front of the first gap.** -/
theorem dropMentions_of_dropTable (hstop : ∀ letter ∈ nextLetters, isLetter letter stop = false)
    (hr : r.Written IsGap style) (hedge : c.atWordEdge = true)
    (h : c.rest = "DROP TABLE ".toList ++ r.text) :
    ∃ offset, ((dropTable style).matchAt? c).toList.flatMap (dropMentions style)
      = [⟨"drop".toList, c.offset, offset, r.head.text, .drop⟩] := by
  rw [(prefers_dropTable hstop hr hedge h).matchAt?, Option.toList_some, List.flatMap_singleton]
  have hhead := textTo_head (c := c) (r := r) "DROP TABLE ".toList []
  rw [List.append_nil, List.append_nil] at hhead
  have hnil : ∀ l ∈ ([] : List Listed), l.Written style := by simp
  have hfound := map_text_matchesIn_tables hr.head r.isClosed_head hnil
  rw [List.flatMap_nil, List.append_nil, ← hhead, List.map_nil] at hfound
  obtain ⟨found, hone, htext⟩ := List.map_eq_singleton_iff.mp hfound
  refine ⟨(c.past "DROP TABLE ".toList r.text).offset + found.start, ?_⟩
  show ((reference style).matchesIn (Cursor.start ((c.past "DROP TABLE ".toList r.text).textTo
    (c.past ("DROP TABLE ".toList ++ r.head.text) r.tail)))).map _ = _
  rw [hone, List.map_singleton, htext, hhead]
  rfl

/-! ## §3. Renames -/

/-- What closes the rename of a table. -/
def renameTail : Text := " RENAME TO x".toList

/-- A rename: its first words, optional ones, the reference, and the new name. -/
theorem alterTable_eq (style : QuoteStyle) :
    RenameForm.alterTable.pattern style
      = tableLead "alter".toList ++ optional ifExists ++ optional (keyword "only".toList ++ blanks)
        ++ capture .oldName (reference style)
        ++ blanks ++ keyword "rename".toList ++ blanks ++ keyword "to".toList ++ blanks
        ++ capture .newName (segment style) := rfl

/-- The rest of a rename stops a reference. -/
theorem stopsReference_renameTail : StopsReference style renameTail := by
  refine ⟨fun x hx => ?_, by decide⟩
  obtain rfl : ' ' = x := Option.some.inj hx
  exact ⟨bareChar_of_isBlank (by decide), by decide, by decide⟩

/-- The rest of a rename begins with an R, and so with no word that goes on with the reference. -/
theorem ends_renameTail : Ends 'R' renameTail := by
  refine ⟨fun x hx => ?_, fun x hx => ?_⟩
  · obtain rfl : ' ' = x := Option.some.inj hx
    exact isWord_of_isBlank (by decide)
  · obtain rfl : 'R' = x := Option.some.inj hx
    decide

theorem letters_R : ∀ letter ∈ nextLetters, isLetter letter 'R' = false := by
  have hall : (nextLetters.all fun letter => !isLetter letter 'R') = true := by decide
  intro letter hletter
  simpa using List.all_eq_true.mp hall letter hletter

/-- Behind the first part of a reference with a plain dot, ONLY is not followed by white space. -/
theorem ways_only_of_closed (hr : r.Written IsGap style) (hclosed : r.IsClosed) (hjoints : r.joints ≠ [])
    (hrest : StopsPart style rest) (h : c.rest = r.text ++ rest) :
    (keyword "only".toList ++ blanks).ways ⟨c, cs⟩ = [] := by
  rw [List.eq_nil_iff_forall_not_mem]
  intro v hv
  have hannounced : Announced "only".toList v.cursor.rest c.rest := mem_ways_word hv
  rw [h, Dotted.text, List.append_assoc] at hannounced
  obtain ⟨-, gap, hgap, hne, hblank⟩ := (hr.parts r.first List.mem_cons_self).of_announced
    (stopsPart_joints hr.gaps hrest) (List.all_eq_true.mp (by decide)) (by decide) hannounced
  obtain ⟨j, js, hjs⟩ := List.exists_cons_of_ne_nil hjoints
  obtain ⟨b, gap, rfl⟩ := List.exists_cons_of_ne_nil hne
  rw [hjs, List.flatMap_cons, Joint.text_of_isClosed (hclosed j (by rw [hjs]; exact List.mem_cons_self))]
    at hgap
  have hdot := hblank b List.mem_cons_self
  rw [← (List.cons.inj hgap).1] at hdot
  exact absurd hdot (by decide)

/-- A single character is a part. -/
theorem isPart_singleton {x : Char} (h : bareChar style x = true) (hdollar : x ≠ '$') :
    IsPart style [x] := by
  refine .bare (List.cons_ne_nil _ _) (fun ch hch => ?_) fun _ => ?_
  · rwa [List.mem_singleton.mp hch]
  · simpa [singleDollars] using hdollar

/-- **The rename of a table without gaps mentions it.** -/
theorem renameMentions_of_alterTable (hr : r.Written IsGap style) (hclosed : r.IsClosed)
    (hjoints : r.joints ≠ []) (hedge : c.atWordEdge = true)
    (h : c.rest = "ALTER TABLE ".toList ++ (r.text ++ renameTail)) :
    ((RenameForm.alterTable.pattern style).matchAt? c).toList.flatMap (renameMentions .alterTable)
      = [⟨"alter".toList, c.offset, c.offset, r.text, .rename "x".toList⟩] := by
  have hstop : StopsReference style renameTail := stopsReference_renameTail
  have hrest : (c.past "ALTER TABLE ".toList (r.text ++ renameTail)).rest = r.text ++ renameTail :=
    Cursor.past_rest _ _ _
  have hread : (tableLead "alter".toList).Prefers ⟨c, []⟩
      ⟨c.past "ALTER TABLE ".toList (r.text ++ renameTail), []⟩ :=
    prefers_tableLead "ALTER".toList hedge h (by decide)
      (Dotted.isBlank_head?_text hr renameTail)
  -- neither IF EXISTS nor ONLY is read, for a reference comes next
  have hread := hread.skip (ways_eq_nil_at_reference (p := ifExists)
    (ifWords_introduces letters_R ⟨'e', by decide, rfl⟩ _) hr hstop.part
    ends_renameTail hrest)
  have hread := hread.skip (ways_only_of_closed hr hclosed hjoints hstop.part hrest)
  have hreference := (prefers_reference hr hstop hrest []).capture .oldName
  rw [hclosed.head_eq, hclosed.tail_eq, List.nil_append, Cursor.past_past] at hreference
  have hread := hread.append hreference
  have hread := hread.past (u := [' ']) (prefers_blanks rfl (isBlank_head?_cons (by decide) _))
  have hread := hread.word "rename".toList "RENAME".toList "TO x".toList (by decide)
    (isBlank_head?_cons (by decide) _)
  have hread := hread.word "to".toList "TO".toList "x".toList (by decide)
    (isBlank_head?_cons (by decide) _)
  have hx : bareChar style 'x' = true := by cases style <;> decide +kernel
  have hname : ∀ place cs, place.rest = "x".toList → (segment style).Prefers ⟨place, cs⟩
      ⟨place.past "x".toList [], cs⟩ := fun place cs hplace =>
    prefers_segment (isPart_singleton hx (by decide)) (by rw [hplace, List.append_nil])
      stopsReference_nil.part
  have hread := hread.append ((hname _ _ (Cursor.past_rest _ _ _)).capture .newName)
  rw [alterTable_eq, hread.matchAt?, Option.toList_some, List.flatMap_singleton]
  have hold := Cursor.textTo_past hrest
  rw [Cursor.past_past] at hold
  have hnew : ∀ place : Cursor, place.rest = "x".toList → place.textTo (place.past "x".toList [])
      = "x".toList := fun place hplace => Cursor.textTo_past (by rw [hplace, List.append_nil])
  exact congrArg₂ (fun t u => [(⟨"alter".toList, c.offset, c.offset, t, .rename u⟩ : Mention)]) hold
    (hnew _ rfl)

/-- The words in front of a reference are read in one way. -/
theorem rest_of_mem_ways_tableLead (found : Text) {v : Way} (h : c.rest = found ++ " TABLE ".toList ++ rest)
    (hspells : spells word found = true) (hrest : ∀ ch ∈ rest.head?, Unicode.isBlank ch = false)
    (hv : v ∈ (tableLead word).ways ⟨c, cs⟩) : v.cursor.rest = rest := by
  have h : c.rest = found ++ ' ' :: ("TABLE".toList ++ ' ' :: rest) := by
    rw [h, List.append_assoc]
    rfl
  have hv : v ∈ (wordEdge ++ keyword word ++ blanks
      ++ (keyword "table".toList ++ blanks)).ways ⟨c, cs⟩ := by
    rwa [← ways_append_assoc]
  obtain ⟨u, hu, hv⟩ := List.mem_flatMap.mp hv
  have hu : u.cursor.rest = "TABLE".toList ++ ' ' :: rest :=
    behind_of_announced found h hspells (isBlank_head?_cons (by decide) _)
      (mem_ways_word (mem_ways_word_of_edge hu))
  exact behind_of_announced "TABLE".toList hu (by decide) hrest (mem_ways_word hv)

/-- White space in front of a dot cannot be taken beyond the dot. -/
theorem exists_gap_left {gap gap' left behind : Text} (hgap : IsGap gap) (hgap' : IsGap gap')
    (h : gap ++ behind = gap' ++ '.' :: left) : ∃ gap'', behind = gap'' ++ '.' :: left ∧ IsGap gap'' := by
  obtain ⟨x, rfl, hbehind⟩ | ⟨x, rfl, hdot⟩ := List.append_eq_append_iff.mp h
  · exact ⟨x, hbehind, fun y hy => hgap' y (List.mem_append_right gap hy)⟩
  · cases x with
    | nil => exact ⟨[], hdot.symm, isGap_nil⟩
    | cons y x =>
      have hblank := hgap y (List.mem_append_right gap' List.mem_cons_self)
      rw [← (List.cons.inj hdot).1] at hblank
      exact absurd hblank (by decide)

/-- A dot with a gap in front begins with white space or with the dot. -/
theorem head?_gap_dot {gap left : Text} (hgap : IsGap gap) :
    ∀ y ∈ (gap ++ '.' :: left).head?, Unicode.isBlank y = true ∨ y = '.' := by
  intro y hy
  cases gap with
  | nil => exact .inr (Option.some.inj hy).symm
  | cons x gap =>
    obtain rfl : x = y := Option.some.inj hy
    exact .inl (hgap x List.mem_cons_self)

/-- No reference begins at a dot, with or without white space in front. -/
theorem ways_reference_of_gap {gap left : Text} (hgap : IsGap gap) (h : c.rest = gap ++ '.' :: left) :
    (reference style).ways ⟨c, cs⟩ = [] := by
  refine ways_append_of_nil (ways_segment_of_not fun y hy => ?_) _
  rw [h] at hy
  obtain hblank | rfl := head?_gap_dot hgap y hy
  · refine ⟨bareChar_of_isBlank hblank, ?_, ?_⟩ <;>
    · rintro rfl
      exact absurd hblank (by decide)
  · exact ⟨bareChar_of_mem_marks (by decide), by decide, by decide⟩

/-- Nor does the word RENAME. -/
theorem ways_rename_of_gap {gap left : Text} (hgap : IsGap gap) (h : c.rest = gap ++ '.' :: left) :
    (keyword "rename".toList).ways ⟨c, cs⟩ = [] := by
  refine ways_append_of_nil (ways_one_of_not fun y hy => ?_) _
  rw [h] at hy
  obtain hblank | rfl := head?_gap_dot hgap y hy
  · rw [← Bool.not_eq_true]
    intro hletter
    rw [isBlank_of_isLetter (by decide) hletter] at hblank
    exact Bool.noConfusion hblank
  · decide

/-- A reference with a gap has a dot. -/
theorem exists_joint_of_open (hopen : ¬r.IsClosed) : ∃ j js, r.joints = j :: js := by
  refine List.exists_cons_of_ne_nil fun hnil => hopen fun j hj => ?_
  rw [hnil] at hj
  exact absurd hj List.not_mem_nil

section

variable {u v : Way} (hr : r.Written IsGap style) (hopen : ¬r.IsClosed)
include hr hopen

/-- Where ONLY is read as a word, it is the first part, and behind it comes a dot. -/
theorem ways_reference_behind_only (h : u.cursor.rest = r.text ++ renameTail)
    (hv : v ∈ (keyword "only".toList ++ blanks).ways u) : (reference style).ways v = [] := by
  have hannounced : Announced "only".toList v.cursor.rest u.cursor.rest := mem_ways_word hv
  rw [h, Dotted.text, List.append_assoc] at hannounced
  obtain ⟨-, gap, hgap, -, hblank⟩ := (hr.parts r.first List.mem_cons_self).of_announced
    (stopsPart_joints hr.gaps stopsReference_renameTail.part) (List.all_eq_true.mp (by decide))
    (by decide) hannounced
  obtain ⟨j, js, hjoints⟩ := exists_joint_of_open hopen
  have hfront := (hr.gaps j (by rw [hjoints]; exact List.mem_cons_self)).1
  rw [hjoints, List.flatMap_cons, Joint.text, List.append_assoc, List.append_assoc] at hgap
  obtain ⟨gap', hplace, hgap'⟩ := exists_gap_left hblank hfront hgap.symm
  exact ways_reference_of_gap hgap' hplace

/-- Behind what is read of the reference, and white space, there is a dot and no RENAME. -/
theorem ways_rename_behind_reference {read : Way} (h : u.cursor.rest = r.text ++ renameTail)
    (hread : read ∈ (reference style).ways u) (hv : v ∈ blanks.ways ⟨read.cursor, cs⟩) :
    (keyword "rename".toList).ways v = [] := by
  obtain ⟨x, gap, left, hleft, hleftover, hgap⟩ := mem_ways_reference_of_open (c := u.cursor) hr
    stopsReference_renameTail.part hopen h hread
  obtain ⟨gap', hrest, hne, hblank⟩ := mem_ways_blanks hv
  have hrest : read.cursor.rest = gap' ++ v.cursor.rest := hrest
  rw [hleft] at hrest
  obtain ⟨b, gap', rfl⟩ := List.exists_cons_of_ne_nil hne
  cases x with
  | cons y x =>
    -- a part of which something is left is not left in front of white space
    have hb := hblank b List.mem_cons_self
    rw [← (List.cons.inj hrest).1, (hleftover y rfl).1] at hb
    exact Bool.noConfusion hb
  | nil =>
    obtain ⟨gap'', hbehind, hgap''⟩ := exists_gap_left hblank hgap hrest.symm
    exact ways_rename_of_gap hgap'' hbehind

/-- **The rename of a table with gaps is not found**, since RENAME does not stand where the reference
    is left. -/
theorem matchAt?_alterTable_of_open (h : c.rest = "ALTER TABLE ".toList ++ (r.text ++ renameTail)) :
    (RenameForm.alterTable.pattern style).matchAt? c = none := by
  have hnone : (RenameForm.alterTable.pattern style).ways ⟨c, []⟩ = [] := by
    rw [alterTable_eq]
    iterate 4 refine ways_append_of_nil ?_ _
    rw [List.eq_nil_iff_forall_not_mem]
    intro v hv
    obtain ⟨behind, hbehind, hv⟩ := List.mem_flatMap.mp hv
    obtain ⟨read, hread, hbehind⟩ := List.mem_flatMap.mp hbehind
    obtain ⟨place, hplace, hread⟩ := List.mem_flatMap.mp hread
    obtain ⟨u, hu, hplace⟩ := List.mem_flatMap.mp hplace
    obtain ⟨w, hw, hu⟩ := List.mem_flatMap.mp hu
    have hw : w.cursor.rest = r.text ++ renameTail :=
      rest_of_mem_ways_tableLead "ALTER".toList h (by decide) (Dotted.isBlank_head?_text hr _) hw
    -- no optional word is read, and what is read of the reference is left in front of a gap
    obtain hu | rfl := mem_ways_optional hu
    · have hnone : ifExists.ways w = [] := ways_eq_nil_at_reference
        (ifWords_introduces letters_R ⟨'e', by decide, rfl⟩ _) hr
        stopsReference_renameTail.part ends_renameTail hw
      rw [hnone] at hu
      exact absurd hu List.not_mem_nil
    · obtain hplace | rfl := mem_ways_optional hplace
      · rw [ways_capture_of_nil (ways_reference_behind_only hr hopen hw hplace)] at hread
        exact absurd hread List.not_mem_nil
      · obtain ⟨read', hread', rfl⟩ := List.mem_map.mp hread
        rw [ways_rename_behind_reference hr hopen hw hread' hbehind] at hv
        exact absurd hv List.not_mem_nil
  unfold Pattern.matchAt?
  rw [hnone]
  rfl

end

end TableLedger.Script
