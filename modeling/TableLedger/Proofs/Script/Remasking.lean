/-
  TableLedger.Proofs.Script.Remasking — masks of masked scripts.

  Blanking a region changes what stands behind the regions in front of it, and in front
  of the regions behind it, and the reading of a script looks both ways: ahead, for the
  second half of a comment mark, a doubled closing mark or a dollar tag; back, for the E
  of an escape string and for the identifier that a dollar sign belongs to.  Neither makes
  a difference.  A blank is half of no mark and belongs to no identifier.  Nor did what
  stood at the end of a blanked region, for that was its closing mark; or else nothing
  follows, or the end of the line.

  So a masked script falls into the regions of the script, with single blanks in place
  of those that are hidden, and to mask it again is to hide more of it at once:

      mask hides' (mask hides script) = mask (hides or hides') script

  A classification sees two masks of a script, and the one without literals can be read
  off the other.  So it sees only what `maskComments` shows; in PostgreSQL, where no
  statement form looks at literals, only what `maskCommentsAndLiterals` shows.

  Main statements:
    • `endsClosed_regionAt` — what stands at the end of a region,
    • `regionAt_take_append_of_shown` — a region that is shown opens as it did,
    • `regions_mask` — the regions of a masked script,
    • `mask_mask`, `masks_are_projections` — masking twice is masking once,
    • `classify_congr_masks` — scripts with equal masks are classified alike.
-/

import TableLedger.Proofs.Script.RequotedName

namespace TableLedger.Script

variable {d : Dialect} {hides hides' : Hiding} {before before' rest t : Text} {c : Char}

/-! ## §1. Where regions end -/

/-- After `n` characters nothing is left of the text, or its line ends, or the last
    character taken belongs to no identifier. -/
def EndsClosed (t : Text) (n : Nat) : Prop :=
  t.drop n = [] ∨ (t.drop n).head? = some '\n'
    ∨ ∃ front mark, t.take n = front ++ [mark] ∧ isNameChar mark = false

theorem EndsClosed.cons {n : Nat} (h : EndsClosed t n) (c : Char) : EndsClosed (c :: t) (n + 1) := by
  obtain hnil | hline | ⟨front, mark, htake, hmark⟩ := h
  · exact .inl hnil
  · exact .inr (.inl hline)
  · exact .inr (.inr ⟨c :: front, mark, by rw [List.take_succ_cons, htake]; rfl, hmark⟩)

/-- A text in front makes no difference to how a region ends. -/
theorem EndsClosed.append {n : Nat} (h : EndsClosed t n) (front : Text) :
    EndsClosed (front ++ t) (front.length + n) := by
  induction front with
  | nil => simpa using h
  | cons c front ih =>
    rw [List.length_cons, Nat.add_right_comm]
    exact ih.cons c

/-- A comment on a line ends with the line or the script. -/
theorem endsClosed_lineLength (t : Text) : EndsClosed t (lineLength t) := by
  induction t with
  | nil => exact .inl rfl
  | cons c t ih =>
    by_cases hc : c = '\n'
    · exact .inr (.inl (by simp [lineLength, hc]))
    · have hlength : lineLength (c :: t) = lineLength t + 1 := by simp [lineLength, hc]
      rw [hlength]
      exact ih.cons c

/-- A region with a closing mark ends with the mark or the script. -/
theorem endsClosed_lengthThrough {mark front : Text} {last : Char} (hmark : mark = front ++ [last])
    (hlast : isNameChar last = false) (t : Text) : EndsClosed t (lengthThrough mark t) := by
  induction t with
  | nil => exact .inl rfl
  | cons c t ih =>
    rw [lengthThrough]
    split
    · next hprefix =>
      obtain ⟨behind, hbehind⟩ := List.isPrefixOf_iff_prefix.mp hprefix
      refine .inr (.inr ⟨front, last, ?_, hlast⟩)
      rw [← hbehind, List.take_left, hmark]
    · exact ih.cons c

theorem endsClosed_quotedLength {q : Char} (hq : isNameChar q = false) (t : Text) :
    EndsClosed t (quotedLength q t) := by
  fun_induction quotedLength q t with
  | case1 => exact .inl rfl
  | case2 rest ih => exact (ih.cons q).cons q
  | case3 d rest hd => exact .inr (.inr ⟨[], q, rfl, hq⟩)
  | case4 => exact .inl rfl
  | case5 c rest hc ih => exact ih.cons c

theorem endsClosed_escapedLength (t : Text) : EndsClosed t (escapedLength t) := by
  fun_induction escapedLength t with
  | case1 => exact .inl rfl
  | case2 c rest ih => exact (ih.cons c).cons '\\'
  | case3 => exact .inl rfl
  | case4 rest hne ih => exact (ih.cons '\'').cons '\''
  | case5 d rest hd => exact .inr (.inr ⟨[], '\'', rfl, by decide⟩)
  | case6 => exact .inl rfl
  | case7 c rest hescape hquote ih => exact ih.cons c

/-- **A region ends with its closing mark**, with its line, or with the script. -/
theorem endsClosed_regionAt (d : Dialect) (before : Text) (c : Char) (rest : Text)
    (hkind : (regionAt d before c rest).1 ≠ .plain) :
    EndsClosed rest (regionAt d before c rest).2 := by
  unfold regionAt at hkind ⊢
  -- one case for each kind of region, in the order in which the scanner asks for them
  split_ifs at hkind ⊢ with hline hblock hliteral hescapes hname hbracket hdollar
  · exact endsClosed_lineLength rest
  · obtain ⟨body, rfl⟩ := List.head?_eq_some_iff.mp hblock.2
    have hmark : "*/".toList = ['*'] ++ ['/'] := rfl
    exact (endsClosed_lengthThrough hmark (by decide) body).cons '*'
  · exact endsClosed_escapedLength rest
  · exact endsClosed_quotedLength (by rw [hliteral]; decide) rest
  · exact endsClosed_quotedLength (by rw [hname]; decide) rest
  · exact endsClosed_quotedLength (by decide) rest
  · cases htag : dollarTag? before rest with
    | none => rw [htag] at hkind; exact absurd rfl hkind
    | some tag =>
      obtain ⟨⟨body, rfl⟩, -⟩ := exists_of_dollarTag?_eq_some htag
      have hmark : '$' :: tag ++ ['$'] = ('$' :: tag) ++ ['$'] := rfl
      have hbody := endsClosed_lengthThrough hmark (by decide) body
      have hdrop : (tag ++ ['$'] ++ body).drop (tag.length + 1) = body := List.drop_left' (by simp)
      simp only [hdrop]
      simpa using hbody.append (tag ++ ['$'])
  · exact absurd rfl hkind

/-! ## §2. What stands in front -/

/-- Neither an identifier nor the letter of an escape string stands in front. -/
structure StartsAfresh (before : Text) : Prop where
  endsInName : endsInName before = false
  opensEscapes : opensEscapes before = false

/-- A character that belongs to no identifier makes a fresh start. -/
theorem startsAfresh_cons (hc : isNameChar c = false) (before : Text) : StartsAfresh (c :: before) := by
  refine ⟨hc, ?_⟩
  have hletter : (c == 'E' || c == 'e') = false := by
    rw [Bool.or_eq_false_iff, beq_eq_false_iff_ne, beq_eq_false_iff_ne]
    refine ⟨?_, ?_⟩ <;>
    · rintro rfl
      exact absurd hc (by decide)
  rw [Script.opensEscapes, hletter, Bool.false_and]

/-- Blanks belong to no identifier. -/
theorem isNameChar_of_mem_blank (h : c ∈ blank t) : isNameChar c = false := by
  obtain rfl | rfl := mem_blank h
  · decide
  · decide

/-- Behind blanks a text starts afresh. -/
theorem startsAfresh_blank (hne : t ≠ []) (before : Text) :
    StartsAfresh ((blank t).reverse ++ before) := by
  obtain ⟨c, others, hblank⟩ := List.exists_cons_of_ne_nil (List.reverse_ne_nil_iff.mpr (blank_ne_nil hne))
  have hc : c ∈ blank t := by
    rw [← List.mem_reverse, hblank]
    exact List.mem_cons_self
  rw [hblank]
  exact startsAfresh_cons (isNameChar_of_mem_blank hc) _

/-- Two texts in front of a place, as far as they are looked at. -/
structure SameFront (before before' : Text) : Prop where
  endsInName : endsInName before = endsInName before'
  opensEscapes : opensEscapes before = opensEscapes before'

theorem StartsAfresh.sameFront (h : StartsAfresh before) (h' : StartsAfresh before') :
    SameFront before before' :=
  ⟨h.endsInName.trans h'.endsInName.symm, h.opensEscapes.trans h'.opensEscapes.symm⟩

/-- Texts that look alike from behind still do with the same text behind them. -/
theorem SameFront.append (h : SameFront before before') (t : Text) :
    SameFront (t ++ before) (t ++ before') := by
  induction t with
  | nil => exact h
  | cons c t ih => exact ⟨rfl, by simp only [List.cons_append, Script.opensEscapes, ih.endsInName]⟩

/-- What stands in front of a text makes no difference to how it is read. -/
def ReadsAlike (before before' t : Text) : Prop :=
  t = [] ∨ t.head? = some '\n' ∨ SameFront before before'

/-- A text that is read alike opens with the same region. -/
theorem ReadsAlike.regionAt_eq (h : ReadsAlike before before' (c :: rest)) (d : Dialect) :
    regionAt d before' c rest = regionAt d before c rest := by
  obtain hnil | hline | hfront := h
  · exact absurd hnil (List.cons_ne_nil c rest)
  · have hc : c = '\n' := by simpa using hline
    rw [regionAt_blank d before' (.inr hc), regionAt_blank d before (.inr hc)]
  · unfold regionAt dollarTag?
    rw [hfront.endsInName, hfront.opensEscapes]

/-- Behind characters that both have read, texts are read alike. -/
theorem ReadsAlike.behind (h : ReadsAlike before before' (c :: rest)) (taken behind : Text) :
    ReadsAlike ((c :: taken).reverse ++ before) ((c :: taken).reverse ++ before') behind := by
  have hfirst : SameFront (c :: before) (c :: before') := by
    obtain hnil | hline | hfront := h
    · exact absurd hnil (List.cons_ne_nil c rest)
    · have hc : isNameChar c = false := by
        obtain rfl : c = '\n' := by simpa using hline
        decide
      exact (startsAfresh_cons hc before).sameFront (startsAfresh_cons hc before')
    · exact hfront.append [c]
  refine .inr (.inr ?_)
  rw [List.reverse_cons, List.append_assoc, List.append_assoc]
  exact hfirst.append taken.reverse

/-- Behind a region, a text is read as it is behind its blanks. -/
theorem readsAlike_behind_blank (hkind : (regionAt d before c rest).1 ≠ .plain) (before' : Text) :
    ReadsAlike ((c :: rest.take (regionAt d before c rest).2).reverse ++ before)
      ((blank (c :: rest.take (regionAt d before c rest).2)).reverse ++ before')
      (rest.drop (regionAt d before c rest).2) := by
  obtain hnil | hline | ⟨front, mark, htake, hmark⟩ := endsClosed_regionAt d before c rest hkind
  · exact .inl hnil
  · exact .inr (.inl hline)
  · refine .inr (.inr (StartsAfresh.sameFront ?_ (startsAfresh_blank (List.cons_ne_nil _ _) before')))
    rw [htake, ← List.cons_append, List.reverse_concat, List.cons_append]
    exact startsAfresh_cons hmark _

/-! ## §3. What follows -/

/-- Characters of identifiers at the beginning of what a text is shown as stand at the
    beginning of the text, and so does a dollar sign behind them. -/
theorem exists_of_shownBehind_eq (hplain : hides .plain = false) {names behind : Text}
    (hnames : ∀ c ∈ names, isNameChar c = true)
    (h : shownBehind hides d before t = names ++ '$' :: behind) :
    ∃ behind', t = names ++ '$' :: behind' := by
  have hkept : FrontKept (shownBehind hides d before t) t := frontKept_mask hides d before t
  induction names generalizing before t with
  | nil =>
    rw [h] at hkept
    exact List.head?_eq_some_iff.mp (hkept.head?_eq_of_ne (by decide) rfl)
  | cons c names ih =>
    have hc : isNameChar c = true := hnames c List.mem_cons_self
    have hspace : c ≠ ' ' := by
      rintro rfl
      exact absurd hc (by decide)
    rw [h] at hkept
    obtain ⟨rest, rfl⟩ := List.head?_eq_some_iff.mp (hkept.head?_eq_of_ne hspace rfl)
    -- such a character opens no region, so the text behind it is shown behind it
    have hmark : c ∉ ['-', '/', '\'', '"', '[', '$'] := by
      intro hmem
      have hall : (['-', '/', '\'', '"', '[', '$'].all fun c => !isNameChar c) = true := by decide
      have hnot := List.all_eq_true.mp hall c hmem
      rw [hc] at hnot
      exact Bool.noConfusion hnot
    rw [shownBehind_plain hplain (regionAt_of_not_mark hmark before rest)] at h
    obtain ⟨behind', rfl⟩ := ih (fun x hx => hnames x (List.mem_cons_of_mem c hx))
      (List.cons.inj h).2 (frontKept_mask hides d (c :: before) rest)
    exact ⟨behind', rfl⟩

/-- A dollar sign that begins no body begins none when what follows it is masked. -/
theorem dollarTag?_shownBehind_eq_none (hplain : hides .plain = false)
    (h : dollarTag? before rest = none) (front : Text) :
    dollarTag? before (shownBehind hides d front rest) = none := by
  rw [← Option.not_isSome_iff_eq_none, isSome_dollarTag?_iff] at h ⊢
  rintro ⟨hfront, tag, behind, hshown, hnames, hdigit⟩
  obtain ⟨behind', hrest⟩ := exists_of_shownBehind_eq hplain hnames hshown
  exact h ⟨hfront, tag, behind', hrest, hnames, hdigit⟩

/-- **A region that is shown opens as it did**, with the same kind and length, when what
    follows it is masked. -/
theorem regionAt_take_append_of_shown (hplain : hides .plain = false) {kind : RegionKind} {n : Nat}
    (hfound : regionAt d before c rest = (kind, n)) (hcomment : kind ≠ .comment)
    (hbody : kind ≠ .dollarBody) (front : Text) :
    regionAt d before c (rest.take n ++ shownBehind hides d front (rest.drop n)) = (kind, n) :=
  regionAt_take_append hfound hcomment hbody (frontKept_mask hides d front (rest.drop n))
    fun _ htag => dollarTag?_shownBehind_eq_none hplain htag front

/-! ## §4. The regions of a masked script -/

/-- The mask shows plain code, and hides comments and dollar-quoted bodies. -/
structure Hiding.ShowsCode (hides : Hiding) : Prop where
  plain : hides .plain = false
  comment : hides .comment = true
  dollarBody : hides .dollarBody = true

/-- A region as it is read back from a masked script: what was hidden has become plain
    blanks. -/
def Region.readBack (hides : Hiding) (r : Region) : List Region :=
  if hides r.kind then (blank r.text).map fun c => ⟨.plain, [c]⟩ else [r]

/-- A masked text is read back region by region, whatever stands in front of it. -/
theorem regionsAfter_shownBehind (hshows : hides.ShowsCode) (d : Dialect) (before t : Text) :
    ∀ before', ReadsAlike before before' t →
      regionsAfter d before' (shownBehind hides d before t)
        = (regionsAfter d before t).flatMap (Region.readBack hides) := by
  fun_induction regionsAfter d before t with
  | case1 =>
    intro before' _
    rw [shownBehind_nil, regionsAfter]
    rfl
  | case2 before c rest found text ih =>
    intro before' halike
    have hshown : shownBehind hides d before (c :: rest)
        = Region.masked hides ⟨found.1, text⟩
          ++ shownBehind hides d (text.reverse ++ before) (rest.drop found.2) := by
      unfold shownBehind
      rw [regionsAfter, List.flatMap_cons]
    rw [hshown, List.flatMap_cons]
    cases hhidden : hides found.1 with
    | true =>
      -- a hidden region comes back as blanks, which are read one by one
      have hkind : found.1 ≠ .plain := by
        intro hplain
        rw [hplain, hshows.plain] at hhidden
        exact Bool.noConfusion hhidden
      rw [masked_of_hidden hhidden, regionsAfter_blanks d _ _ _ fun x hx => mem_blank hx,
        ih _ (readsAlike_behind_blank hkind before'), Region.readBack, if_pos hhidden]
    | false =>
      -- any other region opens again where it did
      have hcomment : found.1 ≠ .comment := by
        intro hcomment
        rw [hcomment, hshows.comment] at hhidden
        exact Bool.noConfusion hhidden
      have hbody : found.1 ≠ .dollarBody := by
        intro hbody
        rw [hbody, hshows.dollarBody] at hhidden
        exact Bool.noConfusion hhidden
      have hopen : regionAt d before' c
          (rest.take found.2 ++ shownBehind hides d (text.reverse ++ before) (rest.drop found.2))
          = found :=
        regionAt_take_append_of_shown hshows.plain (halike.regionAt_eq d) hcomment hbody _
      have hkept : FrontKept (shownBehind hides d (text.reverse ++ before) (rest.drop found.2))
          (rest.drop found.2) := frontKept_mask hides d _ _
      have hcut := take_take_append (n := found.2) hkept.1
      rw [masked_of_shown hhidden, List.cons_append, regionsAfter]
      simp only [hopen, hcut.1, hcut.2]
      rw [ih _ (halike.behind _ _), Region.readBack, if_neg (by simp [hhidden])]
      rfl

/-- The regions of a masked script. -/
theorem regions_mask (hshows : hides.ShowsCode) (d : Dialect) (script : Text) :
    regions d (mask hides d script) = (regions d script).flatMap (Region.readBack hides) :=
  regionsAfter_shownBehind hshows d [] script [] (.inr (.inr ⟨rfl, rfl⟩))

/-! ## §5. Masks of masked scripts -/

/-- To mask what is read back is to hide what either mask hides. -/
theorem masked_readBack (hplain : hides' .plain = false) (r : Region) :
    (r.readBack hides).flatMap (Region.masked hides')
      = r.masked fun kind => hides kind || hides' kind := by
  cases hhidden : hides r.kind with
  | true =>
    have hone : ∀ c : Char, Region.masked hides' ⟨.plain, [c]⟩ = [c] :=
      fun c => masked_of_shown hplain [c]
    rw [Region.readBack, if_pos hhidden, List.flatMap_map]
    simp only [hone]
    rw [List.flatMap_singleton', Region.masked, if_pos (by simp [hhidden])]
  | false =>
    rw [Region.readBack, if_neg (by simp [hhidden]), List.flatMap_singleton, Region.masked,
      Region.masked, hhidden, Bool.false_or]

/-- **To mask a masked script** is to hide what either mask hides. -/
theorem mask_mask (hshows : hides.ShowsCode) (hplain : hides' .plain = false) (d : Dialect)
    (script : Text) :
    mask hides' d (mask hides d script) = mask (fun kind => hides kind || hides' kind) d script := by
  calc mask hides' d (mask hides d script)
      = ((regions d script).flatMap (Region.readBack hides)).flatMap (Region.masked hides') := by
        rw [mask, regions_mask hshows]
    _ = (regions d script).flatMap fun r => (r.readBack hides).flatMap (Region.masked hides') :=
        List.flatMap_assoc
    _ = mask (fun kind => hides kind || hides' kind) d script := by
        simp only [masked_readBack hplain]
        rfl

theorem hidesComments_showsCode : hidesComments.ShowsCode := ⟨rfl, rfl, rfl⟩

theorem hidesLiterals_showsCode : hidesLiterals.ShowsCode := ⟨rfl, rfl, rfl⟩

/-- What hides more makes no difference to what hides less. -/
theorem hidesComments_or_hidesLiterals (kind : RegionKind) :
    (hidesComments kind || hidesLiterals kind) = hidesLiterals kind := by
  cases kind <;> rfl

/-- A script without its comments looks without its literals as it did. -/
theorem maskCommentsAndLiterals_maskComments (d : Dialect) (script : Text) :
    maskCommentsAndLiterals d (maskComments d script) = maskCommentsAndLiterals d script := by
  unfold maskComments maskCommentsAndLiterals
  rw [mask_mask hidesComments_showsCode rfl]
  simp only [hidesComments_or_hidesLiterals]

/-- **The two masks are projections that commute**: each of them leaves its own masks as
    they are, and in either order they come to the mask that hides more. -/
theorem masks_are_projections (d : Dialect) (script : Text) :
    maskComments d (maskComments d script) = maskComments d script
      ∧ maskCommentsAndLiterals d (maskCommentsAndLiterals d script)
          = maskCommentsAndLiterals d script
      ∧ maskCommentsAndLiterals d (maskComments d script) = maskCommentsAndLiterals d script
      ∧ maskComments d (maskCommentsAndLiterals d script) = maskCommentsAndLiterals d script := by
  unfold maskComments maskCommentsAndLiterals
  rw [mask_mask hidesComments_showsCode rfl, mask_mask hidesLiterals_showsCode rfl,
    mask_mask hidesComments_showsCode rfl, mask_mask hidesLiterals_showsCode rfl]
  simp only [Bool.or_self, hidesComments_or_hidesLiterals, Bool.or_comm (hidesLiterals _), and_self]

/-! ## §6. What a classification sees -/

/-- The two masks are all that is kept of a script. -/
theorem ofScript_congr {s t : Text}
    (hliterals : maskCommentsAndLiterals d s = maskCommentsAndLiterals d t)
    (hcomments : maskComments d s = maskComments d t) :
    MaskedScript.ofScript d s = MaskedScript.ofScript d t := by
  unfold MaskedScript.ofScript
  rw [hliterals, hcomments]

/-- What is sighted is sighted in the masks. -/
theorem sightings_congr {s t : Text} (schema : Text)
    (h : MaskedScript.ofScript d s = MaskedScript.ofScript d t) :
    sightings d schema s = sightings d schema t := by
  unfold sightings
  rw [h]

/-- PostgreSQL has no rename procedure, so its renames are sought in code alone. -/
theorem renames_congr_code {n : Naming} (hn : n.dialect = .pg) {texts texts' : MaskedScript}
    (h : texts.code = texts'.code) : n.renames texts = n.renames texts' := by
  unfold Naming.renames
  rw [hn]
  simp [Dialect.renameForms, Naming.renamesOf, h]

/-- In PostgreSQL everything is sighted in code. -/
theorem sightings_pg_congr {s t : Text} (schema : Text)
    (h : (MaskedScript.ofScript .pg s).code = (MaskedScript.ofScript .pg t).code) :
    sightings .pg schema s = sightings .pg schema t := by
  have hrenames := renames_congr_code (n := ⟨.pg, schema⟩) rfl h
  unfold sightings
  simp only [h, hrenames]

/-- **What masks hide has no influence.**  Scripts of the SQL Server family that
    agree up to comments are classified alike, with the same events or the same
    error; in PostgreSQL they need agree only up to comments, dollar-quoted
    bodies and literals. -/
theorem classify_congr_masks (schema s t : Text) :
    (∀ d : Dialect, d.isServerFamily = true → maskComments d s = maskComments d t →
        classify d schema s = classify d schema t)
      ∧ (maskCommentsAndLiterals .pg s = maskCommentsAndLiterals .pg t →
        classify .pg schema s = classify .pg schema t) := by
  refine ⟨fun d _ h => ?_, fun h => ?_⟩
  · have hliterals : maskCommentsAndLiterals d s = maskCommentsAndLiterals d t := by
      rw [← maskCommentsAndLiterals_maskComments d s, h, maskCommentsAndLiterals_maskComments d t]
    unfold classify
    rw [sightings_congr schema (ofScript_congr hliterals h)]
  · unfold classify
    rw [sightings_pg_congr schema (code_ofScript_congr h)]

/-- Marks and statements inside comments and literals do not show. -/
theorem classify_hidden_marks :
    (maskComments .ms "DROP TABLE t /* ' [ */".toList = maskComments .ms "DROP TABLE t -- DROP ;".toList
      ∧ classify .ms "dbo".toList "DROP TABLE t /* ' [ */".toList
        = classify .ms "dbo".toList "DROP TABLE t -- DROP ;".toList)
    ∧ (maskCommentsAndLiterals .pg "SELECT $$'$$, E'\\''; DROP TABLE t".toList
        = maskCommentsAndLiterals .pg "SELECT $$;$$, E'--'; DROP TABLE t".toList
      ∧ classify .pg "public".toList "SELECT $$'$$, E'\\''; DROP TABLE t".toList
        = classify .pg "public".toList "SELECT $$;$$, E'--'; DROP TABLE t".toList) := by
  have hms : maskComments .ms "DROP TABLE t /* ' [ */".toList
      = maskComments .ms "DROP TABLE t -- DROP ;".toList := by decide +kernel
  have hpg : maskCommentsAndLiterals .pg "SELECT $$'$$, E'\\''; DROP TABLE t".toList
      = maskCommentsAndLiterals .pg "SELECT $$;$$, E'--'; DROP TABLE t".toList := by decide +kernel
  exact ⟨⟨hms, (classify_congr_masks _ _ _).1 .ms rfl hms⟩,
    ⟨hpg, (classify_congr_masks _ _ _).2 hpg⟩⟩

end TableLedger.Script
