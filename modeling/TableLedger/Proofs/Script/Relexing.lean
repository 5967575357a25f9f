/-
  TableLedger.Proofs.Script.Relexing — reading a text again whose end is another one.

  A region is read character by character, with a look at the character behind it: the
  second half of a comment mark, or a closing mark that is doubled.  What is shown of the
  text behind a region, once it is masked, begins as that text does or with a blank, and a
  blank is half of no mark.  So a quotation is closed where it was, and plain code stays
  plain code.  Only a dollar sign looks further ahead, for the whole of a tag.

  Main statements:
    • `frontKept_mask` — the front of a masked text,
    • `regionAt_take_append` — a region that is shown opens as it did,
    • `regionsAfter_blanks` — blanks are read one by one.
-/

import Mathlib.Tactic.SplitIfs
import TableLedger.Script.Classify

namespace TableLedger.Script

/-! ## §1. What stands at the front of a masked text -/

/-- `shown` begins as `t` does, but for a blank in place of the first
    character, and is empty if `t` is. -/
def FrontKept (shown t : Text) : Prop :=
  (t = [] → shown = []) ∧ (shown.head? = t.head? ∨ shown.head? = some ' ')

/-- A character that is no blank stands at the front of both. -/
theorem FrontKept.head?_eq_of_ne {shown t : Text} (h : FrontKept shown t) {c : Char}
    (hc : c ≠ ' ') (hs : shown.head? = some c) : t.head? = some c := by
  rcases h.2 with he | he
  · rw [← he, hs]
  · rw [hs] at he
    injection he with he
    exact absurd he hc

/-- A character gives way to blanks. -/
theorem frontKept_blankChar (c : Char) (rest t : Text) :
    FrontKept (blankChar c ++ rest) (c :: t) := by
  refine ⟨fun h => by simp at h, ?_⟩
  unfold blankChar
  split
  · next hc => left; simp [hc]
  · -- any other character gives way to at least one space
    right
    obtain ⟨n, hn⟩ : ∃ n, c.utf8Size = n + 1 := ⟨c.utf8Size - 1, by have := c.utf8Size_pos; omega⟩
    rw [hn, List.replicate_succ]
    rfl

/-- The front of a region as a mask shows it. -/
theorem frontKept_masked (hides : Hiding) (r : Region) (rest t : Text) (hr : r.text ≠ []) :
    FrontKept (r.masked hides ++ rest) (r.text ++ t) := by
  obtain ⟨c, text, htext⟩ := List.exists_cons_of_ne_nil hr
  unfold Region.masked
  split
  · rw [htext, blank, List.flatMap_cons, List.append_assoc, List.cons_append]
    exact frontKept_blankChar c _ _
  · rw [htext]
    exact ⟨fun h => by simp at h, Or.inl rfl⟩

/-- The front of a masked text. -/
theorem frontKept_mask (hides : Hiding) (d : Dialect) (before t : Text) :
    FrontKept ((regionsAfter d before t).flatMap (Region.masked hides)) t := by
  cases t with
  | nil => rw [regionsAfter]; exact ⟨fun _ => rfl, Or.inl rfl⟩
  | cons c rest =>
    have hflat := flatten_regionsAfter d before (c :: rest)
    -- the text is its regions in a row, so its front is that of the first one
    rw [regionsAfter] at hflat ⊢
    rw [List.flatMap_cons] at hflat ⊢
    rw [← hflat]
    exact frontKept_masked hides _ _ _ (by simp)

/-! ## §2. Quotations are closed where they were -/

variable {t shown : Text}

/-- A character that is no closing mark belongs to the quotation. -/
theorem quotedLength_cons_of_ne {q c : Char} (hc : c ≠ q) (t : Text) :
    quotedLength q (c :: t) = quotedLength q t + 1 := by
  cases t <;> simp [quotedLength, hc]

/-- Behind a closed quotation stands no second closing mark. -/
theorem head?_drop_quotedLength (q : Char) (t : Text) :
    (t.drop (quotedLength q t)).head? ≠ some q := by
  fun_induction quotedLength q t with
  | case1 => simp
  | case2 rest ih => simpa using ih
  | case3 d rest hd => simpa using hd
  | case4 => simp
  | case5 c rest hc ih => simpa using ih

/-- A quotation reaches as far when what follows it changes, unless a closing
    mark comes to stand there. -/
theorem quotedLength_take_append (q : Char) (t shown : Text)
    (hnil : t.drop (quotedLength q t) = [] → shown = []) (hq : shown.head? ≠ some q) :
    quotedLength q (t.take (quotedLength q t) ++ shown) = quotedLength q t := by
  -- the dangerous place is the end: a closing mark there would join a doubled one
  fun_induction quotedLength q t with
  | case1 => rw [hnil rfl]; rfl
  | case2 rest ih =>
    have := ih hnil
    simp [quotedLength, this]
  | case3 d rest hd =>
    cases shown with
    | nil => simp [quotedLength]
    | cons s shown =>
      have hs : s ≠ q := by simpa using hq
      simp [quotedLength, hs]
  | case4 => rw [hnil (by simp)]; simp [quotedLength]
  | case5 c rest hc ih =>
    have := ih hnil
    rw [List.take_succ_cons, List.cons_append, quotedLength_cons_of_ne hc, this]

/-- A quotation reaches as far when what follows it is masked. -/
theorem quotedLength_take_append_of_frontKept {q : Char} (hq : q ≠ ' ')
    (h : FrontKept shown (t.drop (quotedLength q t))) :
    quotedLength q (t.take (quotedLength q t) ++ shown) = quotedLength q t :=
  quotedLength_take_append q t shown h.1
    fun hs => head?_drop_quotedLength q t (h.head?_eq_of_ne hq hs)

/-- A character that is no quote and escapes nothing belongs to the escape string. -/
theorem escapedLength_cons_of_ne {c : Char} (hescape : c ≠ '\\') (hquote : c ≠ '\'') (t : Text) :
    escapedLength (c :: t) = escapedLength t + 1 := by
  cases t <;> simp [escapedLength, hescape, hquote]

/-- Behind a closed escape string stands no second quote. -/
theorem head?_drop_escapedLength (t : Text) : (t.drop (escapedLength t)).head? ≠ some '\'' := by
  fun_induction escapedLength t with
  | case1 => simp
  | case2 c rest ih => simpa using ih
  | case3 => simp
  | case4 rest hne ih => simpa using ih
  | case5 d rest hd => simpa using hd
  | case6 => simp
  | case7 c rest hescape hquote ih => simpa using ih

/-- An escape string reaches as far, too. -/
theorem escapedLength_take_append_of_frontKept (h : FrontKept shown (t.drop (escapedLength t))) :
    escapedLength (t.take (escapedLength t) ++ shown) = escapedLength t := by
  have hquote : shown.head? ≠ some '\'' :=
    fun hs => head?_drop_escapedLength t (h.head?_eq_of_ne (by decide) hs)
  have hnil : t.drop (escapedLength t) = [] → shown = [] := h.1
  clear h
  -- what is put behind matters only where the string has ended, so both facts go through the
  -- induction
  fun_induction escapedLength t with
  | case1 => rw [hnil rfl]; rfl
  | case2 c rest ih =>
    have hrest := ih hnil
    simp [escapedLength, hrest]
  | case3 => rw [hnil rfl]; rfl
  | case4 rest hne ih =>
    have hrest := ih hnil
    simp [escapedLength, hrest]
  | case5 d rest hd =>
    cases shown with
    | nil => simp [escapedLength]
    | cons s shown =>
      have hs : s ≠ '\'' := by simpa using hquote
      simp [escapedLength, hs]
  | case6 => rw [hnil rfl]; rfl
  | case7 c rest hescape hne ih =>
    have hrest := ih hnil
    rw [List.take_succ_cons, List.cons_append, escapedLength_cons_of_ne hescape hne, hrest]

/-! ## §3. Regions open where they opened -/

variable {d : Dialect} {before : Text} {c : Char} {rest : Text}

/-- What is put behind a region that was cut off is what is left behind it. -/
theorem take_take_append {n : Nat} (h : rest.drop n = [] → shown = []) :
    (rest.take n ++ shown).take n = rest.take n ∧ (rest.take n ++ shown).drop n = shown := by
  -- a region that is not closed reaches to the end, and then nothing is shown behind it
  rcases Nat.lt_or_ge rest.length n with hn | hn
  · have hshown : shown = [] := h (List.drop_eq_nil_of_le (by omega))
    subst hshown
    simp [List.take_take]
  · have hlen : (rest.take n).length = n := by simp [List.length_take]; omega
    constructor
    · rw [List.take_append_of_le_length (by omega), List.take_take, Nat.min_self]
    · rw [List.drop_append_of_le_length (by omega), List.drop_eq_nil_of_le (by omega),
        List.nil_append]

/-- A quote opens a literal, or in PostgreSQL behind a letter E an escape string. -/
theorem regionAt_literal (d : Dialect) (before rest : Text) :
    regionAt d before '\'' rest
      = (.literal, if d = .pg ∧ opensEscapes before then escapedLength rest
          else quotedLength '\'' rest) := by
  simp [regionAt]

/-- A double quote opens a quoted name in every dialect. -/
theorem regionAt_doubleQuote (d : Dialect) (before rest : Text) :
    regionAt d before '"' rest = (.quotedName, quotedLength '"' rest) := by
  simp [regionAt]

/-- A bracket opens a quoted name where names are written in brackets. -/
theorem regionAt_bracket (hd : d.quoteStyle = .bracket) (before rest : Text) :
    regionAt d before '[' rest = (.quotedName, quotedLength ']' rest) := by
  simp [regionAt, hd]

/-- Nothing that is no plain code opens here. -/
structure OpensNothing (d : Dialect) (before : Text) (c : Char) (rest : Text) : Prop where
  literal : c ≠ '\''
  doubleQuote : c ≠ '"'
  bracket : ¬(c = '[' ∧ d.quoteStyle = .bracket)
  lineComment : ¬(c = '-' ∧ rest.head? = some '-')
  blockComment : ¬(c = '/' ∧ rest.head? = some '*')
  dollarBody : c = '$' ∧ d = .pg → dollarTag? before rest = none

/-- Where nothing opens, the character is plain code. -/
theorem OpensNothing.regionAt_eq (h : OpensNothing d before c rest) :
    regionAt d before c rest = (.plain, 0) := by
  unfold regionAt
  rw [if_neg h.lineComment, if_neg h.blockComment, if_neg h.literal, if_neg h.doubleQuote,
    if_neg h.bracket]
  split
  · next hdollar => rw [h.dollarBody hdollar]
  · rfl

/-- Plain code begins at no mark that opens anything. -/
theorem opensNothing_of_plain (h : (regionAt d before c rest).1 = .plain) :
    OpensNothing d before c rest := by
  unfold regionAt at h
  split_ifs at h with hline hblock hliteral hname hbracket hdollar
  · refine ⟨hliteral, hname, hbracket, hline, hblock, fun _ => ?_⟩
    cases htag : dollarTag? before rest with
    | none => rfl
    | some tag => rw [htag] at h; exact RegionKind.noConfusion h
  · exact ⟨hliteral, hname, hbracket, hline, hblock, fun h => absurd h hdollar⟩

/-- Plain code stays plain code when what follows it changes but for its front. -/
theorem OpensNothing.of_frontKept (h : OpensNothing d before c rest)
    (hfront : FrontKept shown rest)
    (hdollar : d = .pg → dollarTag? before rest = none → dollarTag? before shown = none) :
    OpensNothing d before c shown where
  literal := h.literal
  doubleQuote := h.doubleQuote
  bracket := h.bracket
  lineComment := fun hline => h.lineComment ⟨hline.1, hfront.head?_eq_of_ne (by decide) hline.2⟩
  blockComment := fun hblock =>
    h.blockComment ⟨hblock.1, hfront.head?_eq_of_ne (by decide) hblock.2⟩
  dollarBody := fun hsign => hdollar hsign.2 (h.dollarBody hsign)

/-- **A region that is shown opens as it did**, with the same kind and length, when what
    follows it changes but for its front and brings about no dollar tag. -/
theorem regionAt_take_append {kind : RegionKind} {n : Nat}
    (hfound : regionAt d before c rest = (kind, n)) (hcomment : kind ≠ .comment)
    (hbody : kind ≠ .dollarBody) (hfront : FrontKept shown (rest.drop n))
    (hdollar : d = .pg → dollarTag? before (rest.drop n) = none →
      dollarTag? before shown = none) :
    regionAt d before c (rest.take n ++ shown) = (kind, n) := by
  by_cases hliteral : c = '\''
  · subst hliteral
    rw [regionAt_literal] at hfound ⊢
    by_cases hescapes : d = .pg ∧ opensEscapes before = true
    · rw [if_pos hescapes] at hfound ⊢
      obtain ⟨rfl, rfl⟩ := Prod.mk.inj hfound
      rw [escapedLength_take_append_of_frontKept hfront]
    · rw [if_neg hescapes] at hfound ⊢
      obtain ⟨rfl, rfl⟩ := Prod.mk.inj hfound
      rw [quotedLength_take_append_of_frontKept (by decide) hfront]
  by_cases hname : c = '"'
  · subst hname
    rw [regionAt_doubleQuote] at hfound ⊢
    obtain ⟨rfl, rfl⟩ := Prod.mk.inj hfound
    rw [quotedLength_take_append_of_frontKept (by decide) hfront]
  by_cases hbracket : c = '[' ∧ d.quoteStyle = .bracket
  · obtain ⟨rfl, hd⟩ := hbracket
    rw [regionAt_bracket hd] at hfound ⊢
    obtain ⟨rfl, rfl⟩ := Prod.mk.inj hfound
    rw [quotedLength_take_append_of_frontKept (by decide) hfront]
  -- what opens no quotation, no comment and no body is plain code
  have hkind : kind = .plain := by
    unfold regionAt at hfound
    rw [if_neg hliteral, if_neg hname, if_neg hbracket] at hfound
    split_ifs at hfound with hline hblock hsign
    · exact absurd (congrArg Prod.fst hfound).symm hcomment
    · exact absurd (congrArg Prod.fst hfound).symm hcomment
    · cases htag : dollarTag? before rest with
      | none => rw [htag] at hfound; exact (congrArg Prod.fst hfound).symm
      | some tag => rw [htag] at hfound; exact absurd (congrArg Prod.fst hfound).symm hbody
    · exact (congrArg Prod.fst hfound).symm
  have hopens : OpensNothing d before c rest :=
    opensNothing_of_plain (by rw [hfound]; exact hkind)
  rw [hopens.regionAt_eq] at hfound
  obtain ⟨rfl, rfl⟩ := Prod.mk.inj hfound
  rw [List.take_zero, List.nil_append]
  exact (hopens.of_frontKept hfront hdollar).regionAt_eq

/-- In the SQL Server family there are neither escape strings nor dollar-quoted
    bodies, so what stands in front of a place does not matter. -/
theorem regionAt_of_isServerFamily (hd : d.isServerFamily = true)
    (before : Text) (c : Char) (rest : Text) :
    regionAt d before c rest =
      if c = '-' ∧ rest.head? = some '-' then (.comment, lineLength rest)
      else if c = '/' ∧ rest.head? = some '*' then
        (.comment, lengthThrough ['*', '/'] (rest.drop 1) + 1)
      else if c = '\'' then (.literal, quotedLength '\'' rest)
      else if c = '"' then (.quotedName, quotedLength '"' rest)
      else if c = '[' then (.quotedName, quotedLength ']' rest)
      else (.plain, 0) := by
  have hpg : d ≠ .pg := by rintro rfl; exact absurd hd (by decide)
  have hstyle : d.quoteStyle = .bracket := by
    cases d with
    | pg => exact absurd rfl hpg
    | ms | azure => rfl
  unfold regionAt
  simp only [hpg, hstyle, and_true, and_false, false_and, if_false]
  by_cases hl : c = '\'' <;> by_cases hn : c = '"' <;> simp [hl, hn]

/-- In the SQL Server family the same region opens whatever stands in front. -/
theorem regionAt_congr_before (hd : d.isServerFamily = true) (before before' : Text) (c : Char)
    (rest : Text) : regionAt d before' c rest = regionAt d before c rest := by
  rw [regionAt_of_isServerFamily hd, regionAt_of_isServerFamily hd]

/-- No dollar-quoted body opens in the SQL Server family. -/
theorem regionAt_ne_dollarBody (hd : d.isServerFamily = true) (before : Text) (c : Char)
    (rest : Text) : (regionAt d before c rest).1 ≠ .dollarBody := by
  rw [regionAt_of_isServerFamily hd]
  repeat' split
  all_goals simp

/-! ## §4. Blanks -/

/-- Blanks are spaces and line breaks. -/
theorem mem_blank {x : Char} {t : Text} (h : x ∈ blank t) : x = ' ' ∨ x = '\n' := by
  obtain ⟨c, _, hx⟩ := List.mem_flatMap.mp h
  unfold blankChar at hx
  split at hx
  · right; simpa using hx
  · left; exact List.eq_of_mem_replicate hx

/-- A blank opens nothing. -/
theorem regionAt_blank (d : Dialect) (before : Text) {c : Char} (hc : c = ' ' ∨ c = '\n')
    (rest : Text) : regionAt d before c rest = (.plain, 0) := by
  rcases hc with rfl | rfl <;> simp [regionAt]

/-- Blanks are read character by character. -/
theorem regionsAfter_blanks (d : Dialect) (blanks before t : Text)
    (h : ∀ x ∈ blanks, x = ' ' ∨ x = '\n') :
    regionsAfter d before (blanks ++ t)
      = blanks.map (fun c => ⟨.plain, [c]⟩) ++ regionsAfter d (blanks.reverse ++ before) t := by
  induction blanks generalizing before with
  | nil => rfl
  | cons c blanks ih =>
    have hc := regionAt_blank d before (h c List.mem_cons_self) (blanks ++ t)
    have hrest := ih (c :: before) fun x hx => h x (List.mem_cons_of_mem _ hx)
    rw [List.cons_append, regionsAfter]
    simp only [hc, List.take_zero, List.drop_zero, List.reverse_cons, List.reverse_nil,
      List.nil_append, List.cons_append]
    rw [hrest]
    simp

end TableLedger.Script
