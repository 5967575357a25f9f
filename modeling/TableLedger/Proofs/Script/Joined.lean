/-
  TableLedger.Proofs.Script.Joined — the code of two scripts with a semicolon between.

  A scan that has come to the end of a script outside of everything that opens a
  region takes a semicolon for code, and behind a semicolon it starts afresh: no
  dollar tag and no escape string looks further back.  So a script of PostgreSQL
  that is followed by another one keeps its regions, and so does the other:

      glyphs of p ; q  =  glyphs of p, the semicolon, glyphs of q

  Unless the first script opens a routine definition, which would run on to the
  next semicolon, the same holds of the code that is searched.

  Main statements:
    • `regionsAfter_append_semicolon` — the regions of the two scripts,
    • `glyphs_append_semicolon`, `mask_append_semicolon` — their glyphs and masks,
    • `code_append_semicolon` — the code that is searched.
-/

import TableLedger.Proofs.Script.Glyph
import TableLedger.Proofs.Script.Relexing
import TableLedger.Proofs.Script.Vocabulary

namespace TableLedger.Script

/-! ## §1. Regions end in front of a semicolon or take it along -/

/-- What is opened in front of `t`, as far as `length` tells, is closed in `t`, or it
    takes along a semicolon that stands behind `t`; what follows is of no account. -/
def ClosesOrTakes (length : Text → Nat) (t : Text) : Prop :=
  (∀ u, length (t ++ ';' :: u) = length t) ∧ length t ≤ t.length
    ∨ ∀ u, t.length < length (t ++ ';' :: u)

/-- The same of something that takes `front` first. -/
theorem ClosesOrTakes.behind {length length' : Text → Nat} {t : Text}
    (h : ClosesOrTakes length t) (front : Text)
    (hpart : length' (front ++ t) = length t + front.length)
    (hwhole : ∀ u, length' (front ++ (t ++ ';' :: u)) = length (t ++ ';' :: u) + front.length) :
    ClosesOrTakes length' (front ++ t) := by
  obtain ⟨hsame, hle⟩ | htakes := h
  · refine .inl ⟨fun u => ?_, ?_⟩
    · rw [List.append_assoc, hwhole, hpart, hsame]
    · rw [hpart, List.length_append]
      omega
  · refine .inr fun u => ?_
    have hmore := htakes u
    rw [List.append_assoc, hwhole, List.length_append]
    omega

/-- A comment on a line ends with the line, or takes the semicolon along. -/
theorem lineLength_closesOrTakes (t : Text) : ClosesOrTakes lineLength t := by
  induction t with
  | nil => exact .inr fun u => by simp [lineLength]
  | cons c rest ih =>
    by_cases hbreak : c = '\n'
    · exact .inl ⟨fun u => by simp [lineLength, hbreak], by simp [lineLength, hbreak]⟩
    · have hcons : ∀ t, lineLength (c :: t) = lineLength t + 1 := fun t => by
        simp [lineLength, hbreak]
      exact ih.behind [c] (hcons rest) fun u => hcons _

/-- A mark without semicolons is found in front of a semicolon or behind it. -/
theorem isPrefixOf_append_semicolon {mark : Text} (hmark : ';' ∉ mark) (t u : Text) :
    mark.isPrefixOf (t ++ ';' :: u) = mark.isPrefixOf t := by
  induction mark generalizing t with
  | nil => simp
  | cons m mark ih =>
    rw [List.mem_cons, not_or] at hmark
    cases t with
    | nil => simp [List.isPrefixOf, Ne.symm hmark.1]
    | cons c t => simp [List.isPrefixOf, ih hmark.2 t]

/-- A region with a closing mark ends with it, or takes the semicolon along. -/
theorem lengthThrough_closesOrTakes {mark : Text} (hmark : ';' ∉ mark) (hne : mark ≠ [])
    (t : Text) : ClosesOrTakes (lengthThrough mark) t := by
  induction t with
  | nil =>
    have hnot : ∀ u, mark.isPrefixOf (';' :: u) = false := by
      intro u
      rw [← List.nil_append (';' :: u), isPrefixOf_append_semicolon hmark]
      cases mark with
      | nil => exact absurd rfl hne
      | cons m mark => rfl
    exact .inr fun u => by simp [lengthThrough, hnot]
  | cons c rest ih =>
    -- the mark holds no semicolon, so it stands here with the rest behind if it stands here without
    have hprefix : ∀ u, mark.isPrefixOf (c :: (rest ++ ';' :: u)) = mark.isPrefixOf (c :: rest) :=
      isPrefixOf_append_semicolon hmark (c :: rest)
    cases hfound : mark.isPrefixOf (c :: rest) with
    | true =>
      refine .inl ⟨fun u => ?_, ?_⟩
      · simp [lengthThrough, hprefix, hfound]
      · rw [lengthThrough, if_pos hfound]
        exact (List.isPrefixOf_iff_prefix.mp hfound).length_le
    | false =>
      exact ih.behind [c] (by simp [lengthThrough, hfound])
        fun u => by simp [lengthThrough, hprefix, hfound]

theorem quotedLength_closesOrTakes {q : Char} (hq : q ≠ ';') (t : Text) :
    ClosesOrTakes (quotedLength q) t := by
  fun_induction quotedLength q t with
  | case1 => exact .inr fun u => by simp [quotedLength_cons_of_ne hq.symm u]
  | case2 rest ih =>
    exact ih.behind [q, q] (by simp [quotedLength]) fun u => by simp [quotedLength]
  | case3 d rest hd => exact .inl ⟨fun u => by simp [quotedLength, hd], by simp [quotedLength, hd]⟩
  | case4 => exact .inl ⟨fun u => by simp [quotedLength, hq.symm], by simp [quotedLength]⟩
  | case5 c rest hc ih =>
    exact ih.behind [c] (quotedLength_cons_of_ne hc rest) fun u => quotedLength_cons_of_ne hc _

theorem escapedLength_closesOrTakes (t : Text) : ClosesOrTakes escapedLength t := by
  have hother : ∀ {c : Char} (t : Text), c ≠ '\\' → c ≠ '\'' →
      escapedLength (c :: t) = escapedLength t + 1 := by
    intro c t hescape hquote
    cases t <;> simp [escapedLength, hescape, hquote]
  fun_induction escapedLength t with
  | case1 =>
    have hsemicolon : ∀ u, escapedLength (';' :: u) = escapedLength u + 1 :=
      fun u => hother u (by decide) (by decide)
    exact .inr fun u => by simp [hsemicolon]
  | case2 d rest ih =>
    exact ih.behind ['\\', d] (by simp [escapedLength]) fun u => by simp [escapedLength]
  | case3 =>
    -- the backslash takes the semicolon along
    exact .inr fun u => by simp [escapedLength]
  | case4 rest hescape ih =>
    exact ih.behind ['\'', '\''] (by simp [escapedLength]) fun u => by simp [escapedLength]
  | case5 d rest hd =>
    exact .inl ⟨fun u => by simp [escapedLength, hd], by simp [escapedLength, hd]⟩
  | case6 => exact .inl ⟨fun u => by simp [escapedLength], by simp [escapedLength]⟩
  | case7 c rest hescape hquote ih =>
    exact ih.behind [c] (hother rest hescape hquote) fun u => hother _ hescape hquote

/-! ## §2. Regions open as they did -/

section

variable {before rest : Text} {c : Char}

/-- The region at `c` is the same with a semicolon and anything else behind it, or it
    is no plain code and takes the semicolon along. -/
def OpensApart (before : Text) (c : Char) (rest : Text) : Prop :=
  (∀ u, regionAt .pg before c (rest ++ ';' :: u) = regionAt .pg before c rest)
      ∧ (regionAt .pg before c rest).2 ≤ rest.length
    ∨ ∀ u, (regionAt .pg before c (rest ++ ';' :: u)).1 ≠ .plain
      ∧ rest.length < (regionAt .pg before c (rest ++ ';' :: u)).2

/-- A region that closes or takes the rest along is not changed by what is joined behind. -/
theorem opensApart_of_closesOrTakes {kind : RegionKind} (length : Text → Nat)
    (hkind : kind ≠ .plain) (h : ClosesOrTakes length rest)
    (hpart : regionAt .pg before c rest = (kind, length rest))
    (hwhole : ∀ u, regionAt .pg before c (rest ++ ';' :: u) = (kind, length (rest ++ ';' :: u))) :
    OpensApart before c rest := by
  obtain ⟨hsame, hle⟩ | htakes := h
  · exact .inl ⟨fun u => by rw [hwhole, hpart, hsame], by rw [hpart]; exact hle⟩
  · exact .inr fun u => by rw [hwhole]; exact ⟨hkind, htakes u⟩

theorem opensApart_of_plain (hpart : regionAt .pg before c rest = (.plain, 0))
    (hwhole : ∀ u, regionAt .pg before c (rest ++ ';' :: u) = (.plain, 0)) :
    OpensApart before c rest :=
  .inl ⟨fun u => by rw [hwhole, hpart], by rw [hpart]; exact Nat.zero_le _⟩

/-- No mark but the semicolon comes to stand in front. -/
theorem head?_append_semicolon {x : Char} (hx : x ≠ ';') (t u : Text) :
    (t ++ ';' :: u).head? = some x ↔ t.head? = some x := by
  cases t with
  | nil => simp [hx.symm]
  | cons y t => simp

/-- A run of characters ends at the semicolon. -/
theorem takeWhile_append_semicolon {accepts : Char → Bool} (h : accepts ';' = false) (t u : Text) :
    (t ++ ';' :: u).takeWhile accepts = t.takeWhile accepts := by
  induction t with
  | nil => simp [h]
  | cons c t ih => simp only [List.cons_append, List.takeWhile_cons, ih]

/-- A dollar tag is closed in front of a semicolon or not at all. -/
theorem dollarTag?_append_semicolon (before t u : Text) :
    dollarTag? before (t ++ ';' :: u) = dollarTag? before t := by
  have htag : (t ++ ';' :: u).takeWhile isNameChar = t.takeWhile isNameChar :=
    takeWhile_append_semicolon (by decide) t u
  have hle : (t.takeWhile isNameChar).length ≤ t.length :=
    (List.takeWhile_prefix isNameChar).length_le
  have hdigit : (t ++ ';' :: u).head?.any Char.isDigit = t.head?.any Char.isDigit := by
    cases t with
    | nil => rfl
    | cons c t => rfl
  unfold dollarTag?
  simp only [htag, hdigit, List.drop_append_of_le_length hle,
    head?_append_semicolon (show '$' ≠ ';' by decide)]

/-- A dollar tag is followed by another dollar sign. -/
theorem exists_of_dollarTag?_eq_some {before rest tag : Text}
    (h : dollarTag? before rest = some tag) :
    (∃ body, rest = tag ++ ['$'] ++ body) ∧ ∀ c ∈ tag, isNameChar c = true := by
  obtain ⟨behind, hbehind⟩ := List.takeWhile_prefix isNameChar (l := rest)
  have hdrop : rest.drop (rest.takeWhile isNameChar).length = behind := by
    generalize rest.takeWhile isNameChar = tag at hbehind
    rw [← hbehind, List.drop_left]
  simp only [dollarTag?, hdrop] at h
  split at h
  · exact absurd h (by simp)
  split at h
  · exact absurd h (by simp)
  split at h
  · next hclosing =>
    obtain ⟨body, hbody⟩ := List.head?_eq_some_iff.mp hclosing
    rw [← Option.some.inj h]
    refine ⟨⟨body, ?_⟩, List.all_eq_true.mp List.all_takeWhile⟩
    rw [List.append_assoc, List.singleton_append, ← hbody, hbehind]
  · exact absurd h (by simp)

/-- The regions of PostgreSQL, mark by mark. -/
theorem regionAt_pg (before : Text) (c : Char) (rest : Text) :
    regionAt .pg before c rest =
      if c = '-' ∧ rest.head? = some '-' then (.comment, lineLength rest)
      else if c = '/' ∧ rest.head? = some '*' then
        (.comment, lengthThrough ['*', '/'] (rest.drop 1) + 1)
      else if c = '\'' then
        (.literal, if opensEscapes before then escapedLength rest else quotedLength '\'' rest)
      else if c = '"' then (.quotedName, quotedLength '"' rest)
      else if c = '$' then
        match dollarTag? before rest with
        | some tag =>
          (.dollarBody,
            tag.length + 1 + lengthThrough ('$' :: tag ++ ['$']) (rest.drop (tag.length + 1)))
        | none => (.plain, 0)
      else (.plain, 0) := by
  unfold regionAt
  cases dollarTag? before rest with
  | none | some tag =>
    by_cases hliteral : c = '\''
    · simp [hliteral]
    · by_cases hname : c = '"'
      · simp [hname]
      · simp [hliteral, hname, Dialect.quoteStyle]

/-- A dollar-quoted body ends behind its second tag, which has no semicolon. -/
theorem dollarLength_closesOrTakes {tag : Text} (htag : dollarTag? before rest = some tag) :
    ClosesOrTakes (fun t =>
      tag.length + 1 + lengthThrough ('$' :: tag ++ ['$']) (t.drop (tag.length + 1))) rest := by
  obtain ⟨⟨body, hrest⟩, hnames⟩ := exists_of_dollarTag?_eq_some htag
  have hmark : ';' ∉ '$' :: tag ++ ['$'] := by
    intro hmem
    simp only [List.cons_append, List.mem_cons, List.mem_append, List.not_mem_nil] at hmem
    obtain h | h | h | h := hmem
    · exact absurd h (by decide)
    · exact absurd (hnames _ h) (by decide)
    · exact absurd h (by decide)
    · exact h
  have hdrop : ∀ t, (tag ++ ['$'] ++ t).drop (tag.length + 1) = t := fun t =>
    List.drop_left' (by simp)
  rw [hrest]
  refine (lengthThrough_closesOrTakes hmark (List.cons_ne_nil _ _) body).behind _ ?_ fun u => ?_
  · rw [hdrop, List.length_append, Nat.add_comm]
    rfl
  · rw [hdrop, List.length_append, Nat.add_comm]
    rfl

/-- Whatever opens a region, the region ends in front of a semicolon or takes it along. -/
theorem opensApart (before : Text) (c : Char) (rest : Text) : OpensApart before c rest := by
  -- what stands in front and the next character choose the region, and they are the same
  have hwhole : ∀ u, regionAt .pg before c (rest ++ ';' :: u) = _ :=
    fun u => regionAt_pg before c (rest ++ ';' :: u)
  have hpart := regionAt_pg before c rest
  simp only [head?_append_semicolon (show '-' ≠ ';' by decide),
    head?_append_semicolon (show '*' ≠ ';' by decide), dollarTag?_append_semicolon] at hwhole
  by_cases hline : c = '-' ∧ rest.head? = some '-'
  · simp only [if_pos hline] at hpart hwhole
    exact opensApart_of_closesOrTakes _ (by decide) (lineLength_closesOrTakes rest) hpart hwhole
  by_cases hblock : c = '/' ∧ rest.head? = some '*'
  · simp only [if_neg hline, if_pos hblock] at hpart hwhole
    refine opensApart_of_closesOrTakes (fun t => lengthThrough ['*', '/'] (t.drop 1) + 1)
      (by decide) ?_ hpart hwhole
    obtain ⟨body, rfl⟩ := List.head?_eq_some_iff.mp hblock.2
    exact (lengthThrough_closesOrTakes (by decide) (by decide) body).behind ['*'] rfl fun u => rfl
  by_cases hliteral : c = '\''
  · simp only [if_neg hline, if_neg hblock, if_pos hliteral] at hpart hwhole
    cases hescapes : opensEscapes before with
    | true =>
      simp only [hescapes, if_true] at hpart hwhole
      exact opensApart_of_closesOrTakes _ (by decide) (escapedLength_closesOrTakes rest) hpart hwhole
    | false =>
      simp only [hescapes, Bool.false_eq_true, if_false] at hpart hwhole
      exact opensApart_of_closesOrTakes _ (by decide) (quotedLength_closesOrTakes (by decide) rest)
        hpart hwhole
  by_cases hname : c = '"'
  · simp only [if_neg hline, if_neg hblock, if_neg hliteral, if_pos hname] at hpart hwhole
    exact opensApart_of_closesOrTakes _ (by decide) (quotedLength_closesOrTakes (by decide) rest)
      hpart hwhole
  by_cases hdollar : c = '$'
  · simp only [if_neg hline, if_neg hblock, if_neg hliteral, if_neg hname, if_pos hdollar]
      at hpart hwhole
    cases htag : dollarTag? before rest with
    | none =>
      simp only [htag] at hpart hwhole
      exact opensApart_of_plain hpart hwhole
    | some tag =>
      simp only [htag] at hpart hwhole
      exact opensApart_of_closesOrTakes _ (by decide) (dollarLength_closesOrTakes htag) hpart hwhole
  · simp only [if_neg hline, if_neg hblock, if_neg hliteral, if_neg hname, if_neg hdollar]
      at hpart hwhole
    exact opensApart_of_plain hpart hwhole

end

/-! ## §3. The scan behind a semicolon -/

/-- No dollar tag and no escape string looks further back than a semicolon. -/
theorem regionAt_behind_semicolon (before behind : Text) (c : Char) (rest : Text) :
    regionAt .pg (before ++ ';' :: behind) c rest = regionAt .pg before c rest := by
  have hname : ∀ before : Text, endsInName (before ++ ';' :: behind) = endsInName before := by
    intro before
    cases before with
    | nil => rfl
    | cons x before => rfl
  have hescapes : opensEscapes (before ++ ';' :: behind) = opensEscapes before := by
    cases before with
    | nil => rfl
    | cons x before => simp only [List.cons_append, opensEscapes, hname]
  have htag : dollarTag? (before ++ ';' :: behind) rest = dollarTag? before rest := by
    unfold dollarTag?
    rw [hname]
  rw [regionAt_pg, regionAt_pg, hescapes, htag]

/-- What stands in front of the semicolon makes no difference behind it. -/
theorem regionsAfter_behind_semicolon (before behind t : Text) :
    regionsAfter .pg (before ++ ';' :: behind) t = regionsAfter .pg before t := by
  fun_induction regionsAfter .pg before t with
  | case1 => rw [regionsAfter]
  | case2 before c rest found text ih =>
    have hfound : regionAt .pg (before ++ ';' :: behind) c rest = found :=
      regionAt_behind_semicolon before behind c rest
    rw [regionsAfter]
    simp only [hfound]
    rw [← List.append_assoc]
    exact congrArg _ ih

/-- The glyphs that are read of a text behind `before`. -/
def glyphsAfter (before t : Text) : List Glyph := (regionsAfter .pg before t).flatMap Region.glyphs

/-- The characters of a text are those of its first region, and the others. -/
theorem glyphsAfter_cons (before : Text) (c : Char) (rest : Text) :
    glyphsAfter before (c :: rest)
      = (⟨(regionAt .pg before c rest).1, c :: rest.take (regionAt .pg before c rest).2⟩ :
            Region).glyphs
        ++ glyphsAfter ((c :: rest.take (regionAt .pg before c rest).2).reverse ++ before)
          (rest.drop (regionAt .pg before c rest).2) := by
  unfold glyphsAfter
  rw [regionsAfter]
  exact List.flatMap_cons

theorem glyphsAfter_ne_nil {before t : Text} (ht : t ≠ []) : glyphsAfter before t ≠ [] := by
  obtain ⟨c, rest, rfl⟩ := List.exists_cons_of_ne_nil ht
  rw [glyphsAfter_cons]
  exact List.append_ne_nil_of_left_ne_nil (List.cons_ne_nil _ _) _

/-- The regions of a text with a semicolon behind it, and of what follows, if the
    semicolon is code where it stands at the end. -/
theorem regionsAfter_append_semicolon (before p : Text)
    (h : (glyphsAfter before (p ++ [';'])).getLast? = some ⟨.plain, ';'⟩) (q : Text) :
    regionsAfter .pg before (p ++ ';' :: q)
      = regionsAfter .pg before p ++ ⟨.plain, [';']⟩ :: regionsAfter .pg [] q := by
  fun_induction regionsAfter .pg before p with
  | case1 before =>
    have hopen : regionAt .pg before ';' q = (.plain, 0) := by simp [regionAt]
    have hbehind := regionsAfter_behind_semicolon [] before q
    rw [List.nil_append, regionsAfter]
    simp only [hopen, List.take_zero, List.drop_zero]
    exact congrArg _ hbehind
  | case2 before c rest found text ih =>
    rw [List.cons_append, glyphsAfter_cons] at h
    obtain ⟨hsame, hle⟩ | htakes := opensApart before c rest
    · -- the region ends in front of the semicolon, as it does without it
      have htake : ∀ u, (rest ++ ';' :: u).take found.2 = rest.take found.2 :=
        fun u => List.take_append_of_le_length hle
      have hdrop : ∀ u, (rest ++ ';' :: u).drop found.2 = rest.drop found.2 ++ ';' :: u :=
        fun u => List.drop_append_of_le_length hle
      have hne : rest.drop found.2 ++ [';'] ≠ [] :=
        List.append_ne_nil_of_right_ne_nil _ (List.cons_ne_nil _ _)
      rw [hsame, htake, hdrop, List.getLast?_append_of_ne_nil _ (glyphsAfter_ne_nil hne)] at h
      rw [List.cons_append, regionsAfter]
      simp only [hsame q]
      rw [htake, hdrop, ih h]
      rfl
    · -- the region takes the semicolon along, which is then no code
      obtain ⟨hkind, hlong⟩ := htakes []
      generalize regionAt .pg before c (rest ++ [';']) = taking at h hkind hlong
      have hall : (rest ++ [';']).length ≤ taking.2 := by
        rw [List.length_append]
        exact hlong
      rw [List.take_of_length_le hall, List.drop_of_length_le hall] at h
      have hlast : (⟨taking.1, c :: (rest ++ [';'])⟩ : Region).glyphs.getLast?
          = some ⟨taking.1, ';'⟩ := by
        rw [Region.glyphs, ← List.cons_append, List.map_append]
        exact List.getLast?_concat
      have hnil : glyphsAfter ((c :: (rest ++ [';'])).reverse ++ before) [] = [] := by
        rw [glyphsAfter, regionsAfter]
        rfl
      rw [hnil, List.append_nil, hlast] at h
      exact absurd (congrArg Glyph.kind (Option.some.inj h)) hkind

/-! ## §4. Masks -/

/-- A semicolon behind the script would be code: the scan of the script ends outside
    of every comment, literal, dollar-quoted body and quoted name. -/
def EndsInCode (script : Text) : Prop :=
  (glyphs .pg (script ++ [';'])).getLast? = some ⟨.plain, ';'⟩

section

variable {p q : Text}

/-- The characters of two scripts that are joined, with their kinds. -/
theorem glyphs_append_semicolon (h : EndsInCode p) (q : Text) :
    glyphs .pg (p ++ ';' :: q) = glyphs .pg p ++ ⟨.plain, ';'⟩ :: glyphs .pg q := by
  unfold glyphs regions
  rw [regionsAfter_append_semicolon [] p h q, List.flatMap_append]
  rfl

/-- The mask of two scripts that are joined. -/
theorem mask_append_semicolon (h : EndsInCode p) (q : Text) {hides : Hiding}
    (hplain : hides .plain = false) :
    mask hides .pg (p ++ ';' :: q) = mask hides .pg p ++ ';' :: mask hides .pg q := by
  rw [mask_eq_shown, glyphs_append_semicolon h, List.flatMap_append, List.flatMap_cons,
    mask_eq_shown, mask_eq_shown, hplain]
  rfl

/-- A mask brings in blanks only. -/
theorem not_mem_mask {hides : Hiding} {d : Dialect} {c : Char} (hspace : c ≠ ' ')
    (hbreak : c ≠ '\n') {script : Text} (h : c ∉ script) : c ∉ mask hides d script := by
  rw [mask_eq_shown]
  intro hmem
  obtain ⟨g, hg, hc⟩ := List.mem_flatMap.mp hmem
  split at hc
  · exact not_mem_blankChar hspace hbreak hc
  · rw [← chars_glyphs d script] at h
    exact h (List.mem_singleton.mp hc ▸ List.mem_map_of_mem hg)

/-! ## §5. Routine definitions -/

/-- The span as it lies in a text with `n` bytes more in front. -/
def Span.shift (n : Nat) (s : Span) : Span := ⟨n + s.start, n + s.stop⟩

/-- The header of a routine begins with CREATE. -/
theorem routineHeader_announces : Pattern.Announces routineHeader "create".toList := by
  unfold routineHeader
  iterate 4 apply Pattern.Announces.seq
  exact Pattern.announces_keyword _

variable {t u : Text}

/-- Where no routine header is found, none begins when something is put behind. -/
theorem exists_routineSpansFrom_append {behind : Text}
    (hstays : routineHeader.StaysIn ⟨none, 0, behind⟩ '"') (ht : '"' ∉ t)
    (before : Option Char) (offset : Nat) (h : routineHeader.findFrom? before offset t = none) :
    ∃ last, routineSpansFrom .pg 0 before offset (t ++ behind)
      = routineSpansFrom .pg 0 last (offset + Text.byteLength t) behind := by
  induction t generalizing before offset with
  | nil => exact ⟨before, rfl⟩
  | cons c rest ih =>
    have hfront : (before <|> none) = before := by cases before <;> rfl
    have hmatch := hstays ⟨before, offset, c :: rest⟩ (List.cons_ne_nil c rest) ht
    simp only [Cursor.within, hfront, Nat.zero_add, List.cons_append] at hmatch
    rw [Pattern.findFrom?] at h
    cases hfound : routineHeader.matchAt? ⟨before, offset, c :: rest⟩ with
    | some m => rw [hfound] at h; exact absurd h (by simp)
    | none =>
      rw [hfound] at h hmatch
      obtain ⟨last, hcut⟩ :=
        ih (fun hmem => ht (List.mem_cons_of_mem c hmem)) (some c) (offset + c.utf8Size) h
      refine ⟨last, ?_⟩
      rw [List.cons_append, routineSpansFrom, if_neg (Nat.not_lt_zero offset), hmatch,
        Text.byteLength_cons, ← Nat.add_assoc]
      exact hcut

/-- Without a header there are no routines. -/
theorem routineSpans_eq_nil (ht : '"' ∉ t)
    (h : routineHeader.occursIn (Cursor.start t) = false) : routineSpans .pg t = [] := by
  have hnone : routineHeader.findFrom? none 0 t = none :=
    Option.isNone_iff_eq_none.mp (Option.isSome_eq_false_iff.mp h)
  have hstays : routineHeader.StaysIn ⟨none, 0, []⟩ '"' := by
    refine Pattern.staysIn_of_avoids routineHeader_avoids ⟨?_, ?_⟩ (by decide) List.not_mem_nil
    · exact fun _ hc => absurd hc (by simp)
    · exact fun _ hc => absurd hc (by simp)
  obtain ⟨last, hcut⟩ := exists_routineSpansFrom_append hstays ht none 0 hnone
  rw [List.append_nil] at hcut
  exact hcut

/-- The end at a semicolon is counted from where the text begins. -/
theorem semicolonEnd_shift (n offset : Nat) (t : Text) :
    semicolonEnd (n + offset) t = n + semicolonEnd offset t := by
  induction t generalizing offset with
  | nil => rfl
  | cons c rest ih =>
    rw [semicolonEnd, semicolonEnd]
    split
    · rfl
    · rw [Nat.add_assoc]
      exact ih (offset + c.utf8Size)

/-- A routine with nothing behind its frame ends where it did. -/
theorem routineEnd_within {f : Frame} (hf : f.behind = []) (header : Cursor) :
    routineEnd .pg (header.within f) = f.offset + routineEnd .pg header := by
  show semicolonEnd (f.offset + header.offset) (header.rest ++ f.behind) = _
  rw [hf, List.append_nil]
  exact semicolonEnd_shift f.offset header.offset header.rest

/-- Behind a semicolon the routine definitions are those of the text there. -/
theorem routineSpansFrom_back (t : Text) {resume resume' : Nat} (hu : '"' ∉ u)
    (hresume : ∀ offset, (Frame.back t ';').offset + offset < resume' ↔ offset < resume)
    (before : Option Char) (offset : Nat) :
    routineSpansFrom .pg resume' (before <|> some ';') ((Frame.back t ';').offset + offset) u
      = (routineSpansFrom .pg resume before offset u).map
        (Span.shift (Frame.back t ';').offset) := by
  -- on the text behind, with the character in front of it: for the first one this is the semicolon
  induction u generalizing resume resume' offset before with
  | nil => rfl
  | cons c rest ih =>
    have hlater : ∀ {resume resume' : Nat},
        (∀ offset, (Frame.back t ';').offset + offset < resume' ↔ offset < resume) →
        routineSpansFrom .pg resume' (some c) ((Frame.back t ';').offset + offset + c.utf8Size) rest
          = (routineSpansFrom .pg resume (some c) (offset + c.utf8Size) rest).map
            (Span.shift (Frame.back t ';').offset) := by
      intro resume resume' h
      rw [Nat.add_assoc]
      exact ih (fun hmem => hu (List.mem_cons_of_mem c hmem)) h (some c) (offset + c.utf8Size)
    have hmatch : routineHeader.matchAt?
          ⟨before <|> some ';', (Frame.back t ';').offset + offset, c :: rest ++ []⟩
        = (routineHeader.matchAt? ⟨before, offset, c :: rest⟩).map
          (Match.within (Frame.back t ';')) :=
      staysIn_back routineHeader_avoids t ⟨before, offset, c :: rest⟩ (List.cons_ne_nil c rest) hu
    rw [List.append_nil] at hmatch
    rw [routineSpansFrom, routineSpansFrom, hmatch]
    by_cases hpassed : offset < resume
    · rw [if_pos hpassed, if_pos ((hresume offset).mpr hpassed)]
      exact hlater hresume
    · rw [if_neg hpassed, if_neg fun h => hpassed ((hresume offset).mp h)]
      cases routineHeader.matchAt? ⟨before, offset, c :: rest⟩ with
      | none => exact hlater hresume
      | some m =>
        have hend : routineEnd .pg (m.within (Frame.back t ';')).last
            = (Frame.back t ';').offset + routineEnd .pg m.last := routineEnd_within rfl m.last
        show Span.mk _ (routineEnd .pg (m.within (Frame.back t ';')).last) :: _ = _
        rw [hend]
        exact congrArg _ (hlater fun _ => Nat.add_lt_add_iff_left)

/-- The routine definitions of two texts, of which the first one holds none. -/
theorem routineSpans_append_semicolon (ht : '"' ∉ t) (hu : '"' ∉ u)
    (h : routineHeader.occursIn (Cursor.start t) = false) :
    routineSpans .pg (t ++ ';' :: u)
      = (routineSpans .pg u).map (Span.shift (Text.byteLength t + 1)) := by
  have hnone : routineHeader.findFrom? none 0 t = none :=
    Option.isNone_iff_eq_none.mp (Option.isSome_eq_false_iff.mp h)
  obtain ⟨last, hcut⟩ :=
    exists_routineSpansFrom_append (staysIn_front routineHeader_avoids hu) ht none 0 hnone
  have hmark : routineHeader.matchAt? ⟨last, 0 + Text.byteLength t, ';' :: u⟩ = none :=
    Pattern.matchAt?_eq_none_of_announces routineHeader_announces (by decide) (by decide)
      (by decide) (by decide) last _ u
  unfold routineSpans
  rw [hcut, routineSpansFrom, if_neg (Nat.not_lt_zero _), hmark, Nat.zero_add]
  exact routineSpansFrom_back t hu (fun _ => by simp) none 0

/-! ## §6. Code -/

/-- Two texts in a row are blanked one after the other. -/
theorem blankSpansFrom_append (spans : List Span) (offset : Nat) (t u : Text) :
    blankSpansFrom spans offset (t ++ u)
      = blankSpansFrom spans offset t ++ blankSpansFrom spans (offset + Text.byteLength t) u := by
  induction t generalizing offset with
  | nil => rfl
  | cons c rest ih =>
    rw [List.cons_append, blankSpansFrom, blankSpansFrom, ih, List.append_assoc,
      Text.byteLength_cons, Nat.add_assoc]

/-- Spans that begin behind a text leave it as it is. -/
theorem blankSpansFrom_eq_self {spans : List Span} {offset : Nat} {t : Text}
    (h : ∀ s ∈ spans, offset + Text.byteLength t ≤ s.start) : blankSpansFrom spans offset t = t := by
  induction t generalizing offset with
  | nil => rfl
  | cons c rest ih =>
    have hsize := c.utf8Size_pos
    have hclear : spans.any (·.covers offset) = false := by
      rw [List.any_eq_false]
      intro s hs
      have hbehind := h s hs
      rw [Text.byteLength_cons] at hbehind
      simp only [Span.covers, Bool.and_eq_true, decide_eq_true_iff, not_and]
      omega
    have hrest : ∀ s ∈ spans, offset + c.utf8Size + Text.byteLength rest ≤ s.start := by
      intro s hs
      rw [Nat.add_assoc, ← Text.byteLength_cons]
      exact h s hs
    rw [blankSpansFrom, hclear, ih hrest]
    rfl

/-- Spans and text that are shifted together are blanked alike. -/
theorem blankSpansFrom_shift (n : Nat) (spans : List Span) (offset : Nat) (t : Text) :
    blankSpansFrom (spans.map (Span.shift n)) (n + offset) t = blankSpansFrom spans offset t := by
  have hcovers : ∀ offset, (spans.map (Span.shift n)).any (·.covers (n + offset))
      = spans.any (·.covers offset) := by
    intro offset
    rw [List.any_map]
    congr 1
    funext s
    simp [Span.shift, Span.covers]
  induction t generalizing offset with
  | nil => rfl
  | cons c rest ih => rw [blankSpansFrom, blankSpansFrom, hcovers, Nat.add_assoc, ih]

/-- Blanking spans brings in blanks only. -/
theorem not_mem_blankSpansFrom {c : Char} (hspace : c ≠ ' ') (hbreak : c ≠ '\n')
    (spans : List Span) {offset : Nat} {t : Text} (h : c ∉ t) :
    c ∉ blankSpansFrom spans offset t := by
  induction t generalizing offset with
  | nil => exact h
  | cons x rest ih =>
    rw [List.mem_cons, not_or] at h
    rw [blankSpansFrom, List.mem_append, not_or]
    refine ⟨?_, ih h.2⟩
    split
    · exact not_mem_blankChar hspace hbreak
    · exact fun hmem => h.1 (List.mem_singleton.mp hmem)

/-- The code shows no character that the script has not, blanks apart. -/
theorem not_mem_code {d : Dialect} {c : Char} (hspace : c ≠ ' ') (hbreak : c ≠ '\n')
    {script : Text} (h : c ∉ script) : c ∉ (MaskedScript.ofScript d script).code :=
  not_mem_blankSpansFrom hspace hbreak _ (not_mem_mask hspace hbreak h)

/-- **The code of two scripts.**  Behind a script that ends in code and opens no
    routine definition, a semicolon and another script add their own code. -/
theorem code_append_semicolon (hp : '"' ∉ p) (hq : '"' ∉ q) (hends : EndsInCode p)
    (hroutine : routineHeader.occursIn (Cursor.start (maskCommentsAndLiterals .pg p)) = false) :
    (MaskedScript.ofScript .pg (p ++ ';' :: q)).code
      = (MaskedScript.ofScript .pg p).code ++ ';' :: (MaskedScript.ofScript .pg q).code := by
  have hmask : maskCommentsAndLiterals .pg (p ++ ';' :: q)
      = maskCommentsAndLiterals .pg p ++ ';' :: maskCommentsAndLiterals .pg q :=
    mask_append_semicolon hends q rfl
  have hfront : '"' ∉ maskCommentsAndLiterals .pg p := not_mem_mask (by decide) (by decide) hp
  have hback : '"' ∉ maskCommentsAndLiterals .pg q := not_mem_mask (by decide) (by decide) hq
  -- the routines of the second script lie behind the semicolon and are blanked there only
  have hbehind : ∀ s ∈ (routineSpans .pg (maskCommentsAndLiterals .pg q)).map
      (Span.shift (Text.byteLength (maskCommentsAndLiterals .pg p) + 1)),
      0 + Text.byteLength (maskCommentsAndLiterals .pg p ++ [';']) ≤ s.start := by
    intro s hs
    obtain ⟨s, -, rfl⟩ := List.mem_map.mp hs
    rw [Nat.zero_add, Text.byteLength_append]
    exact Nat.le_add_right _ s.start
  show blankSpans (routineSpans .pg (maskCommentsAndLiterals .pg (p ++ ';' :: q))) _
    = blankSpans (routineSpans .pg (maskCommentsAndLiterals .pg p)) _ ++ _
  rw [routineSpans_eq_nil hfront hroutine, hmask,
    routineSpans_append_semicolon hfront hback hroutine, List.append_cons]
  unfold blankSpans
  rw [blankSpansFrom_append, blankSpansFrom_eq_self hbehind,
    blankSpansFrom_eq_self fun s hs => absurd hs List.not_mem_nil, List.append_assoc,
    Text.byteLength_append, Nat.zero_add]
  exact congrArg (_ ++ ';' :: ·) (blankSpansFrom_shift _ _ 0 _)

end

end TableLedger.Script
