/-
  TableLedger.Proofs.Script.BlankedLiteral — what a string literal can change.

  In a script of the SQL Server family one string literal is blanked: all that stands
  between its quotes gives way to spaces, line breaks excepted.  The script falls into
  the same regions, so its code is the same, and every statement form is found in the
  code but one: the rename procedure, which takes its names from literals.  Its calls
  are looked for in a text with all the literals in it, by a search whose matches do
  not overlap.  What is found is the same as long as no match runs through the blanked
  literal.  A match that begins inside a literal is no call and is passed over
  afterwards; but where it runs on into the code behind, it takes the place of a call.

  Main statements:
    • `regionsAfter_append_congr` — the regions in front of a text that is replaced,
    • `LiteralIn.regions_blanked` — the regions of a script with a literal blanked,
    • `LiteralIn.matches_blanked` — a search that spares the literal,
    • `LiteralIn.classify_blanked` — a literal that every match spares has no influence,
      which is a sufficient condition and leaves open what a match in a literal does to it.
-/

import TableLedger.Proofs.Pattern.Tail
import TableLedger.Proofs.Script.Joined
import TableLedger.Proofs.Script.LiveCode
import TableLedger.Proofs.Script.Relexing

namespace TableLedger.Script

open Pattern

/-! ## §1. Regions in front of a text that is replaced -/

variable {d : Dialect}

/-- The text of regions in a row. -/
def textOf (rs : List Region) : Text := rs.flatMap Region.text

theorem textOf_append (rs rs' : List Region) : textOf (rs ++ rs') = textOf rs ++ textOf rs' :=
  List.flatMap_append

/-- The next character is the same if the text behind begins alike. -/
theorem head?_append_congr {t u u' : Text} (hhead : u.head? = u'.head?) :
    (t ++ u').head? = (t ++ u).head? := by
  cases t with
  | nil => exact hhead.symm
  | cons c t => rfl

/-- A line that ends in front of a text that is replaced keeps its length. -/
theorem lineLength_append_congr {t u u' : Text} (hu : u ≠ []) (hhead : u.head? = u'.head?)
    (h : lineLength (t ++ u) ≤ t.length) : lineLength (t ++ u') = lineLength (t ++ u) := by
  induction t with
  | nil =>
    -- the line ends with the first character of both texts
    obtain ⟨c, rest, rfl⟩ := List.exists_cons_of_ne_nil hu
    obtain ⟨rest', rfl⟩ : ∃ rest', u' = c :: rest' := by
      cases u' with
      | nil => exact absurd hhead (by simp)
      | cons c' rest' => exact ⟨rest', by rw [Option.some.inj hhead]⟩
    by_cases hc : (c != '\n') = true
    · simp [lineLength, hc] at h
    · simp [lineLength, hc]
  | cons c t ih =>
    unfold lineLength at ih h ⊢
    rw [List.cons_append, List.takeWhile_cons] at h ⊢
    rw [List.cons_append, List.takeWhile_cons]
    by_cases hc : (c != '\n') = true
    · rw [if_pos hc, List.length_cons, List.length_cons] at h
      rw [if_pos hc, if_pos hc, List.length_cons, List.length_cons, ih (by omega)]
    · rw [if_neg hc, if_neg hc]

/-- A comment that is closed in front of a text that is replaced keeps its length. -/
theorem lengthThrough_append_congr {t u u' : Text} (hu : u ≠ []) (hhead : u.head? = u'.head?)
    (h : lengthThrough ['*', '/'] (t ++ u) ≤ t.length) :
    lengthThrough ['*', '/'] (t ++ u') = lengthThrough ['*', '/'] (t ++ u) := by
  induction t with
  | nil =>
    -- nothing of the mark stands in front of the texts
    obtain ⟨c, rest, rfl⟩ := List.exists_cons_of_ne_nil hu
    rw [List.nil_append, lengthThrough] at h
    split at h
    · exact absurd h (by simp)
    · exact absurd h (by simp)
  | cons c t ih =>
    have hmark : ['*', '/'].isPrefixOf (c :: (t ++ u')) = ['*', '/'].isPrefixOf (c :: (t ++ u)) := by
      have hnext := head?_append_congr (t := t) hhead
      cases hv : t ++ u with
      | nil => exact absurd (List.append_eq_nil_iff.mp hv).2 hu
      | cons x v =>
        cases hv' : t ++ u' with
        | nil => rw [hv, hv'] at hnext; exact absurd hnext (by simp)
        | cons x' v' =>
          rw [hv, hv'] at hnext
          rw [Option.some.inj hnext]
          simp [List.isPrefixOf]
    rw [List.cons_append, lengthThrough] at h
    rw [List.cons_append, List.cons_append, lengthThrough, lengthThrough, hmark]
    split
    · rfl
    · next hc =>
      rw [if_neg hc, List.length_cons] at h
      rw [ih (by omega)]

/-- A region that ends in front of a text opens alike when that text is replaced by one
    with the same first character. -/
theorem regionAt_append_congr (hd : d.isServerFamily = true) {before : Text} (before' : Text)
    {c : Char} {t u u' : Text} (hu : u ≠ []) (hhead : u.head? = u'.head?)
    (h : (regionAt d before c (t ++ u)).2 ≤ t.length) :
    regionAt d before' c (t ++ u') = regionAt d before c (t ++ u) := by
  by_cases hkind : (regionAt d before c (t ++ u)).1 = .comment
  · have hnext := head?_append_congr (t := t) hhead
    rw [regionAt_of_isServerFamily hd] at h hkind ⊢
    rw [regionAt_of_isServerFamily hd, hnext]
    by_cases hline : c = '-' ∧ (t ++ u).head? = some '-'
    · rw [if_pos hline] at h
      rw [if_pos hline, if_pos hline, lineLength_append_congr hu hhead h]
    · rw [if_neg hline] at h hkind
      rw [if_neg hline, if_neg hline]
      by_cases hblock : c = '/' ∧ (t ++ u).head? = some '*'
      · rw [if_pos hblock] at h
        rw [if_pos hblock, if_pos hblock]
        cases t with
        | nil => exact absurd h (by simp)
        | cons x t =>
          simp only [List.cons_append, List.drop_succ_cons, List.drop_zero] at h ⊢
          have h : lengthThrough ['*', '/'] (t ++ u) + 1 ≤ t.length + 1 := h
          rw [lengthThrough_append_congr hu hhead (by omega)]
      · -- no other region is a comment
        rw [if_neg hblock] at hkind
        repeat' split at hkind
        all_goals exact absurd hkind RegionKind.noConfusion
  · -- any other region depends on what it takes, and on the character behind that
    have hbody : (regionAt d before c (t ++ u)).1 ≠ .dollarBody :=
      regionAt_ne_dollarBody hd before c (t ++ u)
    have hpg : d ≠ .pg := by
      rintro rfl
      exact absurd hd (by decide)
    rw [regionAt_congr_before hd before before']
    obtain ⟨⟨kind, n⟩, hfound⟩ : ∃ found, regionAt d before c (t ++ u) = found := ⟨_, rfl⟩
    rw [hfound] at h hkind hbody ⊢
    have hfront : FrontKept (t.drop n ++ u') ((t ++ u).drop n) := by
      rw [List.drop_append_of_le_length h]
      refine ⟨fun hnil => ?_, .inl (head?_append_congr hhead)⟩
      exact absurd (List.append_eq_nil_iff.mp hnil).2 hu
    have hopen := regionAt_take_append hfound hkind hbody hfront fun heq => absurd heq hpg
    rw [List.take_append_of_le_length h, ← List.append_assoc, List.take_append_drop] at hopen
    exact hopen

/-- The first region of a text ends where the rest of its regions begin. -/
theorem exists_of_regionsAfter_eq_cons {before t : Text} {r : Region} {rs : List Region}
    (h : regionsAfter d before t = r :: rs) :
    ∃ c text, r = ⟨(regionAt d before c (text ++ textOf rs)).1, c :: text⟩
      ∧ t = c :: (text ++ textOf rs)
      ∧ (textOf rs ≠ [] → (regionAt d before c (text ++ textOf rs)).2 = text.length)
      ∧ rs = regionsAfter d ((c :: text).reverse ++ before) (textOf rs) := by
  cases t with
  | nil => exact absurd h (by simp [regionsAfter])
  | cons c rest =>
    rw [regionsAfter] at h
    injection h with hr hrs
    have hflat : textOf rs = rest.drop (regionAt d before c rest).2 := by
      rw [← hrs]
      exact flatten_regionsAfter d _ _
    have hrest : rest.take (regionAt d before c rest).2 ++ textOf rs = rest := by
      rw [hflat, List.take_append_drop]
    refine ⟨c, rest.take (regionAt d before c rest).2, ?_, ?_, fun hne => ?_, ?_⟩
    · rw [hrest]
      exact hr.symm
    · rw [hrest]
    · -- something is left behind the region, and so the region is as long as it says
      rw [hrest, List.length_take]
      have hlt := List.length_pos_of_ne_nil (hflat ▸ hne)
      rw [List.length_drop] at hlt
      omega
    · rw [hflat]
      exact hrs.symm

/-- **Regions in front of a text that is replaced.**  If regions end where a text begins,
    they stay as they are when it is replaced by one with the same first character. -/
theorem regionsAfter_append_congr (hd : d.isServerFamily = true) {front behind : List Region}
    {before u u' : Text} (before' : Text)
    (h : regionsAfter d before (textOf front ++ u) = front ++ behind) (hu : u ≠ [])
    (hhead : u.head? = u'.head?) :
    regionsAfter d before' (textOf front ++ u')
      = front ++ regionsAfter d ((textOf front).reverse ++ before') u' := by
  induction front generalizing before before' with
  | nil => rfl
  | cons r front ih =>
    have hbehind : textOf behind = u := by
      have hflat := flatten_regionsAfter d before (textOf (r :: front) ++ u)
      rw [h] at hflat
      have hflat : textOf (r :: front ++ behind) = textOf (r :: front) ++ u := hflat
      rw [textOf_append] at hflat
      exact List.append_cancel_left hflat
    rw [List.cons_append] at h
    obtain ⟨c, text, hr, -, hlength, hrest⟩ := exists_of_regionsAfter_eq_cons h
    rw [textOf_append, hbehind] at hr hlength hrest
    have hleft : textOf front ++ u ≠ [] := fun hnil => hu (List.append_eq_nil_iff.mp hnil).2
    have hlength := hlength hleft
    have hhead' : (textOf front ++ u).head? = (textOf front ++ u').head? :=
      (head?_append_congr hhead).symm
    -- the first region opens alike, and the others follow
    have hopen : regionAt d before' c (text ++ (textOf front ++ u'))
        = regionAt d before c (text ++ (textOf front ++ u)) :=
      regionAt_append_congr hd before' hleft hhead' (Nat.le_of_eq hlength)
    have hothers := ih ((c :: text).reverse ++ before') hrest.symm
    have htext : textOf (r :: front) = c :: text ++ textOf front := by
      rw [textOf, List.flatMap_cons, hr]
      rfl
    rw [htext, List.append_assoc, List.cons_append, regionsAfter]
    simp only [hopen, hlength, List.take_left, List.drop_left]
    rw [hothers, hr, List.reverse_append, List.append_assoc]
    rfl

/-- The last regions of a text are the regions of what they make up. -/
theorem regionsAfter_eq_behind {front behind : List Region} {before t : Text}
    (h : regionsAfter d before t = front ++ behind) :
    behind = regionsAfter d ((textOf front).reverse ++ before) (textOf behind) := by
  induction front generalizing before t with
  | nil =>
    have hflat : textOf behind = t := by
      have hflat := flatten_regionsAfter d before t
      rw [h] at hflat
      exact hflat
    rw [hflat]
    exact h.symm
  | cons r front ih =>
    rw [List.cons_append] at h
    obtain ⟨c, text, hr, -, -, hrest⟩ := exists_of_regionsAfter_eq_cons h
    have hothers := ih hrest.symm
    have htext : textOf (r :: front) = c :: text ++ textOf front := by
      rw [textOf, List.flatMap_cons, hr]
      rfl
    rw [htext, List.reverse_append, List.append_assoc]
    exact hothers

/-- In the SQL Server family the regions of a text do not depend on what stands in front. -/
theorem regionsAfter_congr_before (hd : d.isServerFamily = true) (before before' t : Text) :
    regionsAfter d before t = regionsAfter d before' t := by
  fun_induction regionsAfter d before t generalizing before' with
  | case1 => rw [regionsAfter]
  | case2 before c rest found text ih =>
    have hfound : regionAt d before' c rest = found := regionAt_congr_before hd before before' c rest
    rw [regionsAfter]
    simp only [hfound]
    rw [ih]

/-! ## §2. A literal and its blank -/

/-- A text in quotes. -/
def quoted (inside : Text) : Text := '\'' :: (inside ++ ['\''])

/-- A string literal of a script, by the regions around it. -/
structure LiteralIn (d : Dialect) (script : Text) where
  front : List Region
  /-- What stands between the quotes. -/
  inside : Text
  behind : List Region
  regions_eq : regions d script = front ++ ⟨.literal, quoted inside⟩ :: behind

/-- A quotation without closing marks inside is closed by the first one behind it. -/
theorem quotedLength_append {q : Char} {t u : Text} (ht : q ∉ t) (hu : u.head? ≠ some q) :
    quotedLength q (t ++ q :: u) = t.length + 1 := by
  induction t with
  | nil =>
    cases u with
    | nil => simp [quotedLength]
    | cons c u =>
      have hc : c ≠ q := fun heq => hu (congrArg some heq)
      simp [quotedLength, hc]
  | cons c t ih =>
    rw [List.mem_cons, not_or] at ht
    rw [List.cons_append, quotedLength_cons_of_ne (Ne.symm ht.1), ih ht.2, List.length_cons]

/-- Blanks stay as they are. -/
theorem blank_eq_self {t : Text} (h : ∀ c ∈ t, c = ' ' ∨ c = '\n') : blank t = t := by
  induction t with
  | nil => rfl
  | cons c t ih =>
    have hrest := ih fun x hx => h x (List.mem_cons_of_mem c hx)
    have hone : blankChar c = [c] := by
      obtain rfl | rfl := h c List.mem_cons_self
      · decide
      · decide
    rw [blank, List.flatMap_cons, hone]
    exact congrArg (c :: ·) hrest

theorem blank_blank (t : Text) : blank (blank t) = blank t := blank_eq_self fun _ => mem_blank

theorem blank_append (t u : Text) : blank (t ++ u) = blank t ++ blank u := List.flatMap_append

/-- A literal is blanked alike whether or not its inside was blanked before. -/
theorem blank_quoted_blank (inside : Text) : blank (quoted (blank inside)) = blank (quoted inside) := by
  have hcons : ∀ t, blank (quoted t) = blankChar '\'' ++ (blank t ++ blank ['\'']) := by
    intro t
    rw [← blank_append]
    rfl
  rw [hcons, hcons, blank_blank]

/-- Blanking the inside of a literal keeps its length in bytes. -/
theorem byteLength_quoted_blank (inside : Text) :
    Text.byteLength (quoted (blank inside)) = Text.byteLength (quoted inside) := by
  rw [← byteLength_blank, blank_quoted_blank, byteLength_blank]

namespace LiteralIn

variable {script : Text} (lit : LiteralIn d script)

/-- Byte offset of the opening quote. -/
def start : Nat := Text.byteLength (textOf lit.front)

/-- Byte offset behind the closing quote. -/
def stop : Nat := lit.start + Text.byteLength (quoted lit.inside)

/-- The script with the inside of the literal blanked. -/
def blanked : Text := textOf lit.front ++ (quoted (blank lit.inside) ++ textOf lit.behind)

/-- The script is the text around the literal with the literal in it. -/
theorem script_eq : textOf lit.front ++ (quoted lit.inside ++ textOf lit.behind) = script := by
  have hflat := flatten_regions d script
  rw [lit.regions_eq] at hflat
  have hflat : textOf (lit.front ++ ⟨.literal, quoted lit.inside⟩ :: lit.behind) = script := hflat
  rw [textOf_append] at hflat
  exact hflat

/-- The regions from the literal on. -/
theorem regionsAfter_front : ∃ before,
    regionsAfter d before (quoted lit.inside ++ textOf lit.behind)
      = ⟨.literal, quoted lit.inside⟩ :: lit.behind :=
  ⟨_, (regionsAfter_eq_behind lit.regions_eq).symm⟩

/-- Behind the literal stands no other quote, for that would be a doubled one. -/
theorem head?_behind (hd : d.isServerFamily = true) : (textOf lit.behind).head? ≠ some '\'' := by
  obtain ⟨before, hregions⟩ := lit.regionsAfter_front
  obtain ⟨c, text, hr, -, hlength, -⟩ := exists_of_regionsAfter_eq_cons hregions
  by_cases hne : textOf lit.behind = []
  · rw [hne]
    exact nofun
  · have hlength := hlength hne
    have hc : c = '\'' := (List.cons.inj (Region.mk.inj hr).2).1.symm
    rw [hc, regionAt_of_isServerFamily hd] at hlength
    have hlength : quotedLength '\'' (text ++ textOf lit.behind) = text.length := hlength
    have hhead := head?_drop_quotedLength '\'' (text ++ textOf lit.behind)
    rw [hlength, List.drop_left] at hhead
    exact hhead

/-- **The regions of a script with a literal blanked** are those of the script, but for
    the literal. -/
theorem regions_blanked (hd : d.isServerFamily = true) :
    regions d lit.blanked = lit.front ++ ⟨.literal, quoted (blank lit.inside)⟩ :: lit.behind := by
  have hfront : regionsAfter d [] (textOf lit.front ++ (quoted lit.inside ++ textOf lit.behind))
      = lit.front ++ ⟨.literal, quoted lit.inside⟩ :: lit.behind := by
    rw [lit.script_eq]
    exact lit.regions_eq
  -- the literal still begins with a quote, so nothing changes in front of it
  have hhead : (quoted lit.inside ++ textOf lit.behind).head?
      = (quoted (blank lit.inside) ++ textOf lit.behind).head? := rfl
  have hregions := regionsAfter_append_congr hd [] hfront (List.cons_ne_nil _ _) hhead
  have hquote : '\'' ∉ blank lit.inside := by
    intro hmem
    obtain h | h := mem_blank hmem
    · exact absurd h (by decide)
    · exact absurd h (by decide)
  have hlength : quotedLength '\'' (blank lit.inside ++ '\'' :: textOf lit.behind)
      = (blank lit.inside ++ ['\'']).length := by
    rw [quotedLength_append hquote (lit.head?_behind hd), List.length_append]
    rfl
  have hbehind : ∀ before, regionsAfter d before (textOf lit.behind) = lit.behind := by
    intro before
    obtain ⟨before', hregions⟩ := lit.regionsAfter_front
    obtain ⟨c, text, -, -, -, hrest⟩ := exists_of_regionsAfter_eq_cons hregions
    rw [regionsAfter_congr_before hd before]
    exact hrest.symm
  have hliteral : ∀ before, regionsAfter d before (quoted (blank lit.inside) ++ textOf lit.behind)
      = ⟨.literal, quoted (blank lit.inside)⟩ :: lit.behind := by
    intro before
    have hopen : regionAt d before '\'' (blank lit.inside ++ ['\''] ++ textOf lit.behind)
        = (.literal, (blank lit.inside ++ ['\'']).length) := by
      rw [List.append_assoc, regionAt_of_isServerFamily hd]
      exact congrArg (Prod.mk _) hlength
    rw [quoted, List.cons_append, regionsAfter]
    simp only [hopen, List.take_left, List.drop_left]
    rw [hbehind]
  rw [hliteral] at hregions
  exact hregions

/-! ## §3. The texts that are searched -/

/-- What is shown of regions in a text without comments. -/
def shownOf (rs : List Region) : Text := rs.flatMap (Region.masked hidesComments)

theorem byteLength_shownOf (rs : List Region) :
    Text.byteLength (shownOf rs) = Text.byteLength (textOf rs) :=
  byteLength_flatMap_masked hidesComments rs

/-- Without literals, the two scripts look the same. -/
theorem maskCommentsAndLiterals_blanked (hd : d.isServerFamily = true) :
    maskCommentsAndLiterals d lit.blanked = maskCommentsAndLiterals d script := by
  have hmask : ∀ t, (lit.front ++ ⟨.literal, quoted t⟩ :: lit.behind).flatMap
      (Region.masked hidesLiterals)
        = lit.front.flatMap (Region.masked hidesLiterals)
          ++ (blank (quoted t) ++ lit.behind.flatMap (Region.masked hidesLiterals)) := by
    intro t
    rw [List.flatMap_append, List.flatMap_cons]
    rfl
  unfold maskCommentsAndLiterals mask
  rw [lit.regions_blanked hd, lit.regions_eq, hmask, hmask, blank_quoted_blank]

/-- What is shown of the literal with `inside` between its quotes, where routine
    definitions are hidden. -/
def shownLiteral (inside : Text) : Text :=
  blankSpansFrom (hiddenSpans d script) lit.start (quoted inside)

theorem byteLength_shownLiteral (inside : Text) :
    Text.byteLength (lit.shownLiteral inside) = Text.byteLength (quoted inside) :=
  byteLength_blankSpansFrom _ _ _

/-- What is shown in front of the literal. -/
def shownFront : Text := blankSpansFrom (hiddenSpans d script) 0 (shownOf lit.front)

/-- What is shown in front of the literal is as long as what stands there. -/
theorem byteLength_shownFront : Text.byteLength lit.shownFront = lit.start := by
  rw [shownFront, byteLength_blankSpansFrom, byteLength_shownOf]
  rfl

/-- What is shown behind the literal. -/
def shownBehind : Text := blankSpansFrom (hiddenSpans d script) lit.stop (shownOf lit.behind)

/-- The text that is searched for calls, cut at the literal. -/
theorem withLiterals_eq :
    (MaskedScript.ofScript d script).withLiterals
      = lit.shownFront ++ (lit.shownLiteral lit.inside ++ lit.shownBehind) := by
  have hmask : maskComments d script
      = shownOf lit.front ++ (quoted lit.inside ++ shownOf lit.behind) := by
    unfold maskComments mask
    rw [lit.regions_eq, List.flatMap_append, List.flatMap_cons]
    rfl
  show blankSpansFrom (hiddenSpans d script) 0 (maskComments d script) = _
  rw [hmask, blankSpansFrom_append, blankSpansFrom_append, byteLength_shownOf, Nat.zero_add]
  rfl

/-- The same text once the literal is blanked differs in the literal only. -/
theorem withLiterals_blanked (hd : d.isServerFamily = true) :
    (MaskedScript.ofScript d lit.blanked).withLiterals
      = lit.shownFront ++ (lit.shownLiteral (blank lit.inside) ++ lit.shownBehind) := by
  have hmask : maskComments d lit.blanked
      = shownOf lit.front ++ (quoted (blank lit.inside) ++ shownOf lit.behind) := by
    unfold maskComments mask
    rw [lit.regions_blanked hd, List.flatMap_append, List.flatMap_cons]
    rfl
  show blankSpansFrom (hiddenSpans d lit.blanked) 0 (maskComments d lit.blanked) = _
  unfold hiddenSpans
  rw [lit.maskCommentsAndLiterals_blanked hd, hmask, blankSpansFrom_append, blankSpansFrom_append,
    byteLength_shownOf, byteLength_quoted_blank, Nat.zero_add]
  rfl

/-- What is shown of a quote at a byte offset. -/
def shownQuote (_ : LiteralIn d script) (offset : Nat) : Char :=
  if (hiddenSpans d script).any (·.covers offset) then ' ' else '\''

/-- A quote is shown as it is, or blanked with a routine around it. -/
theorem shownQuote_eq (offset : Nat) :
    lit.shownQuote offset = '\'' ∨ lit.shownQuote offset = ' ' := by
  unfold shownQuote
  split
  · exact .inr rfl
  · exact .inl rfl

theorem blankSpansFrom_quote (offset : Nat) (t : Text) :
    blankSpansFrom (hiddenSpans d script) offset ('\'' :: t)
      = lit.shownQuote offset :: blankSpansFrom (hiddenSpans d script) (offset + 1) t := by
  have hblank : blankChar '\'' = [' '] := by decide
  rw [blankSpansFrom, shownQuote]
  split
  · rw [hblank]
    rfl
  · rfl

/-- What is shown of the opening quote. -/
def opening : Char := lit.shownQuote lit.start

/-- What is shown of the closing quote. -/
def closing : Char := lit.shownQuote (lit.start + 1 + Text.byteLength lit.inside)

/-- The quotes are shown alike, whatever stands between them. -/
theorem exists_shownLiteral_eq {inside : Text}
    (h : Text.byteLength inside = Text.byteLength lit.inside) :
    ∃ between, lit.shownLiteral inside = lit.opening :: (between ++ [lit.closing]) := by
  refine ⟨blankSpansFrom (hiddenSpans d script) (lit.start + 1) inside, ?_⟩
  rw [shownLiteral, quoted, lit.blankSpansFrom_quote, blankSpansFrom_append, h,
    lit.blankSpansFrom_quote]
  rfl

end LiteralIn

/-! ## §4. The search for rename procedures -/

/-- The match runs past the literal, in front of it or behind it. -/
def LiteralIn.Spares {script : Text} (lit : LiteralIn d script) (m : Match) : Prop :=
  m.stop ≤ lit.start ∨ lit.stop ≤ m.start

/-- What a character can be that stands where the word of the procedure does not. -/
theorem matchAt?_procedure_eq_none (style : QuoteStyle) {x : Char} (hx : x = '\'' ∨ x = ' ')
    (before : Option Char) (offset : Nat) (u : Text) :
    (RenameForm.procedure.pattern style).matchAt? ⟨before, offset, x :: u⟩ = none := by
  refine Announces.matchAt?_eq_none (RenameForm.procedure.pattern_announces style) ?_ before offset u
  obtain rfl | rfl := hx
  · decide
  · decide

namespace LiteralIn

variable {script : Text} (lit : LiteralIn d script)

/-- A match that spares the literal and is not found in front of it begins behind it. -/
theorem stop_le_start_of_spares {inside : Text}
    (hinside : Text.byteLength inside = Text.byteLength lit.inside) {before : Option Char}
    {m : Match} (hspares : lit.Spares m)
    (hm : m ∈ (RenameForm.procedure.pattern d.quoteStyle).matchesFrom 0 before lit.start
      (lit.shownLiteral inside ++ lit.shownBehind)) : lit.stop ≤ m.start := by
  obtain hstop | hstart := hspares
  · -- an empty match would have to stand at the quote
    obtain ⟨c, ⟨taken, hrest, hoffset⟩, hmatch⟩ := exists_matchAt?_of_mem_matchesFrom hm
    obtain ⟨hfirst, hlast, -⟩ := leads_of_matchAt?_eq_some hmatch
    have hle : c.offset ≤ lit.start := Nat.le_trans hlast.offset_le hstop
    have hoffset : c.offset = lit.start + Text.byteLength taken := hoffset
    have htaken : taken = [] := by
      cases taken with
      | nil => rfl
      | cons ch taken =>
        have hsize := ch.utf8Size_pos
        rw [Text.byteLength_cons] at hoffset
        omega
    obtain ⟨between, hshown⟩ := lit.exists_shownLiteral_eq hinside
    have hrest : c.rest = lit.opening :: (between ++ [lit.closing] ++ lit.shownBehind) := by
      rw [htaken, List.nil_append, hshown] at hrest
      exact hrest.symm
    have hnone := matchAt?_procedure_eq_none d.quoteStyle (lit.shownQuote_eq lit.start) c.before
      c.offset (between ++ [lit.closing] ++ lit.shownBehind)
    have hnone : (RenameForm.procedure.pattern d.quoteStyle).matchAt?
        ⟨c.before, c.offset, lit.opening :: (between ++ [lit.closing] ++ lit.shownBehind)⟩ = none :=
      hnone
    rw [← hrest, hmatch] at hnone
    exact absurd hnone (Option.some_ne_none m)
  · exact hstart

/-- What follows the text in front of the literal in the two scripts. -/
def tails : Tails where
  offset := lit.start
  tail := lit.shownLiteral lit.inside ++ lit.shownBehind
  tail' := lit.shownLiteral (blank lit.inside) ++ lit.shownBehind
  head := by
    obtain ⟨between, hinside⟩ := lit.exists_shownLiteral_eq rfl
    obtain ⟨between', hblank⟩ := lit.exists_shownLiteral_eq (byteLength_blank lit.inside)
    rw [hinside, hblank]
    rfl

/-- From the literal on, a search that spares it goes on behind it. -/
theorem matchesFrom_shownLiteral {inside : Text}
    (hinside : Text.byteLength inside = Text.byteLength lit.inside) {before : Option Char}
    (h : ∀ m ∈ (RenameForm.procedure.pattern d.quoteStyle).matchesFrom 0 before lit.start
      (lit.shownLiteral inside ++ lit.shownBehind), lit.Spares m) :
    (RenameForm.procedure.pattern d.quoteStyle).matchesFrom 0 before lit.start
        (lit.shownLiteral inside ++ lit.shownBehind)
      = (RenameForm.procedure.pattern d.quoteStyle).matchesFrom 0 (some lit.closing) lit.stop
        lit.shownBehind := by
  have hstop : lit.start + Text.byteLength (lit.shownLiteral inside) = lit.stop := by
    have hlength : Text.byteLength (quoted inside) = Text.byteLength (quoted lit.inside) := by
      simp only [quoted, Text.byteLength_cons, Text.byteLength_append, hinside]
    rw [byteLength_shownLiteral, hlength]
    rfl
  have hbehind : ∀ m ∈ (RenameForm.procedure.pattern d.quoteStyle).matchesFrom 0 before lit.start
      (lit.shownLiteral inside ++ lit.shownBehind),
      lit.start + Text.byteLength (lit.shownLiteral inside) ≤ m.start := by
    intro m hm
    rw [hstop]
    exact lit.stop_le_start_of_spares hinside (h m hm) hm
  -- no match begins in the literal, so the search passes over it
  have hskip := matchesFrom_append_of_start _ hbehind
  obtain ⟨between, hshown⟩ := lit.exists_shownLiteral_eq hinside
  have hlast : ((lit.shownLiteral inside).getLast? <|> before) = some lit.closing := by
    rw [hshown, ← List.cons_append, List.getLast?_concat]
    rfl
  rw [hskip, hlast, hstop]

/-- **A search that spares the literal.**  If no match runs through the literal, neither
    before it is blanked nor after, the search finds the same in front of it and the
    same behind it. -/
theorem matches_blanked (hd : d.isServerFamily = true)
    (h : ∀ m ∈ procedureMatches d script, lit.Spares m)
    (h' : ∀ m ∈ procedureMatches d lit.blanked, lit.Spares m) :
    ∃ found found' rest, List.Forall₂ (Match.Alike lit.tails) found found'
      ∧ procedureMatches d script = found ++ rest
      ∧ procedureMatches d lit.blanked = found' ++ rest := by
  unfold procedureMatches at h h' ⊢
  rw [lit.withLiterals_eq] at h ⊢
  rw [lit.withLiterals_blanked hd] at h' ⊢
  have hlt : lit.start < lit.stop := by
    have hsize := ('\'' : Char).utf8Size_pos
    rw [stop, quoted, Text.byteLength_cons]
    omega
  -- what spares the literal and begins in front of it ends in front of it
  have hstays : ∀ {found : List Match}, (∀ m ∈ found, lit.Spares m) →
      StaysInFront lit.tails.offset found := by
    intro found hfound m hm hstart
    obtain hstop | hbehind := hfound m hm
    · exact hstop
    · have hstart : m.start < lit.start := hstart
      omega
  have hoffset : 0 + Text.byteLength lit.shownFront = lit.tails.offset := by
    rw [Nat.zero_add]
    exact lit.byteLength_shownFront
  obtain ⟨found, found', hfound, hsearch, hsearch'⟩ := matchesFrom_alike
    (RenameForm.procedure.pattern d.quoteStyle) hoffset (Nat.zero_le _) (hstays h) (hstays h')
  have hmatches : (RenameForm.procedure.pattern d.quoteStyle).matchesIn
      (Cursor.start (lit.shownFront ++ (lit.shownLiteral lit.inside ++ lit.shownBehind)))
        = found ++ _ := hsearch
  have hmatches' : (RenameForm.procedure.pattern d.quoteStyle).matchesIn
      (Cursor.start (lit.shownFront ++ (lit.shownLiteral (blank lit.inside) ++ lit.shownBehind)))
        = found' ++ _ := hsearch'
  rw [hmatches] at h ⊢
  rw [hmatches'] at h' ⊢
  refine ⟨found, found', (RenameForm.procedure.pattern d.quoteStyle).matchesFrom 0
    (some lit.closing) lit.stop lit.shownBehind, hfound, ?_, ?_⟩
  · exact congrArg (found ++ ·) (lit.matchesFrom_shownLiteral rfl
      fun m hm => h m (List.mem_append_right found hm))
  · exact congrArg (found' ++ ·) (lit.matchesFrom_shownLiteral (byteLength_blank lit.inside)
      fun m hm => h' m (List.mem_append_right found' hm))

end LiteralIn

/-! ## §5. What the scripts mention -/

/-- A rename is read off the texts that its match captured. -/
theorem renameMentions_alike {t : Tails} {m m' : Match} (h : m.Alike t m') :
    renameMentions .procedure m = renameMentions .procedure m' := by
  unfold renameMentions
  rw [renamedNames?_procedure, renamedNames?_procedure, h.captured?_text, h.captured?_text,
    h.captured?_text, h.start_eq]

/-- What a match comes to, given the code: nothing unless it begins in live code. -/
def liveMentions (code : Text) (m : Match) : List Mention :=
  if charAt? m.start code == m.first.rest.head? then renameMentions .procedure m else []

/-- Matches that are alike are live together and mention the same. -/
theorem flatMap_liveMentions_alike {t : Tails} {code : Text} {found found' : List Match}
    (h : List.Forall₂ (Match.Alike t) found found') :
    found'.flatMap (liveMentions code) = found.flatMap (liveMentions code) := by
  induction h with
  | nil => rfl
  | @cons m m' found found' hm _ ih =>
    have hone : liveMentions code m' = liveMentions code m := by
      unfold liveMentions
      rw [hm.start_eq, hm.first.head?_eq, renameMentions_alike hm]
    rw [List.flatMap_cons, List.flatMap_cons, hone, ih]

/-- The calls of the rename procedure, match by match. -/
theorem flatMap_liveRenames_procedure (d : Dialect) (script : Text) :
    ((MaskedScript.ofScript d script).liveRenames d.quoteStyle .procedure).flatMap
        (renameMentions .procedure)
      = (procedureMatches d script).flatMap
        (liveMentions (MaskedScript.ofScript d script).code) := by
  show (List.filter _ (procedureMatches d script)).flatMap _ = _
  have hall : ∀ m ∈ procedureMatches d script,
      charAt? m.start (MaskedScript.ofScript d script).withLiterals = m.first.rest.head? :=
    fun m hm => charAt?_of_mem_matchesIn hm
  generalize procedureMatches d script = found at hall
  induction found with
  | nil => rfl
  | cons m found ih =>
    have hothers := ih fun x hx => hall x (List.mem_cons_of_mem m hx)
    have hfirst := hall m List.mem_cons_self
    rw [List.flatMap_cons, ← hothers, liveMentions, ← hfirst, List.filter_cons]
    show List.flatMap _ (if (charAt? m.start (MaskedScript.ofScript d script).code
      == charAt? m.start (MaskedScript.ofScript d script).withLiterals) = true then _ else _) = _
    split
    · exact List.flatMap_cons
    · rfl

/-- The code of a script is its mask without literals. -/
theorem code_ofScript_congr {s t : Text}
    (hliterals : maskCommentsAndLiterals d s = maskCommentsAndLiterals d t) :
    (MaskedScript.ofScript d s).code = (MaskedScript.ofScript d t).code := by
  unfold MaskedScript.ofScript
  rw [hliterals]

namespace LiteralIn

variable {script : Text} (lit : LiteralIn d script)

/-- The two scripts have the same live code. -/
theorem code_blanked (hd : d.isServerFamily = true) :
    (MaskedScript.ofScript d lit.blanked).code = (MaskedScript.ofScript d script).code :=
  code_ofScript_congr (lit.maskCommentsAndLiterals_blanked hd)

/-- The same is mentioned with the literal and without what stands in it. -/
theorem mentions_blanked (hd : d.isServerFamily = true)
    (h : ∀ m ∈ procedureMatches d script, lit.Spares m)
    (h' : ∀ m ∈ procedureMatches d lit.blanked, lit.Spares m) :
    mentions d lit.blanked = mentions d script := by
  have hcode := lit.code_blanked hd
  have hrenames : ∀ form, ((MaskedScript.ofScript d lit.blanked).liveRenames d.quoteStyle form).flatMap
      (renameMentions form)
        = ((MaskedScript.ofScript d script).liveRenames d.quoteStyle form).flatMap
          (renameMentions form) := by
    intro form
    cases form with
    | alterTable | renameObject =>
      -- these forms are sought in the code alone
      show (List.filter _ (Pattern.matchesIn _ (Cursor.start _))).flatMap _ = _
      unfold MaskedScript.liveRenames MaskedScript.searched
      simp only [hcode]
    | procedure =>
      obtain ⟨found, found', rest, hfound, hsearch, hsearch'⟩ := lit.matches_blanked hd h h'
      rw [flatMap_liveRenames_procedure, flatMap_liveRenames_procedure, hsearch, hsearch', hcode,
        List.flatMap_append, List.flatMap_append, flatMap_liveMentions_alike hfound]
  unfold mentions
  simp only [hcode, hrenames]

/-- **A literal that every match spares has no influence.**

    The condition is about all matches of the search, those that begin in live code and those that
    begin in a literal, with the inside of the literal and without it.  It is sufficient and not
    necessary: a match that begins in a literal is dropped in the end, and where it takes the place
    of no call it does no harm, though it runs through the literal.  Nor does it say which calls are
    lost when a match does not spare the literal. -/
theorem classify_blanked (hd : d.isServerFamily = true)
    (h : ∀ m ∈ procedureMatches d script, lit.Spares m)
    (h' : ∀ m ∈ procedureMatches d lit.blanked, lit.Spares m) (schema : Text) :
    classify d schema lit.blanked = classify d schema script := by
  unfold classify
  rw [sightings_eq, sightings_eq, lit.mentions_blanked hd h h']

end LiteralIn

instance {script : Text} (lit : LiteralIn d script) (m : Match) : Decidable (lit.Spares m) :=
  inferInstanceAs (Decidable (_ ∨ _))

/-- Characters of plain code, region by region. -/
def plainCode (t : Text) : List Region := t.map fun c => ⟨.plain, [c]⟩

/-- A literal that names the procedure, in front of a call. -/
def namingLiteral : LiteralIn .ms "PRINT 'sp_rename é'; EXEC sp_rename 't', 'u'".toList where
  front := plainCode "PRINT ".toList
  inside := "sp_rename é".toList
  behind := plainCode "; EXEC sp_rename ".toList ++ ⟨.literal, "'t'".toList⟩
    :: plainCode ", ".toList ++ [⟨.literal, "'u'".toList⟩]
  regions_eq := by decide +kernel

/-- No match runs through that literal. -/
theorem classify_blanked_namingLiteral :
    namingLiteral.blanked = "PRINT '            '; EXEC sp_rename 't', 'u'".toList
      ∧ (∀ m ∈ procedureMatches .ms "PRINT 'sp_rename é'; EXEC sp_rename 't', 'u'".toList,
        namingLiteral.Spares m)
      ∧ (∀ m ∈ procedureMatches .ms namingLiteral.blanked, namingLiteral.Spares m)
      ∧ classify .ms "dbo".toList namingLiteral.blanked
        = classify .ms "dbo".toList "PRINT 'sp_rename é'; EXEC sp_rename 't', 'u'".toList := by
  have hspares : ∀ m ∈ procedureMatches .ms "PRINT 'sp_rename é'; EXEC sp_rename 't', 'u'".toList,
      namingLiteral.Spares m := by decide +kernel
  have hspares' : ∀ m ∈ procedureMatches .ms namingLiteral.blanked, namingLiteral.Spares m := by
    decide +kernel
  exact ⟨by decide +kernel, hspares, hspares', namingLiteral.classify_blanked rfl hspares hspares' _⟩

/-- A literal out of which a statement is put together, in front of a call. -/
def buildingLiteral : LiteralIn .ms
    "SET @s = 'EXEC sp_rename ' + @a + ', ' + @b; EXEC sp_rename 'dbo.t', 'u'".toList where
  front := plainCode "SET @s = ".toList
  inside := "EXEC sp_rename ".toList
  behind := plainCode " + @a + ".toList ++ ⟨.literal, "', '".toList⟩
    :: plainCode " + @b; EXEC sp_rename ".toList ++ ⟨.literal, "'dbo.t'".toList⟩
    :: plainCode ", ".toList ++ [⟨.literal, "'u'".toList⟩]
  regions_eq := by decide +kernel

/-- **A match that begins in a literal takes the place of a call.**  The literal is no
    argument of the call, which is found once the literal is blanked. -/
theorem classify_blanked_buildingLiteral_ne :
    (∀ m ∈ (MaskedScript.ofScript .ms buildingLiteral.blanked).liveRenames .bracket .procedure,
        buildingLiteral.Spares m)
      ∧ classify .ms "dbo".toList
          "SET @s = 'EXEC sp_rename ' + @a + ', ' + @b; EXEC sp_rename 'dbo.t', 'u'".toList
        = .ok ⟨[]⟩
      ∧ classify .ms "dbo".toList buildingLiteral.blanked
        = .ok ⟨[.renamed (.inSchema "dbo".toList "t".toList)
          (.inSchema "dbo".toList "u".toList)]⟩ := by
  have hspares : ∀ m ∈ (MaskedScript.ofScript .ms buildingLiteral.blanked).liveRenames .bracket
      .procedure, buildingLiteral.Spares m := by decide +kernel
  refine ⟨hspares, by decide +kernel, by decide +kernel⟩

end TableLedger.Script
