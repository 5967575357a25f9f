/-
  TableLedger.Proofs.Script.Spacing — white space and comments between parts.

  A script is shown with its comments blanked.  White space and comments between the
  parts of a reference, or around its dots, come out as white space, at least one
  character of it if there was anything; parts, bare or in quotes, come out as they are.
  So a reference is shown with the same parts and with gaps where it had gaps.

  Main statements:
    • `Spacing.exists_shownAs` — spacing is shown as white space,
    • `shownBefore_part` — a part is shown as it is written,
    • `Dotted.exists_shown` — a reference is shown with the same parts and gaps.
-/

import TableLedger.Proofs.Script.BlankedLiteral
import TableLedger.Proofs.Script.ByteScan
import TableLedger.Proofs.Script.Reference

namespace TableLedger.Script

/-! ## §1. White space and comments -/

/-- A character of white space or a comment; a comment on a line takes the line break along. -/
inductive Filler : Text → Prop where
  | blank (c : Char) (hblank : Unicode.isBlank c = true) : Filler [c]
  | lineComment (t : Text) (hline : '\n' ∉ t) : Filler ('-' :: '-' :: (t ++ ['\n']))
  | blockComment (t : Text) (hopen : ¬['*', '/'] <:+: t) : Filler ('/' :: '*' :: (t ++ ['*', '/']))

/-- White space and comments, or nothing. -/
inductive Spacing : Text → Prop where
  | nil : Spacing []
  | append {t u : Text} (first : Filler t) (others : Spacing u) : Spacing (t ++ u)

theorem Spacing.of_filler {t : Text} (h : Filler t) : Spacing t := by
  rw [← List.append_nil t]
  exact .append h .nil

/-! ## §2. What a text is shown as -/

/-- The regions behind `before`, as a mask shows them. -/
def shownBehind (hides : Hiding) (d : Dialect) (before t : Text) : Text :=
  (regionsAfter d before t).flatMap (Region.masked hides)

/-- Whatever stands around it, the text is shown as `u`. -/
def ShownAs (hides : Hiding) (d : Dialect) (t u : Text) : Prop :=
  ∀ before rest, shownBehind hides d before (t ++ rest)
    = u ++ shownBehind hides d (t.reverse ++ before) rest

variable {hides : Hiding} {d : Dialect} {t u t' u' : Text}

theorem shownBehind_nil (d : Dialect) (before : Text) : shownBehind hides d before [] = [] := by
  rw [shownBehind, regionsAfter]
  rfl

theorem shownAs_nil : ShownAs hides d [] [] := fun _ _ => rfl

theorem ShownAs.append (h : ShownAs hides d t u) (h' : ShownAs hides d t' u') :
    ShownAs hides d (t ++ t') (u ++ u') := by
  intro before rest
  rw [List.append_assoc, h before (t' ++ rest), h' (t.reverse ++ before) rest, List.reverse_append,
    List.append_assoc, List.append_assoc]

/-- A region is shown by its kind. -/
theorem shownBehind_cons {before rest : Text} {c : Char} {kind : RegionKind}
    (h : regionAt d before c (t ++ rest) = (kind, t.length)) :
    shownBehind hides d before (c :: (t ++ rest))
      = Region.masked hides ⟨kind, c :: t⟩ ++ shownBehind hides d ((c :: t).reverse ++ before) rest := by
  unfold shownBehind
  rw [regionsAfter, h, List.flatMap_cons]
  show Region.masked hides ⟨kind, c :: (t ++ rest).take t.length⟩
      ++ (regionsAfter d ((c :: (t ++ rest).take t.length).reverse ++ before)
        ((t ++ rest).drop t.length)).flatMap _ = _
  rw [List.take_left, List.drop_left]

/-- Characters that open no region. -/
theorem regionAt_of_not_mark {c : Char} (h : c ∉ ['-', '/', '\'', '"', '[', '$'])
    (before rest : Text) : regionAt d before c rest = (.plain, 0) := by
  simp only [List.mem_cons, List.not_mem_nil, or_false, not_or] at h
  obtain ⟨hdash, hslash, hquote, hdouble, hbracket, hdollar⟩ := h
  simp [regionAt, hdash, hslash, hquote, hdouble, hbracket, hdollar]

theorem masked_of_shown {kind : RegionKind} (h : hides kind = false) (t : Text) :
    Region.masked hides ⟨kind, t⟩ = t := by
  unfold Region.masked
  rw [h]
  rfl

theorem masked_of_hidden {kind : RegionKind} (h : hides kind = true) (t : Text) :
    Region.masked hides ⟨kind, t⟩ = blank t := by
  unfold Region.masked
  rw [h]
  rfl

/-- What opens no region is shown as it is. -/
theorem shownBehind_plain (hplain : hides .plain = false) {before rest : Text} {c : Char}
    (h : regionAt d before c rest = (.plain, 0)) :
    shownBehind hides d before (c :: rest) = c :: shownBehind hides d (c :: before) rest := by
  have hone : shownBehind hides d before (c :: ([] ++ rest))
      = Region.masked hides ⟨.plain, [c]⟩ ++ shownBehind hides d ([c].reverse ++ before) rest :=
    shownBehind_cons h
  rw [masked_of_shown hplain] at hone
  exact hone

/-- A character that opens nothing is shown as it is. -/
theorem shownAs_char (hplain : hides .plain = false) {c : Char}
    (h : c ∉ ['-', '/', '\'', '"', '[', '$']) : ShownAs hides d [c] [c] :=
  fun before rest => shownBehind_plain hplain (regionAt_of_not_mark h before rest)

/-- Characters that open no region, in a row. -/
theorem shownAs_chars (hplain : hides .plain = false)
    (h : ∀ c ∈ t, c ∉ ['-', '/', '\'', '"', '[', '$']) : ShownAs hides d t t := by
  induction t with
  | nil => exact shownAs_nil
  | cons c t ih =>
    exact (shownAs_char hplain (h c List.mem_cons_self)).append
      (ih fun x hx => h x (List.mem_cons_of_mem c hx))

/-- White space is shown as it is. -/
theorem shownAs_gap (hplain : hides .plain = false) (h : IsGap t) : ShownAs hides d t t := by
  have hall : (['-', '/', '\'', '"', '[', '$'].all fun c => !Unicode.isBlank c) = true := by decide
  refine shownAs_chars hplain fun c hc hmark => ?_
  have hnot := List.all_eq_true.mp hall c hmark
  rw [h c hc] at hnot
  exact Bool.noConfusion hnot

/-- So are words. -/
theorem shownAs_word (hplain : hides .plain = false) (h : ∀ c ∈ t, Unicode.isWord c = true) :
    ShownAs hides d t t := by
  have hall : (['-', '/', '\'', '"', '[', '$'].all fun c => !Unicode.isWord c) = true := by
    decide +kernel
  refine shownAs_chars hplain fun c hc hmark => ?_
  have hnot := List.all_eq_true.mp hall c hmark
  rw [h c hc] at hnot
  exact Bool.noConfusion hnot

/-! ## §3. Spacing is shown as white space -/

/-- A block comment ends with the first mark that closes it. -/
theorem lengthThrough_blockComment (hopen : ¬['*', '/'] <:+: t) (rest : Text) :
    lengthThrough ['*', '/'] (t ++ ('*' :: '/' :: rest)) = t.length + 2 := by
  induction t with
  | nil => rfl
  | cons c t ih =>
    have hlater := ih fun hmark => hopen (hmark.trans (List.suffix_cons c t).isInfix)
    have hhere : ['*', '/'].isPrefixOf (c :: (t ++ ('*' :: '/' :: rest))) = false := by
      rw [← Bool.not_eq_true, List.isPrefixOf_iff_prefix, List.cons_prefix_cons]
      rintro ⟨rfl, hslash⟩
      cases t with
      | nil => exact absurd (List.cons_prefix_cons.mp hslash).1 (by decide)
      | cons x t =>
        obtain rfl := (List.cons_prefix_cons.mp hslash).1
        exact hopen ⟨[], t, rfl⟩
    rw [List.cons_append, lengthThrough, hhere, hlater]
    rfl

theorem isGap_blank (t : Text) : IsGap (blank t) := by
  intro c hc
  obtain rfl | rfl := mem_blank hc
  · decide
  · decide

theorem IsGap.append {g g' : Text} (h : IsGap g) (h' : IsGap g') : IsGap (g ++ g') :=
  fun c hc => (List.mem_append.mp hc).elim (h c) (h' c)

/-- A text gives way to at least one blank. -/
theorem blank_ne_nil (h : t ≠ []) : blank t ≠ [] := by
  intro hnil
  have hlength := byteLength_blank t
  rw [hnil] at hlength
  obtain ⟨c, t, rfl⟩ := List.exists_cons_of_ne_nil h
  have hpos := c.utf8Size_pos
  rw [Text.byteLength_nil, Text.byteLength_cons] at hlength
  omega

/-- A comment is shown blank. -/
theorem shownAs_comment (hcomment : hides .comment = true) {c : Char}
    (h : ∀ before rest, regionAt d before c (t ++ rest) = (.comment, t.length)) :
    ShownAs hides d (c :: t) (blank (c :: t)) := by
  intro before rest
  rw [List.cons_append, shownBehind_cons (h before rest), masked_of_hidden hcomment]

/-- White space or a comment is shown as white space. -/
theorem Filler.exists_shownAs (hcomment : hides .comment = true) (hplain : hides .plain = false)
    (h : Filler t) : ∃ u, IsGap u ∧ u ≠ [] ∧ ShownAs hides d t u := by
  cases h with
  | blank c hblank =>
    have hgap : IsGap [c] := fun x hx => List.mem_singleton.mp hx ▸ hblank
    exact ⟨[c], hgap, List.cons_ne_nil _ _, shownAs_gap hplain hgap⟩
  | lineComment t hline =>
    refine ⟨Script.blank ('-' :: '-' :: t) ++ ['\n'], (isGap_blank _).append ?_, by simp, ?_⟩
    · intro c hc
      rw [List.mem_singleton.mp hc]
      decide
    · -- the line break does not belong to the comment
      intro before rest
      have hlength : lineLength (('-' :: t) ++ '\n' :: rest) = ('-' :: t).length := by
        unfold lineLength
        have hall : ∀ c ∈ '-' :: t, (c != '\n') = true := by
          intro c hc
          rw [bne_iff_ne]
          rintro rfl
          obtain hc | hc := List.mem_cons.mp hc
          · exact absurd hc (by decide)
          · exact hline hc
        rw [List.takeWhile_append_of_pos hall]
        simp
      have hregion : regionAt d before '-' (('-' :: t) ++ '\n' :: rest)
          = (.comment, ('-' :: t).length) := by
        rw [← hlength]
        simp [regionAt]
      have hbreak : ShownAs hides d ['\n'] ['\n'] := shownAs_char hplain (by decide)
      have htext : '-' :: '-' :: (t ++ ['\n']) ++ rest = '-' :: (('-' :: t) ++ '\n' :: rest) := by simp
      have hrest : '\n' :: rest = ['\n'] ++ rest := rfl
      rw [htext, shownBehind_cons hregion, masked_of_hidden hcomment, hrest, hbreak]
      simp only [List.append_assoc, List.reverse_cons, List.reverse_append, List.nil_append,
        List.reverse_nil, List.cons_append]
  | blockComment t hopen =>
    refine ⟨_, isGap_blank _, blank_ne_nil (List.cons_ne_nil _ _),
      shownAs_comment hcomment fun before rest => ?_⟩
    have hlength := lengthThrough_blockComment hopen rest
    have hregion : regionAt d before '/' ('*' :: (t ++ ('*' :: '/' :: rest)))
        = (.comment, lengthThrough ['*', '/'] (t ++ ('*' :: '/' :: rest)) + 1) := by
      simp [regionAt]
    rw [hlength] at hregion
    simpa [List.append_assoc] using hregion

/-- **Spacing is shown as white space.** -/
theorem Spacing.exists_shownAs (hcomment : hides .comment = true) (hplain : hides .plain = false)
    (h : Spacing t) : ∃ u, IsGap u ∧ (u = [] ↔ t = []) ∧ ShownAs hides d t u := by
  induction h with
  | nil => exact ⟨[], isGap_nil, Iff.rfl, shownAs_nil⟩
  | @append t t' first _ ih =>
    obtain ⟨u, hu, hne, hshown⟩ := first.exists_shownAs (d := d) hcomment hplain
    obtain ⟨u', hu', -, hshown'⟩ := ih
    refine ⟨u ++ u', hu.append hu', ?_, hshown.append hshown'⟩
    have htext : t ≠ [] := by
      cases first with
      | blank | lineComment | blockComment => exact List.cons_ne_nil _ _
    exact iff_of_false (by simp [hne]) (by simp [htext])

/-! ## §4. Parts are shown as they are written -/

/-- The text is shown as it is, whatever stands around it, if no part goes on behind it. -/
def ShownBefore (hides : Hiding) (d : Dialect) (t : Text) : Prop :=
  ∀ before rest, StopsPart d.quoteStyle rest → shownBehind hides d before (t ++ rest)
    = t ++ shownBehind hides d (t.reverse ++ before) rest

/-- A quotation ends with the mark that closes it. -/
theorem quotedLength_double {mark : Char} (name : Text) {rest : Text} (hrest : rest.head? ≠ some mark) :
    quotedLength mark (Text.double mark name ++ mark :: rest) = (Text.double mark name).length + 1 := by
  induction name with
  | nil => exact quotedLength_append List.not_mem_nil hrest
  | cons c name ih =>
    by_cases hc : c = mark
    · subst hc
      rw [Text.double, if_pos rfl]
      simp [quotedLength, ih]
    · rw [Text.double, if_neg hc, List.cons_append, quotedLength_cons_of_ne hc, ih]
      rfl

/-- A name in quotes is shown as it is. -/
theorem shownBehind_wrap (hname : hides .quotedName = false) {opening closing : Char} {name : Text}
    {before rest : Text} (hrest : rest.head? ≠ some closing)
    (h : ∀ more, regionAt d before opening more = (.quotedName, quotedLength closing more)) :
    shownBehind hides d before (Text.wrap opening closing name ++ rest)
      = Text.wrap opening closing name
        ++ shownBehind hides d ((Text.wrap opening closing name).reverse ++ before) rest := by
  have hregion : regionAt d before opening ((Text.double closing name ++ [closing]) ++ rest)
      = (.quotedName, (Text.double closing name ++ [closing]).length) := by
    rw [h, List.append_assoc, List.singleton_append, quotedLength_double name hrest,
      List.length_append]
    rfl
  have hmasked : Region.masked hides ⟨.quotedName, opening :: (Text.double closing name ++ [closing])⟩
      = Text.wrap opening closing name := masked_of_shown hname _
  have hone : shownBehind hides d before (opening :: ((Text.double closing name ++ [closing]) ++ rest))
      = _ ++ shownBehind hides d ((opening :: (Text.double closing name ++ [closing])).reverse ++ before)
        rest := shownBehind_cons hregion
  rw [hmasked] at hone
  exact hone

/-- Word characters belong to names. -/
theorem isNameChar_of_isWord {c : Char} (h : Unicode.isWord c = true) : isNameChar c = true := by
  unfold Unicode.isWord at h
  split at h
  · unfold isNameChar
    rw [show (c.isAlphanum || c == '_') = true from h]
    rfl
  · next hhigh => exact isNameChar_of_high (Nat.le_of_not_lt hhigh)

/-- A bare name opens no dollar-quoted body. -/
theorem shownBehind_bare (hplain : hides .plain = false) {name : Text} {inName : Bool}
    (hchars : ∀ c ∈ name, bareChar d.quoteStyle c = true)
    (hdollars : d = .pg → singleDollars inName name = true)
    {before : Text} (hbefore : inName = true → d = .pg → endsInName before = true) (rest : Text) :
    shownBehind hides d before (name ++ rest)
      = name ++ shownBehind hides d (name.reverse ++ before) rest := by
  induction name generalizing inName before with
  | nil => rfl
  | cons c name ih =>
    have hdollars : d = .pg → (c ≠ '$' ∨ inName = true) ∧ singleDollars (c != '$') name = true := by
      intro hd
      have hall := hdollars hd
      rwa [singleDollars, Bool.and_eq_true, Bool.or_eq_true, bne_iff_ne] at hall
    have hbare := hchars c List.mem_cons_self
    have hne : ∀ mark, mark ∈ syntaxMarks → c ≠ mark := fun mark hmark =>
      ne_of_bareChar hbare (bareChar_of_mem_marks hmark)
    have hregion : regionAt d before c (name ++ rest) = (.plain, 0) := by
      by_cases hdollar : c = '$'
      · subst hdollar
        by_cases hd : d = .pg
        · have hname : endsInName before = true :=
            hbefore ((hdollars hd).1.resolve_left (fun hne => hne rfl)) hd
          simp [regionAt, dollarTag?, hname]
        · simp [regionAt, hd]
      · refine regionAt_of_not_mark ?_ before _
        simp only [List.mem_cons, List.not_mem_nil, or_false, not_or]
        exact ⟨hne _ (by decide), hne _ (by decide), hne _ (by decide), hne _ (by decide),
          hne _ (by decide), hdollar⟩
    have hnext : (c != '$') = true → d = .pg → endsInName (c :: before) = true := by
      -- a character of a name that is no dollar sign is a word character
      rintro hnot rfl
      have hbare : (Unicode.isWord c || c == '$') = true := hbare
      have hne : c ≠ '$' := by simpa using hnot
      exact isNameChar_of_isWord (by simpa [hne] using hbare)
    have hlater := ih (fun x hx => hchars x (List.mem_cons_of_mem c hx)) (fun hd => (hdollars hd).2) hnext
    rw [List.cons_append, shownBehind_plain hplain hregion, hlater, List.reverse_cons,
      List.append_assoc]
    rfl

/-- **A part is shown as it is written.** -/
theorem shownBefore_part (hplain : hides .plain = false) (hname : hides .quotedName = false)
    {part : Text} (hpart : IsPart d.quoteStyle part) : ShownBefore hides d part := by
  intro before rest hrest
  generalize hstyle : d.quoteStyle = style at hpart
  cases hpart with
  | bare hne hchars hdollars =>
    subst hstyle
    exact shownBehind_bare hplain hchars (fun hd => hdollars (by rw [hd]; rfl))
      (fun h => Bool.noConfusion h) rest
  | quoted _ name =>
    exact shownBehind_wrap hname hrest.head?_ne.1 fun more => by simp [regionAt]
  | bracketed name =>
    exact shownBehind_wrap hname hrest.head?_ne.2 fun more => by simp [regionAt, hstyle]

/-! ## §5. References are shown with the same parts and gaps -/

/-- A joint and what it is shown as. -/
structure Joint.ShownAs (j k : Joint) : Prop where
  part : k.part = j.part
  gaps : IsGap k.front ∧ IsGap k.behind
  front : k.front = [] ↔ j.front = []
  behind : k.behind = [] ↔ j.behind = []

/-- A joint is shown closed if it is closed. -/
theorem Joint.ShownAs.isClosed_eq {j k : Joint} (h : j.ShownAs k) : k.isClosed = j.isClosed := by
  rw [Bool.eq_iff_iff, Joint.isClosed_iff, Joint.isClosed_iff, h.front, h.behind]

section

variable {js ks : List Joint} (h : List.Forall₂ Joint.ShownAs js ks)
include h

/-- Joints are shown with their parts. -/
theorem parts_of_shownAs : ks.map Joint.part = js.map Joint.part := by
  induction h with
  | nil => rfl
  | cons hone _ ih => rw [List.map_cons, List.map_cons, hone.part, ih]

theorem parts_head_of_shownAs : (ks.takeWhile Joint.isClosed).map Joint.part
    = (js.takeWhile Joint.isClosed).map Joint.part := by
  induction h with
  | nil => rfl
  | cons hone _ ih =>
    rw [List.takeWhile_cons, List.takeWhile_cons, hone.isClosed_eq]
    split
    · rw [List.map_cons, List.map_cons, hone.part, ih]
    · rfl

/-- There is a gap where there was one. -/
theorem isClosed_of_shownAs :
    (∀ k ∈ ks, k.isClosed = true) ↔ ∀ j ∈ js, j.isClosed = true := by
  induction h with
  | nil => rfl
  | cons hone _ ih => rw [List.forall_mem_cons, List.forall_mem_cons, hone.isClosed_eq, ih]

/-- What is shown around the dots is white space. -/
theorem gaps_of_shownAs : ∀ k ∈ ks, IsGap k.front ∧ IsGap k.behind := by
  induction h with
  | nil => exact fun _ hk => absurd hk List.not_mem_nil
  | cons hone _ ih => exact List.forall_mem_cons.mpr ⟨hone.gaps, ih⟩

end

/-- A part stops in front of a joint. -/
theorem Spacing.stopsPart {style : QuoteStyle} {gap : Text} (h : Spacing gap) (rest : Text) :
    StopsPart style (gap ++ '.' :: rest) := by
  cases h with
  | nil => exact stopsPart_of_gap isGap_nil (by decide)
  | append first _ =>
    intro x hx
    cases first with
    | blank c hblank =>
      obtain rfl : c = x := Option.some.inj hx
      refine ⟨bareChar_of_isBlank hblank, ?_, ?_⟩ <;>
      · rintro rfl
        exact absurd hblank (by decide)
    | lineComment =>
      obtain rfl : '-' = x := Option.some.inj hx
      exact ⟨bareChar_of_mem_marks (by decide), by decide, by decide⟩
    | blockComment =>
      obtain rfl : '/' = x := Option.some.inj hx
      exact ⟨bareChar_of_mem_marks (by decide), by decide, by decide⟩

/-- A joint stops a part, spaced or not. -/
theorem stopsPart_spaced_joints {style : QuoteStyle} {js : List Joint} {rest : Text}
    (hgaps : ∀ j ∈ js, Spacing j.front ∧ Spacing j.behind) (hrest : StopsPart style rest) :
    StopsPart style (js.flatMap Joint.text ++ rest) := by
  cases js with
  | nil => exact hrest
  | cons j js =>
    rw [List.flatMap_cons, Joint.text, List.append_assoc, List.append_assoc]
    exact (hgaps j List.mem_cons_self).1.stopsPart _

/-- Joints are shown one by one. -/
theorem exists_shown_joints (hcomment : hides .comment = true) (hplain : hides .plain = false)
    (hname : hides .quotedName = false) {js : List Joint}
    (hparts : ∀ j ∈ js, IsPart d.quoteStyle j.part)
    (hgaps : ∀ j ∈ js, Spacing j.front ∧ Spacing j.behind) :
    ∃ ks, List.Forall₂ Joint.ShownAs js ks
      ∧ ∀ before rest, StopsPart d.quoteStyle rest →
        shownBehind hides d before (js.flatMap Joint.text ++ rest)
          = ks.flatMap Joint.text
            ++ shownBehind hides d ((js.flatMap Joint.text).reverse ++ before) rest := by
  induction js with
  | nil => exact ⟨[], .nil, fun _ _ _ => rfl⟩
  | cons j js ih =>
    have hothers := fun k hk => hgaps k (List.mem_cons_of_mem j hk)
    obtain ⟨ks, hks, hshown⟩ := ih (fun k hk => hparts k (List.mem_cons_of_mem j hk)) hothers
    obtain ⟨hfront, hbehind⟩ := hgaps j List.mem_cons_self
    obtain ⟨front, hgap, hnil, hfront⟩ := hfront.exists_shownAs (d := d) hcomment hplain
    obtain ⟨behind, hgap', hnil', hbehind⟩ := hbehind.exists_shownAs (d := d) hcomment hplain
    have hdot : ShownAs hides d ['.'] ['.'] := shownAs_char hplain (by decide)
    have hpart := shownBefore_part hplain hname (hparts j List.mem_cons_self)
    refine ⟨⟨front, behind, j.part⟩ :: ks, .cons ⟨rfl, ⟨hgap, hgap'⟩, hnil, hnil'⟩ hks, ?_⟩
    intro before rest hrest
    -- spacing, dot and spacing are shown by themselves; the part is shown as it is, since it stops
    -- where the next joint begins
    have hgaps := (hfront.append hdot).append hbehind
    have htext : (j :: js).flatMap Joint.text ++ rest
        = (j.front ++ ['.'] ++ j.behind) ++ (j.part ++ (js.flatMap Joint.text ++ rest)) := by
      rw [List.flatMap_cons, Joint.text]
      simp only [List.append_assoc, List.cons_append, List.nil_append]
    rw [htext, hgaps, hpart _ _ (stopsPart_spaced_joints hothers hrest), hshown _ _ hrest,
      List.flatMap_cons, List.flatMap_cons, Joint.text, Joint.text]
    simp only [List.append_assoc, List.reverse_append, List.reverse_cons, List.cons_append,
      List.nil_append]

/-- **A reference is shown with the same parts, and with gaps where it has gaps.** -/
theorem Dotted.exists_shown (hcomment : hides .comment = true) (hplain : hides .plain = false)
    (hname : hides .quotedName = false) {r : Dotted} (hr : r.Written Spacing d.quoteStyle) :
    ∃ shown : Dotted, shown.Written IsGap d.quoteStyle ∧ shown.parts = r.parts
      ∧ shown.head.parts = r.head.parts ∧ (shown.IsClosed ↔ r.IsClosed)
      ∧ ∀ before rest, StopsPart d.quoteStyle rest →
        shownBehind hides d before (r.text ++ rest)
          = shown.text ++ shownBehind hides d (r.text.reverse ++ before) rest := by
  have hjoints : ∀ j ∈ r.joints, IsPart d.quoteStyle j.part := fun j hj =>
    hr.parts j.part (List.mem_cons_of_mem _ (List.mem_map_of_mem hj))
  obtain ⟨ks, hks, hshown⟩ := exists_shown_joints hcomment hplain hname hjoints hr.gaps
  have hfirst := shownBefore_part hplain hname (hr.parts r.first List.mem_cons_self)
  have hall : r.first :: ks.map Joint.part = r.parts := by rw [parts_of_shownAs hks]; rfl
  refine ⟨⟨r.first, ks⟩, ⟨?_, gaps_of_shownAs hks⟩, hall,
    congrArg (r.first :: ·) (parts_head_of_shownAs hks), isClosed_of_shownAs hks, ?_⟩
  · show ∀ part ∈ r.first :: ks.map Joint.part, _
    rw [hall]
    exact hr.parts
  · intro before rest hrest
    rw [Dotted.text, Dotted.text, List.append_assoc,
      hfirst _ _ (stopsPart_spaced_joints hr.gaps hrest), hshown _ _ hrest, List.reverse_append,
      List.append_assoc, List.append_assoc]

end TableLedger.Script
