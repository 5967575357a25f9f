/-
  TableLedger.Proofs.Script.RequotedName — masks over names in their written form.

  A name that is written in quotes is one region of the script, whatever it holds, and a
  mask of literals shows it as it is.  PostgreSQL lets some names stand bare, and among
  the characters of a bare name is the dollar sign.  One dollar sign behind another is
  taken for the beginning of a dollar-quoted body, if a tag and a third one follow; then
  the rest of the name is blanked, and the script behind it up to the closing tag.

  Main statements:
    • `isSome_dollarTag?_iff` — where a dollar-quoted body begins,
    • `shownBehind_continuesBare_iff` — the bare names that are shown as they are,
    • `requoted_name_shown_iff` — the names that a mask does not cut into.
-/

import TableLedger.Proofs.Script.Spacing

namespace TableLedger.Script

open Identifier

/-! ## §1. Dollar tags -/

/-- A tag and the dollar sign that ends it stand at the beginning of the text. -/
def BeginsWithTag (t : Text) : Prop :=
  ∃ tag behind, t = tag ++ '$' :: behind ∧ (∀ c ∈ tag, isNameChar c = true)
    ∧ ∀ c ∈ tag.head?, c.isDigit = false

/-- **A dollar-quoted body begins** at a dollar sign with a tag behind it and no identifier in front. -/
theorem isSome_dollarTag?_iff {before rest : Text} :
    (dollarTag? before rest).isSome = true ↔ endsInName before = false ∧ BeginsWithTag rest := by
  constructor
  · intro h
    obtain ⟨tag, htag⟩ := Option.isSome_iff_exists.mp h
    obtain ⟨⟨body, hrest⟩, hnames⟩ := exists_of_dollarTag?_eq_some htag
    unfold dollarTag? at htag
    split at htag
    · injection htag
    · next hfront =>
      split at htag
      · injection htag
      · next hdigit =>
        refine ⟨by simpa using hfront, tag, body, by simpa using hrest, hnames, fun c hc => ?_⟩
        -- the first character of the tag is the one that was found to be no digit
        have hhead : rest.head? = some c := by
          rw [hrest, List.append_assoc, List.head?_append, hc]
          rfl
        simpa [hhead] using hdigit
  · rintro ⟨hfront, tag, behind, rfl, hnames, hdigit⟩
    have hdollar : isNameChar '$' = false := by decide
    have hword : (tag ++ '$' :: behind).takeWhile isNameChar = tag := by
      rw [List.takeWhile_append_of_pos hnames, List.takeWhile_cons_of_neg (by simp [hdollar]),
        List.append_nil]
    have hhead : (tag ++ '$' :: behind).head?.any Char.isDigit = false := by
      cases tag with
      | nil => show '$'.isDigit = false; decide
      | cons c tag => exact hdigit c rfl
    simp only [dollarTag?, hword, hfront, hhead, Bool.false_eq_true, if_false, List.drop_left]
    rfl

/-! ## §2. Bare names -/

variable {hides : Hiding} {name before : Text}

/-- A dollar-quoted body begins in the name. -/
def BodyBeginsIn (before name : Text) : Prop :=
  ∃ front rest, name = front ++ '$' :: rest ∧ (dollarTag? (front.reverse ++ before) rest).isSome = true

/-- A body begins at the first dollar sign or behind it. -/
theorem bodyBeginsIn_cons {c : Char} {rest : Text} :
    BodyBeginsIn before (c :: rest)
      ↔ (c = '$' ∧ (dollarTag? before rest).isSome = true) ∨ BodyBeginsIn (c :: before) rest := by
  constructor
  · rintro ⟨front, behind, hname, htag⟩
    cases front with
    | nil =>
      obtain ⟨rfl, rfl⟩ := List.cons.inj hname
      exact .inl ⟨rfl, htag⟩
    | cons x front =>
      obtain ⟨rfl, rfl⟩ := List.cons.inj hname
      exact .inr ⟨front, behind, rfl, by simpa using htag⟩
  · rintro (⟨rfl, htag⟩ | ⟨front, behind, rfl, htag⟩)
    · exact ⟨[], rest, rfl, htag⟩
    · exact ⟨c :: front, behind, rfl, by simpa using htag⟩

/-- **A bare name is shown as it is** if and only if no dollar-quoted body begins in it. -/
theorem shownBehind_continuesBare_iff (hplain : hides .plain = false) (hbody : hides .dollarBody = true)
    (h : ∀ c ∈ name, continuesBare c = true) :
    shownBehind hides .pg before name = name ↔ ¬BodyBeginsIn before name := by
  induction name generalizing before with
  | nil =>
    refine iff_of_true (shownBehind_nil .pg before) ?_
    rintro ⟨front, rest, hname, -⟩
    exact absurd hname (by simp)
  | cons c rest ih =>
    have hothers : shownBehind hides .pg (c :: before) rest = rest ↔ ¬BodyBeginsIn (c :: before) rest :=
      ih fun x hx => h x (List.mem_cons_of_mem c hx)
    by_cases htag : c = '$' ∧ (dollarTag? before rest).isSome = true
    · -- the region that begins here is blanked, and its dollar sign with it
      refine iff_of_false ?_ (not_not_intro (bodyBeginsIn_cons.mpr (.inl htag)))
      obtain ⟨rfl, htag⟩ := htag
      obtain ⟨tag, htag⟩ := Option.isSome_iff_exists.mp htag
      have hkind : (regionAt .pg before '$' rest).1 = .dollarBody := by
        rw [regionAt_pg]
        simp [htag]
      intro hshown
      have hregions := regionsAfter.eq_2 .pg before '$' rest
      unfold shownBehind at hshown
      rw [hregions, List.flatMap_cons] at hshown
      unfold Region.masked at hshown
      rw [if_pos (by rw [hkind]; exact hbody)] at hshown
      have hspace : blankChar '$' = [' '] := by decide
      rw [blank, List.flatMap_cons, hspace] at hshown
      exact absurd (List.cons.inj hshown).1 (by decide)
    · have hregion : regionAt .pg before c rest = (.plain, 0) := by
        have hne := ne_of_continuesBare (h c List.mem_cons_self)
        by_cases hdollar : c = '$'
        · subst hdollar
          have hnone : dollarTag? before rest = none := by
            simpa using htag
          simp [regionAt_pg, hnone]
        · refine regionAt_of_not_mark ?_ before rest
          have hcode := toNat_of_continuesBare (h c List.mem_cons_self)
          simp only [List.mem_cons, List.not_mem_nil, or_false, not_or]
          refine ⟨?_, ?_, ?_, hne.2.1, hne.2.2, hdollar⟩ <;>
          · rintro rfl
            exact absurd hcode (by decide)
      rw [shownBehind_plain hplain hregion, List.cons_inj_right, hothers, bodyBeginsIn_cons,
        or_iff_right htag]

/-- A dollar sign, another one and a tag: so a body begins in the middle of a name. -/
def OpensDollarBody (name : Text) : Prop :=
  ∃ front rest, name = front ++ '$' :: '$' :: rest ∧ BeginsWithTag rest

/-- A bare name does not begin with a dollar sign, and all its other characters are such that no
    body begins behind them. -/
theorem bodyBeginsIn_iff_of_isBare (h : isBare name = true) :
    BodyBeginsIn [] name ↔ OpensDollarBody name := by
  have hchars : ∀ c ∈ name, continuesBare c = true := fun c => continuesBare_of_mem_of_isBare h
  constructor
  · rintro ⟨front, rest, rfl, htag⟩
    obtain ⟨hname, hrest⟩ := isSome_dollarTag?_iff.mp htag
    rw [List.append_nil] at hname
    obtain rfl | ⟨front, x, rfl⟩ := List.eq_nil_or_concat front
    · exact absurd h (by simp [isBare, opensBare])
    · -- what may stand in a bare name and is no character of a tag is a dollar sign
      refine ⟨front, rest, ?_, hrest⟩
      have hx : isNameChar x = false := by simpa [endsInName] using hname
      have hbare : continuesBare x = true := hchars x (by simp)
      have hdollar : x = '$' := by
        have hcode := toNat_of_continuesBare hbare
        by_contra hne
        have hnot : isNameChar x = true := by
          simp only [continuesBare, Bool.or_eq_true, beq_iff_eq, hne, or_false] at hbare
          simp only [isNameChar, Unicode.isAlphanum_iff, Bool.or_eq_true, beq_iff_eq]
          tauto
        rw [hx] at hnot
        exact Bool.noConfusion hnot
      rw [hdollar]
      simp
  · rintro ⟨front, rest, rfl, hrest⟩
    refine ⟨front ++ ['$'], rest, by simp, isSome_dollarTag?_iff.mpr ⟨?_, hrest⟩⟩
    rw [List.append_nil, List.reverse_concat]
    show isNameChar '$' = false
    decide

/-! ## §3. Written names -/

/-- A name in quotes is shown as it is. -/
theorem shownBehind_wrap_eq_self (hname : hides .quotedName = false) {d : Dialect}
    {opening closing : Char}
    (h : ∀ before more, regionAt d before opening more = (.quotedName, quotedLength closing more)) :
    shownBehind hides d [] (Text.wrap opening closing name) = Text.wrap opening closing name := by
  have hnil : ([] : Text).head? ≠ some closing := by simp
  have hshown : shownBehind hides d [] (Text.wrap opening closing name ++ []) = _ :=
    shownBehind_wrap hname hnil (h [])
  rw [List.append_nil] at hshown
  rw [hshown, shownBehind_nil, List.append_nil]

/-- **Which written names a mask leaves alone**: all of them, except the names that PostgreSQL
    lets stand bare although a dollar-quoted body begins in them. -/
theorem requoted_name_shown_iff (d : Dialect) (name : Text) :
    maskCommentsAndLiterals d (requote d name) = requote d name
      ↔ ¬(d = .pg ∧ isBare name = true ∧ OpensDollarBody name) := by
  have hshown : maskCommentsAndLiterals d (requote d name)
      = shownBehind hidesLiterals d [] (requote d name) := rfl
  rw [hshown]
  by_cases hserver : d.quoteStyle = .bracket
  · -- brackets: the name is one region from mark to mark
    have hpg : d ≠ .pg := by
      rintro rfl
      exact absurd hserver (by decide)
    have hwritten : requote d name = Text.wrap '[' ']' name := by simp [requote, hserver]
    rw [hwritten]
    refine iff_of_true (shownBehind_wrap_eq_self rfl fun before more => ?_) fun h => hpg h.1
    simp [regionAt, hserver]
  · obtain rfl : d = .pg := by
      cases d with
      | pg => rfl
      | ms | azure => exact absurd rfl hserver
    cases hbare : isBare name with
    | true =>
      have hwritten : requote .pg name = name := by simp [requote, Dialect.quoteStyle, hbare]
      rw [hwritten, shownBehind_continuesBare_iff rfl rfl
        fun c => continuesBare_of_mem_of_isBare hbare, bodyBeginsIn_iff_of_isBare hbare]
      simp
    | false =>
      have hwritten : requote .pg name = Text.wrap '"' '"' name := by
        simp [requote, Dialect.quoteStyle, hbare]
      rw [hwritten]
      refine iff_of_true (shownBehind_wrap_eq_self rfl fun before more => ?_) (by simp)
      simp [regionAt]

/-- The end of a name is blanked because a dollar-quoted body begins in it. -/
theorem requoted_name_cut_at_dollars :
    requote .pg "a$$b$c".toList = "a$$b$c".toList
      ∧ maskCommentsAndLiterals .pg (requote .pg "a$$b$c".toList) = "a$    ".toList
      ∧ maskCommentsAndLiterals .pg (requote .pg "a$$b$c".toList) ≠ requote .pg "a$$b$c".toList := by
  have hmasked : maskCommentsAndLiterals .pg "a$$b$c".toList = "a$    ".toList := by decide +kernel
  have hwritten : requote .pg "a$$b$c".toList = "a$$b$c".toList := by decide +kernel
  rw [hwritten, hmasked]
  exact ⟨rfl, rfl, by decide +kernel⟩

end TableLedger.Script
