/-
  TableLedger.Proofs.Script.Glyph — what a masked script still shows.

  A glyph is a character of a script with the kind of its region.  Every
  mask, and the blanking of routine definitions after it, treats a script
  glyph by glyph: a glyph is shown as it is, or it gives way to blanks of
  the same byte length.  So a word that is found in a masked script stands
  at the same bytes of the script, and its glyphs are among those shown.

  Main statements:
    • `chars_glyphs` — the characters of the glyphs are the script,
    • `ofScript_eq` — the two texts that are searched, glyph by glyph,
    • `exists_word_of_shownFrom` — a word found in such a text is a word of
      the script,
    • `kind_of_mem_word` — a word without opening marks does not leave the
      region that it begins in, except for plain code.
-/

import Mathlib.Data.List.Chain
import TableLedger.Script.Classify

namespace TableLedger.Script

/-! ## §1. Glyphs -/

/-- A character of a script with the kind of its region. -/
structure Glyph where
  kind : RegionKind
  char : Char
  deriving DecidableEq, Repr

def Region.glyphs (r : Region) : List Glyph := r.text.map (Glyph.mk r.kind)

/-- The glyphs of a script, in order. -/
def glyphs (d : Dialect) (script : Text) : List Glyph := (regions d script).flatMap Region.glyphs

/-- The characters of glyphs. -/
def chars (gs : List Glyph) : Text := gs.map Glyph.char

@[simp] theorem chars_nil : chars [] = [] := rfl

@[simp] theorem chars_cons (g : Glyph) (gs : List Glyph) : chars (g :: gs) = g.char :: chars gs :=
  rfl

@[simp] theorem chars_append (gs hs : List Glyph) : chars (gs ++ hs) = chars gs ++ chars hs :=
  List.map_append

/-- The characters of a region are its text. -/
theorem chars_glyphs_region (r : Region) : chars r.glyphs = r.text := by
  unfold chars Region.glyphs
  rw [List.map_map]
  exact List.map_id _

/-- The characters of its glyphs are the script. -/
theorem chars_glyphs (d : Dialect) (script : Text) : chars (glyphs d script) = script := by
  have hregions : ∀ rs : List Region, chars (rs.flatMap Region.glyphs) = rs.flatMap Region.text := by
    intro rs
    induction rs with
    | nil => rfl
    | cons r rs ih => rw [List.flatMap_cons, chars_append, chars_glyphs_region, ih, List.flatMap_cons]
  unfold glyphs
  rw [hregions]
  exact flatten_regions d script

/-- Two ways to cut glyphs at the same byte are the same. -/
theorem append_inj_of_byteLength {front front' back back' : List Glyph}
    (h : front ++ back = front' ++ back')
    (hlen : Text.byteLength (chars front) = Text.byteLength (chars front')) :
    front = front' ∧ back = back' := by
  -- every character takes a byte, so both cuts are used up together
  induction front generalizing front' with
  | nil =>
    cases front' with
    | nil => exact ⟨rfl, h⟩
    | cons g rest =>
      have hpos := g.char.utf8Size_pos
      simp only [chars_nil, chars_cons, Text.byteLength_nil, Text.byteLength_cons] at hlen
      omega
  | cons g rest ih =>
    cases front' with
    | nil =>
      have hpos := g.char.utf8Size_pos
      simp only [chars_nil, chars_cons, Text.byteLength_nil, Text.byteLength_cons] at hlen
      omega
    | cons g' rest' =>
      rw [List.cons_append, List.cons_append] at h
      injection h with hhead htail
      subst hhead
      simp only [chars_cons, Text.byteLength_cons] at hlen
      obtain ⟨hrest, hback⟩ := ih htail (by omega)
      exact ⟨by rw [hrest], hback⟩

/-- Two ways to cut a text at the same byte are the same. -/
theorem text_append_inj_of_byteLength {front front' back back' : Text}
    (h : front ++ back = front' ++ back')
    (hlen : Text.byteLength front = Text.byteLength front') : front = front' ∧ back = back' := by
  have hchars : ∀ t : Text, chars (t.map (Glyph.mk .plain)) = t := fun t => by
    simp [chars, Function.comp_def]
  have hglyphs : front.map (Glyph.mk .plain) ++ back.map (Glyph.mk .plain)
      = front'.map (Glyph.mk .plain) ++ back'.map (Glyph.mk .plain) := by
    rw [← List.map_append, h, List.map_append]
  have hcut := append_inj_of_byteLength hglyphs (by rw [hchars, hchars, hlen])
  rw [← hchars front, ← hchars back, hcut.1, hcut.2, hchars, hchars]
  exact ⟨rfl, rfl⟩

/-! ## §2. Masks, glyph by glyph -/

/-- What is shown of a glyph at a byte offset: if its kind is hidden or a span
    covers it, blanks. -/
def Glyph.shown (hides : Hiding) (spans : List Span) (offset : Nat) (g : Glyph) : Text :=
  if hides g.kind || spans.any (·.covers offset) then blankChar g.char else [g.char]

/-- What is shown of glyphs that stand behind `offset` bytes. -/
def shownFrom (hides : Hiding) (spans : List Span) : Nat → List Glyph → Text
  | _, [] => []
  | offset, g :: rest =>
    g.shown hides spans offset ++ shownFrom hides spans (offset + g.char.utf8Size) rest

/-- Spaces stay spaces, whether or not a span covers them. -/
theorem blankSpansFrom_spaces (spans : List Span) (n offset : Nat) (t : Text) :
    blankSpansFrom spans offset (List.replicate n ' ' ++ t)
      = List.replicate n ' ' ++ blankSpansFrom spans (offset + n) t := by
  induction n generalizing offset with
  | zero => rfl
  | succ n ih =>
    have hspace : blankChar ' ' = [' '] := by decide
    have hsize : (' ' : Char).utf8Size = 1 := by decide
    rw [List.replicate_succ, List.cons_append, blankSpansFrom, hspace, ite_self, hsize, ih,
      Nat.add_assoc, Nat.add_comm 1 n]
    rfl

/-- Blanking spans leaves blanks alone. -/
theorem blankSpansFrom_blankChar (spans : List Span) (offset : Nat) (c : Char) (t : Text) :
    blankSpansFrom spans offset (blankChar c ++ t)
      = blankChar c ++ blankSpansFrom spans (offset + c.utf8Size) t := by
  -- a line break stays, any other character becomes as many spaces as it has bytes
  by_cases hbreak : c = '\n'
  · subst hbreak
    have hblank : blankChar '\n' = ['\n'] := by decide
    rw [hblank, List.singleton_append, blankSpansFrom, hblank, ite_self]
  · have hblank : blankChar c = List.replicate c.utf8Size ' ' := if_neg hbreak
    rw [hblank]
    exact blankSpansFrom_spaces spans c.utf8Size offset t

/-- A region is masked character by character. -/
theorem masked_eq_shown (hides : Hiding) (r : Region) :
    r.masked hides
      = r.glyphs.flatMap fun g => if hides g.kind then blankChar g.char else [g.char] := by
  unfold Region.masked Region.glyphs
  rw [List.flatMap_map]
  split
  · rfl
  · exact (List.flatMap_singleton' r.text).symm

/-- A script is masked character by character. -/
theorem mask_eq_shown (hides : Hiding) (d : Dialect) (script : Text) :
    mask hides d script
      = (glyphs d script).flatMap fun g => if hides g.kind then blankChar g.char else [g.char] := by
  unfold mask glyphs
  rw [List.flatMap_assoc]
  exact congrArg (List.flatMap · (regions d script)) (funext (masked_eq_shown hides))

/-- Blanking spans of a mask. -/
theorem blankSpansFrom_mask (hides : Hiding) (spans : List Span) (gs : List Glyph) (offset : Nat) :
    blankSpansFrom spans offset
        (gs.flatMap fun g => if hides g.kind then blankChar g.char else [g.char])
      = shownFrom hides spans offset gs := by
  induction gs generalizing offset with
  | nil => rfl
  | cons g rest ih =>
    rw [List.flatMap_cons, shownFrom, Glyph.shown]
    cases hhides : hides g.kind with
    | true =>
      -- blanks keep the byte length, so the spans cover the same glyphs behind them
      simp only [Bool.true_or, if_true]
      rw [blankSpansFrom_blankChar, ih]
    | false =>
      simp only [Bool.false_or, Bool.false_eq_true, if_false]
      rw [List.singleton_append, blankSpansFrom, ih]

/-- The extents of routine definitions that are blanked in a script. -/
def hiddenSpans (d : Dialect) (script : Text) : List Span :=
  routineSpans d (maskCommentsAndLiterals d script)

/-- The two texts that are searched, glyph by glyph. -/
theorem ofScript_eq (d : Dialect) (script : Text) :
    MaskedScript.ofScript d script
      = ⟨shownFrom hidesLiterals (hiddenSpans d script) 0 (glyphs d script),
        shownFrom hidesComments (hiddenSpans d script) 0 (glyphs d script)⟩ := by
  rw [← blankSpansFrom_mask, ← blankSpansFrom_mask, ← mask_eq_shown, ← mask_eq_shown]
  rfl

/-! ## §3. From a masked script back to the script -/

/-- Whether each of the glyphs that stand behind `offset` bytes is shown as it is. -/
def Visible (hides : Hiding) (spans : List Span) : Nat → List Glyph → Prop
  | _, [] => True
  | offset, g :: rest =>
    hides g.kind = false ∧ spans.any (·.covers offset) = false
      ∧ Visible hides spans (offset + g.char.utf8Size) rest

/-- Glyphs that one mask shows are shown by another that does not hide their kinds. -/
theorem Visible.of_kinds {hides hides' : Hiding} {spans : List Span} {word : List Glyph}
    {offset : Nat} (h : Visible hides spans offset word)
    (hkinds : ∀ g ∈ word, hides' g.kind = false) : Visible hides' spans offset word := by
  induction word generalizing offset with
  | nil => trivial
  | cons g rest ih =>
    obtain ⟨-, hspans, hrest⟩ := h
    refine ⟨hkinds g List.mem_cons_self, hspans, ih hrest fun x hx => ?_⟩
    exact hkinds x (List.mem_cons_of_mem _ hx)

/-- Blanking brings in spaces and line breaks only. -/
theorem not_mem_blankChar {c x : Char} (hspace : c ≠ ' ') (hbreak : c ≠ '\n') :
    c ∉ blankChar x := by
  unfold blankChar
  split
  · exact fun h => hbreak (List.mem_singleton.mp h)
  · exact fun h => hspace (List.eq_of_mem_replicate h)

namespace Glyph

variable {hides : Hiding} {spans : List Span} {offset : Nat} {g : Glyph}

/-- However a character is shown, it takes as many bytes. -/
theorem byteLength_shown : Text.byteLength (g.shown hides spans offset) = g.char.utf8Size := by
  unfold shown
  split
  · exact byteLength_blankChar g.char
  · rfl

/-- A glyph for which something else than blanks is shown is shown as it is. -/
theorem visible_of_shown {c : Char} {front rest : Text} (hspace : c ≠ ' ') (hbreak : c ≠ '\n')
    (h : g.shown hides spans offset = front ++ c :: rest) :
    front = [] ∧ rest = [] ∧ g.char = c ∧ hides g.kind = false
      ∧ spans.any (·.covers offset) = false := by
  unfold shown at h
  split at h
  · -- among blanks there is no other character
    have hmem : c ∈ blankChar g.char := by
      rw [h]
      exact List.mem_append_right _ List.mem_cons_self
    exact absurd hmem (not_mem_blankChar hspace hbreak)
  · -- what is shown has a single character
    next hvisible =>
    rw [Bool.or_eq_true, not_or, Bool.not_eq_true, Bool.not_eq_true] at hvisible
    cases front with
    | nil =>
      rw [List.nil_append] at h
      injection h with hchar hrest
      exact ⟨rfl, hrest.symm, hchar, hvisible.1, hvisible.2⟩
    | cons x front =>
      rw [List.cons_append] at h
      injection h with _ hrest
      exact absurd (congrArg List.length hrest) (by simp)

end Glyph

/-- An element of a concatenation lies in one of the two lists. -/
theorem append_eq_append_cons {α : Type} {part back front rest : List α} {x : α}
    (h : part ++ back = front ++ x :: rest) :
    (∃ front', front = part ++ front' ∧ back = front' ++ x :: rest)
      ∨ ∃ rest', part = front ++ x :: rest' ∧ rest = rest' ++ back := by
  obtain ⟨front', hfront, hback⟩ | ⟨rest', hpart, hrest⟩ := List.append_eq_append_iff.mp h
  · exact Or.inl ⟨front', hfront, hback⟩
  · cases rest' with
    | nil => exact Or.inl ⟨[], by rw [hpart]; simp, hrest.symm⟩
    | cons y rest' =>
      injection hrest with hy hrest
      exact Or.inr ⟨rest', by rw [hpart, hy], hrest⟩

/-- A character that is no blank is shown for a glyph at the same byte. -/
theorem exists_glyph_of_shownFrom {hides : Hiding} {spans : List Span} {c : Char}
    (hspace : c ≠ ' ') (hbreak : c ≠ '\n') {gs : List Glyph} {offset : Nat} {front rest : Text}
    (h : shownFrom hides spans offset gs = front ++ c :: rest) :
    ∃ before g behind, gs = before ++ g :: behind ∧ g.char = c
      ∧ Text.byteLength (chars before) = Text.byteLength front
      ∧ hides g.kind = false
      ∧ spans.any (·.covers (offset + Text.byteLength front)) = false
      ∧ shownFrom hides spans (offset + Text.byteLength front + c.utf8Size) behind = rest := by
  induction gs generalizing offset front with
  | nil =>
    rw [shownFrom] at h
    exact absurd (congrArg List.length h) (by simp)
  | cons g gs ih =>
    obtain ⟨front', hfront, htail⟩ | ⟨rest', hshown, hrest⟩ := append_eq_append_cons h
    · -- the character lies behind what is shown for the first glyph
      have hsize : Text.byteLength front = g.char.utf8Size + Text.byteLength front' := by
        rw [hfront, Text.byteLength_append, Glyph.byteLength_shown]
      obtain ⟨before, found, behind, hgs, hchar, hlen, hhides, hspans, hbehind⟩ := ih htail
      rw [Nat.add_assoc offset, ← hsize] at hspans hbehind
      refine ⟨g :: before, found, behind, by rw [hgs]; rfl, hchar, ?_, hhides, hspans, hbehind⟩
      rw [chars_cons, Text.byteLength_cons, hlen, hsize]
    · -- the first glyph is shown as the character
      obtain ⟨rfl, rfl, hchar, hhides, hspans⟩ := Glyph.visible_of_shown hspace hbreak hshown
      refine ⟨[], g, gs, rfl, hchar, rfl, hhides, hspans, ?_⟩
      rw [hrest, ← hchar]
      rfl

/-- A word without blanks at the front of what is shown is shown for glyphs. -/
theorem exists_glyphs_of_shownFrom {hides : Hiding} {spans : List Span} {found : Text}
    (hspaces : ' ' ∉ found) (hbreaks : '\n' ∉ found) {gs : List Glyph} {offset : Nat}
    {rest : Text} (h : shownFrom hides spans offset gs = found ++ rest) :
    ∃ word behind, gs = word ++ behind ∧ chars word = found
      ∧ Visible hides spans offset word := by
  induction found generalizing gs offset with
  | nil => exact ⟨[], gs, rfl, rfl, trivial⟩
  | cons c found ih =>
    rw [List.mem_cons, not_or] at hspaces hbreaks
    have hcons : shownFrom hides spans offset gs = [] ++ c :: (found ++ rest) := h
    obtain ⟨before, g, after, hgs, hchar, hlen, hhides, hspans, hafter⟩ :=
      exists_glyph_of_shownFrom (Ne.symm hspaces.1) (Ne.symm hbreaks.1) hcons
    obtain ⟨word, behind, hword, hfound, hvisible⟩ := ih hspaces.2 hbreaks.2 hafter
    -- nothing stands in front, since no glyph takes no byte
    have hbefore : before = [] := (append_inj_of_byteLength
      (show before ++ (g :: after) = [] ++ (before ++ g :: after) from rfl) hlen).1
    subst hbefore
    rw [← hchar] at hvisible
    refine ⟨g :: word, behind, by rw [hgs, hword]; rfl, by rw [chars_cons, hchar, hfound], ?_⟩
    exact ⟨hhides, hspans, hvisible⟩

/-- A word without blanks that is shown is a word of the script, at the same byte,
    every glyph of which is visible. -/
theorem exists_word_of_shownFrom {hides : Hiding} {spans : List Span} {c : Char} {found : Text}
    (hspaces : ' ' ∉ c :: found) (hbreaks : '\n' ∉ c :: found) {gs : List Glyph}
    {front rest : Text} (h : shownFrom hides spans 0 gs = front ++ c :: found ++ rest) :
    ∃ before word behind, gs = before ++ word ++ behind
      ∧ Text.byteLength (chars before) = Text.byteLength front ∧ chars word = c :: found
      ∧ Visible hides spans (Text.byteLength front) word := by
  rw [List.append_assoc, List.cons_append] at h
  rw [List.mem_cons, not_or] at hspaces hbreaks
  obtain ⟨before, g, after, hgs, hchar, hlen, hhides, hspans, hafter⟩ :=
    exists_glyph_of_shownFrom (Ne.symm hspaces.1) (Ne.symm hbreaks.1) h
  obtain ⟨word, behind, hword, hfound, hvisible⟩ :=
    exists_glyphs_of_shownFrom hspaces.2 hbreaks.2 hafter
  rw [Nat.zero_add] at hspans hvisible
  rw [← hchar] at hvisible
  refine ⟨before, g :: word, behind, ?_, hlen, by rw [chars_cons, hchar, hfound], ?_⟩
  · rw [hgs, hword, List.append_assoc]
    rfl
  · exact ⟨hhides, hspans, hvisible⟩

/-! ## §4. Neighbours -/

/-- Characters that open a region other than plain code. -/
def openingMarks : List Char := ['-', '/', '\'', '"', '[', '$']

/-- What may stand next to a glyph: another one of its region, plain code, or
    the opening mark of a region. -/
def Joins (g h : Glyph) : Prop := h.kind = g.kind ∨ h.kind = .plain ∨ h.char ∈ openingMarks

/-- What is no plain code begins with one of the opening marks. -/
theorem regionAt_opens (d : Dialect) (before : Text) (c : Char) (rest : Text) :
    (regionAt d before c rest).1 = .plain ∨ c ∈ openingMarks := by
  unfold regionAt
  split
  · next h => exact Or.inr (by rw [h.1]; decide)
  split
  · next h => exact Or.inr (by rw [h.1]; decide)
  split
  · next h => exact Or.inr (by rw [h]; decide)
  split
  · next h => exact Or.inr (by rw [h]; decide)
  split
  · next h => exact Or.inr (by rw [h.1]; decide)
  split
  · next h => exact Or.inr (by rw [h.1]; decide)
  · exact Or.inl rfl

/-- The characters of a region belong together. -/
theorem isChain_glyphs_region (kind : RegionKind) (t : Text) :
    (t.map (Glyph.mk kind)).IsChain Joins := by
  induction t with
  | nil => exact List.IsChain.nil
  | cons c rest ih =>
    cases rest with
    | nil => exact List.IsChain.singleton _
    | cons next rest => exact List.isChain_cons_cons.mpr ⟨Or.inl rfl, ih⟩

/-- Neighbours in a script join. -/
theorem isChain_glyphs (d : Dialect) (before t : Text) :
    ((regionsAfter d before t).flatMap Region.glyphs).IsChain Joins := by
  fun_induction regionsAfter d before t with
  | case1 => exact List.IsChain.nil
  | case2 before c rest found text ih =>
    rw [List.flatMap_cons, List.isChain_append]
    refine ⟨isChain_glyphs_region found.1 text, ih, ?_⟩
    intro x _ y hy
    -- the next region begins with a mark of its own, unless it is plain
    generalize rest.drop found.2 = later at hy
    cases later with
    | nil =>
      rw [regionsAfter] at hy
      exact absurd hy (by simp)
    | cons c' rest' =>
      rw [regionsAfter] at hy
      have hfirst : y = ⟨(regionAt d (text.reverse ++ before) c' rest').1, c'⟩ := by
        simpa [Region.glyphs, eq_comm] using hy
      rw [hfirst]
      exact Or.inr (regionAt_opens d _ c' rest')

/-- A word without opening marks does not leave the region that it begins in,
    except for plain code. -/
theorem kind_of_mem_word {g : Glyph} {word : List Glyph} (hchain : (g :: word).IsChain Joins)
    (hmarks : ∀ x ∈ word, x.char ∉ openingMarks) :
    ∀ x ∈ word, x.kind = g.kind ∨ x.kind = .plain := by
  -- once a word has come to plain code, it stays there
  induction word generalizing g with
  | nil => exact fun x hx => absurd hx List.not_mem_nil
  | cons h word ih =>
    intro x hx
    obtain ⟨hjoins, hchain⟩ := List.isChain_cons_cons.mp hchain
    have hkind : h.kind = g.kind ∨ h.kind = .plain := by
      obtain hsame | hplain | hmark := hjoins
      · exact Or.inl hsame
      · exact Or.inr hplain
      · exact absurd hmark (hmarks h List.mem_cons_self)
    obtain rfl | hx := List.mem_cons.mp hx
    · exact hkind
    · have hrest := ih hchain (fun y hy => hmarks y (List.mem_cons_of_mem _ hy)) x hx
      obtain hsame | hplain := hrest
      · rw [hsame]
        exact hkind
      · exact Or.inr hplain

/-- The same for a word of a script. -/
theorem kind_of_mem_glyphs {d : Dialect} {script : Text} {before word behind : List Glyph}
    {first : Glyph} (h : glyphs d script = before ++ first :: word ++ behind)
    (hmarks : ∀ c ∈ openingMarks, c ∉ chars word) :
    ∀ g ∈ first :: word, g.kind = first.kind ∨ g.kind = .plain := by
  have hchain : (glyphs d script).IsChain Joins := isChain_glyphs d [] script
  rw [h] at hchain
  have hword := hchain.left_of_append.right_of_append
  intro g hg
  obtain rfl | hg := List.mem_cons.mp hg
  · exact Or.inl rfl
  · refine kind_of_mem_word hword (fun x hx hmark => ?_) g hg
    exact hmarks x.char hmark (List.mem_map_of_mem hx)

end TableLedger.Script
