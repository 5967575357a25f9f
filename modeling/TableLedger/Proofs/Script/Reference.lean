/-
  TableLedger.Proofs.Script.Reference — how far a dotted reference is read.

  A reference is written as parts with dots between them, each part bare or in quotes.
  There may be white space at the dots.  The pattern for references does not take it:
  it reads on from part to part as long as the dots are closed, and stops in front of
  the first dot with a gap.  What it has read by then is a reference too, with fewer
  parts; the cut at the dots finds these very parts.

  Main statements:
    • `prefers_reference` — a reference is read up to the first gap,
    • `mem_ways_reference_of_open` — and no way to read it leads past that gap,
    • `split_join` — the parts of what is read,
    • `trackedTable?_join` — the table it names.
-/

import TableLedger.Proofs.Script.RenameCall
import TableLedger.Proofs.TableRef.RoundTrip

namespace TableLedger.Script

open Pattern

/-! ## §1. How references are written -/

/-- Characters of a bare name. -/
def bareChar : QuoteStyle → Char → Bool
  | .doubleQuote => isBareChar
  | .bracket => isServerBareChar

/-- Each dollar sign stands behind another character of the name; `inName` says whether
    one stands in front.  In PostgreSQL, two in a row would open a dollar-quoted body. -/
def singleDollars : (inName : Bool) → Text → Bool
  | _, [] => true
  | inName, c :: rest => (c != '$' || inName) && singleDollars (c != '$') rest

/-- One part of a reference, as it is written. -/
inductive IsPart : QuoteStyle → Text → Prop where
  | bare {style : QuoteStyle} {name : Text} (hne : name ≠ [])
      (hchars : ∀ c ∈ name, bareChar style c = true)
      (hdollars : style = .doubleQuote → singleDollars false name = true) : IsPart style name
  | quoted (style : QuoteStyle) (name : Text) : IsPart style (Text.wrap '"' '"' name)
  | bracketed (name : Text) : IsPart .bracket (Text.wrap '[' ']' name)

/-- A part of a reference as the pattern for references reads it: it does not mind dollar signs. -/
inductive IsSegment : QuoteStyle → Text → Prop where
  | bare {style : QuoteStyle} {name : Text} (hne : name ≠ [])
      (hchars : ∀ c ∈ name, bareChar style c = true) : IsSegment style name
  | quoted (style : QuoteStyle) (name : Text) : IsSegment style (Text.wrap '"' '"' name)
  | bracketed (name : Text) : IsSegment .bracket (Text.wrap '[' ']' name)

/-- A part as a script shows it is one as the pattern reads it. -/
theorem IsPart.isSegment {style : QuoteStyle} {part : Text} (h : IsPart style part) :
    IsSegment style part := by
  cases h with
  | bare hne hchars _ => exact .bare hne hchars
  | quoted style name => exact .quoted style name
  | bracketed name => exact .bracketed name

/-- A dot with what stands around it, and the part behind. -/
structure Joint where
  front : Text
  behind : Text
  part : Text

namespace Joint

def text (j : Joint) : Text := j.front ++ '.' :: (j.behind ++ j.part)

/-- Whether nothing stands around the dot. -/
def isClosed (j : Joint) : Bool := j.front.isEmpty && j.behind.isEmpty

/-- The joint with a plain dot. -/
def closed (j : Joint) : Joint := ⟨[], [], j.part⟩

/-- A joint is closed if nothing stands around its dot. -/
theorem isClosed_iff {j : Joint} : j.isClosed = true ↔ j.front = [] ∧ j.behind = [] := by
  simp [isClosed]

/-- A closed joint is written as a dot with the part behind it. -/
theorem text_of_isClosed {j : Joint} (h : j.isClosed = true) : j.text = '.' :: j.part := by
  obtain ⟨hfront, hbehind⟩ := isClosed_iff.mp h
  rw [text, hfront, hbehind]
  rfl

end Joint

/-- A dotted reference, as it is written. -/
structure Dotted where
  first : Text
  joints : List Joint

namespace Dotted

variable (r : Dotted)

def text : Text := r.first ++ r.joints.flatMap Joint.text

/-- The parts, from the first to the table. -/
def parts : List Text := r.first :: r.joints.map Joint.part

/-- The reference with plain dots. -/
def closed : Dotted := ⟨r.first, r.joints.map Joint.closed⟩

/-- What stands in front of the first dot with a gap. -/
def head : Dotted := ⟨r.first, r.joints.takeWhile Joint.isClosed⟩

/-- What stands behind it. -/
def tail : Text := (r.joints.dropWhile Joint.isClosed).flatMap Joint.text

/-- A reference is its head, up to the first gap, with the tail behind it. -/
theorem head_append_tail : r.head.text ++ r.tail = r.text := by
  rw [text, text, head, tail, List.append_assoc, ← List.flatMap_append, List.takeWhile_append_dropWhile]

/-- The parts of the head are the first ones of the reference. -/
theorem parts_head_prefix : r.head.parts <+: r.parts :=
  (List.prefix_cons_inj r.first).mpr ((List.takeWhile_prefix _).map Joint.part)

theorem parts_ne_nil : r.parts ≠ [] := List.cons_ne_nil _ _

/-- Every dot of the reference is plain. -/
def IsClosed : Prop := ∀ j ∈ r.joints, j.isClosed = true

/-- There are no gaps in the head. -/
theorem isClosed_head : r.head.IsClosed := fun _ hj => List.mem_takeWhile_imp hj

theorem isClosed_closed : r.closed.IsClosed := fun j hj => by
  obtain ⟨k, -, rfl⟩ := List.mem_map.mp hj
  rfl

/-- To close the gaps leaves the parts as they are. -/
theorem parts_closed : r.closed.parts = r.parts := by
  rw [parts, parts, closed, List.map_map]
  rfl

variable {r}

/-- With plain dots, a reference is its parts joined by dots. -/
theorem IsClosed.text_eq (h : r.IsClosed) : r.text = Text.join ['.'] r.parts := by
  obtain ⟨first, joints⟩ := r
  change ∀ j ∈ joints, j.isClosed = true at h
  show first ++ joints.flatMap Joint.text = Text.join ['.'] (first :: joints.map Joint.part)
  induction joints generalizing first with
  | nil => exact List.append_nil first
  | cons j js ih =>
    have hothers := ih j.part fun k hk => h k (List.mem_cons_of_mem j hk)
    rw [List.flatMap_cons, Joint.text_of_isClosed (h j List.mem_cons_self), List.map_cons, Text.join,
      ← hothers]
    · simp only [List.append_assoc, List.cons_append, List.nil_append]
    · exact List.cons_ne_nil _ _

/-- A reference without gaps is its own head. -/
theorem IsClosed.head_eq (h : r.IsClosed) : r.head = r := by
  rw [head, List.takeWhile_eq_self_iff.mpr h]

/-- Nothing is left behind it. -/
theorem IsClosed.tail_eq (h : r.IsClosed) : r.tail = [] := by
  rw [tail, List.dropWhile_eq_nil_iff.mpr h]
  rfl

/-- A reference with plain dots is left as it is. -/
theorem closed_eq_self_iff : r.closed = r ↔ r.IsClosed := by
  constructor
  · intro h
    rw [← h]
    exact r.isClosed_closed
  · intro h
    have hjoints : r.joints.map Joint.closed = r.joints := by
      conv_rhs => rw [← List.map_id r.joints]
      refine List.map_congr_left fun j hj => ?_
      obtain ⟨hfront, hbehind⟩ := Joint.isClosed_iff.mp (h j hj)
      show (⟨[], [], j.part⟩ : Joint) = ⟨j.front, j.behind, j.part⟩
      rw [hfront, hbehind]
    rw [closed, hjoints]

end Dotted

/-- How a reference is written: its parts, and `gap` around its dots. -/
structure Dotted.Written (gap : Text → Prop) (style : QuoteStyle) (r : Dotted) : Prop where
  parts : ∀ part ∈ r.parts, IsPart style part
  gaps : ∀ j ∈ r.joints, gap j.front ∧ gap j.behind

/-- What stands behind the first gap is white space and a dot. -/
theorem Dotted.Written.tail_cases {gap : Text → Prop} {style : QuoteStyle} {r : Dotted}
    (hr : r.Written gap style) :
    r.tail = [] ∨ ∃ front left, r.tail = front ++ '.' :: left ∧ gap front := by
  unfold Dotted.tail
  cases hjoints : r.joints.dropWhile Joint.isClosed with
  | nil => exact .inl rfl
  | cons j js =>
    have hmem : j ∈ r.joints :=
      (List.dropWhile_suffix Joint.isClosed).subset (hjoints ▸ List.mem_cons_self)
    refine .inr ⟨j.front, j.behind ++ j.part ++ js.flatMap Joint.text, ?_, (hr.gaps j hmem).1⟩
    rw [List.flatMap_cons, Joint.text]
    simp only [List.append_assoc, List.cons_append]

/-! ## §2. Characters of names -/

variable {style : QuoteStyle}

/-- White space is made of no word characters. -/
theorem isWord_of_isBlank {c : Char} (h : Unicode.isBlank c = true) : Unicode.isWord c = false := by
  have hall : ([0x20, 0x09, 0x0A, 0x0B, 0x0C, 0x0D, 0x85, 0xA0, 0x1680, 0x2000, 0x2001, 0x2002, 0x2003,
      0x2004, 0x2005, 0x2006, 0x2007, 0x2008, 0x2009, 0x200A, 0x2028, 0x2029, 0x202F, 0x205F,
      0x3000].all fun n => !Unicode.isWord (Char.ofNat n)) = true := by decide +kernel
  have hcode := List.all_eq_true.mp hall c.toNat (by
    unfold Unicode.isBlank at h
    simp only [Bool.or_eq_true, Bool.and_eq_true, beq_iff_eq, decide_eq_true_iff] at h
    simp only [List.mem_cons, List.not_mem_nil, or_false]
    omega)
  rwa [Char.ofNat_toNat, Bool.not_eq_true'] at hcode

/-- Whether a bare name may hold a character that is no word character. -/
theorem bareChar_of_not_isWord {c : Char} (h : Unicode.isWord c = false) (hdollar : c ≠ '$')
    (hhash : c ≠ '#') (hat : c ≠ '@') : bareChar style c = false := by
  cases style with
  | doubleQuote => simp [bareChar, isBareChar, h, hdollar]
  | bracket => simp [bareChar, isServerBareChar, isBareChar, h, hdollar, hhash, hat]

/-- White space belongs to no bare name. -/
theorem bareChar_of_isBlank {c : Char} (h : Unicode.isBlank c = true) : bareChar style c = false := by
  refine bareChar_of_not_isWord (isWord_of_isBlank h) ?_ ?_ ?_ <;>
  · rintro rfl
    exact absurd h (by decide)

/-- Marks that may not stand in a bare name. -/
def syntaxMarks : List Char := ['.', ',', '"', '[', ']', '(', '-', '/', '\'']

theorem bareChar_of_mem_marks {c : Char} (h : c ∈ syntaxMarks) : bareChar style c = false := by
  have hall : (syntaxMarks.all fun c => !Unicode.isWord c && c != '$' && c != '#' && c != '@') = true := by
    decide +kernel
  have hcode := List.all_eq_true.mp hall c h
  simp only [Bool.and_eq_true, Bool.not_eq_true', bne_iff_ne] at hcode
  obtain ⟨⟨⟨hword, hdollar⟩, hhash⟩, hat⟩ := hcode
  exact bareChar_of_not_isWord hword hdollar hhash hat

theorem ne_of_bareChar {c mark : Char} (h : bareChar style c = true)
    (hmark : bareChar style mark = false) : c ≠ mark := by
  rintro rfl
  rw [h] at hmark
  exact Bool.noConfusion hmark

/-- A character of a bare name is no white space. -/
theorem isBlank_of_bareChar {c : Char} (h : bareChar style c = true) : Unicode.isBlank c = false := by
  cases hblank : Unicode.isBlank c with
  | false => rfl
  | true => rw [bareChar_of_isBlank hblank] at h; exact Bool.noConfusion h

/-- A part has no white space at its ends. -/
theorem IsSegment.tight {part : Text} (h : IsSegment style part) : part.Tight := by
  cases h with
  | bare hne hchars => exact Text.tight_of_forall hne fun c hc => isBlank_of_bareChar (hchars c hc)
  | quoted style name => exact Text.tight_wrap (by decide) (by decide) name
  | bracketed name => exact Text.tight_wrap (by decide) (by decide) name

namespace IsPart

variable {part : Text}

/-- A part begins with a character of a name or with an opening mark. -/
theorem exists_cons (h : IsPart style part) :
    ∃ c t, part = c :: t ∧ (bareChar style c = true ∨ c = '"' ∨ c = '[') := by
  cases h with
  | bare hne hchars _ =>
    obtain ⟨c, t, rfl⟩ := List.exists_cons_of_ne_nil hne
    exact ⟨c, t, rfl, .inl (hchars c List.mem_cons_self)⟩
  | quoted style name => exact ⟨'"', _, rfl, .inr (.inl rfl)⟩
  | bracketed name => exact ⟨'[', _, rfl, .inr (.inr rfl)⟩

/-- It begins with no white space, and with no dot. -/
theorem isBlank_head? (h : IsPart style part) (rest : Text) :
    ∀ c ∈ (part ++ rest).head?, Unicode.isBlank c = false ∧ c ≠ '.' := by
  obtain ⟨c, t, rfl, hc⟩ := h.exists_cons
  intro x hx
  obtain rfl : c = x := Option.some.inj hx
  obtain hc | rfl | rfl := hc
  · exact ⟨isBlank_of_bareChar hc, ne_of_bareChar hc (bareChar_of_mem_marks (by decide))⟩
  · exact ⟨by decide, by decide⟩
  · exact ⟨by decide, by decide⟩

theorem tight (h : IsPart style part) : part.Tight := h.isSegment.tight

end IsPart

/-! ## §3. Reading one part -/

variable {c : Cursor} {cs : List Capture}

/-- No part goes on with the text. -/
def StopsPart (style : QuoteStyle) (rest : Text) : Prop :=
  ∀ c ∈ rest.head?, bareChar style c = false ∧ c ≠ '"' ∧ c ≠ ']'

/-- What stops a part is no closing mark. -/
theorem StopsPart.head?_ne {rest : Text} (h : StopsPart style rest) :
    rest.head? ≠ some '"' ∧ rest.head? ≠ some ']' :=
  ⟨fun heq => (h '"' heq).2.1 rfl, fun heq => (h ']' heq).2.2 rfl⟩

/-- White space stops a part, and so does a mark. -/
theorem stopsPart_of_gap {gap rest : Text} {mark : Char} (hgap : IsGap gap)
    (hmark : mark ∈ ['.', ',', '(']) : StopsPart style (gap ++ mark :: rest) := by
  intro c hc
  cases gap with
  | nil =>
    obtain rfl : mark = c := Option.some.inj hc
    refine ⟨bareChar_of_mem_marks ?_, ?_, ?_⟩
    · simp only [syntaxMarks, List.mem_cons, List.not_mem_nil, or_false] at hmark ⊢
      tauto
    · rintro rfl
      exact absurd hmark (by decide)
    · rintro rfl
      exact absurd hmark (by decide)
  | cons x gap =>
    obtain rfl : x = c := Option.some.inj hc
    have hblank := hgap x List.mem_cons_self
    refine ⟨bareChar_of_isBlank hblank, ?_, ?_⟩ <;>
    · rintro rfl
      exact absurd hblank (by decide)

/-- A quotation does not begin at another character. -/
theorem ways_quotation_of_ne {opening closing : Char} (h : c.rest.head? ≠ some opening) :
    (quotation opening closing).ways ⟨c, cs⟩ = [] :=
  ways_append_of_nil (ways_append_of_nil (ways_char_of_ne h) _) _

/-- A quotation is read up to the mark that closes it. -/
theorem prefers_quotation {opening closing : Char} {name rest : Text}
    (h : c.rest = Text.wrap opening closing name ++ rest) (hrest : rest.head? ≠ some closing) :
    (quotation opening closing).Prefers ⟨c, cs⟩ ⟨c.past (Text.wrap opening closing name) rest, cs⟩ := by
  have hopened : c.rest = opening :: (Text.double closing name ++ closing :: rest) := by
    rw [h]
    simp [Text.wrap]
  have hread : (char opening).Prefers ⟨c, cs⟩ ⟨c.past [opening] _, cs⟩ := prefers_char hopened
  have hread := hread.past (prefers_quotedChars rfl hrest)
  have hread := hread.past (prefers_char rfl)
  exact hread

/-- No part begins at what is neither a bare character nor a mark. -/
theorem ways_segment_of_not (h : ∀ x ∈ c.rest.head?, bareChar style x = false ∧ x ≠ '"' ∧ x ≠ '[') :
    (segment style).ways ⟨c, cs⟩ = [] := by
  have hquote : c.rest.head? ≠ some '"' := fun heq => (h _ heq).2.1 rfl
  have hbracket : c.rest.head? ≠ some '[' := fun heq => (h _ heq).2.2 rfl
  have hbare : (run1 (bareChar style)).ways ⟨c, cs⟩ = [] :=
    ways_append_of_nil (ways_one_of_not fun x hx => (h x hx).1) _
  cases style with
  | doubleQuote =>
    show (quotation '"' '"').ways ⟨c, cs⟩ ++ (run1 isBareChar).ways ⟨c, cs⟩ = []
    rw [ways_quotation_of_ne hquote]
    exact hbare
  | bracket =>
    show (quotation '"' '"').ways ⟨c, cs⟩ ++ ((quotation '[' ']').ways ⟨c, cs⟩
      ++ (run1 isServerBareChar).ways ⟨c, cs⟩) = []
    rw [ways_quotation_of_ne hquote, ways_quotation_of_ne hbracket]
    exact hbare

/-- **A part is read as a whole.** -/
theorem prefers_segment {part rest : Text} (hpart : IsPart style part) (h : c.rest = part ++ rest)
    (hrest : StopsPart style rest) :
    (segment style).Prefers ⟨c, cs⟩ ⟨c.past part rest, cs⟩ := by
  cases hpart with
  | bare hne hchars _ =>
    -- a bare part begins with no mark, which leaves only the last alternative
    have hhead : ∀ mark, bareChar style mark = false → c.rest.head? ≠ some mark := by
      intro mark hmark heq
      obtain ⟨x, t, rfl⟩ := List.exists_cons_of_ne_nil hne
      rw [h] at heq
      exact ne_of_bareChar (hchars x List.mem_cons_self) hmark (Option.some.inj heq)
    have hquote : (quotation '"' '"').ways ⟨c, cs⟩ = [] :=
      ways_quotation_of_ne (hhead _ (bareChar_of_mem_marks (by decide)))
    have hbracket : (quotation '[' ']').ways ⟨c, cs⟩ = [] :=
      ways_quotation_of_ne (hhead _ (bareChar_of_mem_marks (by decide)))
    have hread : (run1 (bareChar style)).Prefers ⟨c, cs⟩ ⟨c.past part rest, cs⟩ :=
      prefers_run1 h hne hchars fun x hx => (hrest x hx).1
    cases style with
    | doubleQuote => exact Prefers.alt_right hquote hread
    | bracket => exact Prefers.alt_right hquote (Prefers.alt_right hbracket hread)
  | quoted _ name =>
    have hread : (quotation '"' '"').Prefers ⟨c, cs⟩ ⟨c.past (Text.wrap '"' '"' name) rest, cs⟩ :=
      prefers_quotation h hrest.head?_ne.1
    cases style with
    | doubleQuote => exact hread.alt_left
    | bracket => exact hread.alt_left
  | bracketed name =>
    -- brackets are tried behind the quotes, which this part does not begin with
    have hquote : (quotation '"' '"').ways ⟨c, cs⟩ = [] := ways_quotation_of_ne (by
      rw [h]
      exact fun heq => absurd (Option.some.inj heq) (by decide))
    have hread : (quotation '[' ']').Prefers ⟨c, cs⟩ ⟨c.past (Text.wrap '[' ']' name) rest, cs⟩ :=
      prefers_quotation h hrest.head?_ne.2
    exact Prefers.alt_right hquote hread.alt_left

/-- A quotation that ends at another mark than it should ends at a doubled one. -/
theorem closes_or_goes_on {mark : Char} {inside name a b : Text}
    (h : Text.double mark inside ++ mark :: a = Text.double mark name ++ mark :: b)
    (hb : b.head? ≠ some mark) : a = b ∨ ∃ x, a = mark :: (x ++ b) := by
  induction inside generalizing name with
  | nil =>
    cases name with
    | nil => exact .inl (List.cons.inj h).2
    | cons ch name =>
      rw [double_cons, Text.double, Text.double, List.nil_append, List.append_assoc] at h
      split at h
      · next hmark =>
        subst hmark
        refine .inr ⟨Text.double ch name ++ [ch], ?_⟩
        rw [(List.cons.inj h).2]
        simp [Text.double]
      · next hmark => exact absurd (List.cons.inj h).1.symm hmark
  | cons i inside ih =>
    cases name with
    | nil => exact absurd h.symm (by
        rw [double_cons, List.append_assoc]
        exact ne_double_append hb i _)
    | cons ch name =>
      -- a mark inside is doubled in both texts, so the same character stands in front of both
      have hsame : i = ch ∧ Text.double mark inside ++ mark :: a
          = Text.double mark name ++ mark :: b := by
        rw [Text.double, Text.double] at h
        split at h
        · next hi =>
          subst hi
          split at h
          · next hch =>
            subst hch
            exact ⟨rfl, (List.cons.inj (List.cons.inj h).2).2⟩
          · next hch => exact absurd (List.cons.inj h).1.symm hch
        · next hi =>
          split at h
          · next hch => exact absurd ((List.cons.inj h).1.trans hch) hi
          · exact List.cons.inj h
      exact ih hsame.2

/-- What is left of a part that is read in part: a text that begins with neither white space
    nor a dot. -/
def Leftover (x : Text) : Prop := ∀ c ∈ x.head?, Unicode.isBlank c = false ∧ c ≠ '.'

theorem leftover_nil : Leftover [] := fun _ hc => absurd hc (by simp)

/-- What a quotation takes is a name in its marks. -/
theorem exists_of_mem_ways_quotation {opening closing : Char} {v : Way}
    (hv : v ∈ (quotation opening closing).ways ⟨c, cs⟩) :
    ∃ name, c.rest = Text.wrap opening closing name ++ v.cursor.rest := by
  have hv : v ∈ (char opening ++ quotedEnd closing).ways ⟨c, cs⟩ := by
    show v ∈ (char opening ++ (many (quotedChar closing) ++ char closing)).ways ⟨c, cs⟩
    rw [← ways_append_assoc]
    exact hv
  obtain ⟨u, hu, hv⟩ := List.mem_flatMap.mp hv
  obtain ⟨ch, hch, hopened⟩ := mem_ways_one hu
  obtain ⟨name, hname⟩ := mem_ways_quotedEnd hv
  have hopened : c.rest = ch :: u.cursor.rest := hopened
  refine ⟨name, ?_⟩
  rw [hopened, hname, beq_iff_eq.mp hch]
  simp [Text.wrap]

/-- A quotation is taken as a whole, or up to one of its marks. -/
theorem mem_ways_quotation {opening closing : Char} {name rest : Text} {v : Way}
    (h : c.rest = Text.wrap opening closing name ++ rest) (hrest : rest.head? ≠ some closing)
    (hclosing : Unicode.isBlank closing = false ∧ closing ≠ '.')
    (hv : v ∈ (quotation opening closing).ways ⟨c, cs⟩) :
    ∃ x, v.cursor.rest = x ++ rest ∧ Leftover x := by
  obtain ⟨inside, hinside⟩ := exists_of_mem_ways_quotation hv
  have hsame : Text.double closing inside ++ closing :: v.cursor.rest
      = Text.double closing name ++ closing :: rest := by
    rw [h] at hinside
    simpa [Text.wrap] using hinside.symm
  obtain hclosed | ⟨x, hx⟩ := closes_or_goes_on hsame hrest
  · exact ⟨[], hclosed, leftover_nil⟩
  · refine ⟨closing :: x, hx, fun y hy => ?_⟩
    obtain rfl : closing = y := Option.some.inj hy
    exact hclosing

section

variable {v : Way}

/-- A segment is read as a quotation or as a run of characters of bare names. -/
theorem mem_ways_segment_cases (hv : v ∈ (segment style).ways ⟨c, cs⟩) :
    v ∈ (quotation '"' '"').ways ⟨c, cs⟩ ∨ style = .bracket ∧ v ∈ (quotation '[' ']').ways ⟨c, cs⟩
      ∨ v ∈ (run1 (bareChar style)).ways ⟨c, cs⟩ := by
  cases style with
  | doubleQuote =>
    obtain hv | hv := List.mem_append.mp hv
    · exact .inl hv
    · exact .inr (.inr hv)
  | bracket =>
    obtain hv | hv := List.mem_append.mp hv
    · exact .inl hv
    · obtain hv | hv := List.mem_append.mp hv
      · exact .inr (.inl ⟨rfl, hv⟩)
      · exact .inr (.inr hv)

/-- A quotation begins with its opening mark. -/
theorem head?_of_mem_ways_quotation {opening closing : Char}
    (hv : v ∈ (quotation opening closing).ways ⟨c, cs⟩) : c.rest.head? = some opening := by
  obtain ⟨name, hname⟩ := exists_of_mem_ways_quotation hv
  rw [hname]
  rfl

/-- A run takes characters that it accepts, at least one. -/
theorem exists_of_mem_ways_run1 {accepts : Char → Bool} (hv : v ∈ (run1 accepts).ways ⟨c, cs⟩) :
    ∃ ch t, c.rest = ch :: (t ++ v.cursor.rest) ∧ accepts ch = true ∧ ∀ x ∈ t, accepts x = true := by
  obtain ⟨u, hu, hv⟩ := List.mem_flatMap.mp hv
  obtain ⟨ch, hch, hfirst⟩ := mem_ways_one hu
  obtain ⟨t, ht, hall⟩ := mem_ways_run hv
  have hfirst : c.rest = ch :: u.cursor.rest := hfirst
  exact ⟨ch, t, by rw [hfirst, ht], hch, hall⟩

/-- At an opening quote no bare name is read. -/
theorem not_mem_ways_bare_of_quote {mark : Char} (hmark : mark ∈ ['"', '['])
    (hhead : c.rest.head? = some mark) : v ∉ (run1 (bareChar style)).ways ⟨c, cs⟩ := by
  intro hv
  obtain ⟨ch, t, hrest, hch, -⟩ := exists_of_mem_ways_run1 hv
  rw [hrest] at hhead
  refine ne_of_bareChar hch (bareChar_of_mem_marks ?_) (Option.some.inj hhead)
  simp only [syntaxMarks, List.mem_cons, List.not_mem_nil, or_false] at hmark ⊢
  tauto

/-- Of a bare part a run leaves some of its own characters, or none. -/
theorem leftover_of_mem_ways_bare {first : Char} {name rest : Text}
    (hchars : ∀ x ∈ first :: name, bareChar style x = true) (h : c.rest = first :: name ++ rest)
    (hrest : StopsPart style rest) (hv : v ∈ (run1 (bareChar style)).ways ⟨c, cs⟩) :
    ∃ x, v.cursor.rest = x ++ rest ∧ Leftover x := by
  obtain ⟨ch, t, hread, hch, hall⟩ := exists_of_mem_ways_run1 hv
  rw [h] at hread
  have hread : name ++ rest = t ++ v.cursor.rest := (List.cons.inj hread).2
  obtain ⟨x, rfl, hbehind⟩ | ⟨x, rfl, hleft⟩ := List.append_eq_append_iff.mp hread
  · -- behind the name the run takes nothing
    have hnil : x = [] := by
      by_contra hx
      obtain ⟨y, x, rfl⟩ := List.exists_cons_of_ne_nil hx
      have hbare := hall y (List.mem_append_right name List.mem_cons_self)
      rw [(hrest y (by rw [hbehind]; rfl)).1] at hbare
      exact Bool.noConfusion hbare
    refine ⟨[], ?_, leftover_nil⟩
    rw [hbehind, hnil]
    rfl
  · refine ⟨x, hleft, fun y hy => ?_⟩
    have hbare := hchars y (List.mem_cons_of_mem first
      (List.mem_append_right t (List.mem_of_mem_head? hy)))
    exact ⟨isBlank_of_bareChar hbare, ne_of_bareChar hbare (bareChar_of_mem_marks (by decide))⟩

/-- However a part is read, what is left of it is no white space and no dot. -/
theorem mem_ways_segment {part rest : Text} (hpart : IsPart style part)
    (h : c.rest = part ++ rest) (hrest : StopsPart style rest)
    (hv : v ∈ (segment style).ways ⟨c, cs⟩) : ∃ x, v.cursor.rest = x ++ rest ∧ Leftover x := by
  have hways := mem_ways_segment_cases hv
  cases hpart with
  | bare hne hchars _ =>
    obtain ⟨first, name, rfl⟩ := List.exists_cons_of_ne_nil hne
    -- the two kinds of quotation are out, and what a run leaves over are bare characters
    have hfirst : ∀ mark, bareChar style mark = false → c.rest.head? ≠ some mark := by
      intro mark hmark heq
      rw [h] at heq
      exact ne_of_bareChar (hchars first List.mem_cons_self) hmark (Option.some.inj heq)
    obtain hv | ⟨-, hv⟩ | hv := hways
    · exact absurd (head?_of_mem_ways_quotation hv) (hfirst _ (bareChar_of_mem_marks (by decide)))
    · exact absurd (head?_of_mem_ways_quotation hv) (hfirst _ (bareChar_of_mem_marks (by decide)))
    · exact leftover_of_mem_ways_bare hchars h hrest hv
  | quoted _ name =>
    have hhead : c.rest.head? = some '"' := by rw [h]; rfl
    obtain hv | ⟨-, hv⟩ | hv := hways
    · exact mem_ways_quotation h hrest.head?_ne.1 (by decide) hv
    · rw [head?_of_mem_ways_quotation hv] at hhead
      exact absurd (Option.some.inj hhead) (by decide)
    · exact absurd hv (not_mem_ways_bare_of_quote (by decide) hhead)
  | bracketed name =>
    have hhead : c.rest.head? = some '[' := by rw [h]; rfl
    obtain hv | ⟨-, hv⟩ | hv := hways
    · rw [head?_of_mem_ways_quotation hv] at hhead
      exact absurd (Option.some.inj hhead) (by decide)
    · exact mem_ways_quotation h hrest.head?_ne.2 (by decide) hv
    · exact absurd hv (not_mem_ways_bare_of_quote (by decide) hhead)

end

/-! ## §4. Reading from part to part -/

theorem ways_dots_of_ne (h : c.rest.head? ≠ some '.') : (dots style).ways ⟨c, cs⟩ = [] := by
  cases style with
  | doubleQuote => exact ways_char_of_ne h
  | bracket => exact ways_append_of_nil (ways_char_of_ne h) _

/-- A single dot is read in one way. -/
theorem ways_dots {rest : Text} (h : c.rest = '.' :: rest) (hrest : rest.head? ≠ some '.') :
    (dots style).ways ⟨c, cs⟩ = [⟨c.past ['.'] rest, cs⟩] := by
  have hdot : (char '.').ways ⟨c, cs⟩ = [⟨c.past ['.'] rest, cs⟩] := by
    unfold char
    rw [ways_one_cons _ h, if_pos (beq_self_eq_true '.')]
    rfl
  cases style with
  | doubleQuote => exact hdot
  | bracket =>
    show ((char '.').ways ⟨c, cs⟩).flatMap (optional (char '.')).ways = _
    rw [hdot, List.flatMap_singleton]
    show (char '.').ways _ ++ [_] = _
    rw [ways_char_of_ne hrest]
    rfl

/-- A joint as the pattern reads it: the dot and the part. -/
def joint (style : QuoteStyle) : Pattern := dots style ++ segment style

/-- At a dot with a gap, nothing is read. -/
theorem ways_joint_of_open {j : Joint} {rest : Text} (hpart : IsPart style j.part)
    (hgaps : IsGap j.front ∧ IsGap j.behind) (hopen : j.isClosed = false)
    (h : c.rest = j.text ++ rest) : (joint style).ways ⟨c, cs⟩ = [] := by
  obtain ⟨front, behind, part⟩ := j
  obtain ⟨hfront, hbehind⟩ := hgaps
  rw [Joint.text, List.append_assoc] at h
  cases front with
  | cons x front =>
    -- a gap in front of the dot is no dot
    have hblank := hfront x List.mem_cons_self
    refine ways_append_of_nil (ways_dots_of_ne ?_) _
    rw [h]
    intro heq
    rw [Option.some.inj heq] at hblank
    exact absurd hblank (by decide)
  | nil =>
    cases behind with
    | nil => exact Bool.noConfusion hopen
    | cons x behind =>
      -- and a gap behind it begins no part
      have hblank := hbehind x List.mem_cons_self
      have hdot : c.rest = '.' :: (x :: (behind ++ part) ++ rest) := h
      have hnot : (x :: (behind ++ part) ++ rest).head? ≠ some '.' := by
        intro heq
        rw [Option.some.inj heq] at hblank
        exact absurd hblank (by decide)
      show ((dots style).ways ⟨c, cs⟩).flatMap (segment style).ways = []
      rw [ways_dots hdot hnot, List.flatMap_singleton]
      refine ways_segment_of_not fun y hy => ?_
      obtain rfl : x = y := Option.some.inj hy
      refine ⟨bareChar_of_isBlank hblank, ?_, ?_⟩ <;>
      · rintro rfl
        exact absurd hblank (by decide)

/-- What stands behind the parts of a reference: no part and no dot. -/
structure StopsReference (style : QuoteStyle) (rest : Text) : Prop where
  part : StopsPart style rest
  dot : rest.head? ≠ some '.'

/-- What stands behind a part stops it, be it a joint or the end of the reference. -/
theorem stopsPart_joints {js : List Joint} {rest : Text}
    (hgaps : ∀ j ∈ js, IsGap j.front ∧ IsGap j.behind) (hrest : StopsPart style rest) :
    StopsPart style (js.flatMap Joint.text ++ rest) := by
  cases js with
  | nil => exact hrest
  | cons j js =>
    rw [List.flatMap_cons, Joint.text, List.append_assoc, List.append_assoc]
    exact stopsPart_of_gap (hgaps j List.mem_cons_self).1 (by decide)

/-- From a joint on, parts are read up to the first gap. -/
theorem prefers_joints {js : List Joint} {rest : Text}
    (hparts : ∀ j ∈ js, IsPart style j.part) (hgaps : ∀ j ∈ js, IsGap j.front ∧ IsGap j.behind)
    (hrest : StopsReference style rest) (h : c.rest = js.flatMap Joint.text ++ rest) :
    (many (joint style)).Prefers ⟨c, cs⟩
      ⟨c.past ((js.takeWhile Joint.isClosed).flatMap Joint.text)
        ((js.dropWhile Joint.isClosed).flatMap Joint.text ++ rest), cs⟩ := by
  induction js generalizing c with
  | nil =>
    have hnone : (joint style).ways ⟨c, cs⟩ = [] :=
      ways_append_of_nil (ways_dots_of_ne (by rw [h]; exact hrest.dot)) _
    show (many (joint style)).Prefers ⟨c, cs⟩ ⟨c.past [] rest, cs⟩
    have hrest : c.rest = rest := h
    rw [← hrest]
    exact prefers_many_of_nil hnone
  | cons j js ih =>
    have hpart := hparts j List.mem_cons_self
    have hgap := hgaps j List.mem_cons_self
    rw [List.flatMap_cons, List.append_assoc] at h
    cases hclosed : j.isClosed with
    | false =>
      -- no joint is read over a gap
      have hnone : (joint style).ways ⟨c, cs⟩ = [] := ways_joint_of_open hpart hgap hclosed h
      rw [List.takeWhile_cons_of_neg (by simp [hclosed]), List.dropWhile_cons_of_neg (by simp [hclosed]),
        List.flatMap_cons, List.append_assoc, ← h]
      exact prefers_many_of_nil hnone
    | true =>
      have htext := Joint.text_of_isClosed hclosed
      have hothers := fun k hk => hgaps k (List.mem_cons_of_mem j hk)
      have hdot : c.rest = '.' :: (j.part ++ (js.flatMap Joint.text ++ rest)) := by rw [h, htext]; rfl
      have hdots : (dots style).Prefers ⟨c, cs⟩
          ⟨c.past ['.'] (j.part ++ (js.flatMap Joint.text ++ rest)), cs⟩ := by
        unfold Prefers
        rw [ways_dots hdot fun heq => (hpart.isBlank_head? _ _ heq).2 rfl]
        rfl
      have hread : (joint style).Prefers ⟨c, cs⟩
          ⟨c.past j.text (js.flatMap Joint.text ++ rest), cs⟩ := by
        rw [htext]
        exact hdots.past (prefers_segment hpart rfl (stopsPart_joints hothers hrest.part))
      -- the repetition goes on behind a joint, for its dot takes room
      have hlt : c.offset < (c.past j.text (js.flatMap Joint.text ++ rest)).offset := by
        have hpos := ('.' : Char).utf8Size_pos
        rw [Cursor.past_offset, htext, Text.byteLength_cons]
        omega
      have hlater := ih (c := c.past j.text (js.flatMap Joint.text ++ rest))
        (fun k hk => hparts k (List.mem_cons_of_mem j hk)) hothers rfl
      rw [Cursor.past_past] at hlater
      rw [List.takeWhile_cons_of_pos hclosed, List.dropWhile_cons_of_pos hclosed, List.flatMap_cons]
      exact hread.many hlt hlater

variable {r : Dotted}

/-- **A reference is read up to the first gap.** -/
theorem prefers_reference {rest : Text} (hr : r.Written IsGap style) (hrest : StopsReference style rest)
    (h : c.rest = r.text ++ rest) (cs : List Capture) :
    (reference style).Prefers ⟨c, cs⟩ ⟨c.past r.head.text (r.tail ++ rest), cs⟩ := by
  have hjoints : ∀ j ∈ r.joints, IsPart style j.part := fun j hj =>
    hr.parts j.part (List.mem_cons_of_mem _ (List.mem_map_of_mem hj))
  rw [Dotted.text, List.append_assoc] at h
  have hfirst : (segment style).Prefers ⟨c, cs⟩
      ⟨c.past r.first (r.joints.flatMap Joint.text ++ rest), cs⟩ :=
    prefers_segment (hr.parts r.first List.mem_cons_self) h (stopsPart_joints hr.gaps hrest.part)
  exact hfirst.past (prefers_joints hjoints hr.gaps hrest rfl)

/-- What lies ahead of a way to read a reference: the rest of a part, if it begins in one, and
    joints, among them one with a gap. -/
def GapAhead (r : Dotted) (rest : Text) (w : Way) : Prop :=
  ∃ x js, w.cursor.rest = x ++ (List.flatMap Joint.text js ++ rest) ∧ Leftover x
    ∧ (∀ j ∈ js, j ∈ r.joints) ∧ ∃ j ∈ js, j.isClosed = false

/-- A joint that is read has no gap, so the gap still lies ahead. -/
theorem gapAhead_of_mem_ways_joint {rest : Text} {w v : Way} (hr : r.Written IsGap style)
    (hrest : StopsPart style rest) (hw : GapAhead r rest w) (hv : v ∈ (joint style).ways w) :
    GapAhead r rest v := by
  have hjoints : ∀ j ∈ r.joints, IsPart style j.part := fun j hj =>
    hr.parts j.part (List.mem_cons_of_mem _ (List.mem_map_of_mem hj))
  obtain ⟨x, js, hw, hleft, hsub, hgap⟩ := hw
  obtain ⟨d, hd, hpart⟩ := List.mem_flatMap.mp hv
  cases x with
  | cons y x =>
    -- inside of a part stands no dot
    have hnone : (dots style).ways w = [] := ways_dots_of_ne (c := w.cursor) fun heq => by
      rw [hw] at heq
      exact (hleft y rfl).2 (Option.some.inj heq)
    rw [hnone] at hd
    exact absurd hd List.not_mem_nil
  | nil =>
    cases js with
    | nil => exact absurd hgap (by simp)
    | cons j js =>
      have hj := hsub j List.mem_cons_self
      have hw : w.cursor.rest = j.text ++ (js.flatMap Joint.text ++ rest) := by
        rw [hw, List.nil_append, List.flatMap_cons, List.append_assoc]
      cases hclosed : j.isClosed with
      | false =>
        have hnone : (joint style).ways w = [] :=
          ways_joint_of_open (c := w.cursor) (hjoints j hj) (hr.gaps j hj) hclosed hw
        rw [hnone] at hv
        exact absurd hv List.not_mem_nil
      | true =>
        have hothers : ∀ k ∈ js, k ∈ r.joints := fun k hk => hsub k (List.mem_cons_of_mem j hk)
        have hdot : w.cursor.rest = '.' :: (j.part ++ (js.flatMap Joint.text ++ rest)) := by
          rw [hw, Joint.text_of_isClosed hclosed]
          rfl
        have hone : (dots style).ways w
            = [⟨w.cursor.past ['.'] (j.part ++ (js.flatMap Joint.text ++ rest)), w.captures⟩] :=
          ways_dots hdot fun heq => ((hjoints j hj).isBlank_head? _ _ heq).2 rfl
        rw [hone] at hd
        rw [List.mem_singleton.mp hd] at hpart
        obtain ⟨x, hx, hleft⟩ := mem_ways_segment (hjoints j hj) rfl
          (stopsPart_joints (fun k hk => hr.gaps k (hothers k hk)) hrest) hpart
        obtain ⟨k, hk, hopen⟩ := hgap
        obtain rfl | hk := List.mem_cons.mp hk
        · rw [hclosed] at hopen
          exact Bool.noConfusion hopen
        · exact ⟨x, js, hx, hleft, hothers, k, hk, hopen⟩

/-- **No way to read a reference leads past a gap.**  What is left begins in a part or is
    white space with a dot behind it. -/
theorem mem_ways_reference_of_open {rest : Text} {v : Way} (hr : r.Written IsGap style)
    (hrest : StopsPart style rest) (hopen : ¬r.IsClosed) (h : c.rest = r.text ++ rest)
    (hv : v ∈ (reference style).ways ⟨c, cs⟩) :
    ∃ x gap left, v.cursor.rest = x ++ (gap ++ '.' :: left) ∧ Leftover x ∧ IsGap gap := by
  have hgap : ∃ j ∈ r.joints, j.isClosed = false := by
    simpa [Dotted.IsClosed] using hopen
  obtain ⟨u, hu, hv⟩ := List.mem_flatMap.mp hv
  rw [Dotted.text, List.append_assoc] at h
  obtain ⟨x, hx, hleft⟩ := mem_ways_segment (hr.parts r.first List.mem_cons_self) h
    (stopsPart_joints hr.gaps hrest) hu
  have hfirst : GapAhead r rest u := ⟨x, r.joints, hx, hleft, fun _ => id, hgap⟩
  obtain ⟨x, js, hv, hleft, hsub, hgap⟩ := of_mem_ways_many
    (fun _ hw _ hv => gapAhead_of_mem_ways_joint hr hrest hw hv) hfirst hv
  cases js with
  | nil => exact absurd hgap (by simp)
  | cons j js =>
    refine ⟨x, j.front, j.behind ++ j.part ++ (js.flatMap Joint.text ++ rest), ?_, hleft,
      (hr.gaps j (hsub j List.mem_cons_self)).1⟩
    rw [hv, List.flatMap_cons, Joint.text]
    simp only [List.append_assoc, List.cons_append]

/-! ## §5. What is read, as a reference -/

/-- The cut passes over a part. -/
theorem cut_segment {part rest : Text} (hpart : IsSegment style part) (hrest : rest.head? ≠ some ']') :
    TableRef.cut (style == .bracket) .outside (part ++ rest)
      = (TableRef.cut (style == .bracket) .outside rest).map (part.foldr TableRef.consFirst ·) := by
  cases hpart with
  | bare hne hchars =>
    refine TableRef.cut_bare _ (fun c hc => ?_) rest
    have hbare := hchars c hc
    exact ⟨ne_of_bareChar hbare (bareChar_of_mem_marks (by decide)),
      ne_of_bareChar hbare (bareChar_of_mem_marks (by decide)),
      ne_of_bareChar hbare (bareChar_of_mem_marks (by decide))⟩
  | quoted _ name =>
    have hinside := TableRef.cut_inDoubleQuotes (style == .bracket) name rest
    simp [Text.wrap, TableRef.cut, hinside, Function.comp_def]
  | bracketed name =>
    have hinside := TableRef.cut_inBrackets true hrest name
    simp [Text.wrap, TableRef.cut, hinside, Function.comp_def]

variable {d : Dialect} {parts : List Text}

/-- Parts joined by dots are split into these parts. -/
theorem split_join (hne : parts ≠ []) (hparts : ∀ part ∈ parts, IsPart d.quoteStyle part) :
    TableRef.split d (Text.join ['.'] parts) = .ok parts := by
  refine TableRef.split_of_cut (TableRef.cut_join hne ?_) ?_
  · exact fun part hpart _ => cut_segment (hparts part hpart).isSegment
  · exact fun part hpart => (hparts part hpart).tight.trim

/-- Parts that are joined have no white space at the ends. -/
theorem tight_join_parts (hne : parts ≠ []) (hparts : ∀ part ∈ parts, IsPart d.quoteStyle part) :
    (Text.join ['.'] parts).Tight := Text.tight_join hne fun part hpart => (hparts part hpart).tight

/-- The parts are read as those of a table. -/
theorem parse_join (hne : parts ≠ []) (hparts : ∀ part ∈ parts, IsPart d.quoteStyle part)
    (defaultSchema : Text) :
    TableRef.parse d defaultSchema (Text.join ['.'] parts)
      = (TableRef.ofParts d defaultSchema parts).mapError fun fault => ⟨Text.join ['.'] parts, fault⟩ :=
  TableRef.parse_of_split (tight_join_parts hne hparts) (split_join hne hparts) defaultSchema

/-- Whether the name of a table, as it is written, is that of a session table. -/
def isSessionName (d : Dialect) (part : Text) : Bool :=
  d.isServerFamily && (part.dropWhile fun c => c == '[' || c == '"').head? == some '#'

/-- A reference is to a session table if its last part is the name of one. -/
theorem isSessionTable_of_split {raw : Text} (h : TableRef.split d raw.trim = .ok parts) :
    isSessionTable d raw = .ok (parts.getLast?.any (isSessionName d)) := by
  unfold isSessionTable isSessionName
  rw [h]
  cases d.isServerFamily with
  | true => rfl
  | false => cases parts.getLast? <;> rfl

/-- The table that a reference names, unless the last part is that of a session table. -/
theorem trackedTable?_of_split {raw : Text} (htight : raw.Tight)
    (hsplit : TableRef.split d raw = .ok parts) (defaultSchema : Text) :
    Naming.trackedTable? ⟨d, defaultSchema⟩ raw
      = if parts.getLast?.any (isSessionName d) then .ok none
        else (TableRef.parse d defaultSchema raw).map some := by
  have hsession := isSessionTable_of_split (htight.trim.symm ▸ hsplit)
  unfold Naming.trackedTable?
  rw [hsession]
  show (if parts.getLast?.any (isSessionName d) = true then _ else _) = _
  split
  · rfl
  · cases TableRef.parse d defaultSchema raw with
    | error e => rfl
    | ok t => rfl

/-- **The table that the parts name,** unless the last of them is that of a session table. -/
theorem trackedTable?_join (hne : parts ≠ []) (hparts : ∀ part ∈ parts, IsPart d.quoteStyle part)
    (defaultSchema : Text) :
    Naming.trackedTable? ⟨d, defaultSchema⟩ (Text.join ['.'] parts)
      = if parts.getLast?.any (isSessionName d) then .ok none
        else (TableRef.parse d defaultSchema (Text.join ['.'] parts)).map some :=
  trackedTable?_of_split (tight_join_parts hne hparts) (split_join hne hparts) defaultSchema

end TableLedger.Script
