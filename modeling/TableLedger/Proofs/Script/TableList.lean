/-
  TableLedger.Proofs.Script.TableList — lists of references, read as a whole and one by one.

  DROP TABLE takes a list of references, with commas between them and white space at the
  commas.  The list is read as a whole first, and searched for references again.  Both
  readings see the same references: a reference ends where white space or a comma begins,
  and between two of them none begins.

  Main statements:
    • `prefers_tables` — the list is read as a whole,
    • `map_text_matchesIn_tables` — and searched, it is found to hold its references,
    • `pairwise_start_matchesFrom` — which come in the order of their places.
-/

import TableLedger.Proofs.Script.Announcement

namespace TableLedger

/-! ## §1. Searching on behind a match -/

namespace Pattern

variable {p : Pattern}

/-- What an earlier match has taken is passed over. -/
theorem matchesFrom_append_of_le {part : Text} {resume offset : Nat}
    (h : offset + Text.byteLength part ≤ resume) (before : Option Char) (rest : Text) :
    p.matchesFrom resume before offset (part ++ rest)
      = p.matchesFrom resume (part.getLast? <|> before) (offset + Text.byteLength part) rest := by
  induction part generalizing before offset with
  | nil => rfl
  | cons c part ih =>
    have hpos := c.utf8Size_pos
    rw [Text.byteLength_cons, ← Nat.add_assoc] at h
    rw [List.cons_append, matchesFrom, if_pos (by omega), ih h, getLast?_cons_orElse,
      Text.byteLength_cons, Nat.add_assoc]

/-- What is read at the beginning of a text is its first match. -/
theorem Prefers.matchesFrom_append {before : Option Char} {offset : Nat} {part rest : Text}
    {cs : List Capture} (hne : part ≠ [])
    (h : p.Prefers ⟨⟨before, offset, part ++ rest⟩, []⟩
      ⟨Cursor.past ⟨before, offset, part ++ rest⟩ part rest, cs⟩) :
    p.matchesFrom 0 before offset (part ++ rest)
      = ⟨⟨before, offset, part ++ rest⟩, Cursor.past ⟨before, offset, part ++ rest⟩ part rest, cs⟩
        :: p.matchesFrom 0 (part.getLast? <|> before) (offset + Text.byteLength part) rest := by
  obtain ⟨c, part, rfl⟩ := List.exists_cons_of_ne_nil hne
  have hmatch := h.matchAt?
  rw [List.cons_append] at hmatch ⊢
  rw [matchesFrom, if_neg (Nat.not_lt_zero _), hmatch]
  refine congrArg (_ :: ·) ?_
  show p.matchesFrom (offset + Text.byteLength (c :: part)) (some c) (offset + c.utf8Size) (part ++ rest)
    = _
  rw [Text.byteLength_cons, ← Nat.add_assoc, matchesFrom_append_of_le (Nat.le_refl _),
    matchesFrom_of_le (Nat.le_refl _), getLast?_cons_orElse]

/-- A part of a text in which no match begins is passed over. -/
theorem matchesFrom_append_of_none {part rest : Text} {before : Option Char} {offset : Nat}
    (h : ∀ x ∈ part, ∀ before offset rest, p.matchAt? ⟨before, offset, x :: rest⟩ = none) :
    p.matchesFrom 0 before offset (part ++ rest)
      = p.matchesFrom 0 (part.getLast? <|> before) (offset + Text.byteLength part) rest := by
  induction part generalizing before offset with
  | nil => rfl
  | cons c part ih =>
    rw [List.cons_append, matchesFrom, if_neg (Nat.not_lt_zero _), h c List.mem_cons_self,
      Text.byteLength_cons, ← Nat.add_assoc, getLast?_cons_orElse]
    exact ih fun x hx => h x (List.mem_cons_of_mem c hx)

/-- Matches are found from the left. -/
theorem pairwise_start_matchesFrom (resume : Nat) (before : Option Char) (offset : Nat) (t : Text) :
    (p.matchesFrom resume before offset t).Pairwise (·.start ≤ ·.start) := by
  induction t generalizing resume before offset with
  | nil => exact .nil
  | cons c rest ih =>
    rw [matchesFrom]
    split
    · exact ih _ _ _
    · split
      · next m hmatch =>
        refine List.pairwise_cons.mpr ⟨fun m' hm' => ?_, ih _ _ _⟩
        obtain ⟨front, -, hstart, -⟩ := mem_matchesFrom hm'
        have hfirst : m.start = offset := by rw [Match.start, (matchAt?_eq_some hmatch).1]
        omega
      · exact ih _ _ _

end Pattern

namespace Script

open Pattern

/-! ## §2. Lists of references -/

/-- A comma with what stands around it, and the reference behind. -/
structure Listed where
  front : Text
  behind : Text
  reference : Dotted

namespace Listed

def text (l : Listed) : Text := l.front ++ ',' :: (l.behind ++ l.reference.text)

/-- How a reference of a list is written: with plain dots, and white space at the comma. -/
structure Written (style : QuoteStyle) (l : Listed) : Prop where
  reference : l.reference.Written IsGap style
  closed : l.reference.IsClosed
  front : IsGap l.front
  behind : IsGap l.behind

end Listed

/-- A comma and a reference, as the pattern reads them. -/
def another (style : QuoteStyle) : Pattern := blanks? ++ char ',' ++ blanks? ++ reference style

variable {style : QuoteStyle} {c : Cursor} {cs : List Capture}

/-- A reference is not empty. -/
theorem Dotted.text_ne_nil {r : Dotted} {gap : Text → Prop} (hr : r.Written gap style) : r.text ≠ [] := by
  obtain ⟨x, t, hfirst, -⟩ := (hr.parts r.first List.mem_cons_self).exists_cons
  rw [Dotted.text, hfirst]
  exact List.cons_ne_nil _ _

/-- A reference does not begin with white space. -/
theorem Dotted.isBlank_head?_text {r : Dotted} {gap : Text → Prop} (hr : r.Written gap style)
    (rest : Text) : ∀ x ∈ (r.text ++ rest).head?, Unicode.isBlank x = false := fun x hx =>
  ((hr.parts r.first List.mem_cons_self).isBlank_head? _ x (by
    rwa [Dotted.text, List.append_assoc] at hx)).1

/-- A list goes on at a comma only. -/
theorem ways_another_of_ne (h : c.rest.trimStart.head? ≠ some ',') : (another style).ways ⟨c, cs⟩ = [] := by
  refine ways_append_of_nil (ways_append_of_nil ?_ _) _
  rw [List.eq_nil_iff_forall_not_mem]
  intro v hv
  obtain ⟨u, hu, hv⟩ := List.mem_flatMap.mp hv
  obtain ⟨gap, hgap, hblank⟩ := mem_ways_run hu
  obtain ⟨x, hx, hrest⟩ := mem_ways_one hv
  obtain rfl : x = ',' := beq_iff_eq.mp hx
  refine h ?_
  have hgap : c.rest = gap ++ u.cursor.rest := hgap
  rw [hgap, hrest, Text.trimStart, List.dropWhile_append_of_pos hblank,
    List.dropWhile_cons_of_neg (by decide)]
  rfl

/-- Behind a reference of a list comes white space or a comma, or the end of the list. -/
theorem stopsPart_listed {ls : List Listed} {rest : Text} (hls : ∀ l ∈ ls, l.Written style)
    (hrest : StopsPart style rest) : StopsPart style (ls.flatMap Listed.text ++ rest) := by
  cases ls with
  | nil => exact hrest
  | cons l ls =>
    rw [List.flatMap_cons, Listed.text, List.append_assoc, List.append_assoc]
    exact stopsPart_of_gap (hls l List.mem_cons_self).front (by decide)

/-- The next table of a list stops a reference. -/
theorem stopsReference_listed {ls : List Listed} {rest : Text} (hls : ∀ l ∈ ls, l.Written style)
    (hrest : StopsReference style rest) : StopsReference style (ls.flatMap Listed.text ++ rest) := by
  refine ⟨stopsPart_listed hls hrest.part, ?_⟩
  cases ls with
  | nil => exact hrest.dot
  | cons l ls =>
    rw [List.flatMap_cons, Listed.text, List.append_assoc, List.append_assoc]
    intro hdot
    cases hfront : l.front with
    | nil =>
      rw [hfront] at hdot
      exact absurd (Option.some.inj hdot) (by decide)
    | cons x gap =>
      rw [hfront] at hdot
      have hblank := (hls l List.mem_cons_self).front x (by rw [hfront]; exact List.mem_cons_self)
      rw [Option.some.inj hdot] at hblank
      exact absurd hblank (by decide)

/-- The references behind the commas are read one after the other. -/
theorem prefers_listed {ls : List Listed} {rest : Text} (hls : ∀ l ∈ ls, l.Written style)
    (hrest : ls ≠ [] → StopsReference style rest) (hcomma : rest.trimStart.head? ≠ some ',')
    (h : c.rest = ls.flatMap Listed.text ++ rest) :
    (many (another style)).Prefers ⟨c, cs⟩ ⟨c.past (ls.flatMap Listed.text) rest, cs⟩ := by
  induction ls generalizing c with
  | nil =>
    have hrest : c.rest = rest := h
    rw [← hrest] at hcomma ⊢
    exact prefers_many_of_nil (ways_another_of_ne hcomma)
  | cons l ls ih =>
    have hl := hls l List.mem_cons_self
    have hothers := fun k hk => hls k (List.mem_cons_of_mem l hk)
    have hstop := hrest (List.cons_ne_nil l ls)
    have htext : c.rest = l.front ++ (',' :: (l.behind ++ (l.reference.text
        ++ (ls.flatMap Listed.text ++ rest)))) := by
      rw [h, List.flatMap_cons, Listed.text]
      simp only [List.append_assoc, List.cons_append]
    have hfront : blanks?.Prefers ⟨c, cs⟩ ⟨c.past l.front _, cs⟩ :=
      prefers_run htext hl.front fun x hx => by rw [← Option.some.inj hx]; decide
    have hread := hfront.past (prefers_char rfl)
    have hread := hread.past (prefers_run rfl hl.behind (Dotted.isBlank_head?_text hl.reference _))
    have hread := hread.past (prefers_reference hl.reference (stopsReference_listed hothers hstop) rfl _)
    rw [hl.closed.head_eq, hl.closed.tail_eq, List.nil_append] at hread
    -- what was read piece by piece is one reference of the list, and takes some room
    have hwhole : l.front ++ [','] ++ l.behind ++ l.reference.text = l.text := by
      rw [Listed.text]
      simp only [List.append_assoc, List.cons_append, List.nil_append]
    rw [hwhole] at hread
    have hlt : c.offset < (c.past l.text (ls.flatMap Listed.text ++ rest)).offset := by
      have hpos := (',' : Char).utf8Size_pos
      rw [Cursor.past_offset, Listed.text, Text.byteLength_append, Text.byteLength_cons]
      omega
    have hlater := ih (c := c.past l.text (ls.flatMap Listed.text ++ rest)) hothers (fun _ => hstop) rfl
    rw [Cursor.past_past] at hlater
    exact hread.many hlt hlater

/-- A list of references, as the pattern for drops reads it. -/
def tables (style : QuoteStyle) : Pattern := reference style ++ many (another style)

variable {r : Dotted} {ls : List Listed} {rest : Text}

/-- **A list is read as a whole** if its references have no gaps. -/
theorem prefers_tables (hr : r.Written IsGap style) (hclosed : r.IsClosed)
    (hls : ∀ l ∈ ls, l.Written style) (hrest : StopsReference style rest)
    (hcomma : rest.trimStart.head? ≠ some ',') (h : c.rest = r.text ++ (ls.flatMap Listed.text ++ rest))
    (cs : List Capture) :
    (tables style).Prefers ⟨c, cs⟩ ⟨c.past (r.text ++ ls.flatMap Listed.text) rest, cs⟩ := by
  have hread := prefers_reference hr (stopsReference_listed hls hrest) h cs
  rw [hclosed.head_eq, hclosed.tail_eq, List.nil_append] at hread
  exact hread.past (prefers_listed hls (fun _ => hrest) hcomma rfl)

theorem stopsReference_nil : StopsReference style [] :=
  ⟨fun _ hx => absurd hx (by simp), by simp⟩

/-- No reference begins with white space or with a comma. -/
theorem matchAt?_reference_of_not {x : Char} (hx : Unicode.isBlank x = true ∨ x = ',')
    (before : Option Char) (offset : Nat) (rest : Text) :
    (reference style).matchAt? ⟨before, offset, x :: rest⟩ = none := by
  have hnone : (segment style).ways ⟨⟨before, offset, x :: rest⟩, []⟩ = [] := by
    refine ways_segment_of_not fun y hy => ?_
    obtain rfl : x = y := Option.some.inj hy
    obtain hblank | rfl := hx
    · refine ⟨bareChar_of_isBlank hblank, ?_, ?_⟩ <;>
      · rintro rfl
        exact absurd hblank (by decide)
    · exact ⟨bareChar_of_mem_marks (by decide), by decide, by decide⟩
  have hnone : (reference style).ways ⟨⟨before, offset, x :: rest⟩, []⟩ = [] :=
    ways_append_of_nil hnone _
  unfold Pattern.matchAt?
  rw [hnone]
  rfl

/-- A reference without gaps is found where it begins. -/
theorem matchesFrom_reference (hr : r.Written IsGap style) (hclosed : r.IsClosed)
    (hrest : StopsReference style rest) (before : Option Char) (offset : Nat) :
    ∃ m, m.text = r.text ∧ (reference style).matchesFrom 0 before offset (r.text ++ rest)
      = m :: (reference style).matchesFrom 0 (r.text.getLast? <|> before)
          (offset + Text.byteLength r.text) rest := by
  have hread := prefers_reference (c := ⟨before, offset, r.text ++ rest⟩) hr hrest rfl []
  rw [hclosed.head_eq, hclosed.tail_eq, List.nil_append] at hread
  refine ⟨_, ?_, hread.matchesFrom_append (Dotted.text_ne_nil hr)⟩
  exact Cursor.textTo_past rfl

/-- The references behind the commas are found one after the other. -/
theorem map_text_matchesFrom_listed (hls : ∀ l ∈ ls, l.Written style) (before : Option Char)
    (offset : Nat) : ((reference style).matchesFrom 0 before offset (ls.flatMap Listed.text)).map Match.text
      = ls.map fun l => l.reference.text := by
  induction ls generalizing before offset with
  | nil => rfl
  | cons l ls ih =>
    have hl := hls l List.mem_cons_self
    have hothers := fun k hk => hls k (List.mem_cons_of_mem l hk)
    have htext : (l :: ls).flatMap Listed.text
        = (l.front ++ ',' :: l.behind) ++ (l.reference.text ++ ls.flatMap Listed.text) := by
      rw [List.flatMap_cons, Listed.text]
      simp only [List.append_assoc, List.cons_append]
    have hstop : StopsReference style (ls.flatMap Listed.text) := by
      rw [← List.append_nil (ls.flatMap Listed.text)]
      exact stopsReference_listed hothers stopsReference_nil
    -- no reference begins at a comma or at the white space around it
    have hcomma : ∀ x ∈ l.front ++ ',' :: l.behind, Unicode.isBlank x = true ∨ x = ',' := by
      intro x hx
      obtain hx | hx := List.mem_append.mp hx
      · exact .inl (hl.front x hx)
      · obtain rfl | hx := List.mem_cons.mp hx
        · exact .inr rfl
        · exact .inl (hl.behind x hx)
    rw [htext, matchesFrom_append_of_none fun x hx => matchAt?_reference_of_not (hcomma x hx)]
    obtain ⟨m, hm, hfound⟩ := matchesFrom_reference hl.reference hl.closed hstop
      ((l.front ++ ',' :: l.behind).getLast? <|> before)
      (offset + Text.byteLength (l.front ++ ',' :: l.behind))
    rw [hfound, List.map_cons, hm, ih hothers, List.map_cons]

/-- **A list that is searched for references holds just these references.** -/
theorem map_text_matchesIn_tables (hr : r.Written IsGap style) (hclosed : r.IsClosed)
    (hls : ∀ l ∈ ls, l.Written style) :
    ((reference style).matchesIn (Cursor.start (r.text ++ ls.flatMap Listed.text))).map Match.text
      = r.text :: ls.map fun l => l.reference.text := by
  have hstop : StopsReference style (ls.flatMap Listed.text) := by
    rw [← List.append_nil (ls.flatMap Listed.text)]
    exact stopsReference_listed hls stopsReference_nil
  obtain ⟨m, hm, hfound⟩ := matchesFrom_reference hr hclosed hstop none 0
  show ((reference style).matchesFrom 0 none 0 (r.text ++ ls.flatMap Listed.text)).map Match.text = _
  rw [hfound, List.map_cons, hm, map_text_matchesFrom_listed hls]

end Script

end TableLedger
