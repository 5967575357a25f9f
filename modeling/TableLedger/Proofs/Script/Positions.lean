/-
  TableLedger.Proofs.Script.Positions — masking keeps positions.

  The masks of a script are made in its bytes: comments, literals and dollar-quoted
  bodies are blanked in two strengths, routine definitions are found in the stronger
  mask by byte index, and then blanked in both.  All along, texts are cut at byte
  indices, which goes wrong inside of a character.

  It never does.  Routines are found between places of the mask that have a visible
  character on one side, so these are places of the script as well, and of every mask
  of it.  Each mask has a byte of the script or a space at each index, and the line
  breaks of the script.

  Main statements:
    • `routineSpansFrom?_eq` — routines are found by index where they stand,
    • `fits_of_mem_routineSpansFrom` — they begin and end at places of the script,
    • `masking_keeps_positions` — masking by bytes, for every script.
-/

import TableLedger.Proofs.Pattern.Preferred
import TableLedger.Proofs.Script.Blanked
import TableLedger.Proofs.Script.Joined
import TableLedger.Script.Classify

namespace TableLedger

/-! ## §1. Cutting texts -/

namespace Text

/-- A text cut at a byte index; `none` inside of a character and behind the end. -/
def cut? : Nat → Text → Option (Text × Text)
  | 0, t => some ([], t)
  | _ + 1, [] => none
  | n + 1, c :: rest =>
    if n + 1 < c.utf8Size then none
    else (cut? (n + 1 - c.utf8Size) rest).map fun parts => (c :: parts.1, parts.2)

theorem cut?_byteLength (front rest : Text) :
    cut? (byteLength front) (front ++ rest) = some (front, rest) := by
  induction front with
  | nil =>
    cases rest with
    | nil => rfl
    | cons c rest => rfl
  | cons c front ih =>
    have hpos := c.utf8Size_pos
    obtain ⟨n, hn⟩ : ∃ n, byteLength (c :: front) = n + 1 :=
      ⟨c.utf8Size + byteLength front - 1, by rw [byteLength_cons]; omega⟩
    have hrest : n + 1 - c.utf8Size = byteLength front := by
      rw [byteLength_cons] at hn
      omega
    have hle : ¬n + 1 < c.utf8Size := by
      rw [byteLength_cons] at hn
      omega
    rw [hn, List.cons_append, cut?, if_neg hle, hrest, ih]
    rfl

/-- What a cut yields makes up the text. -/
theorem eq_append_of_cut? {t front rest : Text} {n : Nat} (h : cut? n t = some (front, rest)) :
    t = front ++ rest ∧ byteLength front = n := by
  fun_induction cut? n t generalizing front with
  | case1 t =>
    obtain ⟨rfl, rfl⟩ := Prod.mk.inj (Option.some.inj h)
    exact ⟨rfl, rfl⟩
  | case2 n => exact absurd h nofun
  | case3 n c others hlt => exact absurd h nofun
  | case4 n c others hle ih =>
    obtain ⟨⟨taken, left⟩, hparts, hfront⟩ := Option.map_eq_some_iff.mp h
    obtain ⟨rfl, rfl⟩ := Prod.mk.inj hfront
    obtain ⟨hothers, hlength⟩ := ih hparts
    refine ⟨by rw [hothers]; rfl, ?_⟩
    rw [byteLength_cons, hlength]
    omega

/-- The text between two byte indices. -/
def slice? (t : Text) (start stop : Nat) : Option Text :=
  if start ≤ stop then
    (cut? start t).bind fun parts => (cut? (stop - start) parts.2).map Prod.fst
  else none

theorem slice?_eq (front inside rest : Text) :
    slice? (front ++ (inside ++ rest)) (byteLength front) (byteLength front + byteLength inside)
      = some inside := by
  have hlength : byteLength front + byteLength inside - byteLength front = byteLength inside := by
    omega
  rw [slice?, if_pos (Nat.le_add_right _ _), cut?_byteLength]
  show (cut? _ (inside ++ rest)).map Prod.fst = some inside
  rw [hlength, cut?_byteLength]
  rfl

end Text

namespace Cursor

/-- The place at a byte index of a text. -/
def at? (t : Text) (offset : Nat) : Option Cursor :=
  (Text.cut? offset t).map fun parts => (start t).past parts.1 parts.2

variable {t : Text} {c d : Cursor}

/-- A place that follows another one is that place, or follows the next. -/
theorem Follows.eq_or_step (h : c.Follows d) :
    d = c ∨ ∃ ch rest, c.rest = ch :: rest ∧ (c.step ch rest).Follows d := by
  obtain ⟨taken, hrest, hd⟩ := h
  cases taken with
  | nil =>
    rw [hd, ← List.nil_append d.rest, ← hrest]
    exact .inl c.past_nil
  | cons ch taken =>
    refine .inr ⟨ch, taken ++ d.rest, hrest, taken, rfl, ?_⟩
    rw [hd]
    exact (past_past c [ch] taken _ d.rest).symm

theorem at?_eq (h : (start t).Follows c) : at? t c.offset = some c := by
  obtain ⟨front, ht, hc⟩ := h
  have ht : t = front ++ c.rest := ht
  have hoffset : c.offset = Text.byteLength front := by
    rw [hc]
    exact Nat.zero_add _
  rw [at?, hoffset, ht, Text.cut?_byteLength, ← ht]
  show some ((start t).past front c.rest) = some c
  rw [← hc]

/-- A place that is found follows the beginning and has the offset sought. -/
theorem follows_of_at? {n : Nat} (h : at? t n = some c) : (start t).Follows c ∧ c.offset = n := by
  obtain ⟨⟨front, rest⟩, hparts, rfl⟩ := Option.map_eq_some_iff.mp h
  obtain ⟨ht, hlength⟩ := Text.eq_append_of_cut? hparts
  exact ⟨follows_past ht, (Nat.zero_add _).trans hlength⟩

/-- What stands between two places is cut out at their indices. -/
theorem slice?_eq (h : (start t).Reaches c) (k : c.Reaches d) :
    t.slice? c.offset d.offset = some (c.textTo d) := by
  obtain ⟨front, ht, hc⟩ := h
  obtain ⟨inside, hrest, hd⟩ := k
  have ht : t = front ++ c.rest := ht
  have hoffset : c.offset = Text.byteLength front := by
    rw [hc]
    exact Nat.zero_add _
  have htext : c.textTo d = inside := by
    rw [textTo, hrest, List.length_append, Nat.add_sub_cancel, List.take_left]
  rw [hd, hoffset, ht, hrest, htext]
  exact Text.slice?_eq front inside d.rest

end Cursor

namespace Pattern

variable {p : Pattern} {c : Cursor} {m : Match}

/-- A match ends at a place that follows the one where it began. -/
theorem follows_of_matchAt? (h : p.matchAt? c = some m) : m.first = c ∧ c.Follows m.last := by
  unfold matchAt? at h
  obtain ⟨w, hw, rfl⟩ := Option.map_eq_some_iff.mp h
  exact ⟨rfl, follows_of_mem_ways (List.mem_of_mem_head? hw)⟩

/-- What is found stands at a place that follows. -/
theorem follows_of_find? (h : p.find? c = some m) :
    c.Follows m.first ∧ p.matchAt? m.first = some m := by
  obtain ⟨before, offset, t⟩ := c
  change p.findFrom? before offset t = some m at h
  induction t generalizing before offset with
  | nil => exact absurd h (by simp [findFrom?])
  | cons ch rest ih =>
    rw [findFrom?] at h
    split at h
    · next found hfound =>
      obtain rfl := Option.some.inj h
      rw [(follows_of_matchAt? hfound).1]
      exact ⟨Cursor.follows_refl _, hfound⟩
    · obtain ⟨hfollows, hmatch⟩ := ih _ _ h
      have hstep : Cursor.Follows ⟨before, offset, ch :: rest⟩ ⟨some ch, offset + ch.utf8Size, rest⟩ :=
        ⟨[ch], rfl, rfl⟩
      exact ⟨hstep.trans hfollows, hmatch⟩

/-- The pattern takes at least one character. -/
def Shortens (p : Pattern) : Prop :=
  ∀ w v, v ∈ p.ways w → v.cursor.rest.length < w.cursor.rest.length

/-- A pattern that takes something does so with another one behind it. -/
theorem Shortens.seq (h : p.Shortens) (q : Pattern) : (p ++ q).Shortens := by
  intro w v hv
  obtain ⟨u, hu, hv⟩ := List.mem_flatMap.mp hv
  have hfirst := h w u hu
  obtain ⟨taken, hrest, -⟩ := follows_of_mem_ways hv
  have hlength := congrArg List.length hrest
  rw [List.length_append] at hlength
  omega

/-- A word takes at least its first letter. -/
theorem shortens_keyword {letter : Char} {word : Text} :
    (wordEdge ++ keyword (letter :: word)).Shortens := by
  intro w v hv
  obtain ⟨u, hu, hv⟩ := List.mem_flatMap.mp hv
  have hfirst : w.cursor.Follows u.cursor := follows_of_mem_ways hu
  obtain ⟨before, hbefore, -⟩ := hfirst
  obtain ⟨found, hfound, hspells⟩ := mem_ways_keyword hv
  cases found with
  | nil => exact absurd hspells (by simp [spells])
  | cons ch found =>
    rw [hbefore, hfound, List.length_append, List.length_append, List.length_cons]
    omega

end Pattern

namespace Script

open Pattern

/-! ## §2. Routines by index -/

/-- Byte index of the end of a routine definition of the SQL Server family, its head ending at
    a byte index of the masked script. -/
def serverRoutineEndAt? (d : Dialect) (masked : Text) (headEnd : Nat) : Option Nat := do
  let head ← Cursor.at? masked headEnd
  let batchEnd := ((batchSeparator.find? head).map Match.start).getD (Text.byteLength masked)
  let batch ← masked.slice? headEnd batchEnd
  match bodyIntroducer.find? ⟨none, headEnd, batch⟩ with
  | none => return batchEnd
  | some introducer =>
    let body ← masked.slice? introducer.stop batchEnd
    if opensWithBegin body then
      let blocks ← maskStored? hidesNames d body
      return (blockEnd? 0 (blockWord.matchesIn ⟨none, introducer.stop, blocks⟩)).getD batchEnd
    else return batchEnd

/-- Byte index of the end of a routine definition. -/
def routineEndAt? (d : Dialect) (masked : Text) (headEnd : Nat) : Option Nat :=
  if d.isServerFamily then serverRoutineEndAt? d masked headEnd
  else (masked.slice? headEnd (Text.byteLength masked)).map (semicolonEnd headEnd)

theorem routineHeader_shortens : routineHeader.Shortens := by
  unfold routineHeader
  iterate 4 apply Shortens.seq
  exact shortens_keyword

/-- A definition begins with a letter and takes some room. -/
theorem exists_letter_of_routineHeader {place : Cursor} {m : Match}
    (h : routineHeader.matchAt? place = some m) :
    place.offset < m.last.offset ∧ ∃ c rest, place.rest = c :: rest ∧ c ≠ ' ' := by
  have hfollows := (follows_of_matchAt? h).2
  unfold matchAt? at h
  obtain ⟨w, hw, rfl⟩ := Option.map_eq_some_iff.mp h
  have hways := List.mem_of_mem_head? hw
  have hshort := routineHeader_shortens _ _ hways
  obtain ⟨found, behind, hrest, hspells⟩ := routineHeader_announces _ _ hways
  refine ⟨?_, ?_⟩
  · -- what is left has become shorter by at least one character, hence by at least one byte
    obtain ⟨taken, htaken, hoffset⟩ := hfollows.reaches
    have htaken : place.rest = taken ++ w.cursor.rest := htaken
    have hshort : w.cursor.rest.length < place.rest.length := hshort
    cases taken with
    | nil =>
      rw [htaken] at hshort
      exact absurd hshort (Nat.lt_irrefl _)
    | cons c taken =>
      have hpos := c.utf8Size_pos
      rw [Text.byteLength_cons] at hoffset
      show place.offset < w.cursor.offset
      have hoffset : w.cursor.offset = place.offset + (c.utf8Size + Text.byteLength taken) := hoffset
      omega
  · cases found with
    | nil => exact absurd hspells (by decide)
    | cons c found =>
      refine ⟨c, found ++ behind, hrest, ?_⟩
      rintro rfl
      exact absurd hspells (by simp [spells, isLetter])

/-- Behind a header the search has come closer to the end. -/
theorem lt_of_find?_routineHeader {masked : Text} {searched : Nat} {place : Cursor} {head : Match}
    (hplace : Cursor.at? masked searched = some place)
    (hhead : routineHeader.find? place = some head) : searched < head.stop := by
  obtain ⟨hfirst, hmatch⟩ := follows_of_find? hhead
  have hle := hfirst.reaches.offset_le
  rw [(Cursor.follows_of_at? hplace).2] at hle
  exact Nat.lt_of_le_of_lt hle (exists_letter_of_routineHeader hmatch).1

/-- The routine definitions from a byte index on. -/
def routineSpansFrom? (d : Dialect) (masked : Text) (searched : Nat) : Option (List Span) :=
  match _ : Cursor.at? masked searched with
  | none => none
  | some place =>
    match _ : routineHeader.find? place with
    | none => some []
    | some head => do
      let stop ← routineEndAt? d masked head.stop
      if Text.byteLength masked ≤ max stop head.stop then return [⟨head.start, stop⟩]
      else
        let others ← routineSpansFrom? d masked (max stop head.stop)
        return ⟨head.start, stop⟩ :: others
termination_by Text.byteLength masked - searched
decreasing_by
  have hlt : searched < head.stop := lt_of_find?_routineHeader ‹_› ‹_›
  omega

/-- One turn of the search, when the place to go on from is there. -/
theorem routineSpansFrom?_of_at? {d : Dialect} {masked : Text} {searched : Nat} {place : Cursor}
    (hplace : Cursor.at? masked searched = some place) :
    routineSpansFrom? d masked searched
      = match routineHeader.find? place with
        | none => some []
        | some head => (routineEndAt? d masked head.stop).bind fun stop =>
          if Text.byteLength masked ≤ max stop head.stop then some [⟨head.start, stop⟩]
          else (routineSpansFrom? d masked (max stop head.stop)).bind fun others =>
            some (⟨head.start, stop⟩ :: others) := by
  rw [routineSpansFrom?]
  split
  · next hnone => exact absurd (hplace.symm.trans hnone) nofun
  · next found hfound =>
    obtain rfl := Option.some.inj (hplace.symm.trans hfound)
    split
    · next hnone =>
      rw [hnone]
    · next head hhead =>
      rw [hhead]
      rfl

/-- The masked forms of a script, made in its bytes. -/
def maskedStored? (d : Dialect) (script : Text) : Option MaskedScript := do
  let masked ← maskStored? hidesLiterals d script
  let spans ← routineSpansFrom? d masked 0
  let code ← blankStored? spans masked
  let commentsMasked ← maskStored? hidesComments d script
  let withLiterals ← blankStored? spans commentsMasked
  return ⟨code, withLiterals⟩

/-! ## §3. Where routines end -/

/-- A place with a visible character on one side, or one of the ends of the text. -/
def Solid (t : Text) (n : Nat) : Prop :=
  n = 0 ∨ n = Text.byteLength t ∨ ∃ front c rest, t = front ++ c :: rest ∧ c ≠ ' '
    ∧ (n = Text.byteLength front ∨ n = Text.byteLength front + c.utf8Size)

/-- What is solid in a mask is a place of the text. -/
theorem Blanked.placeOf_of_solid {t u : Text} {n : Nat} (h : Blanked t u) (hn : Solid u n) :
    PlaceOf t n := by
  obtain rfl | rfl | ⟨front, c, rest, rfl, hc, hn⟩ := hn
  · exact ⟨[], t, rfl, rfl⟩
  · exact ⟨t, [], (List.append_nil t).symm, h.byteLength_eq.symm⟩
  · obtain ⟨front', rest', rfl, hfront, -⟩ := h.exists_visible hc
    obtain rfl | rfl := hn
    · exact ⟨front', c :: rest', rfl, hfront.byteLength_eq.symm⟩
    · refine ⟨front' ++ [c], rest', by rw [List.append_assoc]; rfl, ?_⟩
      rw [Text.byteLength_append, hfront.byteLength_eq]
      rfl

/-- A definition ends at its semicolon or with the text. -/
theorem exists_semicolonEnd (t : Text) (offset : Nat) :
    ∃ front rest, t = front ++ rest ∧ semicolonEnd offset t = offset + Text.byteLength front
      ∧ (rest = [] ∨ front.getLast? = some ';') := by
  induction t generalizing offset with
  | nil => exact ⟨[], [], rfl, rfl, .inl rfl⟩
  | cons c t ih =>
    rw [semicolonEnd]
    by_cases hc : c = ';'
    · rw [if_pos hc]
      exact ⟨[c], t, rfl, by rw [hc]; rfl, .inr (by rw [hc]; rfl)⟩
    · obtain ⟨front, rest, ht, hstop, hlast⟩ := ih (offset + c.utf8Size)
      rw [if_neg hc, hstop]
      refine ⟨c :: front, rest, by rw [ht]; rfl, by rw [Text.byteLength_cons, Nat.add_assoc], ?_⟩
      obtain hrest | hsemicolon := hlast
      · exact .inl hrest
      · exact .inr (by rw [List.getLast?_cons, hsemicolon]; rfl)

/-- A place behind a visible character is solid. -/
theorem solid_of_getLast? {front rest : Text} {c : Char} (hlast : front.getLast? = some c)
    (hc : c ≠ ' ') : Solid (front ++ rest) (Text.byteLength front) := by
  obtain ⟨before, rfl⟩ := List.getLast?_eq_some_iff.mp hlast
  refine .inr (.inr ⟨before, c, rest, by rw [List.append_assoc]; rfl, hc, .inr ?_⟩)
  rw [Text.byteLength_append]
  rfl

variable {d : Dialect} {masked : Text} {head : Cursor}

/-- A batch separator stands at the beginning of a line. -/
theorem atLineStart_of_matchAt? {c : Cursor} {m : Match} (h : batchSeparator.matchAt? c = some m) :
    c.atLineStart = true := by
  obtain ⟨-, v, hv⟩ := matchAt?_eq_some h
  unfold batchSeparator at hv
  repeat obtain ⟨_, hv, -⟩ := List.mem_flatMap.mp hv
  exact (mem_ways_lineStart hv).2

/-- A batch ends at the beginning of a line or with the text. -/
theorem batchEnd_solid (h : (Cursor.start masked).Follows head) :
    head.Reaches (batchEnd head) ∧ Solid masked (batchEnd head).offset := by
  unfold batchEnd
  cases hfound : batchSeparator.find? head with
  | none =>
    have hfinish : head.finish = Text.byteLength masked := by
      rw [h.reaches.finish_eq]
      exact Nat.zero_add _
    exact ⟨⟨head.rest, (List.append_nil _).symm, rfl⟩, .inr (.inl hfinish)⟩
  | some m =>
    obtain ⟨hfollows, hmatch⟩ := follows_of_find? hfound
    refine ⟨hfollows.reaches, ?_⟩
    obtain ⟨front, htext, hfirst⟩ := h.trans hfollows
    have hoffset : m.first.offset = Text.byteLength front := by
      rw [hfirst]
      exact Nat.zero_add _
    have hbefore : m.first.before = front.getLast? := by
      rw [hfirst]
      show (front.getLast? <|> none) = front.getLast?
      cases front.getLast? with
      | none => rfl
      | some c => rfl
    -- a separator begins a line, so the text ends there or a line break stands in front of it
    have hline := atLineStart_of_matchAt? hmatch
    show Solid masked m.first.offset
    rw [Cursor.atLineStart, hbefore] at hline
    have htext : masked = front ++ m.first.rest := htext
    rw [hoffset, htext]
    cases hlast : front.getLast? with
    | none =>
      rw [List.getLast?_eq_none_iff.mp hlast]
      exact .inl rfl
    | some c =>
      rw [hlast] at hline
      have hbreak : c = '\n' := beq_iff_eq.mp hline
      exact solid_of_getLast? hlast (by rw [hbreak]; decide)

/-- The end of a block is the end of a word END. -/
theorem exists_of_blockEnd? {depth n : Nat} {words : List Match} (h : blockEnd? depth words = some n) :
    ∃ m ∈ words, m.text.asciiLowercase = "end".toList ∧ n = m.stop := by
  induction words generalizing depth with
  | nil => exact absurd h (by simp [blockEnd?])
  | cons m words ih =>
    have hlater : ∀ {depth}, blockEnd? depth words = some n →
        ∃ m' ∈ m :: words, m'.text.asciiLowercase = "end".toList ∧ n = m'.stop := by
      intro depth h
      obtain ⟨m', hm', hend⟩ := ih h
      exact ⟨m', List.mem_cons_of_mem m hm', hend⟩
    rw [blockEnd?] at h
    split at h
    · next hend =>
      split at h
      · exact ⟨m, List.mem_cons_self, hend, (Option.some.inj h).symm⟩
      · exact hlater h
    · split at h
      · exact hlater h
      · exact hlater h

/-- The body of a routine ends with it or behind a word of it. -/
theorem bodyEnd_solid (offset : Nat) (body : Text) :
    bodyEnd d offset body = offset + Text.byteLength body
      ∨ ∃ front c rest, body = front ++ c :: rest ∧ c ≠ ' '
        ∧ bodyEnd d offset body = offset + Text.byteLength front + c.utf8Size := by
  unfold bodyEnd
  split
  · cases hblock : blockEnd? 0 (blockWord.matchesIn ⟨none, offset, mask hidesNames d body⟩) with
    | none => exact .inl rfl
    | some n =>
      right
      obtain ⟨m, hm, htext, rfl⟩ := exists_of_blockEnd? hblock
      obtain ⟨⟨front, hfront, hfirst⟩, -⟩ := leads_of_mem_matchesIn hm
      obtain ⟨place, -, hmatch⟩ := exists_matchAt?_of_mem_matchesFrom hm
      obtain ⟨hplace, hreaches, -⟩ := leads_of_matchAt?_eq_some hmatch
      rw [← hplace] at hreaches
      obtain ⟨word, hword, hlast⟩ := hreaches
      have hletters : Text.asciiLowercase word = "end".toList := by
        rw [Match.text, Cursor.textTo, hword, List.length_append, Nat.add_sub_cancel,
          List.take_left] at htext
        exact htext
      -- the last letter of the word is visible
      obtain ⟨letters, c, rfl, hc⟩ : ∃ letters c, word = letters ++ [c] ∧ c ≠ ' ' := by
        have hne : word ≠ [] := by
          rintro rfl
          exact absurd hletters (by decide)
        refine ⟨_, _, (List.dropLast_concat_getLast hne).symm, fun hspace => ?_⟩
        have hmem : ' ' ∈ Text.asciiLowercase word :=
          List.mem_map.mpr ⟨' ', hspace ▸ List.getLast_mem hne, by decide⟩
        rw [hletters] at hmem
        exact absurd hmem (by decide)
      have hshown : mask hidesNames d body = (front ++ letters) ++ c :: m.last.rest := by
        have hrest : mask hidesNames d body = front ++ m.first.rest := hfront
        rw [hrest, hword, List.append_assoc, List.append_assoc]
        rfl
      have hblanked := Blanked.mask hidesNames d body
      rw [hshown] at hblanked
      obtain ⟨front', rest', hbody, hlength, -⟩ := hblanked.exists_visible hc
      have hsame := hlength.byteLength_eq
      refine ⟨front', c, rest', hbody, hc, ?_⟩
      have hfirst : m.first.offset = offset + Text.byteLength front := hfirst
      show m.last.offset = _
      rw [hlast, hfirst, Text.byteLength_append, ← hsame, Text.byteLength_append,
        Text.byteLength_cons, Text.byteLength_nil]
      omega
  · exact .inl rfl

/-- The body of a routine of the SQL Server family, as it is cut out of the script. -/
theorem exists_body (hhead : (Cursor.start masked).Follows head) {introducer : Match}
    (hfound : bodyIntroducer.find? (head.sliceTo (batchEnd head)) = some introducer) :
    ∃ front rest, masked = front ++ (introducer.last.rest ++ rest)
      ∧ introducer.stop = Text.byteLength front
      ∧ (batchEnd head).offset = introducer.stop + Text.byteLength introducer.last.rest
      ∧ head.offset ≤ introducer.stop := by
  obtain ⟨hreaches, -⟩ := batchEnd_solid hhead
  obtain ⟨hfirst, hmatch⟩ := follows_of_find? hfound
  obtain ⟨taken, htaken, hlast⟩ := (hfirst.trans (follows_of_matchAt? hmatch).2).reaches
  obtain ⟨front, hfront, hoffset⟩ := hhead.reaches
  obtain ⟨batch, hbatch, hbatchEnd⟩ := hreaches
  -- the introducer is found in the text of the batch, which is a stretch of the masked script
  have htext : head.textTo (batchEnd head) = batch := by
    rw [Cursor.textTo, hbatch, List.length_append, Nat.add_sub_cancel, List.take_left]
  have htaken : batch = taken ++ introducer.last.rest := htext ▸ htaken
  have hoffset : head.offset = Text.byteLength front := hoffset.trans (Nat.zero_add _)
  have hlast : introducer.stop = head.offset + Text.byteLength taken := hlast
  have hfront : masked = front ++ head.rest := hfront
  refine ⟨front ++ taken, (batchEnd head).rest, ?_, ?_, ?_, by omega⟩
  · rw [hfront, hbatch, htaken]
    simp only [List.append_assoc]
  · rw [hlast, hoffset, Text.byteLength_append]
  · rw [hbatchEnd, htaken, hlast, Text.byteLength_append, Nat.add_assoc]

/-- **A definition ends at a solid place,** not in front of the end of its head. -/
theorem routineEnd_solid (hhead : (Cursor.start masked).Follows head) :
    head.offset ≤ routineEnd d head ∧ Solid masked (routineEnd d head) := by
  obtain ⟨front, htext, hoffset⟩ := hhead.reaches
  have htext : masked = front ++ head.rest := htext
  have hoffset : head.offset = Text.byteLength front := hoffset.trans (Nat.zero_add _)
  unfold routineEnd
  split
  · obtain ⟨hreaches, hsolid⟩ := batchEnd_solid hhead
    cases hfound : bodyIntroducer.find? (head.sliceTo (batchEnd head)) with
    | none => exact ⟨hreaches.offset_le, hsolid⟩
    | some introducer =>
      obtain ⟨before, behind, hbody, hstop, hend, hle⟩ := exists_body hhead hfound
      show head.offset ≤ bodyEnd d introducer.stop introducer.last.rest
        ∧ Solid masked (bodyEnd d introducer.stop introducer.last.rest)
      obtain hwhole | ⟨inside, c, rest, hinside, hc, hword⟩ :=
        bodyEnd_solid (d := d) introducer.stop introducer.last.rest
      · -- no block ends in the body, and the routine goes on to the end of the batch
        rw [hwhole, ← hend]
        exact ⟨hreaches.offset_le, hsolid⟩
      · rw [hword, hstop]
        refine ⟨by omega, .inr (.inr ⟨before ++ inside, c, rest ++ behind, ?_, hc, .inr ?_⟩)⟩
        · rw [hbody, hinside]
          simp only [List.append_assoc, List.cons_append]
        · rw [Text.byteLength_append]
  · obtain ⟨inside, rest, hrest, hstop, hlast⟩ := exists_semicolonEnd head.rest head.offset
    rw [hstop]
    refine ⟨Nat.le_add_right _ _, ?_⟩
    obtain rfl | hsemicolon := hlast
    · rw [htext, hrest, hoffset, List.append_nil, ← Text.byteLength_append]
      exact .inr (.inl rfl)
    · have hlast : (front ++ inside).getLast? = some ';' := by
        rw [List.getLast?_append, hsemicolon]
        rfl
      rw [htext, hrest, hoffset, ← Text.byteLength_append, ← List.append_assoc]
      exact solid_of_getLast? hlast (by decide)

/-- **The end of a definition by index.**  No text is cut inside of a character. -/
theorem routineEndAt?_eq (hhead : (Cursor.start masked).Follows head) :
    routineEndAt? d masked head.offset = some (routineEnd d head) := by
  unfold routineEndAt? routineEnd
  split
  · -- both cuts, of the batch and of the body in it, are made where a pattern was matched
    have hbatch : ((batchSeparator.find? head).map Match.start).getD (Text.byteLength masked)
        = (batchEnd head).offset := by
      unfold batchEnd
      cases batchSeparator.find? head with
      | some m => rfl
      | none => exact (hhead.reaches.finish_eq.trans (Nat.zero_add _)).symm
    have hslice := Cursor.slice?_eq hhead.reaches (batchEnd_solid hhead).1
    unfold serverRoutineEndAt?
    rw [Cursor.at?_eq hhead]
    show ((masked.slice? head.offset _).bind _) = _
    rw [hbatch, hslice]
    show (match bodyIntroducer.find? (head.sliceTo (batchEnd head)) with
      | none => some (batchEnd head).offset
      | some introducer => _) = _
    cases hfound : bodyIntroducer.find? (head.sliceTo (batchEnd head)) with
    | none => rfl
    | some introducer =>
      obtain ⟨before, behind, hbody, hstop, hend, -⟩ := exists_body hhead hfound
      have hcut : masked.slice? introducer.stop (batchEnd head).offset
          = some introducer.last.rest := by
        rw [hend, hstop, hbody]
        exact Text.slice?_eq before introducer.last.rest behind
      show ((masked.slice? introducer.stop (batchEnd head).offset).bind _) = some (bodyEnd d _ _)
      rw [hcut, bodyEnd, ← hend]
      show (if opensWithBegin introducer.last.rest then _ else _) = _
      split
      · rw [maskStored?_eq rfl]
        rfl
      · rfl
  · have hend : Cursor.Reaches head ⟨none, Text.byteLength masked, []⟩ :=
      ⟨head.rest, (List.append_nil _).symm,
        (hhead.reaches.finish_eq.trans (Nat.zero_add _)).symm⟩
    have hslice := Cursor.slice?_eq hhead.reaches hend
    have hrest : head.textTo ⟨none, Text.byteLength masked, []⟩ = head.rest := by
      rw [Cursor.textTo, List.length_nil, Nat.sub_zero, List.take_length]
    rw [hslice, hrest]
    rfl

/-! ## §4. All routines -/

/-- Where a text can be cut behind a place, there is a place. -/
theorem exists_follows_of_placeOf {c : Cursor} {n : Nat} (h : (Cursor.start masked).Follows c)
    (hle : c.offset ≤ n) (hn : PlaceOf masked n) : ∃ e, c.Follows e ∧ e.offset = n := by
  obtain ⟨front, htext, hoffset⟩ := h.reaches
  obtain ⟨front', rest, htext', rfl⟩ := hn
  have htext : masked = front ++ c.rest := htext
  have hoffset : c.offset = Text.byteLength front := hoffset.trans (Nat.zero_add _)
  rw [htext] at htext'
  obtain ⟨inside, rfl, hrest⟩ | ⟨more, rfl, hrest⟩ := List.append_eq_append_iff.mp htext'
  · refine ⟨c.past inside rest, Cursor.follows_past hrest, ?_⟩
    rw [Cursor.past_offset, hoffset, Text.byteLength_append]
  · refine ⟨c, c.follows_refl, ?_⟩
    rw [Text.byteLength_append] at hoffset
    omega

/-- The places in front of where the search goes on are passed. -/
theorem routineSpansFrom_pass {c e : Cursor} (h : c.Follows e) :
    routineSpansFrom d e.offset c.before c.offset c.rest
      = routineSpansFrom d e.offset e.before e.offset e.rest := by
  obtain ⟨before, offset, t⟩ := c
  induction t generalizing before offset with
  | nil =>
    obtain rfl | ⟨ch, rest, hnil, -⟩ := h.eq_or_step
    · rfl
    · exact nomatch hnil
  | cons ch rest ih =>
    obtain rfl | ⟨_, _, hrest, hlater⟩ := h.eq_or_step
    · rfl
    · obtain ⟨rfl, rfl⟩ := List.cons.inj hrest
      have hpos := ch.utf8Size_pos
      have hle : offset + ch.utf8Size ≤ e.offset := hlater.reaches.offset_le
      show routineSpansFrom d e.offset before offset (ch :: rest) = _
      rw [routineSpansFrom, if_pos (by omega)]
      exact ih _ _ hlater

/-- From a place on, the search goes to the first definition and on behind its beginning. -/
theorem routineSpansFrom_eq {resume : Nat} {c : Cursor} (h : (Cursor.start masked).Follows c)
    (hresume : resume ≤ c.offset) :
    routineSpansFrom d resume c.before c.offset c.rest
      = match routineHeader.find? c with
        | none => []
        | some m => ⟨m.start, routineEnd d m.last⟩
          :: routineSpansFrom d (routineEnd d m.last) m.first.before m.first.offset m.first.rest := by
  obtain ⟨before, offset, t⟩ := c
  induction t generalizing before offset with
  | nil => rfl
  | cons ch rest ih =>
    have hstep : Cursor.Follows ⟨before, offset, ch :: rest⟩ ⟨some ch, offset + ch.utf8Size, rest⟩ :=
      ⟨[ch], rfl, rfl⟩
    have hge : ¬offset < resume := Nat.not_lt.mpr hresume
    rw [routineSpansFrom, if_neg hge, find?, findFrom?]
    cases hmatch : routineHeader.matchAt? ⟨before, offset, ch :: rest⟩ with
    | none => exact ih (some ch) (offset + ch.utf8Size) (h.trans hstep) (Nat.le_add_right_of_le hresume)
    | some m =>
      obtain ⟨hfirst, hlast⟩ := follows_of_matchAt? hmatch
      have hroom : offset < m.last.offset := (exists_letter_of_routineHeader hmatch).1
      have hstop : offset < routineEnd d m.last :=
        Nat.lt_of_lt_of_le hroom (routineEnd_solid (h.trans hlast)).1
      show Span.mk offset (routineEnd d m.last) :: _ = ⟨m.first.offset, routineEnd d m.last⟩ :: _
      rw [hfirst]
      show _ = _ :: routineSpansFrom d (routineEnd d m.last) before offset (ch :: rest)
      rw [routineSpansFrom, if_pos hstop]

/-- Behind the end of a text nothing is left. -/
theorem rest_eq_nil {c : Cursor} (h : (Cursor.start masked).Follows c)
    (hend : Text.byteLength masked ≤ c.offset) : c.rest = [] := by
  obtain ⟨front, htext, hoffset⟩ := h.reaches
  have htext : masked = front ++ c.rest := htext
  have hoffset : c.offset = Text.byteLength front := hoffset.trans (Nat.zero_add _)
  rw [htext, Text.byteLength_append, hoffset] at hend
  cases hrest : c.rest with
  | nil => rfl
  | cons ch rest =>
    have hpos := ch.utf8Size_pos
    rw [hrest, Text.byteLength_cons] at hend
    omega

/-- What the search for definitions finds from a place on: nothing, or the first definition,
    and what it finds from the end of that one on. -/
inductive RoutineSearch (d : Dialect) : Cursor → List Span → Prop
  | done {c : Cursor} : routineHeader.find? c = none → RoutineSearch d c []
  | found {c e : Cursor} {head : Match} {others : List Span} : routineHeader.find? c = some head →
      head.last.Follows e → e.offset = routineEnd d head.last → RoutineSearch d e others →
      RoutineSearch d c (⟨head.start, e.offset⟩ :: others)

/-- From every place on, the search by offsets comes to what the search by places does. -/
theorem routineSearch_of_follows {c : Cursor} (h : (Cursor.start masked).Follows c) :
    RoutineSearch d c (routineSpansFrom d c.offset c.before c.offset c.rest) := by
  -- a definition takes room, so the search comes closer to the end
  induction hn : Text.byteLength masked - c.offset using Nat.strongRecOn generalizing c with
  | ind n ih =>
    rw [routineSpansFrom_eq h (Nat.le_refl _)]
    cases hfound : routineHeader.find? c with
    | none => exact .done hfound
    | some m =>
      obtain ⟨hfirst, hmatch⟩ := follows_of_find? hfound
      have hlast := (follows_of_matchAt? hmatch).2
      have hhead : (Cursor.start masked).Follows m.last := (h.trans hfirst).trans hlast
      obtain ⟨hle, hsolid⟩ := routineEnd_solid (d := d) hhead
      obtain ⟨e, hbehind, hend⟩ := exists_follows_of_placeOf hhead hle
        ((Blanked.refl masked).placeOf_of_solid hsolid)
      have hall : (Cursor.start masked).Follows e := hhead.trans hbehind
      have hcloser : Text.byteLength masked - e.offset < n := by
        have := hfirst.reaches.offset_le
        have := (exists_letter_of_routineHeader hmatch).1
        have := hbehind.reaches.offset_le
        have := hall.reaches.offset_le_byteLength
        omega
      show RoutineSearch d c (⟨m.start, routineEnd d m.last⟩ :: _)
      rw [← hend, routineSpansFrom_pass (hlast.trans hbehind)]
      exact .found hfound hbehind hend (ih _ hcloser hall rfl)

/-- What the search finds is found by index, too: no text is cut inside of a character. -/
theorem RoutineSearch.byIndex {c : Cursor} {spans : List Span} (h : RoutineSearch d c spans)
    (hc : (Cursor.start masked).Follows c) : routineSpansFrom? d masked c.offset = some spans := by
  induction h with
  | done hnone => rw [routineSpansFrom?_of_at? (Cursor.at?_eq hc), hnone]
  | @found c e m others hfound hbehind hend hothers ih =>
    obtain ⟨hfirst, hmatch⟩ := follows_of_find? hfound
    have hhead := (hc.trans hfirst).trans (follows_of_matchAt? hmatch).2
    have hall : (Cursor.start masked).Follows e := hhead.trans hbehind
    have hmax : max (routineEnd d m.last) m.stop = e.offset := by
      rw [← hend]
      exact Nat.max_eq_left hbehind.reaches.offset_le
    rw [routineSpansFrom?_of_at? (Cursor.at?_eq hc), hfound]
    show (routineEndAt? d masked m.last.offset).bind _ = some (_ :: _)
    rw [routineEndAt?_eq hhead]
    show (if Text.byteLength masked ≤ max (routineEnd d m.last) m.stop then _
      else (routineSpansFrom? d masked (max (routineEnd d m.last) m.stop)).bind _) = _
    rw [hmax, ← hend, ih hall]
    split
    · next hover =>
      -- the search ends where nothing is left for a header
      have hnone : routineHeader.find? e = none := by
        rw [find?, rest_eq_nil hall hover]
        rfl
      cases hothers with
      | done => rfl
      | found hmore => exact nomatch hnone.symm.trans hmore
    · rfl

/-- **Routines are found by index where they stand.** -/
theorem routineSpansFrom?_eq {c : Cursor} (h : (Cursor.start masked).Follows c) :
    routineSpansFrom? d masked c.offset
      = some (routineSpansFrom d c.offset c.before c.offset c.rest) :=
  (routineSearch_of_follows h).byIndex h

/-! ## §5. Blanking routines in both masks -/

/-- A definition begins at a header and ends where that of the header does. -/
theorem exists_header_of_mem_routineSpansFrom {c : Cursor} {resume : Nat} {span : Span}
    (h : span ∈ routineSpansFrom d resume c.before c.offset c.rest) :
    ∃ place header, c.Follows place ∧ place.offset = span.start
      ∧ routineHeader.matchAt? place = some header ∧ span.stop = routineEnd d header.last := by
  obtain ⟨before, offset, t⟩ := c
  induction t generalizing before offset resume with
  | nil => exact absurd h List.not_mem_nil
  | cons ch rest ih =>
    have hstep : Cursor.Follows ⟨before, offset, ch :: rest⟩ ⟨some ch, offset + ch.utf8Size, rest⟩ :=
      ⟨[ch], rfl, rfl⟩
    -- whether a header is found here or not, the search goes on one character later
    have hlater : ∀ {resume : Nat},
        span ∈ routineSpansFrom d resume (some ch) (offset + ch.utf8Size) rest →
        ∃ place header, Cursor.Follows ⟨before, offset, ch :: rest⟩ place ∧ place.offset = span.start
          ∧ routineHeader.matchAt? place = some header ∧ span.stop = routineEnd d header.last := by
      intro resume h
      obtain ⟨place, header, hfollows, hfound⟩ := ih _ _ h
      exact ⟨place, header, hstep.trans hfollows, hfound⟩
    rw [routineSpansFrom] at h
    split at h
    · exact hlater h
    · split at h
      · next m hmatch =>
        obtain rfl | h := List.mem_cons.mp h
        · exact ⟨_, m, Cursor.follows_refl _, rfl, hmatch, rfl⟩
        · exact hlater h
      · exact hlater h

/-- Routines begin and end where the script can be cut. -/
theorem fits_of_mem_routineSpansFrom {script : Text} (hblanked : Blanked script masked)
    {c : Cursor} (h : (Cursor.start masked).Follows c) {resume : Nat} {s : Span}
    (hs : s ∈ routineSpansFrom d resume c.before c.offset c.rest) : s.Fits script := by
  obtain ⟨place, header, hplace, hoffset, hmatch, hstop⟩ := exists_header_of_mem_routineSpansFrom hs
  obtain ⟨hroom, letter, behind, hletter, hvisible⟩ := exists_letter_of_routineHeader hmatch
  have hplace := h.trans hplace
  obtain ⟨hle, hsolid⟩ := routineEnd_solid (d := d) (hplace.trans (follows_of_matchAt? hmatch).2)
  obtain ⟨front, htext, hfront⟩ := hplace.reaches
  have htext : masked = front ++ place.rest := htext
  have hstart : Solid masked place.offset :=
    .inr (.inr ⟨front, letter, behind, by rw [htext, hletter], hvisible,
      .inl (hfront.trans (Nat.zero_add _))⟩)
  refine ⟨?_, ?_, ?_⟩
  · rw [← hoffset, hstop]
    exact Nat.le_trans (Nat.le_of_lt hroom) hle
  · exact hoffset ▸ hblanked.placeOf_of_solid hstart
  · exact hstop ▸ hblanked.placeOf_of_solid hsolid

/-- The masked forms of a script are made in its bytes without a fault. -/
theorem maskedStored?_eq (d : Dialect) (script : Text) :
    maskedStored? d script = some (MaskedScript.ofScript d script) := by
  have hspans := routineSpansFrom?_eq (d := d) (Cursor.follows_refl
    (Cursor.start (mask hidesLiterals d script)))
  have hfits : ∀ s ∈ routineSpans d (mask hidesLiterals d script), s.Fits script := fun s hs =>
    fits_of_mem_routineSpansFrom (Blanked.mask hidesLiterals d script) (Cursor.follows_refl _) hs
  unfold maskedStored?
  rw [maskStored?_eq rfl]
  show (routineSpansFrom? d (mask hidesLiterals d script) 0).bind _ = _
  rw [show routineSpansFrom? d (mask hidesLiterals d script) 0
    = some (routineSpans d (mask hidesLiterals d script)) from hspans]
  show (blankStored? (routineSpans d (mask hidesLiterals d script)) _).bind _ = _
  rw [blankStored?_eq fun s hs => (hfits s hs).of_blanked (Blanked.mask hidesLiterals d script)]
  show (maskStored? hidesComments d script).bind _ = _
  rw [maskStored?_eq rfl]
  show (blankStored? _ _).bind _ = _
  rw [blankStored?_eq fun s hs => (hfits s hs).of_blanked (Blanked.mask hidesComments d script)]
  rfl

/-- What is blanked in the masks of a script: comments in both, literals in one. -/
theorem blanked_maskCommentsAndLiterals (d : Dialect) (script : Text) :
    Blanked (maskComments d script) (maskCommentsAndLiterals d script) :=
  Blanked.flatMap_masked (fun kind => by cases kind <;> decide) (regions d script)

/-- **Masking keeps positions.**  Made in the bytes of any script, the two masks and the two
    texts that are searched come out as text, no character being cut.  Byte by byte each of
    them has what the script has or a space, and the line breaks of the script; the stronger
    mask is the weaker one with more of it blanked. -/
theorem masking_keeps_positions (d : Dialect) (script : Text) :
    maskStored? hidesComments d script = some (maskComments d script)
      ∧ maskStored? hidesLiterals d script = some (maskCommentsAndLiterals d script)
      ∧ maskedStored? d script = some (MaskedScript.ofScript d script)
      ∧ BlankedBytes script.utf8 (maskComments d script).utf8
      ∧ BlankedBytes (maskComments d script).utf8 (maskCommentsAndLiterals d script).utf8
      ∧ BlankedBytes script.utf8 (MaskedScript.ofScript d script).withLiterals.utf8
      ∧ BlankedBytes (MaskedScript.ofScript d script).withLiterals.utf8
          (MaskedScript.ofScript d script).code.utf8 := by
  have hcomments : Blanked script (maskComments d script) := Blanked.mask hidesComments d script
  have hliterals := blanked_maskCommentsAndLiterals d script
  have hkept : Blanked (maskComments d script) (MaskedScript.ofScript d script).withLiterals :=
    Blanked.blankSpansFrom _ _ 0
  have hcode : Blanked (MaskedScript.ofScript d script).withLiterals
      (MaskedScript.ofScript d script).code := Blanked.blankSpansFrom_congr _ hliterals 0
  exact ⟨maskStored?_eq rfl d script, maskStored?_eq rfl d script, maskedStored?_eq d script,
    hcomments.bytes, hliterals.bytes, (hcomments.trans hkept).bytes, hcode.bytes⟩

end Script

end TableLedger
