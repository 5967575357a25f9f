/-
  TableLedger.Proofs.Pattern.Preferred — the way that a pattern prefers.

  A match is made by the first of the ways of a pattern.  Where each part of a pattern
  prefers to go is found part by part: a sequence prefers the preferred way of its
  second part behind the preferred way of its first, as long as that one leads on.
  So a text that is spelled as a pattern says is matched as it is spelled.

  The inside of a quotation needs some care.  A closing mark that is written twice
  stands for itself, and the repetition takes as much as it can; if the quotation is
  never closed, it goes back to a doubled mark and ends between the two.  So what is
  taken reaches to the last closing mark that could end it.

  Main statements:
    • `Prefers.append` and its kin — the preferred way, part by part,
    • `prefers_quotedChars` — the inside of a quotation that is closed,
    • `mem_ways_quotedChars` — what the inside of a quotation can be,
    • `exists_prefers_quotedEnd` — the last mark that can close a quotation is preferred.
-/

import TableLedger.Proofs.Pattern.Tail
import TableLedger.Script.Vocabulary
import TableLedger.Text.Quoted

namespace TableLedger

/-! ## §1. Places behind a text -/

namespace Cursor

/-- The place behind `taken`, with `rest` behind it. -/
def past (c : Cursor) (taken rest : Text) : Cursor :=
  ⟨taken.getLast? <|> c.before, c.offset + Text.byteLength taken, rest⟩

@[simp] theorem past_rest (c : Cursor) (taken rest : Text) : (c.past taken rest).rest = rest := rfl

@[simp] theorem past_offset (c : Cursor) (taken rest : Text) :
    (c.past taken rest).offset = c.offset + Text.byteLength taken := rfl

theorem past_nil (c : Cursor) : c.past [] c.rest = c := rfl

/-- To go past two texts is to go past both together. -/
theorem past_past (c : Cursor) (t u rest rest' : Text) :
    (c.past t rest).past u rest' = c.past (t ++ u) rest' := by
  unfold past
  rw [Text.byteLength_append, Nat.add_assoc, List.getLast?_append]
  cases u.getLast? with
  | none => rfl
  | some ch => rfl

/-- The second place follows the first one in the same text, or is the same. -/
def Follows (c d : Cursor) : Prop := ∃ taken, c.rest = taken ++ d.rest ∧ d = c.past taken d.rest

theorem follows_refl (c : Cursor) : c.Follows c := ⟨[], rfl, rfl⟩

/-- The place behind a text follows the place in front of it. -/
theorem follows_past {c : Cursor} {taken rest : Text} (h : c.rest = taken ++ rest) :
    c.Follows (c.past taken rest) := ⟨taken, h, rfl⟩

theorem Follows.trans {b c d : Cursor} (h : b.Follows c) (k : c.Follows d) : b.Follows d := by
  obtain ⟨taken, hb, hc⟩ := h
  obtain ⟨more, hrest, hd⟩ := k
  refine ⟨taken ++ more, by rw [hb, hrest, List.append_assoc], ?_⟩
  rw [← past_past, ← hc]
  exact hd

/-- A place that follows is reached. -/
theorem Follows.reaches {c d : Cursor} (h : c.Follows d) : c.Reaches d := by
  obtain ⟨taken, hrest, hd⟩ := h
  exact ⟨taken, hrest, by rw [hd]; rfl⟩

/-- What stands between two places behind one another. -/
theorem textTo_past {c : Cursor} {taken rest : Text} (h : c.rest = taken ++ rest) :
    c.textTo (c.past taken rest) = taken := textTo_of_append h

end Cursor

namespace Pattern

variable {p q : Pattern} {c : Cursor} {cs : List Capture}

/-- The ways of a pattern lead to places that follow. -/
theorem follows_of_mem_ways {w v : Way} (h : v ∈ p.ways w) : w.cursor.Follows v.cursor := by
  have hprogress : Progress fun w v => w.cursor.Follows v.cursor := {
    refl := fun w => w.cursor.follows_refl
    trans := fun h k => h.trans k
    step := fun hrest => ⟨[_], hrest, rfl⟩
    capture := fun _ h => h }
  exact hprogress.of_mem_ways h

/-! ## §2. The preferred way -/

/-- The pattern prefers this way to go on. -/
def Prefers (p : Pattern) (w v : Way) : Prop := (p.ways w).head? = some v

/-- The match at a place is made by the preferred way. -/
theorem Prefers.matchAt? {v : Way} (h : p.Prefers ⟨c, []⟩ v) :
    p.matchAt? c = some ⟨c, v.cursor, v.captures⟩ := by
  unfold Prefers at h
  unfold Pattern.matchAt?
  rw [h]
  rfl

/-- The preferred way through two patterns is preferred through each of them. -/
theorem Prefers.append {w u v : Way} (hp : p.Prefers w u) (hq : q.Prefers u v) :
    (p ++ q).Prefers w v := by
  obtain ⟨others, hways⟩ : ∃ others, p.ways w = u :: others := List.head?_eq_some_iff.mp hp
  show ((p.ways w).flatMap q.ways).head? = some v
  rw [hways, List.flatMap_cons, List.head?_append, hq]
  rfl

/-- Behind what was taken already, the preferred way goes on. -/
theorem Prefers.past {w : Way} {cs' : List Capture} {t u rest rest' : Text}
    (hp : p.Prefers w ⟨c.past t rest, cs⟩)
    (hq : q.Prefers ⟨c.past t rest, cs⟩ ⟨(c.past t rest).past u rest', cs'⟩) :
    (p ++ q).Prefers w ⟨c.past (t ++ u) rest', cs'⟩ := by
  rw [Cursor.past_past] at hq
  exact hp.append hq

/-- Patterns in a row may be taken together in any order. -/
theorem ways_append_assoc (p q r : Pattern) (w : Way) :
    (p ++ q ++ r).ways w = (p ++ (q ++ r)).ways w := by
  show ((p.ways w).flatMap q.ways).flatMap r.ways
    = (p.ways w).flatMap fun u => (q.ways u).flatMap r.ways
  exact List.flatMap_assoc

theorem ways_append_of_nil {w : Way} (h : p.ways w = []) (q : Pattern) : (p ++ q).ways w = [] := by
  show (p.ways w).flatMap q.ways = []
  rw [h]
  rfl

theorem ways_alt_of_nil {w : Way} (hp : p.ways w = []) (hq : q.ways w = []) :
    (alt p q).ways w = [] := by
  show p.ways w ++ q.ways w = []
  rw [hp, hq]
  rfl

theorem ways_capture_of_nil {w : Way} (h : p.ways w = []) (slot : Slot) :
    (capture slot p).ways w = [] := by
  show (p.ways w).map _ = []
  rw [h]
  rfl

/-- A pattern that may be left out is not left out where it matches. -/
theorem Prefers.optional {w v : Way} (h : p.Prefers w v) : (optional p).Prefers w v := by
  show (p.ways w ++ nothing.ways w).head? = some v
  rw [List.head?_append, h]
  rfl

/-- A pattern that may be left out is left out where it does not match. -/
theorem prefers_optional_of_nil {w : Way} (h : p.ways w = []) : (optional p).Prefers w w := by
  show (p.ways w ++ [w]).head? = some w
  rw [h]
  rfl

/-- A choice prefers its first branch. -/
theorem Prefers.alt_left {w v : Way} (h : p.Prefers w v) : (alt p q).Prefers w v := by
  show (p.ways w ++ q.ways w).head? = some v
  rw [List.head?_append, h]
  rfl

/-- A choice takes its second branch where the first one does not match. -/
theorem Prefers.alt_right {w v : Way} (hp : p.ways w = []) (h : q.Prefers w v) :
    (alt p q).Prefers w v := by
  show (p.ways w ++ q.ways w).head? = some v
  rw [hp]
  exact h

/-- A capture takes the way of its pattern and keeps what was taken. -/
theorem Prefers.capture {v : Way} (h : p.Prefers ⟨c, cs⟩ v) (slot : Slot) :
    (capture slot p).Prefers ⟨c, cs⟩ ⟨v.cursor, ⟨slot, c, v.cursor⟩ :: v.captures⟩ := by
  show ((p.ways ⟨c, cs⟩).map _).head? = _
  rw [List.head?_map, h]
  rfl

theorem prefers_wordEdge (h : c.atWordEdge = true) : wordEdge.Prefers ⟨c, cs⟩ ⟨c, cs⟩ := by
  show (if c.atWordEdge then [_] else []).head? = _
  rw [if_pos h]
  rfl

/-- One character is taken if it is accepted. -/
theorem prefers_one {accepts : Char → Bool} {ch : Char} {rest : Text} (h : c.rest = ch :: rest)
    (haccepts : accepts ch = true) : (one accepts).Prefers ⟨c, cs⟩ ⟨c.past [ch] rest, cs⟩ := by
  unfold Prefers
  rw [ways_one_cons accepts h, if_pos haccepts]
  rfl

/-- A character that is not accepted is not taken. -/
theorem ways_one_of_not {accepts : Char → Bool} (h : ∀ ch ∈ c.rest.head?, accepts ch = false) :
    (one accepts).ways ⟨c, cs⟩ = [] := by
  cases hrest : c.rest with
  | nil => exact ways_one_nil accepts hrest
  | cons ch rest =>
    have hnot : accepts ch = false := h ch (by rw [hrest]; rfl)
    rw [ways_one_cons accepts hrest, if_neg (by rw [hnot]; decide)]

theorem prefers_char {ch : Char} {rest : Text} (h : c.rest = ch :: rest) :
    (char ch).Prefers ⟨c, cs⟩ ⟨c.past [ch] rest, cs⟩ := prefers_one h (beq_self_eq_true ch)

/-- Another character is not taken for the one that is sought. -/
theorem ways_char_of_ne {ch : Char} (h : c.rest.head? ≠ some ch) : (char ch).ways ⟨c, cs⟩ = [] := by
  refine ways_one_of_not fun x hx => ?_
  rw [beq_eq_false_iff_ne]
  intro heq
  exact h (heq ▸ hx)

/-- A keyword is read as it is spelled. -/
theorem prefers_keyword {word found rest : Text} (h : c.rest = found ++ rest)
    (hspells : spells word found = true) :
    (keyword word).Prefers ⟨c, cs⟩ ⟨c.past found rest, cs⟩ := by
  induction word using keyword.induct generalizing c found with
  | case1 =>
    cases found with
    | nil =>
      have hrest : c.rest = rest := h
      rw [← hrest]
      rfl
    | cons ch found => exact absurd hspells (by simp [spells])
  | case2 letter =>
    cases found with
    | nil => exact absurd hspells (by simp [spells])
    | cons ch found =>
      cases found with
      | cons x found => exact absurd hspells (by simp [spells])
      | nil =>
        have hletter : isLetter letter ch = true := by simpa [spells] using hspells
        exact prefers_one h hletter
  | case3 letter word hword ih =>
    cases found with
    | nil => exact absurd hspells (by simp [spells])
    | cons ch found =>
      rw [spells, Bool.and_eq_true] at hspells
      -- the first letter, and by induction the others behind it
      have hfirst : (one (isLetter letter)).Prefers ⟨c, cs⟩ ⟨c.past [ch] (found ++ rest), cs⟩ :=
        prefers_one h hspells.1
      have hothers := ih (c := c.past [ch] (found ++ rest)) rfl hspells.2
      rw [Cursor.past_past] at hothers
      have hall := hfirst.append hothers
      rw [keyword]
      · exact hall
      · exact hword

/-- A run takes all that is accepted, up to what is not. -/
theorem prefers_run {accepts : Char → Bool} {t rest : Text} (h : c.rest = t ++ rest)
    (ht : ∀ ch ∈ t, accepts ch = true) (hrest : ∀ ch ∈ rest.head?, accepts ch = false) :
    (run accepts).Prefers ⟨c, cs⟩ ⟨c.past t rest, cs⟩ := by
  -- with the places passed already, the end of the run still comes first
  have hends : ∀ (before : Option Char) (offset : Nat) (shorter : List Cursor),
      (runEnds accepts before offset (t ++ rest) shorter).head?
        = some (Cursor.past ⟨before, offset, t ++ rest⟩ t rest) := by
    induction t generalizing c with
    | nil =>
      intro before offset shorter
      cases rest with
      | nil => rfl
      | cons ch rest =>
        have hnot : ¬accepts ch = true := by rw [hrest ch rfl]; decide
        rw [List.nil_append, runEnds, if_neg hnot]
        rfl
    | cons ch t ih =>
      intro before offset shorter
      have hothers := ih (c := ⟨none, 0, t ++ rest⟩) rfl fun x hx => ht x (List.mem_cons_of_mem ch hx)
      rw [List.cons_append, runEnds, if_pos (ht ch List.mem_cons_self), hothers]
      exact congrArg some (Cursor.past_past ⟨before, offset, ch :: (t ++ rest)⟩ [ch] t _ _)
  show ((runEnds accepts c.before c.offset c.rest []).map _).head? = _
  rw [List.head?_map, h, hends]
  rfl

/-- A run takes all the characters that it accepts. -/
theorem prefers_run1 {accepts : Char → Bool} {t rest : Text} (h : c.rest = t ++ rest) (hne : t ≠ [])
    (ht : ∀ ch ∈ t, accepts ch = true) (hrest : ∀ ch ∈ rest.head?, accepts ch = false) :
    (run1 accepts).Prefers ⟨c, cs⟩ ⟨c.past t rest, cs⟩ := by
  obtain ⟨ch, t, rfl⟩ := List.exists_cons_of_ne_nil hne
  have hfirst : (one accepts).Prefers ⟨c, cs⟩ ⟨c.past [ch] (t ++ rest), cs⟩ :=
    prefers_one h (ht ch List.mem_cons_self)
  have hothers : (run accepts).Prefers ⟨c.past [ch] (t ++ rest), cs⟩
      ⟨(c.past [ch] (t ++ rest)).past t rest, cs⟩ :=
    prefers_run rfl (fun x hx => ht x (List.mem_cons_of_mem ch hx)) hrest
  rw [Cursor.past_past] at hothers
  exact hfirst.append hothers

/-- What cannot be read may be left out. -/
theorem Prefers.skip {w u : Way} (hp : p.Prefers w u) (hq : q.ways u = []) :
    (p ++ Pattern.optional q).Prefers w u := hp.append (prefers_optional_of_nil hq)

/-- One space is white space. -/
theorem prefers_blanks {rest : Text} (h : c.rest = ' ' :: rest)
    (hrest : ∀ ch ∈ rest.head?, Unicode.isBlank ch = false) :
    blanks.Prefers ⟨c, cs⟩ ⟨c.past [' '] rest, cs⟩ := by
  have hspace : c.rest = [' '] ++ rest := h
  refine prefers_run1 hspace (List.cons_ne_nil _ _) (fun ch hch => ?_) hrest
  rw [List.mem_singleton.mp hch]
  decide

/-- A keyword and the space behind it. -/
theorem Prefers.word {w : Way} {t : Text} (word found rest : Text)
    (hp : p.Prefers w ⟨c.past t (found ++ ' ' :: rest), cs⟩) (hspells : spells word found = true)
    (hrest : ∀ ch ∈ rest.head?, Unicode.isBlank ch = false) :
    (p ++ keyword word ++ blanks).Prefers w ⟨c.past (t ++ found ++ [' ']) rest, cs⟩ :=
  (hp.past (prefers_keyword rfl hspells)).past (prefers_blanks rfl hrest)

/-- The first word of a statement takes one space along. -/
theorem prefers_first_word (found : Text) {word rest : Text} (hedge : c.atWordEdge = true)
    (h : c.rest = found ++ ' ' :: rest) (hspells : spells word found = true)
    (hrest : ∀ ch ∈ rest.head?, Unicode.isBlank ch = false) :
    (wordEdge ++ keyword word ++ blanks).Prefers ⟨c, cs⟩ ⟨c.past (found ++ [' ']) rest, cs⟩ :=
  ((prefers_wordEdge hedge).append (prefers_keyword h hspells)).past (prefers_blanks rfl hrest)

/-- The second place lies behind the first, and only accepted characters between them. -/
def RunsTo (accepts : Char → Bool) (c d : Cursor) : Prop :=
  ∃ t, c.rest = t ++ d.rest ∧ ∀ ch ∈ t, accepts ch = true

/-- What a run takes is accepted. -/
theorem mem_ways_run {accepts : Char → Bool} {w v : Way} (h : v ∈ (run accepts).ways w) :
    RunsTo accepts w.cursor v.cursor := by
  obtain ⟨d, hd, rfl⟩ := List.mem_map.mp h
  have hends : ∀ d ∈ runEnds accepts w.cursor.before w.cursor.offset w.cursor.rest [],
      RunsTo accepts w.cursor d := by
    refine of_mem_runEnds ?_ (fun _ hx => absurd hx List.not_mem_nil)
      ⟨[], rfl, fun _ hx => absurd hx List.not_mem_nil⟩
    rintro before offset ch rest ⟨t, hrest, ht⟩ haccepts
    refine ⟨t ++ [ch], by rw [hrest, List.append_assoc]; rfl, fun x hx => ?_⟩
    obtain hx | hx := List.mem_append.mp hx
    · exact ht x hx
    · rw [List.mem_singleton.mp hx]
      exact haccepts
  exact hends d hd

theorem mem_ways_optional {w v : Way} (h : v ∈ (optional p).ways w) :
    v ∈ p.ways w ∨ v = w := by
  obtain h | h := List.mem_append.mp h
  · exact .inl h
  · exact .inr (List.mem_singleton.mp h)

/-! ## §3. The inside of a quotation -/

/-- A character between quotes: any but the closing mark, or the mark written twice. -/
def quotedChar (closing : Char) : Pattern :=
  anyOf [one (· != closing), char closing ++ char closing]

variable {mark ch : Char} {rest : Text}

/-- The way to take a character between quotes. -/
theorem ways_quotedChar (h : c.rest = Text.double mark [ch] ++ rest) :
    (quotedChar mark).ways ⟨c, cs⟩ = [⟨c.past (Text.double mark [ch]) rest, cs⟩] := by
  show (one (· != mark)).ways ⟨c, cs⟩ ++ ((char mark).ways ⟨c, cs⟩).flatMap (char mark).ways = _
  by_cases hmark : ch = mark
  · -- a doubled mark is taken by the second branch only
    subst hmark
    have hdouble : Text.double ch [ch] = [ch, ch] := by simp [Text.double]
    rw [hdouble] at h ⊢
    have hnot : (one (· != ch)).ways ⟨c, cs⟩ = [] :=
      ways_one_of_not fun x hx => by
        rw [h] at hx
        rw [← Option.some.inj hx]
        exact bne_self_eq_false ch
    have hfirst : (char ch).ways ⟨c, cs⟩ = [⟨c.past [ch] (ch :: rest), cs⟩] := by
      unfold char
      rw [ways_one_cons _ h, if_pos (beq_self_eq_true ch)]
      rfl
    have hsecond : (char ch).ways ⟨c.past [ch] (ch :: rest), cs⟩ = [⟨c.past [ch, ch] rest, cs⟩] := by
      unfold char
      rw [ways_one_cons _ (Cursor.past_rest c [ch] (ch :: rest)), if_pos (beq_self_eq_true ch)]
      show [(⟨(c.past [ch] (ch :: rest)).past [ch] rest, cs⟩ : Way)] = _
      rw [Cursor.past_past]
      rfl
    rw [hnot, hfirst, List.flatMap_singleton, hsecond]
    rfl
  · have hdouble : Text.double mark [ch] = [ch] := by simp [Text.double, hmark]
    rw [hdouble] at h ⊢
    have hne : c.rest.head? ≠ some mark := by
      rw [h]
      exact fun heq => hmark (Option.some.inj heq)
    have hnone : (char mark).ways ⟨c, cs⟩ = [] := ways_char_of_ne hne
    rw [ways_one_cons _ h, if_pos (bne_iff_ne.mpr hmark), hnone]
    rfl

/-- Where a single mark comes next, or nothing, no character can be taken. -/
theorem ways_quotedChar_eq_nil (h : ∀ ch rest, c.rest ≠ Text.double mark [ch] ++ rest) :
    (quotedChar mark).ways ⟨c, cs⟩ = [] := by
  show (one (· != mark)).ways ⟨c, cs⟩ ++ ((char mark).ways ⟨c, cs⟩).flatMap (char mark).ways = _
  have hfirst : (one (· != mark)).ways ⟨c, cs⟩ = [] := by
    refine ways_one_of_not fun x hx => ?_
    rw [bne_eq_false_iff_eq]
    by_contra hne
    obtain ⟨rest, hrest⟩ : ∃ rest, c.rest = x :: rest := List.head?_eq_some_iff.mp hx
    exact h x rest (by rw [hrest]; simp [Text.double, hne])
  rw [hfirst, List.nil_append, List.flatMap_eq_nil_iff]
  intro u hu
  obtain ⟨x, hx, hrest⟩ := mem_ways_one hu
  rw [beq_iff_eq] at hx
  subst hx
  refine ways_char_of_ne fun heq => ?_
  obtain ⟨rest, hrest'⟩ := List.head?_eq_some_iff.mp heq
  have hrest : c.rest = x :: u.cursor.rest := hrest
  exact h x rest (by rw [hrest, hrest']; simp [Text.double])

/-- A repetition whose single one has one way only goes that way, or is over. -/
theorem ways_many_of_singleton {w u : Way} (h : p.ways w = [u]) (hlt : w.cursor.offset < u.cursor.offset) :
    (many p).ways w = (many p).ways u ++ [w] := by
  have hleads : ∀ w, ∀ v ∈ p.ways w, w.Leads v := fun _ _ => leads_of_mem_ways
  have hreach := (leads_of_mem_ways (h ▸ List.mem_singleton_self u)).cursor
  have hlength := hreach.length_lt hlt
  show repetitions p.ways w.cursor.rest w [] = repetitions p.ways u.cursor.rest u [] ++ [w]
  cases hrest : w.cursor.rest with
  | nil =>
    rw [hrest] at hlength
    exact absurd hlength (Nat.not_lt_zero _)
  | cons x left =>
    rw [hrest, List.length_cons] at hlength
    have hbound : repetitions p.ways left u [] = repetitions p.ways u.cursor.rest u [] :=
      repetitions_congr_left hleads (by omega) (Nat.le_refl _) []
    rw [repetitions_cons, h, List.flatMap_singleton, if_pos hlt, hbound]

/-- A repetition prefers to go on where a single one does. -/
theorem Prefers.many {w u v : Way} (h : p.Prefers w u) (hlt : w.cursor.offset < u.cursor.offset)
    (hmany : (many p).Prefers u v) : (many p).Prefers w v := by
  have hleads : ∀ w, ∀ v ∈ p.ways w, w.Leads v := fun _ _ => leads_of_mem_ways
  unfold Prefers at h hmany ⊢
  obtain ⟨others, hways⟩ : ∃ others, p.ways w = u :: others := List.head?_eq_some_iff.mp h
  have hreach := (leads_of_mem_ways (hways ▸ List.mem_cons_self)).cursor
  have hlength := hreach.length_lt hlt
  show (repetitions p.ways w.cursor.rest w []).head? = some v
  cases hrest : w.cursor.rest with
  | nil =>
    rw [hrest] at hlength
    exact absurd hlength (Nat.not_lt_zero _)
  | cons x left =>
    rw [hrest, List.length_cons] at hlength
    -- the fuel that is left is enough for all turns from here, as much as a search from here gets
    have hbound : repetitions p.ways left u [] = repetitions p.ways u.cursor.rest u [] :=
      repetitions_congr_left hleads (by omega) (Nat.le_refl _) []
    have hmany : (repetitions p.ways u.cursor.rest u []).head? = some v := hmany
    rw [repetitions_cons, hways, List.flatMap_cons, if_pos hlt, hbound, List.append_assoc,
      List.head?_append, hmany]
    rfl

/-- A repetition takes nothing where its pattern does not match. -/
theorem ways_many_of_nil {w : Way} (h : p.ways w = []) : (many p).ways w = [w] := by
  show repetitions p.ways w.cursor.rest w [] = [w]
  cases w.cursor.rest with
  | nil => rfl
  | cons x left =>
    rw [repetitions_cons, h]
    rfl

theorem prefers_many_of_nil {w : Way} (h : p.ways w = []) : (many p).Prefers w w := by
  unfold Prefers
  rw [ways_many_of_nil h]
  rfl

/-- Doubling a mark goes through a text character by character. -/
theorem double_cons (mark ch : Char) (t : Text) :
    Text.double mark (ch :: t) = Text.double mark [ch] ++ Text.double mark t := by
  by_cases h : ch = mark
  · simp [Text.double, h]
  · simp [Text.double, h]

theorem byteLength_double_pos (mark ch : Char) : 0 < Text.byteLength (Text.double mark [ch]) := by
  have hsize := ch.utf8Size_pos
  by_cases h : ch = mark
  · simp only [Text.double, if_pos h, Text.byteLength_cons]
    omega
  · simp only [Text.double, if_neg h, Text.byteLength_cons]
    omega

/-- The inside of a quotation goes on behind each character of it. -/
theorem ways_many_quotedChar (h : c.rest = Text.double mark [ch] ++ rest) :
    (many (quotedChar mark)).ways ⟨c, cs⟩
      = (many (quotedChar mark)).ways ⟨c.past (Text.double mark [ch]) rest, cs⟩ ++ [⟨c, cs⟩] := by
  refine ways_many_of_singleton (ways_quotedChar h) ?_
  have hpos := byteLength_double_pos mark ch
  show c.offset < c.offset + _
  omega

/-- Every character that is taken leaves fewer of them. -/
theorem length_lt_of_double (h : c.rest = Text.double mark [ch] ++ rest) :
    rest.length < c.rest.length := by
  have hne : Text.double mark [ch] ≠ [] := by
    intro hnil
    have hpos := byteLength_double_pos mark ch
    rw [hnil, Text.byteLength_nil] at hpos
    exact Nat.lt_irrefl 0 hpos
  have hpos := List.length_pos_of_ne_nil hne
  rw [h, List.length_append]
  omega

/-- The inside of a quotation is made up of characters and doubled marks. -/
theorem mem_ways_quotedChars {v : Way} (h : v ∈ (many (quotedChar mark)).ways ⟨c, cs⟩) :
    ∃ inside, c.rest = Text.double mark inside ++ v.cursor.rest
      ∧ v = ⟨c.past (Text.double mark inside) v.cursor.rest, cs⟩ := by
  -- the place moves on with every character, so the induction is on what is left
  induction hn : c.rest.length using Nat.strongRecOn generalizing c with
  | ind n ih =>
    by_cases hnext : ∃ ch rest, c.rest = Text.double mark [ch] ++ rest
    · obtain ⟨ch, rest, hrest⟩ := hnext
      rw [ways_many_quotedChar hrest] at h
      obtain h | h := List.mem_append.mp h
      · obtain ⟨inside, hinside, hv⟩ := ih rest.length (hn ▸ length_lt_of_double hrest) h rfl
        rw [Cursor.past_rest] at hinside
        refine ⟨ch :: inside, ?_, ?_⟩
        · rw [double_cons, List.append_assoc, ← hinside, hrest]
        · rw [double_cons, ← Cursor.past_past]
          exact hv
      · rw [List.mem_singleton.mp h]
        exact ⟨[], rfl, rfl⟩
    · have hnone : (quotedChar mark).ways ⟨c, cs⟩ = [] :=
        ways_quotedChar_eq_nil fun ch rest heq => hnext ⟨ch, rest, heq⟩
      rw [ways_many_of_nil hnone] at h
      rw [List.mem_singleton.mp h]
      exact ⟨[], rfl, rfl⟩

/-- A mark that is not doubled ends a quotation. -/
theorem ne_double_append {u : Text} (h : u.head? ≠ some mark) (ch : Char) (rest : Text) :
    mark :: u ≠ Text.double mark [ch] ++ rest := by
  intro heq
  by_cases hmark : ch = mark
  · simp only [Text.double, if_pos hmark, List.cons_append, List.nil_append] at heq
    injection heq with _ htail
    rw [htail, hmark] at h
    exact h rfl
  · simp only [Text.double, if_neg hmark, List.cons_append, List.nil_append] at heq
    injection heq with hhead _
    exact hmark hhead.symm

/-- The inside of a quotation is taken as a whole, up to the mark that closes it. -/
theorem prefers_quotedChars {inside u : Text} (h : c.rest = Text.double mark inside ++ mark :: u)
    (hu : u.head? ≠ some mark) :
    (many (quotedChar mark)).Prefers ⟨c, cs⟩ ⟨c.past (Text.double mark inside) (mark :: u), cs⟩ := by
  unfold Prefers
  induction inside generalizing c with
  | nil =>
    have hrest : c.rest = mark :: u := h
    have hnone : (quotedChar mark).ways ⟨c, cs⟩ = [] := ways_quotedChar_eq_nil fun ch rest => by
      rw [hrest]
      exact ne_double_append hu ch rest
    rw [ways_many_of_nil hnone, ← hrest]
    rfl
  | cons ch inside ih =>
    rw [double_cons, List.append_assoc] at h
    have hothers := ih (c := c.past (Text.double mark [ch]) _) rfl
    rw [ways_many_quotedChar h, List.head?_append, hothers, Cursor.past_past, ← double_cons]
    rfl

/-- The same with at least one character inside. -/
theorem prefers_quotedChars1 {inside u : Text} (hinside : inside ≠ [])
    (h : c.rest = Text.double mark inside ++ mark :: u) (hu : u.head? ≠ some mark) :
    (quotedChar mark ++ many (quotedChar mark)).Prefers ⟨c, cs⟩
      ⟨c.past (Text.double mark inside) (mark :: u), cs⟩ := by
  obtain ⟨ch, inside, rfl⟩ := List.exists_cons_of_ne_nil hinside
  rw [double_cons, List.append_assoc] at h
  have hfirst : (quotedChar mark).Prefers ⟨c, cs⟩
      ⟨c.past (Text.double mark [ch]) (Text.double mark inside ++ mark :: u), cs⟩ := by
    unfold Prefers
    rw [ways_quotedChar h]
    rfl
  have hothers : (many (quotedChar mark)).Prefers
      ⟨c.past (Text.double mark [ch]) (Text.double mark inside ++ mark :: u), cs⟩
      ⟨(c.past (Text.double mark [ch]) (Text.double mark inside ++ mark :: u)).past
        (Text.double mark inside) (mark :: u), cs⟩ := prefers_quotedChars rfl hu
  rw [Cursor.past_past, ← double_cons] at hothers
  exact hfirst.append hothers

/-- The end of a quotation: the rest of its inside and the closing mark. -/
def quotedEnd (closing : Char) : Pattern := many (quotedChar closing) ++ char closing

/-- Only a mark ends a quotation. -/
theorem mem_ways_quotedEnd {v : Way} (h : v ∈ (quotedEnd mark).ways ⟨c, cs⟩) :
    ∃ inside, c.rest = Text.double mark inside ++ mark :: v.cursor.rest := by
  obtain ⟨u, hu, hv⟩ := List.mem_flatMap.mp h
  obtain ⟨inside, hinside, -⟩ := mem_ways_quotedChars hu
  obtain ⟨x, hx, hrest⟩ := mem_ways_one hv
  rw [beq_iff_eq] at hx
  refine ⟨inside, ?_⟩
  rw [hinside, hrest, hx]

/-- Behind a character that stands inside, a quotation ends as the rest of it does. -/
theorem prefers_quotedEnd_cons {ch : Char} {rest inside' behind' : Text}
    (hrest : c.rest = Text.double mark [ch] ++ rest)
    (h : (quotedEnd mark).Prefers ⟨c.past (Text.double mark [ch]) rest, cs⟩
      ⟨(c.past (Text.double mark [ch]) rest).past (Text.double mark inside' ++ [mark]) behind', cs⟩) :
    (quotedEnd mark).Prefers ⟨c, cs⟩
      ⟨c.past (Text.double mark (ch :: inside') ++ [mark]) behind', cs⟩ := by
  have h : (((many (quotedChar mark)).ways ⟨c.past (Text.double mark [ch]) rest, cs⟩).flatMap
      (char mark).ways).head? = _ := h
  show (((many (quotedChar mark)).ways ⟨c, cs⟩).flatMap (char mark).ways).head? = _
  rw [ways_many_quotedChar hrest, List.flatMap_append, List.head?_append, h, Cursor.past_past,
    ← List.append_assoc, ← double_cons]
  rfl

/-- **The last mark that can close a quotation is preferred.**  If some mark closes it,
    the preferred way reaches at least as far. -/
theorem exists_prefers_quotedEnd {inside behind : Text}
    (h : c.rest = Text.double mark inside ++ mark :: behind) :
    ∃ inside' behind', inside <+: inside' ∧ c.rest = Text.double mark inside' ++ mark :: behind'
      ∧ (quotedEnd mark).Prefers ⟨c, cs⟩ ⟨c.past (Text.double mark inside' ++ [mark]) behind', cs⟩ := by
  induction hn : c.rest.length using Nat.strongRecOn generalizing c inside behind with
  | ind n ih =>
    -- behind a character that stands inside, the rest of the quotation ends as it does there
    have hlater : ∀ {ch : Char} {rest inside behind : Text}, c.rest = Text.double mark [ch] ++ rest →
        rest = Text.double mark inside ++ mark :: behind →
        ∃ inside' behind', ch :: inside <+: ch :: inside'
          ∧ c.rest = Text.double mark (ch :: inside') ++ mark :: behind'
          ∧ (quotedEnd mark).Prefers ⟨c, cs⟩
            ⟨c.past (Text.double mark (ch :: inside') ++ [mark]) behind', cs⟩ := by
      intro ch rest inside behind hrest hinside
      obtain ⟨inside', behind', hprefix, hends, hprefers⟩ :=
        ih rest.length (hn ▸ length_lt_of_double hrest) (c := c.past (Text.double mark [ch]) rest)
          hinside rfl
      rw [Cursor.past_rest] at hends
      refine ⟨inside', behind', List.cons_prefix_cons.mpr ⟨rfl, hprefix⟩, ?_,
        prefers_quotedEnd_cons hrest hprefers⟩
      rw [double_cons, List.append_assoc, ← hends, hrest]
    cases inside with
    | cons ch inside =>
      rw [double_cons, List.append_assoc] at h
      obtain ⟨inside', behind', hprefix, hends, hprefers⟩ := hlater h rfl
      exact ⟨ch :: inside', behind', hprefix, hends, hprefers⟩
    | nil =>
      have hrest : c.rest = mark :: behind := h
      have hhere : (char mark).Prefers ⟨c, cs⟩ ⟨c.past [mark] behind, cs⟩ := prefers_char hrest
      by_cases hnext : ∃ ch rest, c.rest = Text.double mark [ch] ++ rest
      · obtain ⟨ch, rest, hch⟩ := hnext
        by_cases hcloses : ∃ inside behind, rest = Text.double mark inside ++ mark :: behind
        · obtain ⟨inside, behind, hinside⟩ := hcloses
          obtain ⟨inside', behind', -, hends, hprefers⟩ := hlater hch hinside
          exact ⟨ch :: inside', behind', List.nil_prefix, hends, hprefers⟩
        · -- no mark closes the quotation behind the character, so this one has to
          have hnone : (quotedEnd mark).ways ⟨c.past (Text.double mark [ch]) rest, cs⟩ = [] := by
            rw [List.eq_nil_iff_forall_not_mem]
            intro v hv
            obtain ⟨inside, hinside⟩ := mem_ways_quotedEnd hv
            exact hcloses ⟨inside, v.cursor.rest, hinside⟩
          refine ⟨[], behind, List.nil_prefix, hrest, ?_⟩
          show (((many (quotedChar mark)).ways ⟨c, cs⟩).flatMap (char mark).ways).head? = _
          rw [ways_many_quotedChar hch, List.flatMap_append]
          have hnone : ((many (quotedChar mark)).ways
            ⟨c.past (Text.double mark [ch]) rest, cs⟩).flatMap (char mark).ways = [] := hnone
          rw [hnone, List.nil_append, List.flatMap_singleton]
          exact hhere
      · have hnone : (quotedChar mark).ways ⟨c, cs⟩ = [] :=
          ways_quotedChar_eq_nil fun ch rest heq => hnext ⟨ch, rest, heq⟩
        have hover := ways_many_of_nil hnone
        refine ⟨[], behind, List.nil_prefix, hrest, ?_⟩
        show (((many (quotedChar mark)).ways ⟨c, cs⟩).flatMap (char mark).ways).head? = _
        rw [hover, List.flatMap_singleton]
        exact hhere

end Pattern

end TableLedger
