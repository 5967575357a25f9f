/-
  TableLedger.Proofs.Pattern.Context — matching in a part of a text.

  A text is a part of a larger one, where a mark stands in front of it or behind it.
  A pattern that never takes the mark cannot leave the part, and if the mark is no
  word character, the word edges of the part are those of the whole.  So its matches
  in the part are its matches there, and a text that a mark cuts in two is searched
  by searching the two pieces:

      matches in t ++ mark :: u  =  matches in t, then matches in u

  Classes of characters that take the mark do no harm where they cannot be reached:
  the inside of a quotation, in a text without its opening mark.

  Main statements:
    • `ways_within` — the ways of a pattern in a part of a text,
    • `matchesFrom_within` — the matches in a part, and how the search goes on,
    • `matchesIn_append_mark` — the matches in a text that a mark cuts in two.
-/

import TableLedger.Proofs.Pattern.Places

namespace TableLedger

/-! ## §1. Parts of a text -/

/-- What stands around a part of a text: the character in front of it, the byte
    offset that it begins at, and what follows it. -/
structure Frame where
  before : Option Char
  offset : Nat
  behind : Text

/-- A place of the part as a place of the whole. -/
def Cursor.within (f : Frame) (c : Cursor) : Cursor :=
  ⟨c.before <|> f.before, f.offset + c.offset, c.rest ++ f.behind⟩

def Capture.within (f : Frame) (c : Capture) : Capture :=
  ⟨c.slot, c.first.within f, c.last.within f⟩

def Way.within (f : Frame) (w : Way) : Way :=
  ⟨w.cursor.within f, w.captures.map (Capture.within f)⟩

def Match.within (f : Frame) (m : Match) : Match :=
  ⟨m.first.within f, m.last.within f, m.captures.map (Capture.within f)⟩

/-- A mark stands in front of the part and behind it, unless nothing does. -/
structure Frame.MarkedBy (f : Frame) (mark : Char) : Prop where
  before : ∀ c ∈ f.before, c = mark
  behind : ∀ c ∈ f.behind.head?, c = mark

/-- What stands around the text in front of a mark. -/
def Frame.front (mark : Char) (u : Text) : Frame := ⟨none, 0, mark :: u⟩

/-- What stands around the text behind a mark. -/
def Frame.back (t : Text) (mark : Char) : Frame :=
  ⟨some mark, Text.byteLength t + mark.utf8Size, []⟩

/-- A mark at the end of the text in front marks a frame that has nothing behind. -/
theorem Frame.markedBy_front (mark : Char) (u : Text) : (front mark u).MarkedBy mark where
  before _ h := nomatch h
  behind _ h := (Option.some.inj h).symm

/-- A mark at the beginning of the text behind marks a frame that has nothing in front. -/
theorem Frame.markedBy_back (t : Text) (mark : Char) : (back t mark).MarkedBy mark where
  before _ h := (Option.some.inj h).symm
  behind _ h := nomatch h

variable {f : Frame} {mark absent : Char}

namespace Cursor

theorem within_step (f : Frame) (c : Cursor) (ch : Char) (rest : Text) :
    (c.step ch rest).within f = (c.within f).step ch (rest ++ f.behind) := by
  simp [within, step, Nat.add_assoc]

/-- What stands between two places of the part. -/
theorem textTo_within (f : Frame) (c d : Cursor) :
    (c.within f).textTo (d.within f) = c.textTo d := by
  simp only [textTo, within, List.length_append, Nat.add_sub_add_right]
  exact List.take_append_of_le_length (Nat.sub_le _ _)

/-- The mark makes no word edge. -/
theorem atWordEdge_within (hf : f.MarkedBy mark) (hmark : Unicode.isWord mark = false)
    (c : Cursor) : (c.within f).atWordEdge = c.atWordEdge := by
  have hbefore : (c.before <|> f.before).any Unicode.isWord = c.before.any Unicode.isWord := by
    cases hc : c.before with
    | some ch => rfl
    | none =>
      cases hfront : f.before with
      | none => rfl
      | some ch => simp [hf.before ch hfront, hmark]
  have hrest : (c.rest ++ f.behind).head?.any Unicode.isWord = c.rest.head?.any Unicode.isWord := by
    cases hc : c.rest with
    | cons ch rest => rfl
    | nil =>
      cases hbehind : f.behind.head? with
      | none => simp [hbehind]
      | some ch => simp [hbehind, hf.behind ch hbehind, hmark]
  unfold atWordEdge
  rw [← hbefore, ← hrest]
  rfl

end Cursor

@[simp] theorem Capture.text_within (f : Frame) (c : Capture) : (c.within f).text = c.text :=
  Cursor.textTo_within f c.first c.last

@[simp] theorem Capture.start_within (f : Frame) (c : Capture) :
    (c.within f).start = f.offset + c.start := rfl

@[simp] theorem Match.text_within (f : Frame) (m : Match) : (m.within f).text = m.text :=
  Cursor.textTo_within f m.first m.last

@[simp] theorem Match.start_within (f : Frame) (m : Match) :
    (m.within f).start = f.offset + m.start := rfl

@[simp] theorem Match.stop_within (f : Frame) (m : Match) :
    (m.within f).stop = f.offset + m.stop := rfl

/-- What a match has captured is found at the same slot inside a frame. -/
@[simp] theorem Match.captured?_within (f : Frame) (m : Match) (slot : Slot) :
    (m.within f).captured? slot = (m.captured? slot).map (Capture.within f) := by
  unfold captured? within
  induction m.captures with
  | nil => rfl
  | cons c rest ih =>
    rw [List.map_cons, List.find?_cons, List.find?_cons]
    show (match c.slot == slot with | true => _ | false => _) = _
    cases c.slot == slot with
    | true => rfl
    | false => exact ih

/-! ## §2. Patterns that avoid a mark -/

namespace Pattern

/-- The pattern takes no mark: none of its classes has it, but for those that are
    reached over an absent character only. -/
inductive Avoids (mark absent : Char) : Pattern → Prop where
  | one {accepts : Char → Bool} (h : accepts mark = false) : Avoids mark absent (one accepts)
  | run {accepts : Char → Bool} (h : accepts mark = false) : Avoids mark absent (run accepts)
  | wordEdge : Avoids mark absent wordEdge
  | nothing : Avoids mark absent nothing
  | seq {p q : Pattern} (hp : Avoids mark absent p) (hq : Avoids mark absent q) :
      Avoids mark absent (seq p q)
  | alt {p q : Pattern} (hp : Avoids mark absent p) (hq : Avoids mark absent q) :
      Avoids mark absent (alt p q)
  | many {p : Pattern} (hp : Avoids mark absent p) : Avoids mark absent (many p)
  | capture {slot : Slot} {p : Pattern} (hp : Avoids mark absent p) :
      Avoids mark absent (capture slot p)
  | unreached (p : Pattern) : Avoids mark absent (Pattern.seq (char absent) p)

theorem Avoids.append {p q : Pattern} (hp : p.Avoids mark absent) (hq : q.Avoids mark absent) :
    (p ++ q).Avoids mark absent := .seq hp hq

/-- A run of characters that the mark does not belong to ends inside the frame. -/
theorem runEnds_within {accepts : Char → Bool} (hf : f.MarkedBy mark) (h : accepts mark = false)
    (before : Option Char) (offset : Nat) (t : Text) (shorter : List Cursor) :
    runEnds accepts (before <|> f.before) (f.offset + offset) (t ++ f.behind)
        (shorter.map (Cursor.within f))
      = (runEnds accepts before offset t shorter).map (Cursor.within f) := by
  induction t generalizing before offset shorter with
  | nil =>
    rw [List.nil_append]
    cases hbehind : f.behind with
    | nil => simp [runEnds, Cursor.within, hbehind]
    | cons ch rest =>
      have hch : ch = mark := hf.behind ch (by rw [hbehind]; rfl)
      simp [runEnds, Cursor.within, hbehind, hch, h]
  | cons ch rest ih =>
    rw [List.cons_append, runEnds, runEnds]
    split
    · have hlonger := ih (some ch) (offset + ch.utf8Size) (⟨before, offset, ch :: rest⟩ :: shorter)
      rw [← Nat.add_assoc] at hlonger
      exact hlonger
    · rfl

/-- Repetitions in a part of a text, if a single one stays in the part. -/
theorem repetitions_within {once : Way → List Way} (honce : ∀ w, ∀ v ∈ once w, w.Leads v)
    (hwithin : ∀ w, absent ∉ w.cursor.rest →
      once (w.within f) = (once w).map (Way.within f))
    (left : Text) {w : Way} (hw : absent ∉ w.cursor.rest) (tail : List Way) :
    repetitions once left (w.within f) (tail.map (Way.within f))
      = (repetitions once left w tail).map (Way.within f) := by
  induction left generalizing w tail with
  | nil => rfl
  | cons ch left ih =>
    rw [repetitions, repetitions, hwithin w hw]
    have hnext := honce w
    generalize once w = nexts at hnext
    -- each turn takes one off the fuel; the inner induction goes through the ways of that turn
    induction nexts with
    | nil => rfl
    | cons next others ihOthers =>
      obtain ⟨hfirst, hothers⟩ := List.forall_mem_cons.mp hnext
      have hrest := ihOthers hothers
      have habsent : absent ∉ next.cursor.rest := fun hmem => hw (hfirst.cursor.mem_of_mem hmem)
      rw [List.map_cons, List.foldr_cons, List.foldr_cons, hrest]
      by_cases hlt : w.cursor.offset < next.cursor.offset
      · have hlt' : (w.within f).cursor.offset < (next.within f).cursor.offset :=
          Nat.add_lt_add_left hlt f.offset
        rw [if_pos hlt, if_pos hlt', ih habsent]
      · have hlt' : ¬(w.within f).cursor.offset < (next.within f).cursor.offset := fun h =>
          hlt (Nat.lt_of_add_lt_add_left h)
        rw [if_neg hlt, if_neg hlt']

/-- What comes next in the whole text comes next in the part, or is the mark. -/
theorem ways_one_within {accepts : Char → Bool} (hf : f.MarkedBy mark) (h : accepts mark = false)
    (w : Way) : (one accepts).ways (w.within f) = ((one accepts).ways w).map (Way.within f) := by
  have hwithin : (w.within f).cursor.rest = w.cursor.rest ++ f.behind := rfl
  cases hrest : w.cursor.rest with
  | nil =>
    rw [hrest, List.nil_append] at hwithin
    rw [ways_one_nil accepts hrest]
    cases hfirst : f.behind with
    | nil => exact ways_one_nil accepts (hwithin.trans hfirst)
    | cons ch rest =>
      have hch : ch = mark := hf.behind ch (by rw [hfirst]; rfl)
      rw [ways_one_cons accepts (hwithin.trans hfirst), hch, h]
      rfl
  | cons ch rest =>
    rw [hrest, List.cons_append] at hwithin
    rw [ways_one_cons accepts hwithin, ways_one_cons accepts hrest]
    split
    · rw [List.map_singleton]
      simp only [Way.within, Cursor.within_step]
    · rfl

/-- What is reached over an absent character is not reached. -/
theorem ways_seq_of_absent (p : Pattern) {w : Way} (h : absent ∉ w.cursor.rest) :
    (Pattern.seq (char absent) p).ways w = [] := by
  show ((one (· == absent)).ways w).flatMap p.ways = []
  rw [List.flatMap_eq_nil_iff]
  intro v hv
  obtain ⟨c, hc, hrest⟩ := mem_ways_one hv
  rw [beq_iff_eq] at hc
  exact absurd (hrest ▸ hc ▸ List.mem_cons_self) h

/-- **A pattern that avoids the mark stays in the part.**  Its ways from a place of
    the part are the same in the whole text. -/
theorem ways_within {p : Pattern} (hp : p.Avoids mark absent) (hf : f.MarkedBy mark)
    (hmark : Unicode.isWord mark = false) (hbehind : absent ∉ f.behind) {w : Way}
    (hw : absent ∉ w.cursor.rest) :
    p.ways (w.within f) = (p.ways w).map (Way.within f) := by
  induction hp generalizing w with
  | @one accepts h => exact ways_one_within hf h w
  | @run accepts h =>
    have hends := runEnds_within hf h w.cursor.before w.cursor.offset w.cursor.rest []
    unfold ways
    show (runEnds accepts (w.cursor.before <|> f.before) (f.offset + w.cursor.offset)
      (w.cursor.rest ++ f.behind) []).map _ = _
    rw [List.map_nil] at hends
    rw [hends, List.map_map, List.map_map]
    rfl
  | wordEdge =>
    unfold ways
    have hedge : (w.within f).cursor.atWordEdge = w.cursor.atWordEdge :=
      Cursor.atWordEdge_within hf hmark w.cursor
    rw [hedge]
    split
    · rfl
    · rfl
  | nothing => rfl
  | @seq p q hp hq ihp ihq =>
    show (p.ways (w.within f)).flatMap q.ways = ((p.ways w).flatMap q.ways).map (Way.within f)
    rw [ihp hw, List.flatMap_map, List.map_flatMap]
    refine List.flatMap_congr fun u hu => ihq ?_
    exact fun hmem => hw ((leads_of_mem_ways hu).cursor.mem_of_mem hmem)
  | @alt p q hp hq ihp ihq =>
    show p.ways (w.within f) ++ q.ways (w.within f) = (p.ways w ++ q.ways w).map (Way.within f)
    rw [ihp hw, ihq hw, List.map_append]
  | @many p hp ih =>
    have hleads : ∀ w, ∀ v ∈ p.ways w, w.Leads v := fun _ _ => leads_of_mem_ways
    -- the whole text bounds the repetitions by more than the part does
    have hbound : repetitions p.ways (w.cursor.rest ++ f.behind) w []
        = repetitions p.ways w.cursor.rest w [] :=
      repetitions_congr_left hleads (by rw [List.length_append]; omega) (Nat.le_refl _) []
    show repetitions p.ways (w.cursor.rest ++ f.behind) (w.within f) ([].map (Way.within f)) = _
    rw [repetitions_within hleads (fun _ => ih) _ hw, hbound]
    rfl
  | @capture slot p hp ih =>
    show (p.ways (w.within f)).map _ = ((p.ways w).map _).map (Way.within f)
    rw [ih hw, List.map_map, List.map_map]
    rfl
  | unreached p =>
    have hwhole : absent ∉ (w.within f).cursor.rest := by
      show absent ∉ w.cursor.rest ++ f.behind
      rw [List.mem_append, not_or]
      exact ⟨hw, hbehind⟩
    rw [ways_seq_of_absent p hw, ways_seq_of_absent p hwhole]
    rfl

/-- Where the mark follows, a pattern that avoids it takes nothing. -/
theorem offset_eq_of_avoids {p : Pattern} (hp : p.Avoids mark absent)
    (hmark : Unicode.isWord mark = false) {u : Text} (habsent : absent ∉ mark :: u) {v : Way}
    {before : Option Char} {offset : Nat} (h : v ∈ p.ways ⟨⟨before, offset, mark :: u⟩, []⟩) :
    v.cursor.offset = offset := by
  -- nothing is left of the part that ends there
  have hways := ways_within hp (f := ⟨none, offset, mark :: u⟩)
    ⟨fun _ h => absurd h (by simp), fun _ h => (Option.some.inj h).symm⟩ hmark habsent
    (w := ⟨⟨before, 0, []⟩, []⟩) List.not_mem_nil
  have hfront : (before <|> none) = before := by cases before <;> rfl
  simp only [Way.within, Cursor.within, hfront, Nat.add_zero, List.nil_append, List.map_nil]
    at hways
  rw [hways] at h
  obtain ⟨w, hw, rfl⟩ := List.mem_map.mp h
  have hfinish := (leads_of_mem_ways hw).cursor.offset_le_finish
  have hzero : w.cursor.offset = 0 := Nat.le_zero.mp hfinish
  show offset + w.cursor.offset = offset
  rw [hzero, Nat.add_zero]

/-! ## §3. Matches -/

/-- The pattern matches at a place of the part, as long as anything is left of it,
    what it matches there in the whole. -/
def StaysIn (p : Pattern) (f : Frame) (absent : Char) : Prop :=
  ∀ c : Cursor, c.rest ≠ [] → absent ∉ c.rest →
    p.matchAt? (c.within f) = (p.matchAt? c).map (Match.within f)

/-- A pattern whose ways stay inside the frame finds its match there. -/
theorem matchAt?_within {p : Pattern} {c : Cursor}
    (h : p.ways ((⟨c, []⟩ : Way).within f) = (p.ways ⟨c, []⟩).map (Way.within f)) :
    p.matchAt? (c.within f) = (p.matchAt? c).map (Match.within f) := by
  unfold matchAt?
  show ((p.ways ((⟨c, []⟩ : Way).within f)).head?.map _) = _
  rw [h, List.head?_map, Option.map_map, Option.map_map]
  rfl

/-- A pattern that takes no mark stays inside every frame that the mark bounds. -/
theorem staysIn_of_avoids {p : Pattern} (hp : p.Avoids mark absent) (hf : f.MarkedBy mark)
    (hmark : Unicode.isWord mark = false) (hbehind : absent ∉ f.behind) : p.StaysIn f absent :=
  fun _ _ hc => matchAt?_within (ways_within hp hf hmark hbehind hc)

/-- A pattern that announces a word does not match at a mark that the word has not. -/
theorem matchAt?_eq_none_of_announces {p : Pattern} {word : Text} (hp : p.Announces word)
    (hword : word ≠ []) (hnot : mark ∉ word) (hlower : mark.toLower = mark)
    (hascii : mark.toNat < 0x80) (before : Option Char) (offset : Nat) (u : Text) :
    p.matchAt? ⟨before, offset, mark :: u⟩ = none := by
  obtain ⟨letter, word, rfl⟩ := List.exists_cons_of_ne_nil hword
  refine hp.matchAt?_eq_none ?_ before offset u
  rw [← Bool.not_eq_true]
  exact fun hletter => hnot (eq_of_isLetter hlower hascii hletter ▸ List.mem_cons_self)

/-- What was matched in front of a place has no effect on the search from there on. -/
theorem matchesFrom_of_le {p : Pattern} {resume offset : Nat} (h : resume ≤ offset)
    (before : Option Char) (t : Text) :
    p.matchesFrom resume before offset t = p.matchesFrom 0 before offset t := by
  induction t generalizing before offset with
  | nil => rfl
  | cons ch rest ih =>
    have hlater := ih (Nat.le_trans h (Nat.le_add_right offset ch.utf8Size)) (some ch)
    rw [matchesFrom, matchesFrom, if_neg (Nat.not_lt.mpr h), if_neg (Nat.not_lt_zero offset),
      hlater]

/-- The search of a text begins with the search of its first part, and goes on
    behind it where no match of the part reaches further. -/
theorem matchesFrom_within {p : Pattern} (hp : p.StaysIn f absent) {t : Text} (ht : absent ∉ t)
    {resume offset : Nat} (hresume : resume ≤ offset + Text.byteLength t) (before : Option Char) :
    ∃ last, p.matchesFrom (f.offset + resume) (before <|> f.before) (f.offset + offset)
          (t ++ f.behind)
        = (p.matchesFrom resume before offset t).map (Match.within f)
          ++ p.matchesFrom 0 last (f.offset + (offset + Text.byteLength t)) f.behind := by
  induction t generalizing resume offset before with
  | nil =>
    refine ⟨before <|> f.before, ?_⟩
    rw [Text.byteLength_nil] at hresume ⊢
    exact matchesFrom_of_le (Nat.add_le_add_left hresume f.offset) _ _
  | cons ch rest ih =>
    have hsize : offset + Text.byteLength (ch :: rest)
        = offset + ch.utf8Size + Text.byteLength rest := by
      rw [Text.byteLength_cons, Nat.add_assoc]
    rw [hsize] at hresume ⊢
    have hlater : ∀ {resume' : Nat}, resume' ≤ offset + ch.utf8Size + Text.byteLength rest →
        ∃ last, p.matchesFrom (f.offset + resume') (some ch) (f.offset + offset + ch.utf8Size)
              (rest ++ f.behind)
            = (p.matchesFrom resume' (some ch) (offset + ch.utf8Size) rest).map (Match.within f)
              ++ p.matchesFrom 0 last
                (f.offset + (offset + ch.utf8Size + Text.byteLength rest)) f.behind := by
      intro resume' h
      rw [Nat.add_assoc f.offset offset]
      exact ih (fun hmem => ht (List.mem_cons_of_mem ch hmem)) h (some ch)
    have hmatch : p.matchAt? ⟨before <|> f.before, f.offset + offset, ch :: (rest ++ f.behind)⟩
        = (p.matchAt? ⟨before, offset, ch :: rest⟩).map (Match.within f) :=
      hp ⟨before, offset, ch :: rest⟩ (List.cons_ne_nil ch rest) ht
    rw [List.cons_append, matchesFrom, matchesFrom, hmatch]
    by_cases hpassed : offset < resume
    · rw [if_pos hpassed, if_pos (Nat.add_lt_add_left hpassed f.offset)]
      exact hlater hresume
    · rw [if_neg hpassed, if_neg fun h => hpassed (Nat.lt_of_add_lt_add_left h)]
      cases hfound : p.matchAt? ⟨before, offset, ch :: rest⟩ with
      | none => exact hlater hresume
      | some m =>
        -- a match reaches no further than the part does
        have hstop : m.stop ≤ offset + ch.utf8Size + Text.byteLength rest := by
          rw [← hsize]
          exact (leads_of_matchAt?_eq_some hfound).2.1.offset_le_finish
        obtain ⟨last, hrest⟩ := hlater hstop
        exact ⟨last, congrArg (m.within f :: ·) hrest⟩

/-- **A mark cuts the search in two.**  What is found in a text with a mark in it is
    found in front of the mark, at the mark or behind it. -/
theorem matchesIn_append_mark {p : Pattern} {t u : Text}
    (hfront : p.StaysIn (Frame.front mark u) absent) (ht : absent ∉ t)
    (hback : p.StaysIn (Frame.back t mark) absent) (hu : absent ∉ u)
    (hmark : ∀ before m, p.matchAt? ⟨before, Text.byteLength t, mark :: u⟩ = some m →
      m.stop ≤ Text.byteLength t + mark.utf8Size) :
    ∃ last, p.matchesIn (Cursor.start (t ++ mark :: u))
      = (p.matchesIn (Cursor.start t)).map (Match.within (Frame.front mark u))
        ++ (p.matchAt? ⟨last, Text.byteLength t, mark :: u⟩).toList
        ++ (p.matchesIn (Cursor.start u)).map (Match.within (Frame.back t mark)) := by
  obtain ⟨last, hcut⟩ := matchesFrom_within hfront ht (Nat.zero_le (0 + Text.byteLength t)) none
  refine ⟨last, ?_⟩
  -- wherever the match at the mark ends, the search goes on behind the mark at the latest
  have hbehind : ∀ {resume : Nat}, resume ≤ Text.byteLength t + mark.utf8Size →
      p.matchesFrom resume (some mark) (Text.byteLength t + mark.utf8Size) u
        = (p.matchesIn (Cursor.start u)).map (Match.within (Frame.back t mark)) := by
    intro resume hresume
    obtain ⟨last, hrest⟩ := matchesFrom_within hback hu (Nat.zero_le (0 + Text.byteLength u)) none
    have hwhole : p.matchesFrom (Text.byteLength t + mark.utf8Size + 0) (some mark)
          (Text.byteLength t + mark.utf8Size + 0) (u ++ [])
        = (p.matchesIn (Cursor.start u)).map (Match.within (Frame.back t mark)) ++ [] := hrest
    rw [Nat.add_zero, List.append_nil, List.append_nil, matchesFrom_of_le (Nat.le_refl _)] at hwhole
    rw [matchesFrom_of_le hresume, hwhole]
  have hcut : p.matchesIn (Cursor.start (t ++ mark :: u))
      = (p.matchesIn (Cursor.start t)).map (Match.within (Frame.front mark u))
        ++ p.matchesFrom 0 last (Text.byteLength t) (mark :: u) := by
    simp only [Frame.front, Nat.zero_add] at hcut
    exact hcut
  rw [hcut, List.append_assoc, matchesFrom, if_neg (Nat.not_lt_zero _)]
  cases hfound : p.matchAt? ⟨last, Text.byteLength t, mark :: u⟩ with
  | none => exact congrArg _ (hbehind (Nat.zero_le _))
  | some m => exact congrArg (_ ++ m :: ·) (hbehind (hmark last m hfound))

end Pattern

end TableLedger
