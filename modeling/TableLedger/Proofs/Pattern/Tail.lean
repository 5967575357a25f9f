/-
  TableLedger.Proofs.Pattern.Tail — texts that differ in their tails.

  Two texts agree up to some byte, and behind it each has a tail of its own.  The ways
  of a pattern that end in front of the tails, or where they begin, are the same in
  both texts and come in the same order: what a pattern has taken up to a place does
  not depend on what stands behind it, but for the one character that a word edge
  looks at.  So as long as no match reaches into a tail, the same is found in front of
  the tails, and the searches go on from the same place:

      matches in front ++ tail  =  matches in front, then matches in the tail

  Main statements:
    • `ways_alike` — the ways of a pattern in front of the tails,
    • `matchesFrom_alike` — the matches in front of the tails, and how the two searches
      go on,
    • `matchesFrom_append_of_start` — a part of a text that no match begins in.
-/

import Mathlib.Data.List.Forall2
import TableLedger.Proofs.Pattern.Context

namespace TableLedger

/-! ## §1. Alike places -/

/-- Two tails of a text that begin with the same character, and the byte offset that
    they begin at. -/
structure Tails where
  offset : Nat
  tail : Text
  tail' : Text
  head : tail.head? = tail'.head?

variable {t : Tails}

/-- The same place in front of both tails. -/
structure Cursor.Alike (t : Tails) (c c' : Cursor) : Prop where
  before : c.before = c'.before
  offset : c.offset = c'.offset
  rest : ∃ front, c.rest = front ++ t.tail ∧ c'.rest = front ++ t.tail'
    ∧ c.offset + Text.byteLength front = t.offset

structure Capture.Alike (t : Tails) (c c' : Capture) : Prop where
  slot : c.slot = c'.slot
  first : c.first.Alike t c'.first
  last : c.last.Alike t c'.last

structure Way.Alike (t : Tails) (w w' : Way) : Prop where
  cursor : w.cursor.Alike t w'.cursor
  captures : List.Forall₂ (Capture.Alike t) w.captures w'.captures

structure Match.Alike (t : Tails) (m m' : Match) : Prop where
  first : m.first.Alike t m'.first
  last : m.last.Alike t m'.last
  captures : List.Forall₂ (Capture.Alike t) m.captures m'.captures

namespace Cursor.Alike

variable {c c' d d' : Cursor}

/-- A place that is alike lies in front of the tail. -/
theorem offset_le (h : c.Alike t c') : c.offset ≤ t.offset := by
  obtain ⟨front, -, -, hoffset⟩ := h.rest
  omega

/-- The next character is the same; where the tails begin, it is their first one. -/
theorem head?_eq (h : c.Alike t c') : c.rest.head? = c'.rest.head? := by
  obtain ⟨front, hrest, hrest', -⟩ := h.rest
  rw [hrest, hrest']
  cases front with
  | nil => exact t.head
  | cons ch front => rfl

/-- Places that are alike have the same edges. -/
theorem atWordEdge_eq (h : c.Alike t c') : c.atWordEdge = c'.atWordEdge := by
  unfold Cursor.atWordEdge
  rw [h.before, h.head?_eq]

/-- What stands between two places in front of the tails. -/
theorem textTo_eq (h : c.Alike t c') (k : d.Alike t d') : c.textTo d = c'.textTo d' := by
  obtain ⟨front, hc, hc', -⟩ := h.rest
  obtain ⟨left, hd, hd', -⟩ := k.rest
  unfold Cursor.textTo
  rw [hc, hc', hd, hd', List.length_append, List.length_append, List.length_append,
    List.length_append, Nat.add_sub_add_right, Nat.add_sub_add_right]
  -- less is taken than stands in front of the tails
  have hle : front.length - left.length ≤ front.length := Nat.sub_le _ _
  rw [List.take_append_of_le_length hle, List.take_append_of_le_length hle]

/-- One character further on, still in front of the tails. -/
theorem step {ch : Char} {front : Text} (h : c.Alike t c')
    (hoffset : c.offset + Text.byteLength (ch :: front) = t.offset) :
    (c.step ch (front ++ t.tail)).Alike t (c'.step ch (front ++ t.tail')) where
  before := rfl
  offset := congrArg (· + ch.utf8Size) h.offset
  rest := by
    refine ⟨front, rfl, rfl, ?_⟩
    show c.offset + ch.utf8Size + Text.byteLength front = t.offset
    rw [Nat.add_assoc]
    exact hoffset

end Cursor.Alike

/-- Captures that are alike hold the same text. -/
theorem Capture.Alike.text_eq {c c' : Capture} (h : c.Alike t c') : c.text = c'.text :=
  h.first.textTo_eq h.last

namespace Match.Alike

variable {m m' : Match}

/-- Matches that are alike begin at the same place. -/
theorem start_eq (h : m.Alike t m') : m.start = m'.start := h.first.offset

/-- What a slot captured is the same text. -/
theorem captured?_text (h : m.Alike t m') (slot : Slot) :
    (m.captured? slot).map Capture.text = (m'.captured? slot).map Capture.text := by
  unfold Match.captured?
  have hcaptures := h.captures
  generalize m.captures = cs, m'.captures = cs' at hcaptures
  induction hcaptures with
  | nil => rfl
  | @cons c c' cs cs' hc _ ih =>
    rw [List.find?_cons, List.find?_cons, hc.slot]
    split
    · exact congrArg some hc.text_eq
    · exact ih

end Match.Alike

/-! ## §2. Ways in front of the tails -/

namespace Pattern

/-- The ways that end in front of the tails or where they begin. -/
def inFront (t : Tails) (ws : List Way) : List Way := ws.filter fun w => w.cursor.offset ≤ t.offset

/-- A way that ends in front of the tail is kept. -/
theorem inFront_cons_of_le {w : Way} (h : w.cursor.offset ≤ t.offset) (ws : List Way) :
    inFront t (w :: ws) = w :: inFront t ws := List.filter_cons_of_pos (decide_eq_true h)

/-- A way that runs into the tail is left out. -/
theorem inFront_cons_of_lt {w : Way} (h : t.offset < w.cursor.offset) (ws : List Way) :
    inFront t (w :: ws) = inFront t ws :=
  List.filter_cons_of_neg (by rw [decide_eq_true_iff]; omega)

theorem inFront_append (t : Tails) (ws vs : List Way) :
    inFront t (ws ++ vs) = inFront t ws ++ inFront t vs := List.filter_append ..

/-- Ways that go on from one behind the front do not come back to it. -/
theorem inFront_flatMap {f : Way → List Way} (hf : ∀ w, ∀ v ∈ f w, w.Leads v) (ws : List Way) :
    inFront t (ws.flatMap f) = (inFront t ws).flatMap fun w => inFront t (f w) := by
  induction ws with
  | nil => rfl
  | cons w ws ih =>
    rw [List.flatMap_cons, inFront_append, ih]
    by_cases h : w.cursor.offset ≤ t.offset
    · rw [inFront_cons_of_le h, List.flatMap_cons]
    · have hnone : inFront t (f w) = [] := by
        refine List.filter_eq_nil_iff.mpr fun v hv => ?_
        have hle := (hf w v hv).cursor.offset_le
        rw [decide_eq_true_iff]
        omega
      rw [inFront_cons_of_lt (by omega), hnone, List.nil_append]

/-- Where the tails begin, every run that goes on ends in a tail. -/
theorem filter_runEnds_of_lt {accepts : Char → Bool} {bound : Nat} {before : Option Char}
    {offset : Nat} (h : bound < offset) (u : Text) (shorter : List Cursor) :
    (runEnds accepts before offset u shorter).filter (·.offset ≤ bound)
      = shorter.filter (·.offset ≤ bound) := by
  have hnot : ¬(decide (offset ≤ bound) = true) := by
    rw [decide_eq_true_iff]
    omega
  induction u generalizing before offset shorter with
  | nil => exact List.filter_cons_of_neg hnot
  | cons ch rest ih =>
    rw [runEnds]
    split
    · rw [ih (Nat.lt_add_right _ h) _ (by rw [decide_eq_true_iff]; omega)]
      exact List.filter_cons_of_neg hnot
    · exact List.filter_cons_of_neg hnot

/-- Of the ends of a run from the beginning of the tail on, only the first one lies in front
    of it. -/
theorem filter_runEnds {accepts : Char → Bool} {bound : Nat} (before : Option Char) (u : Text)
    (shorter : List Cursor) :
    (runEnds accepts before bound u shorter).filter (·.offset ≤ bound)
      = ⟨before, bound, u⟩ :: shorter.filter (·.offset ≤ bound) := by
  have hhere : decide (bound ≤ bound) = true := decide_eq_true (Nat.le_refl bound)
  cases u with
  | nil => exact List.filter_cons_of_pos hhere
  | cons ch rest =>
    rw [runEnds]
    split
    · rw [filter_runEnds_of_lt (Nat.lt_add_of_pos_right ch.utf8Size_pos)]
      exact List.filter_cons_of_pos hhere
    · exact List.filter_cons_of_pos hhere

/-- The ends of runs in front of the tails. -/
theorem runEnds_alike {accepts : Char → Bool} {before : Option Char} {offset : Nat} {front : Text}
    (hoffset : offset + Text.byteLength front = t.offset) {shorter shorter' : List Cursor}
    (h : List.Forall₂ (Cursor.Alike t) (shorter.filter (·.offset ≤ t.offset))
      (shorter'.filter (·.offset ≤ t.offset))) :
    List.Forall₂ (Cursor.Alike t)
      ((runEnds accepts before offset (front ++ t.tail) shorter).filter (·.offset ≤ t.offset))
      ((runEnds accepts before offset (front ++ t.tail') shorter').filter
        (·.offset ≤ t.offset)) := by
  have hle : decide (offset ≤ t.offset) = true := decide_eq_true (by omega)
  have hhere : Cursor.Alike t ⟨before, offset, front ++ t.tail⟩ ⟨before, offset, front ++ t.tail'⟩ :=
    ⟨rfl, rfl, front, rfl, rfl, hoffset⟩
  -- the run is followed up to where the tails begin; what it takes of them is filtered out
  induction front generalizing before offset shorter shorter' with
  | nil =>
    rw [Text.byteLength_nil, Nat.add_zero] at hoffset
    rw [List.nil_append, List.nil_append, hoffset, filter_runEnds, filter_runEnds]
    rw [← hoffset] at h ⊢
    exact .cons hhere h
  | cons ch front ih =>
    rw [List.cons_append, List.cons_append, runEnds, runEnds]
    rw [Text.byteLength_cons, ← Nat.add_assoc] at hoffset
    have hnow : List.Forall₂ (Cursor.Alike t)
        ((⟨before, offset, ch :: (front ++ t.tail)⟩ :: shorter).filter (·.offset ≤ t.offset))
        ((⟨before, offset, ch :: (front ++ t.tail')⟩ :: shorter').filter
          (·.offset ≤ t.offset)) := by
      simp only [List.filter_cons, hle, if_true]
      exact .cons hhere h
    split
    · exact ih hoffset hnow (decide_eq_true (by omega)) ⟨rfl, rfl, front, rfl, rfl, hoffset⟩
    · exact hnow

/-- Repetitions in front of the tails, if a single one is the same there. -/
theorem repetitions_alike {once : Way → List Way} (honce : ∀ w, ∀ v ∈ once w, w.Leads v)
    (halike : ∀ w w', w.Alike t w' →
      List.Forall₂ (Way.Alike t) (inFront t (once w)) (inFront t (once w')))
    (left : Text) {w w' : Way} (hw : w.Alike t w') :
    List.Forall₂ (Way.Alike t) (inFront t (repetitions once left w []))
      (inFront t (repetitions once left w' [])) := by
  have hhere : ∀ {w w' : Way}, w.Alike t w' →
      List.Forall₂ (Way.Alike t) (inFront t [w]) (inFront t [w']) := by
    intro w w' hw
    have hle := hw.cursor.offset_le
    rw [inFront_cons_of_le hle, inFront_cons_of_le (hw.cursor.offset ▸ hle)]
    exact .cons hw .nil
  induction left generalizing w w' with
  | nil => exact hhere hw
  | cons ch left ih =>
    -- what goes on from a repetition does not go back
    have hleads : ∀ {w : Way}, ∀ next, ∀ v ∈ (if w.cursor.offset < next.cursor.offset then
        repetitions once left next [] else []), next.Leads v := by
      intro w next v hv
      split at hv
      · exact progress_leads.of_mem_repetitions honce (fun _ h => absurd h List.not_mem_nil)
          next.leads_refl v hv
      · exact absurd hv List.not_mem_nil
    rw [repetitions_cons, repetitions_cons, inFront_append, inFront_append,
      inFront_flatMap hleads, inFront_flatMap hleads]
    refine List.rel_append (List.rel_flatMap (halike w w' hw) fun next next' hnext => ?_) (hhere hw)
    rw [hw.cursor.offset, hnext.cursor.offset]
    split
    · exact ih hnext
    · exact .nil

/-- A test of the place holds in front of both tails or of none. -/
theorem test_alike {w w' : Way} (hw : w.Alike t w') {test test' : Bool} (h : test = test') :
    List.Forall₂ (Way.Alike t) (inFront t (if test then [w] else []))
      (inFront t (if test' then [w'] else [])) := by
  have hle := hw.cursor.offset_le
  have hle' : w'.cursor.offset ≤ t.offset := hw.cursor.offset ▸ hle
  subst h
  cases test with
  | false => exact .nil
  | true =>
    rw [if_pos rfl, if_pos rfl, inFront_cons_of_le hle, inFront_cons_of_le hle']
    exact .cons hw .nil

/-- Where a tail begins, a character is taken from it. -/
theorem inFront_ways_one (accepts : Char → Bool) {w : Way} (h : w.cursor.offset = t.offset) :
    inFront t ((one accepts).ways w) = [] := by
  cases hrest : w.cursor.rest with
  | nil => rw [ways_one_nil accepts hrest]; rfl
  | cons ch rest =>
    rw [ways_one_cons accepts hrest]
    split
    · have hsize := ch.utf8Size_pos
      refine inFront_cons_of_lt ?_ []
      show t.offset < w.cursor.offset + ch.utf8Size
      omega
    · rfl

/-- **What stands behind does not matter.**  The ways of a pattern that end in front of
    the tails are the same with either tail, in the same order. -/
theorem ways_alike (p : Pattern) {w w' : Way} (hw : w.Alike t w') :
    List.Forall₂ (Way.Alike t) (inFront t (p.ways w)) (inFront t (p.ways w')) := by
  induction p generalizing w w' with
  | one accepts =>
    obtain ⟨front, hrest, hrest', hoffset⟩ := hw.cursor.rest
    cases front with
    | nil =>
      rw [Text.byteLength_nil, Nat.add_zero] at hoffset
      rw [inFront_ways_one accepts hoffset, inFront_ways_one accepts (hw.cursor.offset ▸ hoffset)]
      exact .nil
    | cons ch front =>
      have hstep := hw.cursor.step hoffset
      rw [ways_one_cons accepts hrest, ways_one_cons accepts hrest']
      by_cases haccepts : accepts ch = true
      · rw [if_pos haccepts, if_pos haccepts, inFront_cons_of_le hstep.offset_le,
          inFront_cons_of_le (hstep.offset ▸ hstep.offset_le)]
        exact .cons ⟨hstep, hw.captures⟩ .nil
      · rw [if_neg haccepts, if_neg haccepts]
        exact .nil
  | run accepts =>
    obtain ⟨front, hrest, hrest', hoffset⟩ := hw.cursor.rest
    have hends : List.Forall₂ (Cursor.Alike t)
        ((runEnds accepts w.cursor.before w.cursor.offset (front ++ t.tail) []).filter
          (·.offset ≤ t.offset))
        ((runEnds accepts w.cursor.before w.cursor.offset (front ++ t.tail') []).filter
          (·.offset ≤ t.offset)) := runEnds_alike hoffset .nil
    rw [← hrest, ← hrest'] at hends
    unfold ways inFront
    rw [List.filter_map, List.filter_map, List.forall₂_map_left_iff, List.forall₂_map_right_iff,
      ← hw.cursor.before, ← hw.cursor.offset]
    exact hends.imp fun c c' hc => ⟨hc, hw.captures⟩
  | wordEdge => exact test_alike hw hw.cursor.atWordEdge_eq
  | lineStart => exact test_alike hw (by unfold Cursor.atLineStart; rw [hw.cursor.before])
  | lineEnd => exact test_alike hw (by unfold Cursor.atLineEnd; rw [hw.cursor.head?_eq])
  | nothing => exact @test_alike t w w' hw true true rfl
  | seq first second ihFirst ihSecond =>
    have hleads : ∀ u, ∀ v ∈ second.ways u, u.Leads v := fun _ _ => leads_of_mem_ways
    show List.Forall₂ _ (inFront t ((first.ways w).flatMap second.ways))
      (inFront t ((first.ways w').flatMap second.ways))
    rw [inFront_flatMap hleads, inFront_flatMap hleads]
    exact List.rel_flatMap (ihFirst hw) fun u u' hu => ihSecond hu
  | alt first second ihFirst ihSecond =>
    show List.Forall₂ _ (inFront t (first.ways w ++ second.ways w))
      (inFront t (first.ways w' ++ second.ways w'))
    rw [inFront_append, inFront_append]
    exact List.rel_append (ihFirst hw) (ihSecond hw)
  | many repeated ih =>
    have hleads : ∀ w, ∀ v ∈ repeated.ways w, w.Leads v := fun _ _ => leads_of_mem_ways
    -- both texts allow for as many repetitions as the longer one does
    let left := w.cursor.rest ++ w'.cursor.rest
    have hlength : left.length = w.cursor.rest.length + w'.cursor.rest.length := List.length_append
    show List.Forall₂ _ (inFront t (repetitions repeated.ways w.cursor.rest w []))
      (inFront t (repetitions repeated.ways w'.cursor.rest w' []))
    have hbound : repetitions repeated.ways w.cursor.rest w [] = repetitions repeated.ways left w [] :=
      repetitions_congr_left hleads (Nat.le_refl _) (by omega) []
    have hbound' : repetitions repeated.ways w'.cursor.rest w' []
        = repetitions repeated.ways left w' [] :=
      repetitions_congr_left hleads (Nat.le_refl _) (by omega) []
    rw [hbound, hbound']
    exact repetitions_alike hleads (fun _ _ => ih) left hw
  | capture slot inner ih =>
    show List.Forall₂ _ (inFront t ((inner.ways w).map _)) (inFront t ((inner.ways w').map _))
    unfold inFront at ih ⊢
    rw [List.filter_map, List.filter_map, List.forall₂_map_left_iff, List.forall₂_map_right_iff]
    exact (ih hw).imp fun v v' hv => ⟨hv.cursor, .cons ⟨rfl, hw.cursor, hv.cursor⟩ hv.captures⟩

/-! ## §3. Matches in front of the tails -/

/-- What stands in front of a place behind a text. -/
theorem getLast?_cons_orElse (ch : Char) (front : Text) (before : Option Char) :
    ((ch :: front).getLast? <|> before) = (front.getLast? <|> some ch) := by
  rw [List.getLast?_cons]
  cases front.getLast? with
  | none => rfl
  | some last => rfl

/-- No match in a text reaches into the tail that begins at byte `offset`. -/
def StaysInFront (offset : Nat) (found : List Match) : Prop :=
  ∀ m ∈ found, m.start < offset → m.stop ≤ offset

/-- A match that begins in front of the tail is the first one found, and ends in front of it. -/
theorem StaysInFront.stop_le_of_matchAt? {p : Pattern} {before : Option Char} {ch : Char} {u : Text}
    {resume offset start : Nat}
    (h : StaysInFront start (p.matchesFrom resume before offset (ch :: u)))
    (hpassed : ¬offset < resume) (hlt : offset < start) :
    ∀ m ∈ p.matchAt? ⟨before, offset, ch :: u⟩, m.stop ≤ start := by
  intro m hm
  rw [matchesFrom, if_neg hpassed, Option.mem_def.mp hm] at h
  refine h m List.mem_cons_self ?_
  rw [Match.start, (leads_of_matchAt?_eq_some hm).1]
  exact hlt

/-- A match that ends in front of the tails is the first way that does. -/
theorem head?_ways_eq_inFront {p : Pattern} {c : Cursor}
    (h : ∀ m ∈ p.matchAt? c, m.stop ≤ t.offset) :
    (p.ways ⟨c, []⟩).head? = (inFront t (p.ways ⟨c, []⟩)).head? := by
  unfold matchAt? at h
  cases hways : p.ways ⟨c, []⟩ with
  | nil => rfl
  | cons w ws =>
    rw [hways] at h
    have hle : w.cursor.offset ≤ t.offset := h ⟨c, w.cursor, w.captures⟩ rfl
    rw [inFront_cons_of_le hle]
    rfl

/-- A pattern matches alike in front of the tails, unless it reaches into one. -/
theorem matchAt?_alike {p : Pattern} {c c' : Cursor} (hc : c.Alike t c')
    (h : ∀ m ∈ p.matchAt? c, m.stop ≤ t.offset) (h' : ∀ m ∈ p.matchAt? c', m.stop ≤ t.offset) :
    Option.Rel (Match.Alike t) (p.matchAt? c) (p.matchAt? c') := by
  have hways := ways_alike p (show Way.Alike t ⟨c, []⟩ ⟨c', []⟩ from ⟨hc, .nil⟩)
  unfold matchAt?
  rw [head?_ways_eq_inFront h, head?_ways_eq_inFront h']
  generalize inFront t (p.ways ⟨c, []⟩) = ws, inFront t (p.ways ⟨c', []⟩) = ws' at hways
  cases hways with
  | nil => exact .none
  | cons hw _ => exact .some ⟨hc, hw.cursor, hw.captures⟩

/-- **The search in front of the tails.**  As long as no match reaches into a tail, the
    matches in front of it are the same with either tail, and the two searches go on
    from where the tails begin, with the same character in front. -/
theorem matchesFrom_alike (p : Pattern) {front : Text} {resume offset : Nat}
    {before : Option Char} (hoffset : offset + Text.byteLength front = t.offset)
    (hresume : resume ≤ t.offset)
    (h : StaysInFront t.offset (p.matchesFrom resume before offset (front ++ t.tail)))
    (h' : StaysInFront t.offset (p.matchesFrom resume before offset (front ++ t.tail'))) :
    ∃ found found', List.Forall₂ (Match.Alike t) found found'
      ∧ p.matchesFrom resume before offset (front ++ t.tail)
        = found ++ p.matchesFrom 0 (front.getLast? <|> before) t.offset t.tail
      ∧ p.matchesFrom resume before offset (front ++ t.tail')
        = found' ++ p.matchesFrom 0 (front.getLast? <|> before) t.offset t.tail' := by
  induction front generalizing resume offset before with
  | nil =>
    rw [Text.byteLength_nil, Nat.add_zero] at hoffset
    refine ⟨[], [], .nil, ?_, ?_⟩
    · rw [List.nil_append, hoffset]
      exact matchesFrom_of_le hresume _ _
    · rw [List.nil_append, hoffset]
      exact matchesFrom_of_le hresume _ _
  | cons ch front ih =>
    have hsize := ch.utf8Size_pos
    rw [Text.byteLength_cons, ← Nat.add_assoc] at hoffset
    rw [getLast?_cons_orElse]
    rw [List.cons_append] at h h' ⊢
    rw [List.cons_append]
    by_cases hpassed : offset < resume
    · -- both searches are still behind an earlier match
      rw [matchesFrom, if_pos hpassed] at h h' ⊢
      rw [matchesFrom, if_pos hpassed]
      exact ih hoffset hresume h h'
    · have hc : Cursor.Alike t ⟨before, offset, ch :: (front ++ t.tail)⟩
          ⟨before, offset, ch :: (front ++ t.tail')⟩ :=
        ⟨rfl, rfl, ch :: front, rfl, rfl, by rw [Text.byteLength_cons, ← Nat.add_assoc]; exact hoffset⟩
      have hlt : offset < t.offset := by omega
      have hfirst := h.stop_le_of_matchAt? hpassed hlt
      have hrel := matchAt?_alike hc hfirst (h'.stop_le_of_matchAt? hpassed hlt)
      rw [matchesFrom, if_neg hpassed] at h h' ⊢
      rw [matchesFrom, if_neg hpassed]
      -- either both texts match here or neither does
      generalize p.matchAt? ⟨before, offset, ch :: (front ++ t.tail)⟩ = here at hrel hfirst h ⊢
      generalize p.matchAt? ⟨before, offset, ch :: (front ++ t.tail')⟩ = here' at hrel h' ⊢
      cases hrel with
      | none => exact ih hoffset hresume h h'
      | @some m m' halike =>
        have hstop : m.stop = m'.stop := halike.last.offset
        have h' : StaysInFront t.offset
            (m' :: p.matchesFrom m.stop (some ch) (offset + ch.utf8Size) (front ++ t.tail')) := by
          rw [hstop]
          exact h'
        obtain ⟨found, found', hfound, hsearch, hsearch'⟩ := ih hoffset (hfirst m rfl)
          (fun x hx => h x (List.mem_cons_of_mem m hx))
          (fun x hx => h' x (List.mem_cons_of_mem m' hx))
        refine ⟨m :: found, m' :: found', .cons halike hfound, ?_, ?_⟩
        · exact congrArg (m :: ·) hsearch
        · show m' :: p.matchesFrom m'.stop _ _ _ = _
          rw [← hstop, hsearch']
          rfl

/-- A search passes over a part of a text that no match begins in. -/
theorem matchesFrom_append_of_start (p : Pattern) {part rest : Text} {offset : Nat}
    {before : Option Char}
    (h : ∀ m ∈ p.matchesFrom 0 before offset (part ++ rest),
      offset + Text.byteLength part ≤ m.start) :
    p.matchesFrom 0 before offset (part ++ rest)
      = p.matchesFrom 0 (part.getLast? <|> before) (offset + Text.byteLength part) rest := by
  induction part generalizing offset before with
  | nil => rfl
  | cons ch part ih =>
    have hsize := ch.utf8Size_pos
    rw [List.cons_append, matchesFrom, if_neg (Nat.not_lt_zero offset)] at h ⊢
    rw [Text.byteLength_cons] at h ⊢
    cases hm : p.matchAt? ⟨before, offset, ch :: (part ++ rest)⟩ with
    | none =>
      rw [hm, ← Nat.add_assoc] at h
      rw [getLast?_cons_orElse, ← Nat.add_assoc]
      exact ih h
    | some m =>
      -- a match here would begin in the part
      rw [hm] at h
      have hstart := h m List.mem_cons_self
      rw [Match.start, (leads_of_matchAt?_eq_some hm).1] at hstart
      have hstart : offset + (ch.utf8Size + Text.byteLength part) ≤ offset := hstart
      omega

end Pattern

end TableLedger
