/-
  TableLedger.Proofs.Pattern.Places — the places that a match goes through.

  A pattern reads a text from the left to the right: each of its ways leads from a
  place to one behind it, over text that the two places have between them, and
  what it captures on the way lies between them, too.  A repetition that goes on
  has taken something, so as many repetitions are tried as anything is left for.

  Main statements:
    • `leads_of_mem_ways` — where the ways of a pattern lead to,
    • `repetitions_congr_left` — the bound on repetitions has no effect,
    • `repetitions_cons` — repetitions, by what a single one leads to,
    • `leads_of_mem_matchesIn` — matches and captures stand at places of the text.
-/

import Mathlib.Data.List.Basic
import TableLedger.Proofs.Pattern

namespace TableLedger

/-! ## §1. From place to place -/

namespace Cursor

variable {b c d : Cursor}

/-- The second place lies behind the first one in the same text, or is the same. -/
def Reaches (c d : Cursor) : Prop :=
  ∃ taken, c.rest = taken ++ d.rest ∧ d.offset = c.offset + Text.byteLength taken

theorem reaches_refl (c : Cursor) : c.Reaches c := ⟨[], rfl, rfl⟩

theorem Reaches.trans (h : b.Reaches c) (k : c.Reaches d) : b.Reaches d := by
  obtain ⟨taken, hb, hc⟩ := h
  obtain ⟨more, hrest, hd⟩ := k
  refine ⟨taken ++ more, by rw [hb, hrest, List.append_assoc], ?_⟩
  rw [hd, hc, Text.byteLength_append, Nat.add_assoc]

theorem reaches_step {ch : Char} {rest : Text} (h : c.rest = ch :: rest) :
    c.Reaches (c.step ch rest) := ⟨[ch], h, rfl⟩

/-- The end of the text is as far off. -/
theorem Reaches.finish_eq (h : c.Reaches d) : d.finish = c.finish := by
  obtain ⟨taken, hrest, hoffset⟩ := h
  rw [finish, finish, hrest, hoffset, Text.byteLength_append, Nat.add_assoc]

/-- What stands behind a place that is reached stands behind the first one. -/
theorem Reaches.mem_of_mem (h : c.Reaches d) {ch : Char} (hch : ch ∈ d.rest) : ch ∈ c.rest := by
  obtain ⟨taken, hrest, -⟩ := h
  rw [hrest]
  exact List.mem_append_right taken hch

/-- Less is left behind a place that lies further on. -/
theorem Reaches.length_lt (h : c.Reaches d) (hlt : c.offset < d.offset) :
    d.rest.length < c.rest.length := by
  obtain ⟨taken, hrest, hoffset⟩ := h
  cases taken with
  | nil =>
    rw [hoffset, Text.byteLength_nil] at hlt
    omega
  | cons ch taken =>
    rw [hrest, List.length_append, List.length_cons]
    omega

/-- Places are reached forwards. -/
theorem Reaches.offset_le (h : c.Reaches d) : c.offset ≤ d.offset := by
  obtain ⟨taken, -, hoffset⟩ := h
  omega

/-- No place lies behind the end of the text. -/
theorem Reaches.offset_le_finish (h : c.Reaches d) : d.offset ≤ c.finish := by
  rw [← h.finish_eq]
  exact Nat.le_add_right d.offset _

/-- No place lies behind the end of the text. -/
theorem Reaches.offset_le_byteLength {t : Text} (h : (start t).Reaches d) :
    d.offset ≤ Text.byteLength t := Nat.zero_add (Text.byteLength t) ▸ h.offset_le_finish

/-- What is taken between two places is the text in front of the second one. -/
theorem textTo_of_append {taken : Text} (h : c.rest = taken ++ d.rest) : c.textTo d = taken := by
  rw [textTo, h, List.length_append, Nat.add_sub_cancel, List.take_left]

/-- What two places have between them makes up the distance. -/
theorem Reaches.offset_eq (h : c.Reaches d) :
    d.offset = c.offset + Text.byteLength (c.textTo d) := by
  obtain ⟨taken, hrest, hoffset⟩ := h
  rw [hoffset, textTo_of_append hrest]

end Cursor

namespace Way

variable {u v w : Way}

/-- A way that goes on from another one: from its place to one behind it, with
    captures that lie between the two. -/
structure Leads (w v : Way) : Prop where
  cursor : w.cursor.Reaches v.cursor
  captures : ∀ c ∈ v.captures, c ∈ w.captures ∨ w.cursor.Reaches c.first ∧ c.first.Reaches c.last

theorem leads_refl (w : Way) : w.Leads w := ⟨w.cursor.reaches_refl, fun _ => .inl⟩

theorem Leads.trans (h : w.Leads u) (k : u.Leads v) : w.Leads v where
  cursor := h.cursor.trans k.cursor
  captures c hc := by
    obtain hc | ⟨hfirst, hlast⟩ := k.captures c hc
    · exact h.captures c hc
    · exact .inr ⟨h.cursor.trans hfirst, hlast⟩

/-- Going on to another place captures nothing. -/
theorem leads_of_reaches {c : Cursor} (h : w.cursor.Reaches c) :
    w.Leads { w with cursor := c } := ⟨h, fun _ => .inl⟩

end Way

/-! ## §2. Ways -/

namespace Pattern

/-- What holds of a place, and one accepted character further on, holds of every end of a run. -/
theorem of_mem_runEnds {accepts : Char → Bool} {holds : Cursor → Prop}
    (hstep : ∀ before offset ch rest, holds ⟨before, offset, ch :: rest⟩ → accepts ch = true →
      holds (Cursor.step ⟨before, offset, ch :: rest⟩ ch rest))
    {before : Option Char} {offset : Nat} {t : Text} {shorter : List Cursor}
    (hshorter : ∀ d ∈ shorter, holds d) (hhere : holds ⟨before, offset, t⟩) :
    ∀ d ∈ runEnds accepts before offset t shorter, holds d := by
  induction t generalizing before offset shorter with
  | nil => exact List.forall_mem_cons.mpr ⟨hhere, hshorter⟩
  | cons ch rest ih =>
    rw [runEnds]
    split
    · next haccepts =>
      exact ih (List.forall_mem_cons.mpr ⟨hhere, hshorter⟩) (hstep _ _ _ _ hhere haccepts)
    · exact List.forall_mem_cons.mpr ⟨hhere, hshorter⟩

/-- What holds of a way, and of those that one repetition makes of it, holds of all repetitions. -/
theorem of_mem_repetitions {holds : Way → Prop} {once : Way → List Way}
    (honce : ∀ w, holds w → ∀ v ∈ once w, holds v) {left : Text} {w : Way} {tail : List Way}
    (htail : ∀ v ∈ tail, holds v) (hhere : holds w) :
    ∀ v ∈ repetitions once left w tail, holds v := by
  induction left generalizing w tail with
  | nil => exact List.forall_mem_cons.mpr ⟨hhere, htail⟩
  | cons ch left ih =>
    rw [repetitions]
    have hnext := honce w hhere
    generalize once w = nexts at hnext
    induction nexts with
    | nil => exact List.forall_mem_cons.mpr ⟨hhere, htail⟩
    | cons next others ihOthers =>
      obtain ⟨hfirst, hothers⟩ := List.forall_mem_cons.mp hnext
      rw [List.foldr_cons]
      split
      · exact ih (ihOthers hothers) hfirst
      · exact ihOthers hothers

/-- What one turn of a repetition preserves, the repetition preserves. -/
theorem of_mem_ways_many {holds : Way → Prop} {p : Pattern}
    (honce : ∀ w, holds w → ∀ v ∈ p.ways w, holds v) {w v : Way} (hhere : holds w)
    (h : v ∈ (many p).ways w) : holds v :=
  of_mem_repetitions honce (fun _ hv => absurd hv List.not_mem_nil) hhere v h

/-- A relation that a way has to every way that goes on from it. -/
structure Progress (related : Way → Way → Prop) : Prop where
  refl : ∀ w, related w w
  trans : ∀ {w u v}, related w u → related u v → related w v
  step : ∀ {w : Way} {ch : Char} {rest : Text}, w.cursor.rest = ch :: rest →
    related w { w with cursor := w.cursor.step ch rest }
  capture : ∀ {w u : Way} (slot : Slot), related w u →
    related w { u with captures := ⟨slot, w.cursor, u.cursor⟩ :: u.captures }

variable {related : Way → Way → Prop}

/-- Repetitions lead where a single one leads, time and again. -/
theorem Progress.of_mem_repetitions (hrelated : Progress related) {once : Way → List Way}
    (honce : ∀ w, ∀ v ∈ once w, related w v) {left : Text} {first w : Way} {tail : List Way}
    (htail : ∀ v ∈ tail, related first v) (hhere : related first w) :
    ∀ v ∈ repetitions once left w tail, related first v :=
  Pattern.of_mem_repetitions (fun w hw v hv => hrelated.trans hw (honce w v hv)) htail hhere

/-- The ways of a pattern are related to where it is matched. -/
theorem Progress.of_mem_ways (hrelated : Progress related) {p : Pattern} {w v : Way}
    (h : v ∈ p.ways w) : related w v := by
  induction p generalizing w v with
  | one accepts =>
    obtain ⟨c, rest, hrest, -, rfl⟩ := exists_step_of_mem_ways_one h
    exact hrelated.step hrest
  | run accepts =>
    obtain ⟨c, hc, rfl⟩ := List.mem_map.mp h
    -- a run goes character by character, and each end is related to the start by transitivity
    have hends : ∀ d ∈ runEnds accepts w.cursor.before w.cursor.offset w.cursor.rest [],
        related w { w with cursor := d } :=
      of_mem_runEnds (fun _ _ _ _ hd _ => hrelated.trans hd (hrelated.step rfl))
        (fun _ hd => absurd hd List.not_mem_nil) (hrelated.refl w)
    exact hends c hc
  | wordEdge | lineStart | lineEnd =>
    obtain ⟨rfl, -⟩ := eq_of_mem_test h
    exact hrelated.refl v
  | nothing =>
    rw [List.mem_singleton.mp h]
    exact hrelated.refl w
  | seq first second ihFirst ihSecond =>
    obtain ⟨u, hu, hv⟩ := List.mem_flatMap.mp h
    exact hrelated.trans (ihFirst hu) (ihSecond hv)
  | alt first second ihFirst ihSecond =>
    obtain h | h := List.mem_append.mp h
    · exact ihFirst h
    · exact ihSecond h
  | many repeated ih =>
    exact of_mem_ways_many (fun u hu v hv => hrelated.trans hu (ih hv)) (hrelated.refl w) h
  | capture slot inner ih =>
    obtain ⟨u, hu, rfl⟩ := List.mem_map.mp h
    exact hrelated.capture slot (ih hu)

/-- Every pattern leads on, with its captures between the places. -/
theorem progress_leads : Progress Way.Leads where
  refl w := w.leads_refl
  trans h k := h.trans k
  step h := Way.leads_of_reaches (Cursor.reaches_step h)
  capture _ h :=
    ⟨h.cursor, List.forall_mem_cons.mpr ⟨.inr ⟨Cursor.reaches_refl _, h.cursor⟩, h.captures⟩⟩

/-- The ways of a pattern go on from where it is matched. -/
theorem leads_of_mem_ways {p : Pattern} {w v : Way} (h : v ∈ p.ways w) : w.Leads v :=
  progress_leads.of_mem_ways h

/-- Any two bounds on repetitions that are no less than what is left have the same
    effect, which is none. -/
theorem repetitions_congr_left {once : Way → List Way} (honce : ∀ w, ∀ v ∈ once w, w.Leads v)
    {left left' : Text} {w : Way} (h : w.cursor.rest.length ≤ left.length)
    (h' : w.cursor.rest.length ≤ left'.length) (tail : List Way) :
    repetitions once left w tail = repetitions once left' w tail := by
  -- where nothing is left, nothing can be taken
  have hend : ∀ {w : Way} (ch : Char) (left : Text) (tail : List Way), w.cursor.rest = [] →
      repetitions once (ch :: left) w tail = w :: tail := by
    intro w ch left tail hrest
    have hstay : ∀ next ∈ once w, ¬w.cursor.offset < next.cursor.offset := by
      intro next hnext hlt
      have hlength := (honce w next hnext).cursor.length_lt hlt
      rw [hrest] at hlength
      exact Nat.not_lt_zero _ hlength
    rw [repetitions, List.foldr_ext _ (fun _ others => others) _ fun next hnext others =>
      if_neg (hstay next hnext)]
    induction once w with
    | nil => rfl
    | cons next others ih => exact ih
  induction left generalizing left' w tail with
  | nil =>
    have hrest : w.cursor.rest = [] := List.length_eq_zero_iff.mp (Nat.le_zero.mp h)
    cases left' with
    | nil => rfl
    | cons ch left' => exact (hend ch left' tail hrest).symm
  | cons ch left ih =>
    cases left' with
    | nil => exact hend ch left tail (List.length_eq_zero_iff.mp (Nat.le_zero.mp h'))
    | cons ch' left' =>
      rw [repetitions, repetitions]
      refine List.foldr_ext _ _ _ fun next hnext others => ?_
      split
      · next hlt =>
        have hless := (honce w next hnext).cursor.length_lt hlt
        rw [List.length_cons] at h h'
        exact ih (by omega) (by omega) others
      · rfl

/-- One character of a class is taken if it comes next. -/
theorem ways_one_cons (accepts : Char → Bool) {w : Way} {c : Char} {rest : Text}
    (h : w.cursor.rest = c :: rest) :
    (one accepts).ways w
      = if accepts c then [{ w with cursor := w.cursor.step c rest }] else [] := by
  unfold ways
  rw [h]

theorem ways_one_nil (accepts : Char → Bool) {w : Way} (h : w.cursor.rest = []) :
    (one accepts).ways w = [] := by
  unfold ways
  rw [h]

/-- Repetitions come in front of what is tried after them. -/
theorem repetitions_eq_append (once : Way → List Way) (left : Text) (w : Way) (tail : List Way) :
    repetitions once left w tail = repetitions once left w [] ++ tail := by
  induction left generalizing w tail with
  | nil => rfl
  | cons ch left ih =>
    rw [repetitions, repetitions]
    induction once w with
    | nil => rfl
    | cons next others ihOthers =>
      rw [List.foldr_cons, List.foldr_cons, ihOthers]
      split
      · rw [ih next (_ ++ tail), ih next (List.foldr ..), List.append_assoc]
      · rfl

/-- Repetitions go on behind each single one that took something, or are over. -/
theorem repetitions_cons (once : Way → List Way) (ch : Char) (left : Text) (w : Way) :
    repetitions once (ch :: left) w []
      = ((once w).flatMap fun next =>
          if w.cursor.offset < next.cursor.offset then repetitions once left next [] else [])
        ++ [w] := by
  rw [repetitions]
  induction once w with
  | nil => rfl
  | cons next others ih =>
    rw [List.foldr_cons, List.flatMap_cons, ih]
    split
    · rw [repetitions_eq_append, List.append_assoc]
    · rfl

/-! ## §3. Matches -/

/-- A match goes forwards, and so do its captures inside it. -/
theorem leads_of_matchAt?_eq_some {p : Pattern} {c : Cursor} {m : Match}
    (h : p.matchAt? c = some m) :
    m.first = c ∧ c.Reaches m.last
      ∧ ∀ found ∈ m.captures, c.Reaches found.first ∧ found.first.Reaches found.last := by
  unfold matchAt? at h
  obtain ⟨w, hw, rfl⟩ := Option.map_eq_some_iff.mp h
  have hleads := leads_of_mem_ways (List.mem_of_mem_head? hw)
  refine ⟨rfl, hleads.cursor, fun found hfound => ?_⟩
  exact (hleads.captures found hfound).resolve_left List.not_mem_nil

/-- A match begins at a place of the text that is searched. -/
theorem exists_matchAt?_of_mem_matchesFrom {p : Pattern} {m : Match} {resume offset : Nat}
    {before : Option Char} {t : Text} (h : m ∈ p.matchesFrom resume before offset t) :
    ∃ c, Cursor.Reaches ⟨before, offset, t⟩ c ∧ p.matchAt? c = some m := by
  induction t generalizing resume before offset with
  | nil => exact absurd h List.not_mem_nil
  | cons ch rest ih =>
    have hlater : ∀ {resume' : Nat},
        m ∈ p.matchesFrom resume' (some ch) (offset + ch.utf8Size) rest →
          ∃ c, Cursor.Reaches ⟨before, offset, ch :: rest⟩ c ∧ p.matchAt? c = some m := by
      intro resume' hm
      obtain ⟨c, hc, hmatch⟩ := ih hm
      exact ⟨c, (Cursor.reaches_step rfl).trans hc, hmatch⟩
    rw [matchesFrom] at h
    split at h
    · exact hlater h
    · split at h
      · next found hfound =>
        obtain rfl | h := List.mem_cons.mp h
        · exact ⟨_, Cursor.reaches_refl _, hfound⟩
        · exact hlater h
      · exact hlater h

/-- So does the first match. -/
theorem exists_matchAt?_of_find?_eq_some {p : Pattern} {m : Match} {c : Cursor}
    (h : p.find? c = some m) : ∃ d, c.Reaches d ∧ p.matchAt? d = some m := by
  obtain ⟨before, offset, t⟩ := c
  change p.findFrom? before offset t = some m at h
  induction t generalizing before offset with
  | nil => injection h
  | cons ch rest ih =>
    rw [findFrom?] at h
    split at h
    · next found hfound =>
      obtain rfl : found = m := Option.some.inj h
      exact ⟨_, Cursor.reaches_refl _, hfound⟩
    · obtain ⟨d, hd, hmatch⟩ := ih _ _ h
      exact ⟨d, (Cursor.reaches_step rfl).trans hd, hmatch⟩

/-- A match in a text, and what it captures, stand at places of the text. -/
theorem leads_of_mem_matchesIn {p : Pattern} {m : Match} {c : Cursor} (h : m ∈ p.matchesIn c) :
    c.Reaches m.first
      ∧ ∀ found ∈ m.captures, c.Reaches found.first ∧ found.first.Reaches found.last := by
  obtain ⟨d, hd, hmatch⟩ := exists_matchAt?_of_mem_matchesFrom h
  obtain ⟨hfirst, -, hcaptures⟩ := leads_of_matchAt?_eq_some hmatch
  rw [hfirst]
  exact ⟨hd, fun found hfound => ⟨hd.trans (hcaptures found hfound).1, (hcaptures found hfound).2⟩⟩

/-- No match begins behind the end of the text. -/
theorem start_le_of_mem_matchesIn {p : Pattern} {t : Text} {m : Match}
    (h : m ∈ p.matchesIn (Cursor.start t)) : m.start ≤ Text.byteLength t :=
  (leads_of_mem_matchesIn h).1.offset_le_byteLength

end Pattern

end TableLedger
