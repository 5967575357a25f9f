/-
  TableLedger.Proofs.Pattern — where matches stand and what they begin with.

  A match of a pattern in a text stands at a place of that text.  A pattern
  announces a word if it matches only where the word is spelled; every
  statement form begins with a keyword behind a word edge, and so announces
  that keyword.

  Main statements:
    • `mem_matchesIn_start` — a match, the text in front of it and a way
      that leads on from there,
    • `announces_keyword`, `Announces.seq` — patterns that announce a word,
    • `spelled_of_mem_matchesIn` — a match of such a pattern stands at the
      word.
-/

import TableLedger.Pattern.Basic

namespace TableLedger.Pattern

/-! ## §1. Where matches stand -/

/-- A match begins where it was sought and is one of the ways of the pattern. -/
theorem matchAt?_eq_some {p : Pattern} {c : Cursor} {m : Match} (h : p.matchAt? c = some m) :
    m.first = c ∧ ∃ w, w ∈ p.ways ⟨c, []⟩ := by
  unfold matchAt? at h
  obtain ⟨w, hw, hm⟩ := Option.map_eq_some_iff.mp h
  refine ⟨by rw [← hm], w, ?_⟩
  exact List.mem_of_mem_head? hw

/-- A match behind `offset` bytes stands at a place of the text searched. -/
theorem mem_matchesFrom {p : Pattern} {m : Match} {t : Text} {resume offset : Nat}
    {before : Option Char} (h : m ∈ p.matchesFrom resume before offset t) :
    ∃ front, t = front ++ m.first.rest ∧ m.start = offset + Text.byteLength front
      ∧ ∃ w, w ∈ p.ways ⟨m.first, []⟩ := by
  induction t generalizing resume offset before with
  | nil => simp [matchesFrom] at h
  | cons c rest ih =>
    -- one character further on, the text in front has one character more
    have hlater : ∀ {resume' : Nat},
        m ∈ p.matchesFrom resume' (some c) (offset + c.utf8Size) rest →
          ∃ front, c :: rest = front ++ m.first.rest ∧ m.start = offset + Text.byteLength front
            ∧ ∃ w, w ∈ p.ways ⟨m.first, []⟩ := by
      intro resume' hm
      obtain ⟨front, hrest, hstart, hways⟩ := ih hm
      refine ⟨c :: front, by rw [List.cons_append, ← hrest], ?_, hways⟩
      rw [hstart, Text.byteLength_cons, Nat.add_assoc]
    unfold matchesFrom at h
    split at h
    · -- no match begins here, for the one before reaches further
      exact hlater h
    · split at h
      · next found hfound =>
        obtain rfl | h := List.mem_cons.mp h
        · obtain ⟨hfirst, hways⟩ := matchAt?_eq_some hfound
          refine ⟨[], by rw [hfirst]; rfl, by rw [Match.start, hfirst]; rfl, ?_⟩
          rw [hfirst]
          exact hways
        · exact hlater h
      · exact hlater h

/-- A match in a text has the text up to its first byte in front of it. -/
theorem mem_matchesIn_start {p : Pattern} {t : Text} {m : Match}
    (h : m ∈ p.matchesIn (Cursor.start t)) :
    ∃ front, t = front ++ m.first.rest ∧ m.start = Text.byteLength front
      ∧ ∃ w, w ∈ p.ways ⟨m.first, []⟩ := by
  obtain ⟨front, ht, hstart, hways⟩ := mem_matchesFrom h
  refine ⟨front, ht, ?_, hways⟩
  rw [hstart]
  exact Nat.zero_add _

/-! ## §2. Spelling -/

/-- Whether a text spells a keyword, letter by letter and in any case. -/
def spells : Text → Text → Bool
  | [], [] => true
  | letter :: word, c :: found => isLetter letter c && spells word found
  | _, _ => false

/-- Whether the pattern matches only where a word is spelled. -/
def Announces (p : Pattern) (word : Text) : Prop :=
  ∀ w v, v ∈ p.ways w → ∃ found behind, w.cursor.rest = found ++ behind ∧ spells word found = true

theorem Announces.seq {p : Pattern} {word : Text} (h : p.Announces word) (q : Pattern) :
    (p ++ q).Announces word := by
  intro w v hv
  have hv : v ∈ (p.ways w).flatMap q.ways := hv
  obtain ⟨u, hu, -⟩ := List.mem_flatMap.mp hv
  exact h w u hu

/-- One character of a class is a step on. -/
theorem exists_step_of_mem_ways_one {accepts : Char → Bool} {w v : Way}
    (h : v ∈ (one accepts).ways w) :
    ∃ c rest, w.cursor.rest = c :: rest ∧ accepts c = true
      ∧ v = { w with cursor := w.cursor.step c rest } := by
  unfold ways at h
  split at h
  · next c rest hrest =>
    split at h
    · next haccepts => exact ⟨c, rest, hrest, haccepts, List.mem_singleton.mp h⟩
    · exact absurd h List.not_mem_nil
  · exact absurd h List.not_mem_nil

/-- One character is taken, and it is accepted. -/
theorem mem_ways_one {accepts : Char → Bool} {w v : Way} (h : v ∈ (one accepts).ways w) :
    ∃ c, accepts c = true ∧ w.cursor.rest = c :: v.cursor.rest := by
  obtain ⟨c, rest, hrest, haccepts, rfl⟩ := exists_step_of_mem_ways_one h
  exact ⟨c, haccepts, hrest⟩

/-- A test of a place takes nothing, and leads on from where it holds only. -/
theorem eq_of_mem_test {test : Bool} {w v : Way} (h : v ∈ if test then [w] else []) :
    v = w ∧ test = true := by
  split at h
  · next htest => exact ⟨List.mem_singleton.mp h, htest⟩
  · exact absurd h List.not_mem_nil

theorem mem_ways_wordEdge {w v : Way} (h : v ∈ wordEdge.ways w) :
    v = w ∧ w.cursor.atWordEdge = true := eq_of_mem_test h

theorem mem_ways_lineStart {w v : Way} (h : v ∈ lineStart.ways w) :
    v = w ∧ w.cursor.atLineStart = true := eq_of_mem_test h

/-- A keyword takes the letters that spell it. -/
theorem mem_ways_keyword {word : Text} {w v : Way} (h : v ∈ (keyword word).ways w) :
    ∃ found, w.cursor.rest = found ++ v.cursor.rest ∧ spells word found = true := by
  induction word using keyword.induct generalizing w with
  | case1 =>
    have hv : v ∈ [w] := h
    rw [List.mem_singleton.mp hv]
    exact ⟨[], rfl, rfl⟩
  | case2 letter =>
    obtain ⟨c, hc, hrest⟩ := mem_ways_one h
    exact ⟨[c], hrest, by simp [spells, hc]⟩
  | case3 letter word hword ih =>
    -- the first letter leads to a place from which the rest of the word leads on
    have hv : v ∈ (one (isLetter letter) ++ keyword word : Pattern).ways w := by
      rw [keyword] at h
      · exact h
      · exact hword
    obtain ⟨u, hu, hv⟩ := List.mem_flatMap.mp hv
    obtain ⟨c, hc, hrest⟩ := mem_ways_one hu
    obtain ⟨found, hfound, hspells⟩ := ih hv
    refine ⟨c :: found, by rw [hrest, hfound, List.cons_append], ?_⟩
    rw [spells, hc, hspells]
    rfl

/-- A keyword behind a word edge announces itself. -/
theorem announces_keyword (word : Text) : (wordEdge ++ keyword word).Announces word := by
  intro w v hv
  have hv : v ∈ (wordEdge.ways w).flatMap (keyword word).ways := hv
  obtain ⟨u, hu, hkeyword⟩ := List.mem_flatMap.mp hv
  obtain ⟨rfl, -⟩ := mem_ways_wordEdge hu
  obtain ⟨found, hfound, hspells⟩ := mem_ways_keyword hkeyword
  exact ⟨found, v.cursor.rest, hfound, hspells⟩

/-- A match of a pattern that announces a word stands where the word is spelled. -/
theorem spelled_of_mem_matchesIn {p : Pattern} {word t : Text} {m : Match}
    (hp : p.Announces word) (h : m ∈ p.matchesIn (Cursor.start t)) :
    ∃ front found behind, t = front ++ found ++ behind
      ∧ m.start = Text.byteLength front ∧ spells word found = true := by
  obtain ⟨front, ht, hstart, w, hw⟩ := mem_matchesIn_start h
  obtain ⟨found, behind, hrest, hspells⟩ := hp _ w hw
  refine ⟨front, found, behind, ?_, hstart, hspells⟩
  have hrest : m.first.rest = found ++ behind := hrest
  rw [ht, hrest, List.append_assoc]

/-- It does not match where another letter stands. -/
theorem Announces.matchAt?_eq_none {p : Pattern} {letter x : Char} {word : Text}
    (hp : p.Announces (letter :: word)) (hx : isLetter letter x = false) (before : Option Char)
    (offset : Nat) (rest : Text) : p.matchAt? ⟨before, offset, x :: rest⟩ = none := by
  rw [Option.eq_none_iff_forall_ne_some]
  intro m hm
  obtain ⟨-, w, hw⟩ := matchAt?_eq_some hm
  obtain ⟨found, behind, hrest, hspells⟩ := hp _ w hw
  cases found with
  | nil => exact Bool.noConfusion hspells
  | cons y found =>
    have hy : isLetter letter y = true := (Bool.and_eq_true _ _ ▸ hspells :).1
    rw [← (List.cons.inj hrest).1, hx] at hy
    exact Bool.noConfusion hy

/-! ## §3. Letters -/

/-- A character without a lower-case form of its own is the letter of no keyword
    but itself. -/
theorem eq_of_isLetter {letter c : Char} (hlower : c.toLower = c) (hascii : c.toNat < 0x80)
    (h : isLetter letter c = true) : letter = c := by
  unfold isLetter at h
  simp only [Bool.or_eq_true, Bool.and_eq_true, beq_iff_eq] at h
  obtain (h | ⟨-, h⟩) | ⟨-, h⟩ := h
  · rw [← h, hlower]
  · omega
  · omega

/-- Such a character does not occur where a word without it is spelled. -/
theorem not_mem_of_spells {c : Char} (hlower : c.toLower = c) (hascii : c.toNat < 0x80) :
    ∀ {word found : Text}, spells word found = true → c ∉ word → c ∉ found := by
  intro word found hspells h
  -- letter by letter: the two texts get shorter together
  fun_induction spells word found with
  | case1 => exact h
  | case2 letter word x found ih =>
    rw [Bool.and_eq_true] at hspells
    intro hc
    obtain rfl | hc := List.mem_cons.mp hc
    · rw [eq_of_isLetter hlower hascii hspells.1] at h
      exact h List.mem_cons_self
    · exact ih hspells.2 (fun hword => h (List.mem_cons_of_mem _ hword)) hc
  | case3 word found => exact absurd hspells Bool.false_ne_true

end TableLedger.Pattern
