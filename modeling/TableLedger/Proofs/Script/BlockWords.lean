/-
  TableLedger.Proofs.Script.BlockWords — the block words of a text, word by word.

  The word END closes a block; CASE and BEGIN open one, but BEGIN does not if TRAN or
  TRANSACTION follows, after DISTRIBUTED perhaps: a transaction has no END.  So the marks
  that a text sets can be read off it word by word, and what is read is what the pattern
  for block words finds:

      (blockWord.matchesIn c).filterMap markOf? = blockMarks c

  Main statements:
    • `continuesTransaction_of_mem_ways`, `exists_prefers_transactionWords` — the words of
      a transaction are taken where there are any,
    • `matchAt?_blockWord`, `matchAt?_blockWord_of_not` — the pattern at the beginning of
      a word, and elsewhere,
    • `filterMap_matchesIn_blockWord` — the pattern finds the block words, and no others.
-/

import TableLedger.Proofs.Script.Announcement
import TableLedger.Script.Routine

namespace TableLedger.Script

open Pattern

/-! ## §1. Transactions -/

/-- The words behind a BEGIN that begins a transaction. -/
def transactionWords : Pattern :=
  blanks ++ optional (keyword "distributed".toList ++ blanks) ++ keyword "tran".toList
    ++ optional (keyword "saction".toList) ++ wordEdge

def isTransactionWord (word : Text) : Bool :=
  spells "tran".toList word || spells "transaction".toList word

/-- The words that make a BEGIN the beginning of a transaction come next. -/
def continuesTransaction (t : Text) : Bool :=
  startsBlank t && (isTransactionWord (firstWord t)
    || spells "distributed".toList (firstWord t) && startsBlank (behindFirstWord t)
      && isTransactionWord (firstWord (behindFirstWord t)))

theorem isKeyword_transaction : IsKeyword "transaction".toList := by
  have hall : "transaction".toList.all Char.isLower = true := by decide
  exact fun letter hletter => List.all_eq_true.mp hall letter hletter

theorem isKeyword_tran : IsKeyword "tran".toList := fun letter hletter =>
  isKeyword_transaction letter (List.mem_append_left "saction".toList hletter)

theorem isKeyword_distributed : IsKeyword "distributed".toList := by
  have hall : "distributed".toList.all Char.isLower = true := by decide
  exact fun letter hletter => List.all_eq_true.mp hall letter hletter

/-- A transaction word is TRAN, or TRAN with the rest of TRANSACTION behind it. -/
theorem isTransactionWord_iff {word : Text} :
    isTransactionWord word = true ↔ ∃ front back, word = front ++ back
      ∧ spells "tran".toList front = true ∧ (back = [] ∨ spells "saction".toList back = true) := by
  unfold isTransactionWord
  rw [Bool.or_eq_true]
  constructor
  · rintro (h | h)
    · exact ⟨word, [], (List.append_nil word).symm, h, .inl rfl⟩
    · have hspells : spells ("tran".toList ++ "saction".toList) word = true := h
      obtain ⟨front, back, hword, hfront, hback⟩ := exists_of_spells_append hspells
      exact ⟨front, back, hword, hfront, .inr hback⟩
  · rintro ⟨front, back, rfl, hfront, rfl | hback⟩
    · exact .inl (by rwa [List.append_nil])
    · exact .inr (spells_append hfront hback)

theorem isWord_of_isTransactionWord {word : Text} (h : isTransactionWord word = true) :
    (∀ c ∈ word, Unicode.isWord c = true) ∧ word ≠ [] := by
  unfold isTransactionWord at h
  rw [Bool.or_eq_true] at h
  obtain h | h := h
  · exact ⟨isWord_of_spells isKeyword_tran h, by rintro rfl; exact absurd h (by decide)⟩
  · exact ⟨isWord_of_spells isKeyword_transaction h, by rintro rfl; exact absurd h (by decide)⟩

variable {c : Cursor} {cs : List Capture}

/-- At an edge behind a word character, none comes next. -/
theorem wholeWord_of_edge {v : Way} {word behind : Text} (hword : ∀ x ∈ word, Unicode.isWord x = true)
    (hne : word ≠ []) (h : v ∈ wordEdge.ways ⟨c.past word behind, cs⟩) :
    WholeWord word behind ∧ v = ⟨c.past word behind, cs⟩ := by
  obtain ⟨rfl, hedge⟩ := mem_ways_wordEdge h
  refine ⟨⟨hword, fun x hx => ?_⟩, rfl⟩
  have hlast : (c.past word behind).before.any Unicode.isWord = true := by
    obtain ⟨front, last, rfl⟩ := List.eq_nil_or_concat word |>.resolve_left hne
    simp [Cursor.past, hword]
  have hedge : (c.past word behind).atWordEdge = true := hedge
  unfold Cursor.atWordEdge at hedge
  rw [hlast, Cursor.past_rest, Option.mem_def.mp hx] at hedge
  simpa using hedge

/-- A whole word ends at an edge. -/
theorem atWordEdge_past {word behind : Text} (h : WholeWord word behind) (hne : word ≠ []) :
    (c.past word behind).atWordEdge = true := by
  have hlast : (c.past word behind).before.any Unicode.isWord = true := by
    obtain ⟨front, last, rfl⟩ := List.eq_nil_or_concat word |>.resolve_left hne
    simp [Cursor.past, h.chars]
  have hnext : behind.head?.any Unicode.isWord = false := by
    cases behind with
    | nil => rfl
    | cons x behind => exact h.ends x rfl
  unfold Cursor.atWordEdge
  rw [hlast, Cursor.past_rest, hnext]
  rfl

/-- A keyword leads behind the letters that spell it. -/
theorem exists_past_of_mem_ways_keyword {word : Text} {w v : Way} (h : v ∈ (keyword word).ways w) :
    ∃ found, w.cursor.rest = found ++ v.cursor.rest ∧ spells word found = true
      ∧ v.cursor = w.cursor.past found v.cursor.rest := by
  obtain ⟨found, hfound, hspells⟩ := mem_ways_keyword h
  have hfollows : w.cursor.Follows v.cursor := follows_of_mem_ways h
  obtain ⟨taken, htaken, hplace⟩ := hfollows
  obtain rfl : found = taken := List.append_cancel_right (hfound.symm.trans htaken)
  exact ⟨found, hfound, hspells, hplace⟩

/-- **Where the pattern finds a transaction, one is begun.** -/
theorem continuesTransaction_of_mem_ways {v : Way} (h : v ∈ transactionWords.ways ⟨c, cs⟩) :
    continuesTransaction c.rest = true := by
  obtain ⟨u₄, hu₄, hv⟩ := List.mem_flatMap.mp h
  obtain ⟨u₃, hu₃, hsaction⟩ := List.mem_flatMap.mp hu₄
  obtain ⟨u₂, hu₂, htran⟩ := List.mem_flatMap.mp hu₃
  obtain ⟨u₁, hblanks, hdistributed⟩ := List.mem_flatMap.mp hu₂
  obtain ⟨gap, hgapRest, hne, hgap⟩ := mem_ways_blanks hblanks
  obtain ⟨tran, htranRest, hspellsTran⟩ := mem_ways_keyword htran
  -- the last word, with the letters that may be left out
  obtain ⟨word, hword, hwordRest⟩ : ∃ word, isTransactionWord word = true
      ∧ u₂.cursor.rest = word ++ u₄.cursor.rest := by
    obtain hsaction | rfl := mem_ways_optional hsaction
    · obtain ⟨saction, hrest, hspells⟩ := mem_ways_keyword hsaction
      refine ⟨tran ++ saction, isTransactionWord_iff.mpr
        ⟨tran, saction, rfl, hspellsTran, .inr hspells⟩, ?_⟩
      rw [htranRest, hrest, List.append_assoc]
    · refine ⟨tran, isTransactionWord_iff.mpr ⟨tran, [], ?_, hspellsTran, .inl rfl⟩, htranRest⟩
      exact (List.append_nil tran).symm
  obtain ⟨hchars, hwordNe⟩ := isWord_of_isTransactionWord hword
  have hplace : u₄.cursor = u₂.cursor.past word u₄.cursor.rest := by
    have hthird : u₂.cursor.Follows u₃.cursor := follows_of_mem_ways htran
    obtain ⟨taken, htaken, hfollows⟩ := hthird.trans (follows_of_mem_ways hsaction)
    rw [hfollows, Cursor.past_rest]
    rw [List.append_cancel_right (hwordRest.symm.trans htaken)]
  have hwhole : WholeWord word u₄.cursor.rest := by
    have hedge : v ∈ wordEdge.ways ⟨u₂.cursor.past word u₄.cursor.rest, u₄.captures⟩ := by
      rw [← hplace]
      exact hv
    exact (wholeWord_of_edge hchars hwordNe hedge).1
  have hrest : c.rest = gap ++ u₁.cursor.rest := hgapRest
  unfold continuesTransaction
  rw [hrest, startsBlank_append hgap hne, Bool.true_and, Bool.or_eq_true]
  obtain hdistributed | rfl := mem_ways_optional hdistributed
  · right
    obtain ⟨found, gap', hfound, hspells, hne', hgap'⟩ := mem_ways_word hdistributed
    have hdistributedWord : WholeWord found (gap' ++ u₂.cursor.rest) := by
      refine ⟨isWord_of_spells isKeyword_distributed hspells, fun x hx => ?_⟩
      obtain ⟨b, gap', rfl⟩ := List.exists_cons_of_ne_nil hne'
      obtain rfl : b = x := Option.some.inj hx
      exact isWord_of_isBlank (hgap' b List.mem_cons_self)
    have hfoundNe : found ≠ [] := by
      rintro rfl
      exact absurd hspells (by decide)
    have hfirst := firstWord_eq hgap hfoundNe hdistributedWord
    have hsecond := firstWord_eq hgap' hwordNe hwhole
    rw [hfound, hfirst.1, hfirst.2, hspells, startsBlank_append hgap' hne', hwordRest, hsecond.1, hword]
    rfl
  · left
    rw [hwordRest, (firstWord_eq hgap hwordNe hwhole).1, hword]

/-- White space takes its words along. -/
theorem prefers_gap {gap rest : Text} (h : c.rest = gap ++ rest) (hne : gap ≠ []) (hgap : IsGap gap)
    (hrest : ∀ x ∈ rest.head?, Unicode.isWord x = true) :
    blanks.Prefers ⟨c, cs⟩ ⟨c.past gap rest, cs⟩ := by
  refine prefers_run1 h hne hgap fun x hx => ?_
  rw [← Bool.not_eq_true]
  intro hblank
  have hword := hrest x hx
  rw [isWord_of_isBlank hblank] at hword
  exact Bool.noConfusion hword

/-- A word begins with a word character. -/
theorem isWord_head? {word : Text} (hchars : ∀ x ∈ word, Unicode.isWord x = true) (hne : word ≠ [])
    (behind : Text) : ∀ x ∈ (word ++ behind).head?, Unicode.isWord x = true := by
  obtain ⟨y, word, rfl⟩ := List.exists_cons_of_ne_nil hne
  intro x hx
  obtain rfl : y = x := Option.some.inj hx
  exact hchars y List.mem_cons_self

/-- Where a word begins with a letter, no keyword with another first letter is read. -/
theorem ways_keyword_of_ne {a b : Char} {more word found behind : Text} (ha : a.isLower = true)
    (hb : b.isLower = true) (hne : a ≠ b) (h : c.rest = found ++ behind)
    (hspells : spells (b :: more) found = true) : (keyword (a :: word)).ways ⟨c, cs⟩ = [] := by
  rw [List.eq_nil_iff_forall_not_mem]
  intro v hv
  obtain ⟨taken, hrest, htaken⟩ := mem_ways_keyword hv
  cases found with
  | nil => exact absurd hspells (by simp [spells])
  | cons x found =>
    cases taken with
    | nil => exact absurd htaken (by simp [spells])
    | cons y taken =>
      rw [spells, Bool.and_eq_true] at hspells htaken
      have hrest : c.rest = y :: (taken ++ v.cursor.rest) := hrest
      rw [h] at hrest
      rw [← (List.cons.inj hrest).1] at htaken
      exact hne (letter_unique ha hb htaken.1 hspells.1)

/-- A word of a transaction is read as a whole. -/
theorem Prefers.transactionWord {p : Pattern} {w : Way} {t word behind : Text}
    (hp : p.Prefers w ⟨c.past t (word ++ behind), cs⟩) (hword : isTransactionWord word = true)
    (hwhole : WholeWord word behind) :
    (p ++ keyword "tran".toList ++ optional (keyword "saction".toList) ++ wordEdge).Prefers w
      ⟨c.past (t ++ word) behind, cs⟩ := by
  obtain ⟨-, hne⟩ := isWord_of_isTransactionWord hword
  have hedge : wordEdge.Prefers ⟨c.past (t ++ word) behind, cs⟩ ⟨c.past (t ++ word) behind, cs⟩ := by
    refine prefers_wordEdge ?_
    rw [← Cursor.past_past c t word (word ++ behind)]
    exact atWordEdge_past hwhole hne
  obtain ⟨front, back, rfl, hfront, hback⟩ := isTransactionWord_iff.mp hword
  rw [List.append_assoc front] at hp
  have hread := hp.past (prefers_keyword rfl hfront)
  refine Prefers.append ?_ hedge
  obtain rfl | hback := hback
  · -- behind the word no letter follows
    rw [List.append_nil]
    refine hread.skip (ways_append_of_nil (ways_one_of_not fun x hx => ?_) _)
    rw [← Bool.not_eq_true]
    intro hletter
    have hends := hwhole.ends x hx
    rw [isWord_of_isLetter (by decide) hletter] at hends
    exact Bool.noConfusion hends
  · have hall := hread.past (prefers_keyword rfl hback).optional
    rwa [List.append_assoc] at hall

/-! ## §2. The marks of a text -/

/-- What a block word does. -/
inductive BlockRole where
  | opens
  | closes
  deriving DecidableEq, Repr

/-- A block word of a text, and the bytes that it stands between. -/
structure BlockMark where
  role : BlockRole
  start : Nat
  stop : Nat
  deriving DecidableEq, Repr

/-- What a word does to blocks, with `behind` behind it. -/
def blockRole? (word behind : Text) : Option BlockRole :=
  if word.asciiLowercase = "end".toList then some .closes
  else if word.asciiLowercase = "case".toList then some .opens
  else if word.asciiLowercase = "begin".toList ∧ continuesTransaction behind = false then some .opens
  else none

/-- The marks that a text sets, read word by word; `inWord` says whether a word character
    stands in front of it. -/
def blockMarks : (inWord : Bool) → (offset : Nat) → Text → List BlockMark
  | _, _, [] => []
  | inWord, offset, c :: rest =>
    let later := blockMarks (Unicode.isWord c) (offset + c.utf8Size) rest
    if Unicode.isWord c && !inWord then
      let word := c :: rest.takeWhile Unicode.isWord
      let role? := blockRole? word (rest.dropWhile Unicode.isWord)
      (role?.map fun role => ⟨role, offset, offset + Text.byteLength word⟩).toList ++ later
    else later

/-- Behind a word character, a word goes on. -/
theorem blockMarks_append_of_word {word : Text} (h : ∀ x ∈ word, Unicode.isWord x = true)
    (offset : Nat) (t : Text) :
    blockMarks true offset (word ++ t) = blockMarks true (offset + Text.byteLength word) t := by
  induction word generalizing offset with
  | nil => rfl
  | cons x word ih =>
    rw [List.cons_append, blockMarks, h x List.mem_cons_self]
    show blockMarks true (offset + x.utf8Size) (word ++ t) = _
    rw [ih (fun y hy => h y (List.mem_cons_of_mem x hy)), Text.byteLength_cons, Nat.add_assoc]

/-- White space sets no mark. -/
theorem blockMarks_gap {gap : Text} (hne : gap ≠ []) (h : IsGap gap) (inWord : Bool) (offset : Nat)
    (t : Text) :
    blockMarks inWord offset (gap ++ t) = blockMarks false (offset + Text.byteLength gap) t := by
  induction gap generalizing inWord offset with
  | nil => exact absurd rfl hne
  | cons x gap ih =>
    rw [List.cons_append, blockMarks, isWord_of_isBlank (h x List.mem_cons_self)]
    show blockMarks false (offset + x.utf8Size) (gap ++ t) = _
    rw [Text.byteLength_cons, ← Nat.add_assoc]
    cases gap with
    | nil => rfl
    | cons y gap =>
      exact ih (List.cons_ne_nil y gap) (fun z hz => h z (List.mem_cons_of_mem x hz)) _ _

/-- A word sets its mark. -/
theorem blockMarks_word {word behind : Text} (hne : word ≠ []) (h : WholeWord word behind)
    (offset : Nat) :
    blockMarks false offset (word ++ behind)
      = ((blockRole? word behind).map fun role =>
          ⟨role, offset, offset + Text.byteLength word⟩).toList
        ++ blockMarks true (offset + Text.byteLength word) behind := by
  obtain ⟨x, word, rfl⟩ := List.exists_cons_of_ne_nil hne
  have hothers : ∀ y ∈ word, Unicode.isWord y = true := fun y hy =>
    h.chars y (List.mem_cons_of_mem x hy)
  have hrest : WholeWord word behind := ⟨hothers, h.ends⟩
  obtain ⟨htake, hdrop⟩ :=
    (wholeWord_takeWhile (word ++ behind)).unique hrest List.takeWhile_append_dropWhile
  rw [List.cons_append, blockMarks, h.chars x List.mem_cons_self, htake, hdrop]
  show _ ++ blockMarks true (offset + x.utf8Size) (word ++ behind) = _
  rw [blockMarks_append_of_word hothers, Text.byteLength_cons, Nat.add_assoc]

/-- The block words. -/
def blockWords : List Text := ["begin".toList, "case".toList, "end".toList]

/-- The words of blocks are keywords. -/
theorem isKeyword_of_mem_blockWords {word : Text} (h : word ∈ blockWords) :
    IsKeyword word ∧ word ≠ [] := by
  have hall : (blockWords.all fun word => word.all Char.isLower && !word.isEmpty) = true := by decide
  have hone := List.all_eq_true.mp hall word h
  rw [Bool.and_eq_true] at hone
  exact ⟨fun letter hletter => List.all_eq_true.mp hone.1 letter hletter, by simpa using hone.2⟩

/-- Words that are spelled otherwise have no role. -/
theorem blockRole?_of_spells {keyword word : Text} (hkeyword : IsKeyword keyword)
    (hspells : spells keyword word = true)
    (hother : keyword ∉ blockWords) (behind : Text) : blockRole? word behind = none := by
  have hne : ∀ role ∈ blockWords, word.asciiLowercase ≠ role := fun role hrole heq =>
    hother (spells_unique hkeyword (isKeyword_of_mem_blockWords hrole).1 hspells
      (spells_of_asciiLowercase heq) ▸ hrole)
  unfold blockRole?
  rw [if_neg (hne _ (by decide)), if_neg (hne _ (by decide)), if_neg fun h => hne _ (by decide) h.1]

/-- Behind a word, the text sets no mark before `behind`. -/
def Unmarked (t behind : Text) : Prop :=
  ∀ offset, blockMarks true offset (t ++ behind) = blockMarks true (offset + Text.byteLength t) behind

theorem unmarked_nil (behind : Text) : Unmarked [] behind := fun _ => rfl

/-- White space and a word without a role, with more such words behind it. -/
theorem Unmarked.word {gap word t behind : Text} (hne : gap ≠ []) (hgap : IsGap gap)
    (hwordNe : word ≠ []) (hword : WholeWord word (t ++ behind))
    (hrole : blockRole? word (t ++ behind) = none) (h : Unmarked t behind) :
    Unmarked (gap ++ (word ++ t)) behind := by
  intro offset
  simp only [List.append_assoc, Text.byteLength_append]
  rw [blockMarks_gap hne hgap, blockMarks_word hwordNe hword, hrole]
  show blockMarks true _ (t ++ behind) = _
  rw [h]
  simp only [Nat.add_assoc]

/-! ## §3. The pattern, word by word -/

/-- A transaction word opens and closes no block. -/
theorem blockRole?_of_isTransactionWord {word : Text} (h : isTransactionWord word = true)
    (behind : Text) : blockRole? word behind = none := by
  unfold isTransactionWord at h
  rw [Bool.or_eq_true] at h
  obtain h | h := h
  · exact blockRole?_of_spells isKeyword_tran h (by decide) behind
  · exact blockRole?_of_spells isKeyword_transaction h (by decide) behind

section

variable {gap gap' word word' behind : Text} (cs : List Capture)

/-- TRAN or TRANSACTION behind BEGIN. -/
theorem prefers_transaction (hrest : c.rest = gap ++ (word ++ behind)) (hne : gap ≠ []) (hgap : IsGap gap)
    (hword : isTransactionWord word = true) (hwhole : WholeWord word behind) :
    transactionWords.Prefers ⟨c, cs⟩ ⟨c.past (gap ++ word) behind, cs⟩ := by
  obtain ⟨hchars, hwordNe⟩ := isWord_of_isTransactionWord hword
  have hread : blanks.Prefers ⟨c, cs⟩ ⟨c.past gap (word ++ behind), cs⟩ :=
    prefers_gap hrest hne hgap (isWord_head? hchars hwordNe behind)
  obtain ⟨front, back, hfront, hspells, -⟩ := isTransactionWord_iff.mp hword
  have hfound : (c.past gap (word ++ behind)).rest = front ++ (back ++ behind) := by
    rw [Cursor.past_rest, hfront, List.append_assoc]
  have hnone : (keyword "distributed".toList ++ blanks).ways ⟨c.past gap (word ++ behind), cs⟩ = [] :=
    ways_append_of_nil
      (ways_keyword_of_ne (b := 't') (by decide) (by decide) (by decide) hfound hspells) _
  exact Prefers.transactionWord (hread.skip hnone) hword hwhole

/-- DISTRIBUTED in front of it. -/
theorem prefers_distributed (hrest : c.rest = gap ++ (word ++ (gap' ++ (word' ++ behind)))) (hne : gap ≠ [])
    (hgap : IsGap gap) (hdistributed : spells "distributed".toList word = true) (hne' : gap' ≠ [])
    (hgap' : IsGap gap') (hword : isTransactionWord word' = true) (hwhole : WholeWord word' behind) :
    transactionWords.Prefers ⟨c, cs⟩ ⟨c.past (gap ++ (word ++ (gap' ++ word'))) behind, cs⟩ := by
  obtain ⟨hchars, hwordNe⟩ := isWord_of_isTransactionWord hword
  have hread : blanks.Prefers ⟨c, cs⟩ ⟨c.past gap (word ++ (gap' ++ (word' ++ behind))), cs⟩ :=
    prefers_gap hrest hne hgap (isWord_head? (isWord_of_spells isKeyword_distributed hdistributed)
      (ne_nil_of_spells (by decide) hdistributed) _)
  have hdistributed : (keyword "distributed".toList ++ blanks).Prefers
      ⟨c.past gap (word ++ (gap' ++ (word' ++ behind))), cs⟩
      ⟨(c.past gap (word ++ (gap' ++ (word' ++ behind)))).past (word ++ gap') (word' ++ behind), cs⟩ :=
    (prefers_keyword rfl hdistributed).past
      (prefers_gap rfl hne' hgap' (isWord_head? hchars hwordNe behind))
  have hall := Prefers.transactionWord (hread.past hdistributed.optional) hword hwhole
  simp only [List.append_assoc] at hall
  exact hall

end

/-- **Where a transaction is begun, the pattern finds it.**  It takes words that set no mark, and
    white space. -/
theorem exists_prefers_transactionWords (cs : List Capture) (h : continuesTransaction c.rest = true) :
    ∃ more behind, c.rest = more ++ behind ∧ startsBlank more = true
      ∧ (c.past more behind).atWordEdge = true ∧ Unmarked more behind
      ∧ transactionWords.Prefers ⟨c, cs⟩ ⟨c.past more behind, cs⟩ := by
  obtain ⟨gap, hrest, hgap, hblank⟩ := exists_gap_firstWord c.rest
  have hwhole : WholeWord (firstWord c.rest) (behindFirstWord c.rest) := wholeWord_takeWhile _
  unfold continuesTransaction at h
  rw [Bool.and_eq_true, Bool.or_eq_true, Bool.and_eq_true, Bool.and_eq_true] at h
  obtain ⟨hstarts, htransaction⟩ := h
  have hne := hblank hstarts
  generalize firstWord c.rest = word, behindFirstWord c.rest = behind at hrest hwhole htransaction
  -- the words are TRAN or TRANSACTION, or one of these behind DISTRIBUTED
  obtain hword | ⟨⟨hdistributed, hstarts'⟩, hword⟩ := htransaction
  · obtain ⟨hchars, hwordNe⟩ := isWord_of_isTransactionWord hword
    refine ⟨gap ++ (word ++ []), behind, by simp [hrest], startsBlank_append hgap hne _, ?_,
      (unmarked_nil behind).word hne hgap hwordNe hwhole (blockRole?_of_isTransactionWord hword _), ?_⟩
    · rw [List.append_nil, ← Cursor.past_past c gap word (word ++ behind)]
      exact atWordEdge_past hwhole hwordNe
    · rw [List.append_nil]
      exact prefers_transaction cs hrest hne hgap hword hwhole
  · obtain ⟨gap', hrest', hgap', hblank'⟩ := exists_gap_firstWord behind
    have hne' := hblank' hstarts'
    have hwhole' : WholeWord (firstWord behind) (behindFirstWord behind) := wholeWord_takeWhile _
    generalize firstWord behind = word', behindFirstWord behind = behind' at hrest' hwhole' hword
    obtain ⟨hchars, hwordNe⟩ := isWord_of_isTransactionWord hword
    have hdistributedNe : word ≠ [] := ne_nil_of_spells (by decide) hdistributed
    subst hrest'
    refine ⟨gap ++ (word ++ (gap' ++ (word' ++ []))), behind', by simp [hrest],
      startsBlank_append hgap hne _, ?_, ?_, ?_⟩
    · rw [List.append_nil, ← List.append_assoc word, ← List.append_assoc gap,
        ← Cursor.past_past c (gap ++ (word ++ gap')) word' (word' ++ behind')]
      exact atWordEdge_past hwhole' hwordNe
    · refine Unmarked.word hne hgap hdistributedNe (by simpa using hwhole)
        (blockRole?_of_spells isKeyword_distributed hdistributed (by decide) _) ?_
      exact (unmarked_nil behind').word hne' hgap' hwordNe hwhole'
        (blockRole?_of_isTransactionWord hword _)
    · rw [List.append_nil]
      exact prefers_distributed cs hrest hne hgap hdistributed hne' hgap' hword hwhole'

/-- The branches of the pattern, one for each keyword. -/
def blockBranches : Pattern :=
  anyOf [keyword "begin".toList ++ optional transactionWords, keyword "case".toList, keyword "end".toList]

/-- What a matched block word does. -/
def matchedRole? (word : Text) : Option BlockRole :=
  if word.asciiLowercase = "end".toList then some .closes
  else if word.asciiLowercase = "case".toList ∨ word.asciiLowercase = "begin".toList then some .opens
  else none

/-- The mark that a matched block word sets. -/
def markOf? (m : Match) : Option BlockMark :=
  (matchedRole? m.text).map fun role => ⟨role, m.start, m.stop⟩

/-- White space is in no block word. -/
theorem matchedRole?_of_blank {t : Text} {b : Char} (hb : Unicode.isBlank b = true) (h : b ∈ t) :
    matchedRole? t = none := by
  have hne : ∀ role ∈ blockWords, t.asciiLowercase ≠ role := by
    intro role hrole heq
    have hword := isWord_of_spells (isKeyword_of_mem_blockWords hrole).1 (spells_of_asciiLowercase heq)
      b h
    rw [isWord_of_isBlank hb] at hword
    exact Bool.noConfusion hword
  unfold matchedRole?
  rw [if_neg (hne _ (by decide)), if_neg]
  rintro (h | h)
  · exact hne _ (by decide) h
  · exact hne _ (by decide) h

section

variable {word behind : Text} (hbefore : c.before.any Unicode.isWord = false)
  (hrest : c.rest = word ++ behind) (hne : word ≠ []) (hword : WholeWord word behind)
include hbefore hrest hne hword

/-- In front of a word there is a word edge. -/
theorem atWordEdge_of_word : c.atWordEdge = true := by
  obtain ⟨x, word, rfl⟩ := List.exists_cons_of_ne_nil hne
  unfold Cursor.atWordEdge
  rw [hbefore, hrest]
  show (false != Unicode.isWord x) = true
  rw [hword.chars x List.mem_cons_self]
  rfl

/-- What is read at a word, up to an edge, makes a match. -/
theorem matchAt?_blockWord_of_prefers {more rest : Text}
    (hp : blockBranches.Prefers ⟨c, []⟩ ⟨c.past (word ++ more) rest, []⟩)
    (hedge : (c.past (word ++ more) rest).atWordEdge = true) :
    blockWord.matchAt? c = some ⟨c, c.past (word ++ more) rest, []⟩ := by
  have hread := ((prefers_wordEdge (atWordEdge_of_word hbefore hrest hne hword)).append hp).append
    (prefers_wordEdge hedge)
  exact Prefers.matchAt? hread

omit hbefore hrest hne hword in
/-- A matched word does what it does in the text, unless it begins a transaction. -/
theorem matchedRole?_eq (h : word.asciiLowercase = "begin".toList → continuesTransaction behind = false) :
    matchedRole? word = blockRole? word behind := by
  unfold matchedRole? blockRole?
  by_cases hbegin : word.asciiLowercase = "begin".toList
  · rw [h hbegin, hbegin]
    rfl
  · simp only [hbegin, or_false, false_and, if_false]

omit hbefore hne in
/-- A word that is spelled as one of the block words. -/
theorem exists_spelled_of_matchAt? {m : Match} (h : blockWord.matchAt? c = some m) :
    ∃ keyword ∈ blockWords, spells keyword word = true := by
  unfold Pattern.matchAt? at h
  obtain ⟨v, hv, -⟩ := Option.map_eq_some_iff.mp h
  obtain ⟨u, hu, hedge⟩ := List.mem_flatMap.mp (List.mem_of_mem_head? hv)
  obtain ⟨e, he, hbranch⟩ := List.mem_flatMap.mp hu
  obtain ⟨rfl, -⟩ := mem_ways_wordEdge he
  -- the keyword that was taken is a whole word
  obtain ⟨key, hkey, found, left, hspells, hfound, hwhole⟩ : ∃ key ∈ blockWords, ∃ found left,
      spells key found = true ∧ c.rest = found ++ left ∧ WholeWord found left := by
    have hplain : ∀ key ∈ blockWords, u ∈ (keyword key).ways ⟨c, []⟩ →
        ∃ key ∈ blockWords, ∃ found left,
          spells key found = true ∧ c.rest = found ++ left ∧ WholeWord found left := by
      intro key hkey hu
      obtain ⟨found, hfound, hspells, hplace⟩ := exists_past_of_mem_ways_keyword hu
      refine ⟨key, hkey, found, u.cursor.rest, hspells, hfound, ?_⟩
      have hedge : v ∈ wordEdge.ways ⟨c.past found u.cursor.rest, u.captures⟩ := hplace ▸ hedge
      obtain ⟨hkeyword, hne⟩ := isKeyword_of_mem_blockWords hkey
      exact (wholeWord_of_edge (isWord_of_spells hkeyword hspells) (ne_nil_of_spells hne hspells)
        hedge).1
    obtain hu | hu := List.mem_append.mp hbranch
    · obtain ⟨b, hb, hu⟩ := List.mem_flatMap.mp hu
      obtain hu | rfl := mem_ways_optional hu
      · obtain ⟨found, hfound, hspells⟩ := mem_ways_keyword hb
        refine ⟨"begin".toList, by decide, found, b.cursor.rest, hspells, hfound,
          isWord_of_spells (isKeyword_of_mem_blockWords (by decide)).1 hspells, ?_⟩
        -- a transaction begins with white space
        have hstarts : continuesTransaction b.cursor.rest = true := continuesTransaction_of_mem_ways hu
        intro x hx
        have hblank : startsBlank b.cursor.rest = true := (Bool.and_eq_true _ _ ▸ hstarts :).1
        unfold startsBlank at hblank
        rw [Option.mem_def.mp hx] at hblank
        exact isWord_of_isBlank hblank
      · exact hplain _ (by decide) hb
    · obtain hu | hu := List.mem_append.mp hu
      · exact hplain _ (by decide) hu
      · exact hplain _ (by decide) hu
  refine ⟨key, hkey, ?_⟩
  rw [(hword.unique hwhole (hrest.symm.trans hfound)).1]
  exact hspells

/-- What the pattern takes at a word: what it takes behind the word sets no mark, and the match does
    what the word does. -/
structure WordMatch (c : Cursor) (word behind more rest : Text) : Prop where
  cut : behind = more ++ rest
  matched : blockWord.matchAt? c = some ⟨c, c.past (word ++ more) rest, []⟩
  role : matchedRole? (word ++ more) = blockRole? word behind
  alone : more = [] ∨ blockRole? word behind = none
  unmarked : Unmarked more rest

/-- A word that is matched alone. -/
theorem wordMatch_of_prefers (hp : blockBranches.Prefers ⟨c, []⟩ ⟨c.past word behind, []⟩)
    (hbegin : word.asciiLowercase = "begin".toList → continuesTransaction behind = false) :
    WordMatch c word behind [] behind where
  cut := rfl
  matched := by
    refine matchAt?_blockWord_of_prefers hbefore hrest hne hword ?_ ?_
    · rw [List.append_nil]
      exact hp
    · rw [List.append_nil]
      exact atWordEdge_past hword hne
  role := by
    rw [List.append_nil]
    exact matchedRole?_eq hbegin
  alone := .inl rfl
  unmarked := unmarked_nil behind

/-- BEGIN is matched with the words of a transaction behind it, if there are any. -/
theorem exists_wordMatch_begin (hspells : spells "begin".toList word = true) :
    ∃ more rest, WordMatch c word behind more rest := by
  have hread : (keyword "begin".toList).Prefers ⟨c, []⟩ ⟨c.past word behind, []⟩ :=
    prefers_keyword hrest hspells
  cases hcontinues : continuesTransaction behind with
  | false =>
    -- the optional words are left out
    have hnone : transactionWords.ways ⟨c.past word behind, []⟩ = [] := by
      rw [List.eq_nil_iff_forall_not_mem]
      intro v hv
      have hcontinues' : continuesTransaction behind = true := continuesTransaction_of_mem_ways hv
      rw [hcontinues] at hcontinues'
      exact Bool.noConfusion hcontinues'
    exact ⟨[], behind, wordMatch_of_prefers hbefore hrest hne hword (hread.skip hnone).alt_left
      fun _ => hcontinues⟩
  | true =>
    obtain ⟨more, rest, hbehind, hstarts, hedge, hunmarked, htaken⟩ :=
      exists_prefers_transactionWords (c := c.past word behind) [] hcontinues
    rw [Cursor.past_past] at hedge
    have hrole : blockRole? word behind = none := by
      have hother : ∀ role ∈ blockWords, role ≠ "begin".toList → word.asciiLowercase ≠ role :=
        fun role hrole hne heq => hne (spells_unique (isKeyword_of_mem_blockWords hrole).1
          (isKeyword_of_mem_blockWords (by decide)).1 (spells_of_asciiLowercase heq) hspells)
      unfold blockRole?
      rw [if_neg (hother _ (by decide) (by decide)), if_neg (hother _ (by decide) (by decide)),
        hcontinues, if_neg (by simp)]
    obtain ⟨b, t, rfl⟩ : ∃ b t, more = b :: t := by
      cases more with
      | nil => exact Bool.noConfusion hstarts
      | cons b t => exact ⟨b, t, rfl⟩
    refine ⟨b :: t, rest, hbehind, ?_, ?_, .inr hrole, hunmarked⟩
    · exact matchAt?_blockWord_of_prefers hbefore hrest hne hword
        (hread.past htaken.optional).alt_left hedge
    · rw [hrole]
      exact matchedRole?_of_blank hstarts (List.mem_append_right word List.mem_cons_self)

/-- Every block word is matched. -/
theorem exists_wordMatch {key : Text} (hkey : key ∈ blockWords) (hspells : spells key word = true) :
    ∃ more rest, WordMatch c word behind more rest := by
  have hread : (keyword key).Prefers ⟨c, []⟩ ⟨c.past word behind, []⟩ := prefers_keyword hrest hspells
  have hnot : key ≠ "begin".toList → word.asciiLowercase = "begin".toList →
      continuesTransaction behind = false := fun hne heq =>
    absurd (spells_unique (isKeyword_of_mem_blockWords hkey).1 (isKeyword_of_mem_blockWords (by decide)).1
      hspells (spells_of_asciiLowercase heq)) hne
  simp only [blockWords, List.mem_cons, List.not_mem_nil, or_false] at hkey
  obtain rfl | rfl | rfl := hkey
  · exact exists_wordMatch_begin hbefore hrest hne hword hspells
  · have hbegin : (keyword "begin".toList ++ optional transactionWords).ways ⟨c, []⟩ = [] :=
      ways_append_of_nil (ways_keyword_of_ne (b := 'c') (by decide) (by decide) (by decide) hrest hspells) _
    exact ⟨[], behind, wordMatch_of_prefers hbefore hrest hne hword
      (Prefers.alt_right hbegin hread.alt_left) (hnot (by decide))⟩
  · have hbegin : (keyword "begin".toList ++ optional transactionWords).ways ⟨c, []⟩ = [] :=
      ways_append_of_nil (ways_keyword_of_ne (b := 'e') (by decide) (by decide) (by decide) hrest hspells) _
    have hcase : (keyword "case".toList).ways ⟨c, []⟩ = [] :=
      ways_keyword_of_ne (b := 'e') (by decide) (by decide) (by decide) hrest hspells
    exact ⟨[], behind, wordMatch_of_prefers hbefore hrest hne hword
      (Prefers.alt_right hbegin (Prefers.alt_right hcase hread)) (hnot (by decide))⟩

/-- **The pattern at the beginning of a word.**  It does not match a word without a role; any
    other it matches, with what it takes of a transaction behind it. -/
theorem matchAt?_blockWord :
    blockWord.matchAt? c = none ∧ blockRole? word behind = none
      ∨ ∃ more rest, WordMatch c word behind more rest := by
  by_cases hspelled : ∃ key ∈ blockWords, spells key word = true
  · obtain ⟨key, hkey, hspells⟩ := hspelled
    exact .inr (exists_wordMatch hbefore hrest hne hword hkey hspells)
  · left
    constructor
    · cases hmatch : blockWord.matchAt? c with
      | none => rfl
      | some m => exact absurd (exists_spelled_of_matchAt? hrest hword hmatch) hspelled
    · have hother : ∀ key ∈ blockWords, word.asciiLowercase ≠ key := fun key hkey heq =>
        hspelled ⟨key, hkey, spells_of_asciiLowercase heq⟩
      unfold blockRole?
      rw [if_neg (hother _ (by decide)), if_neg (hother _ (by decide)),
        if_neg fun h => hother _ (by decide) h.1]

omit hbefore hne hword in
/-- The mark that the match sets is that of the word. -/
theorem WordMatch.markOf?_eq {more rest : Text} (h : WordMatch c word behind more rest) :
    markOf? ⟨c, c.past (word ++ more) rest, []⟩
      = (blockRole? word behind).map fun role =>
        ⟨role, c.offset, c.offset + Text.byteLength word⟩ := by
  have htext : c.textTo (c.past (word ++ more) rest) = word ++ more :=
    Cursor.textTo_past (by rw [hrest, h.cut, List.append_assoc])
  unfold markOf? Match.text
  rw [htext, h.role]
  obtain rfl | hnone := h.alone
  · rw [List.append_nil]
    rfl
  · rw [hnone]
    rfl

end

/-- No match begins where no word begins. -/
theorem matchAt?_blockWord_of_not {before : Option Char} {offset : Nat} {x : Char} {rest : Text}
    (h : (Unicode.isWord x && !before.any Unicode.isWord) = false) :
    blockWord.matchAt? ⟨before, offset, x :: rest⟩ = none := by
  have hletters : ∀ {letter : Char} {word : Text}, letter.isLower = true →
      (keyword (letter :: word)).Opens Unicode.isWord := fun hlower =>
    opens_keyword fun _ => isWord_of_isLetter hlower
  have hopens : blockBranches.Opens Unicode.isWord :=
    ((hletters (by decide)).append (optional transactionWords)).alt
      ((hletters (by decide)).alt (hletters (by decide)))
  rw [Option.eq_none_iff_forall_ne_some]
  intro m hm
  unfold Pattern.matchAt? at hm
  obtain ⟨v, hv, -⟩ := Option.map_eq_some_iff.mp hm
  obtain ⟨u, hu, -⟩ := List.mem_flatMap.mp (List.mem_of_mem_head? hv)
  obtain ⟨e, he, hu⟩ := List.mem_flatMap.mp hu
  change e ∈ (if Cursor.atWordEdge ⟨before, offset, x :: rest⟩ then [_] else []) at he
  split at he
  · next hedge =>
    rw [List.mem_singleton.mp he] at hu
    obtain ⟨y, left, hy, hword⟩ := hopens _ _ hu
    obtain rfl : x = y := (List.cons.inj hy).1
    have hedge : (before.any Unicode.isWord != Unicode.isWord x) = true := hedge
    -- at a word edge in front of a word character no word character stands before
    rw [hword] at h hedge
    cases hbefore : before.any Unicode.isWord with
    | false => rw [hbefore] at h; exact Bool.noConfusion h
    | true => rw [hbefore] at hedge; exact Bool.noConfusion hedge
  · exact absurd he List.not_mem_nil

/-! ## §4. The search -/

/-- No mark stands in front of the text that it is read off. -/
theorem le_start_of_mem_blockMarks {inWord : Bool} {offset : Nat} {t : Text} {mark : BlockMark}
    (h : mark ∈ blockMarks inWord offset t) : offset ≤ mark.start := by
  induction t generalizing inWord offset with
  | nil => exact absurd h List.not_mem_nil
  | cons c rest ih =>
    rw [blockMarks] at h
    have hlater : mark ∈ blockMarks (Unicode.isWord c) (offset + c.utf8Size) rest →
        offset ≤ mark.start := fun h => Nat.le_of_add_right_le (ih h)
    split at h
    · obtain h | h := List.mem_append.mp h
      · rw [Option.mem_toList, Option.map_eq_some_iff] at h
        obtain ⟨role, -, rfl⟩ := h
        exact Nat.le_refl offset
      · exact hlater h
    · exact hlater h

/-- Where a word begins, its mark stands in front of the others. -/
theorem exists_word_at_start {x : Char} {inWord : Bool} (hx : Unicode.isWord x = true)
    (hbefore : inWord = false) (offset : Nat) (rest : Text) :
    ∃ word behind, x :: rest = word ++ behind ∧ word ≠ [] ∧ WholeWord word behind
      ∧ blockMarks inWord offset (x :: rest)
        = ((blockRole? word behind).map fun role =>
            ⟨role, offset, offset + Text.byteLength word⟩).toList
          ++ blockMarks (Unicode.isWord x) (offset + x.utf8Size) rest := by
  have hwhole := wholeWord_takeWhile rest
  refine ⟨x :: rest.takeWhile Unicode.isWord, rest.dropWhile Unicode.isWord, ?_,
    List.cons_ne_nil _ _, ⟨List.forall_mem_cons.mpr ⟨hx, hwhole.chars⟩, hwhole.ends⟩, ?_⟩
  · rw [List.cons_append, List.takeWhile_append_dropWhile]
  · rw [blockMarks, hx, hbefore]
    rfl

/-- **The pattern finds the block words, and no others.**  The search may begin behind the first
    word if no mark stands in front of where it begins. -/
theorem filterMap_matchesFrom_blockWord {t : Text} {resume offset : Nat} {before : Option Char}
    (h : ∀ mark ∈ blockMarks (before.any Unicode.isWord) offset t, resume ≤ mark.start) :
    (blockWord.matchesFrom resume before offset t).filterMap markOf?
      = blockMarks (before.any Unicode.isWord) offset t := by
  induction t generalizing resume offset before with
  | nil => rfl
  | cons c rest ih =>
    have hlater : ∀ {resume : Nat},
        (∀ mark ∈ blockMarks (Unicode.isWord c) (offset + c.utf8Size) rest, resume ≤ mark.start) →
        (blockWord.matchesFrom resume (some c) (offset + c.utf8Size) rest).filterMap markOf?
          = blockMarks (Unicode.isWord c) (offset + c.utf8Size) rest := fun h => @ih _ _ (some c) h
    cases hstart : Unicode.isWord c && !before.any Unicode.isWord with
    | false =>
      have hsame : blockMarks (before.any Unicode.isWord) offset (c :: rest)
          = blockMarks (Unicode.isWord c) (offset + c.utf8Size) rest := by
        rw [blockMarks, hstart]
        rfl
      rw [hsame] at h ⊢
      rw [matchesFrom, matchAt?_blockWord_of_not hstart]
      split
      · exact hlater h
      · exact hlater h
    | true =>
      obtain ⟨hc, hbefore⟩ := Bool.and_eq_true _ _ ▸ hstart
      rw [Bool.not_eq_true'] at hbefore
      obtain ⟨word, behind, hcut, hne, hword, hmarks⟩ := exists_word_at_start hc hbefore offset rest
      rw [hmarks] at h ⊢
      obtain ⟨hhere, hbehind⟩ := List.forall_mem_append.mp h
      rw [matchesFrom]
      split
      · next hpassed =>
        -- a mark of this word would stand in front of where the search begins
        cases hrole : blockRole? word behind with
        | none => exact hlater hbehind
        | some role =>
          have hle : resume ≤ offset := hhere ⟨role, offset, _⟩ (by
            rw [hrole]
            exact List.mem_singleton_self _)
          omega
      · obtain ⟨hnone, hrole⟩ | ⟨more, left, hmatch⟩ :=
          matchAt?_blockWord (c := ⟨before, offset, c :: rest⟩) hbefore hcut hne hword
        · rw [hnone, hrole]
          exact hlater hbehind
        · have hmark := hmatch.markOf?_eq hcut
          obtain ⟨rfl, hmatched, -, -, hunmarked⟩ := hmatch
          have hleft : blockMarks (Unicode.isWord c) (offset + c.utf8Size) rest
              = blockMarks true (offset + Text.byteLength (word ++ more)) left := by
            have hall := blockMarks_word hne hword offset
            rw [← hcut, ← hbefore, hmarks, hunmarked, Nat.add_assoc, ← Text.byteLength_append] at hall
            exact List.append_cancel_left hall
          have hstop : ∀ mark ∈ blockMarks (Unicode.isWord c) (offset + c.utf8Size) rest,
              offset + Text.byteLength (word ++ more) ≤ mark.start := by
            rw [hleft]
            exact fun mark hmark => le_start_of_mem_blockMarks hmark
          rw [hmatched]
          show List.filterMap markOf? (_ :: blockWord.matchesFrom (offset + _) _ _ _) = _
          rw [List.filterMap_cons, hmark]
          cases blockRole? word (more ++ left) with
          | none => exact hlater hstop
          | some role => exact congrArg (_ :: ·) (hlater hstop)

/-- The marks of a text are those of its block words. -/
theorem filterMap_matchesIn_blockWord (offset : Nat) (t : Text) :
    (blockWord.matchesIn ⟨none, offset, t⟩).filterMap markOf? = blockMarks false offset t :=
  filterMap_matchesFrom_blockWord fun _ hmark => le_start_of_mem_blockMarks hmark

end TableLedger.Script
