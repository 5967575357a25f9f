/-
  TableLedger.Proofs.Script.Words — words, and what a keyword may be spelled with.

  A word is a run of word characters with none around it.  There is one way only to cut
  the first word off a text.  A keyword is written in lower case and matched in any case;
  its letters are word characters, no character is a letter of two of them, and so no
  text spells two keywords.

  Main statements:
    • `WholeWord.unique` — there is one way to cut a word off,
    • `isWord_of_spells` — a keyword is spelled with word characters,
    • `spells_unique` — no text spells two keywords.
-/

import TableLedger.Proofs.Script.Reference

namespace TableLedger.Script

open Pattern

/-! ## §1. Words -/

/-- The first word of a text; there may be white space in front of it. -/
def firstWord (t : Text) : Text := t.trimStart.takeWhile Unicode.isWord

/-- What stands behind the first word. -/
def behindFirstWord (t : Text) : Text := t.trimStart.dropWhile Unicode.isWord

def startsBlank (t : Text) : Bool := t.head?.any Unicode.isBlank

/-- The text is one word, and it goes no further in `behind`. -/
structure WholeWord (word behind : Text) : Prop where
  chars : ∀ c ∈ word, Unicode.isWord c = true
  ends : ∀ c ∈ behind.head?, Unicode.isWord c = false

/-- The word characters at the front of a text are a whole word. -/
theorem wholeWord_takeWhile (t : Text) :
    WholeWord (t.takeWhile Unicode.isWord) (t.dropWhile Unicode.isWord) := by
  refine ⟨fun c hc => List.mem_takeWhile_imp hc, fun c hc => ?_⟩
  have hnot := List.head?_dropWhile_not Unicode.isWord t
  rw [Option.mem_def.mp hc] at hnot
  exact hnot

/-- There is one way only to cut a word off. -/
theorem WholeWord.unique {word behind word' behind' : Text} (h : WholeWord word behind)
    (h' : WholeWord word' behind') (heq : word ++ behind = word' ++ behind') :
    word = word' ∧ behind = behind' := by
  have htake : ∀ {word behind : Text}, WholeWord word behind →
      (word ++ behind).takeWhile Unicode.isWord = word := by
    intro word behind h
    rw [List.takeWhile_append_of_pos h.chars]
    cases behind with
    | nil => simp
    | cons c behind => rw [List.takeWhile_cons_of_neg (by simp [h.ends c rfl]), List.append_nil]
  obtain rfl : word = word' := by rw [← htake h, heq, htake h']
  exact ⟨rfl, List.append_cancel_left heq⟩

/-- A text is white space, its first word and what stands behind. -/
theorem exists_gap_firstWord (t : Text) :
    ∃ gap, t = gap ++ (firstWord t ++ behindFirstWord t) ∧ IsGap gap
      ∧ (startsBlank t = true → gap ≠ []) := by
  refine ⟨t.takeWhile Unicode.isBlank, ?_, fun c hc => List.mem_takeWhile_imp hc, ?_⟩
  · unfold firstWord behindFirstWord Text.trimStart
    rw [List.takeWhile_append_dropWhile, List.takeWhile_append_dropWhile]
  · intro hblank hnil
    cases t with
    | nil => exact absurd hblank (by simp [startsBlank])
    | cons c t =>
      have hc : Unicode.isBlank c = true := hblank
      rw [List.takeWhile_cons_of_pos hc] at hnil
      exact List.cons_ne_nil _ _ hnil

/-- The first word behind a gap, and what stands behind it. -/
theorem firstWord_eq {gap word behind : Text} (hgap : IsGap gap) (hne : word ≠ [])
    (h : WholeWord word behind) :
    firstWord (gap ++ (word ++ behind)) = word
      ∧ behindFirstWord (gap ++ (word ++ behind)) = behind := by
  have htrim : (gap ++ (word ++ behind)).trimStart = word ++ behind := by
    obtain ⟨c, word, rfl⟩ := List.exists_cons_of_ne_nil hne
    have hc : ¬Unicode.isBlank c = true := by
      intro hblank
      have hword := h.chars c List.mem_cons_self
      rw [isWord_of_isBlank hblank] at hword
      exact Bool.noConfusion hword
    unfold Text.trimStart
    rw [List.dropWhile_append_of_pos hgap, List.cons_append, List.dropWhile_cons_of_neg hc]
  unfold firstWord behindFirstWord
  rw [htrim]
  exact (wholeWord_takeWhile _).unique h List.takeWhile_append_dropWhile

/-- A text with a gap in front starts with white space. -/
theorem startsBlank_append {gap : Text} (hgap : IsGap gap) (hne : gap ≠ []) (t : Text) :
    startsBlank (gap ++ t) = true := by
  obtain ⟨c, gap, rfl⟩ := List.exists_cons_of_ne_nil hne
  exact hgap c List.mem_cons_self

/-! ## §2. Letters of keywords -/

/-- A word is spelled with as many characters as it has. -/
theorem spells_length {word found : Text} (h : spells word found = true) :
    found.length = word.length := by
  fun_induction spells word found with
  | case1 => rfl
  | case2 letter word c found ih =>
    rw [List.length_cons, List.length_cons, ih (Bool.and_eq_true _ _ ▸ h :).2]
  | case3 => exact Bool.noConfusion h

/-- Each character of a spelled word is a letter of it. -/
theorem exists_letter_of_spells {word found : Text} (h : spells word found = true) :
    ∀ c ∈ found, ∃ letter ∈ word, isLetter letter c = true := by
  fun_induction spells word found with
  | case1 => exact fun _ hc => absurd hc List.not_mem_nil
  | case2 letter word c found ih =>
    rw [Bool.and_eq_true] at h
    refine List.forall_mem_cons.mpr ⟨⟨letter, List.mem_cons_self, h.1⟩, fun x hx => ?_⟩
    obtain ⟨letter', hletter, hx⟩ := ih h.2 x hx
    exact ⟨letter', List.mem_cons_of_mem letter hletter, hx⟩
  | case3 => exact Bool.noConfusion h

/-- Each letter of a word is spelled by a character. -/
theorem exists_mem_of_spells {word found : Text} (h : spells word found = true) :
    ∀ letter ∈ word, ∃ c ∈ found, isLetter letter c = true := by
  fun_induction spells word found with
  | case1 => exact fun _ hletter => absurd hletter List.not_mem_nil
  | case2 letter word c found ih =>
    rw [Bool.and_eq_true] at h
    refine List.forall_mem_cons.mpr ⟨⟨c, List.mem_cons_self, h.1⟩, fun letter' hletter => ?_⟩
    obtain ⟨x, hx, hspelled⟩ := ih h.2 letter' hletter
    exact ⟨x, List.mem_cons_of_mem c hx, hspelled⟩
  | case3 => exact Bool.noConfusion h

/-- The letters of a keyword, but for two that fold to them, are ASCII letters. -/
theorem letter_cases {letter c : Char} (hlower : letter.isLower = true)
    (h : isLetter letter c = true) :
    (c.isAlpha = true ∧ c.toLower = letter) ∨ (letter = 's' ∧ c = Char.ofNat 0x17F)
      ∨ (letter = 'k' ∧ c = Char.ofNat 0x212A) := by
  have hcode : ∀ {n : Nat}, c.toNat = n → c = Char.ofNat n := fun h => by rw [← h, Char.ofNat_toNat]
  unfold isLetter at h
  simp only [Bool.or_eq_true, Bool.and_eq_true, beq_iff_eq] at h
  obtain (hc | ⟨hletter, hc⟩) | ⟨hletter, hc⟩ := h
  · refine .inl ⟨Unicode.isAlpha_iff.mpr ?_, hc⟩
    by_cases hupper : 0x41 ≤ c.toNat ∧ c.toNat ≤ 0x5A
    · exact .inl (Unicode.isUpper_iff.mpr hupper)
    · rw [Unicode.toLower_of_toNat hupper] at hc
      exact .inr (hc ▸ hlower)
  · exact .inr (.inl ⟨hletter, hcode hc⟩)
  · exact .inr (.inr ⟨hletter, hcode hc⟩)

/-- Letters in this sense are characters of ASCII. -/
theorem toNat_lt_of_isAlpha {c : Char} (h : c.isAlpha = true) : c.toNat < 0x80 := by
  rw [Unicode.isAlpha_iff, Unicode.isUpper_iff, Unicode.isLower_iff] at h
  omega

theorem eq_underscore_of_isLetter {c : Char} (h : isLetter '_' c = true) : c = '_' := by
  have hlower : c.toLower = '_' := by simpa [isLetter] using h
  by_cases hupper : 0x41 ≤ c.toNat ∧ c.toNat ≤ 0x5A
  · -- the letters that capitals become stand behind the underscore
    have hcode := Unicode.toNat_toLower hupper
    rw [hlower] at hcode
    exact absurd hcode (by show ¬0x5F = c.toNat + 0x20; omega)
  · rwa [Unicode.toLower_of_toNat hupper] at hlower

/-- The letters of a keyword are word characters. -/
theorem isWord_of_isLetter {letter c : Char} (hlower : letter.isLower = true)
    (h : isLetter letter c = true) : Unicode.isWord c = true := by
  obtain ⟨halpha, -⟩ | ⟨-, rfl⟩ | ⟨-, rfl⟩ := letter_cases hlower h
  · unfold Unicode.isWord Unicode.isAsciiWord
    rw [if_pos (toNat_lt_of_isAlpha halpha), Char.isAlphanum, halpha]
    rfl
  · decide +kernel
  · decide +kernel

/-- A character is a letter of one keyword letter only. -/
theorem letter_unique {a b c : Char} (ha : a.isLower = true) (hb : b.isLower = true)
    (h : isLetter a c = true) (h' : isLetter b c = true) : a = b := by
  obtain ⟨halpha, hc⟩ | ⟨rfl, hc⟩ | ⟨rfl, hc⟩ := letter_cases ha h
  · obtain ⟨-, hc'⟩ | ⟨-, rfl⟩ | ⟨-, rfl⟩ := letter_cases hb h'
    · exact hc.symm.trans hc'
    · exact absurd halpha (by decide)
    · exact absurd halpha (by decide)
  · subst hc
    obtain ⟨halpha, -⟩ | ⟨rfl, -⟩ | ⟨-, hc'⟩ := letter_cases hb h'
    · exact absurd halpha (by decide)
    · rfl
    · exact absurd hc' (by decide)
  · subst hc
    obtain ⟨halpha, -⟩ | ⟨-, hc'⟩ | ⟨rfl, -⟩ := letter_cases hb h'
    · exact absurd halpha (by decide)
    · exact absurd hc' (by decide)
    · rfl

/-- Keywords are written in lower case. -/
def IsKeyword (word : Text) : Prop := ∀ letter ∈ word, letter.isLower = true

/-- What a keyword is spelled with are word characters. -/
theorem isWord_of_spells {word found : Text} (hword : IsKeyword word)
    (h : spells word found = true) : ∀ c ∈ found, Unicode.isWord c = true := by
  intro c hc
  obtain ⟨letter, hletter, hc⟩ := exists_letter_of_spells h c hc
  exact isWord_of_isLetter (hword letter hletter) hc

/-- No text spells two keywords. -/
theorem spells_unique {word word' found : Text} (hword : IsKeyword word) (hword' : IsKeyword word')
    (h : spells word found = true) (h' : spells word' found = true) : word = word' := by
  induction found generalizing word word' with
  | nil =>
    rw [List.length_eq_zero_iff.mp (spells_length h).symm,
      List.length_eq_zero_iff.mp (spells_length h').symm]
  | cons c found ih =>
    cases word with
    | nil => exact absurd h (by simp [spells])
    | cons a word =>
      cases word' with
      | nil => exact absurd h' (by simp [spells])
      | cons b word' =>
        rw [spells, Bool.and_eq_true] at h h'
        rw [letter_unique (hword a List.mem_cons_self) (hword' b List.mem_cons_self) h.1 h'.1,
          ih (fun x hx => hword x (List.mem_cons_of_mem a hx))
            (fun x hx => hword' x (List.mem_cons_of_mem b hx)) h.2 h'.2]

theorem ne_nil_of_spells {word found : Text} (hne : word ≠ []) (h : spells word found = true) :
    found ≠ [] := by
  rintro rfl
  exact hne (List.length_eq_zero_iff.mp (spells_length h).symm)

/-- Words in a row are spelled one after the other. -/
theorem spells_append {word word' found found' : Text} (h : spells word found = true)
    (h' : spells word' found' = true) : spells (word ++ word') (found ++ found') = true := by
  fun_induction spells word found with
  | case1 => exact h'
  | case2 letter word c found ih =>
    rw [Bool.and_eq_true] at h
    rw [List.cons_append, List.cons_append, spells, h.1, ih h.2]
    rfl
  | case3 => exact Bool.noConfusion h

/-- What spells words in a row is cut into what spells each. -/
theorem exists_of_spells_append {word word' found : Text} (h : spells (word ++ word') found = true) :
    ∃ front back, found = front ++ back ∧ spells word front = true ∧ spells word' back = true := by
  induction word generalizing found with
  | nil => exact ⟨[], found, rfl, rfl, h⟩
  | cons letter word ih =>
    cases found with
    | nil => exact absurd h (by simp [spells])
    | cons c found =>
      rw [List.cons_append, spells, Bool.and_eq_true] at h
      obtain ⟨front, back, rfl, hfront, hback⟩ := ih h.2
      exact ⟨c :: front, back, rfl, by rw [spells, h.1, hfront]; rfl, hback⟩

/-- A text that is a keyword in lower case spells it. -/
theorem spells_of_asciiLowercase {word found : Text} (h : found.asciiLowercase = word) :
    spells word found = true := by
  subst h
  induction found with
  | nil => rfl
  | cons c found ih =>
    show (isLetter c.toLower c && spells (found.map Char.toLower) found) = true
    rw [show spells (found.map Char.toLower) found = true from ih]
    simp [isLetter]

end TableLedger.Script
