/-
  TableLedger.Proofs.Text.Ascii — the characters of ASCII by their codes.

  The capital letters are a run of codes, and so are the small ones and the
  digits; lower-casing moves the first run onto the second and leaves every
  other code where it is.  What keywords, bare names and the names of logs are
  made of is told by these runs, so two classes of characters are kept apart
  by comparing numbers.

  Main statements:
    • `isUpper_iff`, `isLower_iff`, `isAlphanum_iff` — the classes,
    • `toNat_toLower`, `toLower_of_toNat` — what lower-casing does to a character,
    • `toNat_of_isAsciiWord` — the codes of word characters,
    • `lowerAfter_of_ascii` — lower-casing a text, character by character.
-/

import TableLedger.Unicode.Blank
import TableLedger.Unicode.Letters
import TableLedger.Unicode.Lowercase

namespace TableLedger.Unicode

variable {c : Char}

/-! ## §1. Classes -/

/-- The codes of capital letters. -/
theorem isUpper_iff : c.isUpper = true ↔ 0x41 ≤ c.toNat ∧ c.toNat ≤ 0x5A := decide_eq_true_iff

/-- The codes of small letters. -/
theorem isLower_iff : c.isLower = true ↔ 0x61 ≤ c.toNat ∧ c.toNat ≤ 0x7A :=
  Bool.and_eq_true_iff.trans (and_congr decide_eq_true_iff decide_eq_true_iff)

theorem isAlpha_iff : c.isAlpha = true ↔ c.isUpper = true ∨ c.isLower = true := Bool.or_eq_true_iff

theorem isAlphanum_iff :
    c.isAlphanum = true ↔ (c.isUpper = true ∨ c.isLower = true) ∨ c.isDigit = true :=
  Bool.or_eq_true_iff.trans (or_congr_left isAlpha_iff)

/-- No visible character of ASCII is white space. -/
theorem isBlank_of_toNat (h : 0x20 < c.toNat ∧ c.toNat < 0x7F) : isBlank c = false := by
  simp only [isBlank, Bool.or_eq_false_iff, Bool.and_eq_false_iff, beq_eq_false_iff_ne,
    decide_eq_false_iff_not]
  omega

/-- The codes of word characters of ASCII. -/
theorem toNat_of_isAsciiWord (h : isAsciiWord c = true) :
    0x61 ≤ c.toNat ∧ c.toNat ≤ 0x7A ∨ 0x41 ≤ c.toNat ∧ c.toNat ≤ 0x5A
      ∨ 0x30 ≤ c.toNat ∧ c.toNat ≤ 0x39 ∨ c.toNat = 0x5F := by
  rw [isAsciiWord, Bool.or_eq_true, isAlphanum_iff, beq_iff_eq] at h
  obtain ((hupper | hlower) | hdigit) | rfl := h
  · exact .inr (.inl (isUpper_iff.mp hupper))
  · exact .inl (isLower_iff.mp hlower)
  · exact .inr (.inr (.inl (Char.isDigit_iff_toNat.mp hdigit)))
  · exact .inr (.inr (.inr rfl))

/-! ## §2. Lower case -/

/-- A capital letter becomes the small letter that stands 32 places behind it. -/
theorem toNat_toLower (h : 0x41 ≤ c.toNat ∧ c.toNat ≤ 0x5A) : c.toLower.toNat = c.toNat + 0x20 := by
  have hmoved : c.toLower = ⟨c.val + ('a'.val - 'A'.val), _⟩ := dif_pos h
  rw [hmoved]
  show (c.val + ('a'.val - 'A'.val)).toNat = c.toNat + 0x20
  -- the sum is one of 32 bits, and does not overflow
  rw [UInt32.toNat_add]
  show (c.toNat + 0x20) % 2 ^ 32 = c.toNat + 0x20
  omega

/-- Any other character stays as it is. -/
theorem toLower_of_toNat (h : ¬(0x41 ≤ c.toNat ∧ c.toNat ≤ 0x5A)) : c.toLower = c := dif_neg h

/-- Lower case makes no difference to what is a word. -/
theorem isAsciiWord_toLower (c : Char) : isAsciiWord c.toLower = isAsciiWord c := by
  by_cases hupper : 0x41 ≤ c.toNat ∧ c.toNat ≤ 0x5A
  · -- a capital letter gives way to a small one
    have hlower : c.toLower.isLower = true := by
      rw [isLower_iff, toNat_toLower hupper]
      omega
    rw [isAsciiWord, isAlphanum_iff.mpr (.inl (.inr hlower)), isAsciiWord,
      isAlphanum_iff.mpr (.inl (.inl (isUpper_iff.mpr hupper)))]
    rfl
  · rw [toLower_of_toNat hupper]

/-- In ASCII only letters change, each by itself. -/
theorem lowerAfter_of_ascii {t : List Char} (h : ∀ c ∈ t, c.toNat < 0x80) (before : List Char) :
    lowerAfter before t = t.map Char.toLower := by
  induction t generalizing before with
  | nil => rfl
  | cons c rest ih =>
    have hcode := h c List.mem_cons_self
    rw [lowerAfter, if_neg (by omega), if_neg (by omega), lowerChar, if_pos hcode,
      ih fun x hx => h x (List.mem_cons_of_mem c hx)]
    rfl

end TableLedger.Unicode
