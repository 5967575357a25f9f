/-
  TableLedger.Proofs.Text.Replaced — replacing in any case, and where it goes wrong.

  Occurrences are found in the lower-case form of a text and replaced at the same bytes
  of the text itself.  What is meant are the characters of the text that make up the
  needle in lower case.  The two agree where every character keeps its size in lower
  case.  Equal lengths as a whole do not suffice: behind a character that grows and in
  front of one that shrinks every byte is shifted, and what is replaced there are other
  characters than those that were found, or parts of characters.

  A replacement puts the new text between the pieces that are kept.  So it is the one
  that is meant, whatever the new text is, if and only if the pieces are the same:

      (∀ new, replaceIgnoringCase old new t = replaceLocated old new t)
        ↔ the pieces of t between the bytes = the pieces of t between the characters

  Main statements:
    • `splitAtByte?_eq_some_iff`, `gapsAt?_eq_none_iff` — cutting a text at bytes,
    • `eq_of_forall_join_eq` — pieces are told from what they make up,
    • `replaceIgnoringCase_eq_cutsCharacter_iff` — when a character is cut,
    • `replaceIgnoringCase_eq_replaceLocated_iff` — when what is found is replaced,
    • `pieces_of_keepsSizes` — it is where every character keeps its size.
-/

import Mathlib.Data.List.Basic
import Mathlib.Tactic.ByContra
import TableLedger.Text.Replace

namespace TableLedger

/-! ## §1. Characters with their lower-case forms -/

namespace Unicode

/-- Lower-case form of a character between what stands in front of it, last character
    first, and what follows. -/
def lowered (before : List Char) (c : Char) (rest : List Char) : List Char :=
  if c.toNat = 0x130 then ['i', Char.ofNat 0x307]
  else if c.toNat = 0x3A3 then
    [Char.ofNat (if nextIsCased before && !nextIsCased rest then 0x3C2 else 0x3C3)]
  else [lowerChar c]

/-- A text in lower case, its first character set apart. -/
theorem lowerAfter_eq_append (before : List Char) (c : Char) (rest : List Char) :
    lowerAfter before (c :: rest) = lowered before c rest ++ lowerAfter (c :: before) rest := rfl

end Unicode

namespace Text

/-- A character of a text with its lower-case form in that place. -/
structure Cased where
  char : Char
  lower : Text
  deriving DecidableEq, Repr

/-- The characters of a text behind `before`, which is written last character first. -/
def casedAfter (before : Text) : Text → List Cased
  | [] => []
  | c :: rest => ⟨c, Unicode.lowered before c rest⟩ :: casedAfter (c :: before) rest

/-- The characters of a text with their lower-case forms. -/
def cased (t : Text) : List Cased := casedAfter [] t

/-- The text that characters make up. -/
def chars (cs : List Cased) : Text := cs.map Cased.char

/-- The text that their lower-case forms make up. -/
def lowers (cs : List Cased) : Text := cs.flatMap Cased.lower

@[simp] theorem chars_nil : chars [] = [] := rfl

@[simp] theorem chars_cons (c : Cased) (cs : List Cased) : chars (c :: cs) = c.char :: chars cs := rfl

@[simp] theorem chars_append (cs cs' : List Cased) : chars (cs ++ cs') = chars cs ++ chars cs' :=
  List.map_append

@[simp] theorem lowers_nil : lowers [] = [] := rfl

@[simp] theorem lowers_cons (c : Cased) (cs : List Cased) :
    lowers (c :: cs) = c.lower ++ lowers cs := rfl

@[simp] theorem lowers_append (cs cs' : List Cased) : lowers (cs ++ cs') = lowers cs ++ lowers cs' :=
  List.flatMap_append

/-- The characters are those of the text. -/
theorem chars_casedAfter (before t : Text) : chars (casedAfter before t) = t := by
  induction t generalizing before with
  | nil => rfl
  | cons c t ih => rw [casedAfter, chars_cons, ih]

/-- Their lower-case forms make up the lower-case form of the text. -/
theorem lowers_casedAfter (before t : Text) :
    lowers (casedAfter before t) = Unicode.lowerAfter before t := by
  induction t generalizing before with
  | nil => rfl
  | cons c t ih => rw [casedAfter, lowers_cons, ih, Unicode.lowerAfter_eq_append]

@[simp] theorem chars_cased (t : Text) : chars (cased t) = t := chars_casedAfter [] t

@[simp] theorem lowers_cased (t : Text) : lowers (cased t) = t.lowercase := lowers_casedAfter [] t

/-- Every character takes as many bytes in lower case as it does as it is written. -/
def KeepsSizes (cs : List Cased) : Prop := ∀ c ∈ cs, byteLength c.lower = c.char.utf8Size

instance (cs : List Cased) : Decidable (KeepsSizes cs) :=
  inferInstanceAs (Decidable (∀ c ∈ cs, byteLength c.lower = c.char.utf8Size))

/-! ## §2. Cutting at bytes -/

variable {t front rest needle : Text} {width done n : Nat} {starts : List Nat}

/-- A cut behind a text is a cut in what follows it. -/
theorem splitAtByte?_append (front rest : Text) (n : Nat) :
    splitAtByte? (front.byteLength + n) (front ++ rest)
      = (splitAtByte? n rest).map fun cut => (front ++ cut.1, cut.2) := by
  induction front with
  | nil => simp
  | cons c front ih =>
    have hpos := c.utf8Size_pos
    obtain ⟨m, hm⟩ : ∃ m, byteLength (c :: front) + n = m + 1 :=
      ⟨byteLength (c :: front) + n - 1, by simp only [byteLength_cons]; omega⟩
    have hfits : c.utf8Size ≤ m + 1 := by simp only [byteLength_cons] at hm; omega
    have hrest : m + 1 - c.utf8Size = byteLength front + n := by
      simp only [byteLength_cons] at hm
      omega
    rw [hm, List.cons_append, splitAtByte?, if_pos hfits, hrest, ih, Option.map_map]
    rfl

/-- **A text is cut** where a character ends. -/
theorem splitAtByte?_eq_some_iff :
    splitAtByte? n t = some (front, rest) ↔ t = front ++ rest ∧ front.byteLength = n := by
  constructor
  · intro h
    induction t generalizing n front with
    | nil =>
      cases n with
      | zero => simp_all [splitAtByte?]
      | succ n => simp [splitAtByte?] at h
    | cons c t ih =>
      cases n with
      | zero =>
        obtain ⟨rfl, rfl⟩ : [] = front ∧ c :: t = rest := by simpa [splitAtByte?] using h
        exact ⟨rfl, rfl⟩
      | succ n =>
        rw [splitAtByte?] at h
        split at h
        · next hfits =>
          obtain ⟨⟨front', rest'⟩, hcut, heq⟩ := Option.map_eq_some_iff.mp h
          obtain ⟨rfl, rfl⟩ : c :: front' = front ∧ rest' = rest := by simpa using heq
          obtain ⟨rfl, hlength⟩ := ih hcut
          exact ⟨rfl, by rw [byteLength_cons, hlength]; omega⟩
        · simp at h
  · rintro ⟨rfl, rfl⟩
    -- behind all of the front nothing is left to count
    have happend := splitAtByte?_append front rest 0
    rw [Nat.add_zero] at happend
    rw [happend]
    cases rest <;> simp [splitAtByte?]

/-- The pieces of a text between the `width` bytes at each of the offsets; the text begins at
    byte `done`.  `none` when a character would be cut. -/
def gapsAt? (width : Nat) : Nat → Text → List Nat → Option (List Text)
  | _, t, [] => some [t]
  | done, t, start :: rest => do
    let (kept, found) ← splitAtByte? (start - done) t
    let (_, behind) ← splitAtByte? width found
    let gaps ← gapsAt? width (start + width) behind rest
    return kept :: gaps

/-- What is kept in front of the first offset, what is replaced there, and the pieces behind. -/
theorem gapsAt?_cons_eq_some_iff {start : Nat} {gaps : List Text} :
    gapsAt? width done t (start :: starts) = some gaps
      ↔ ∃ kept found behind more, t = kept ++ (found ++ behind) ∧ byteLength kept = start - done
        ∧ byteLength found = width ∧ gapsAt? width (start + width) behind starts = some more
        ∧ gaps = kept :: more := by
  constructor
  · intro h
    obtain ⟨⟨kept, rest⟩, hkept, hbehind⟩ := Option.bind_eq_some_iff.mp h
    obtain ⟨⟨found, behind⟩, hfound, hgaps⟩ := Option.bind_eq_some_iff.mp hbehind
    obtain ⟨more, hmore, hcons⟩ := Option.bind_eq_some_iff.mp hgaps
    obtain ⟨rfl, hstart⟩ := splitAtByte?_eq_some_iff.mp hkept
    obtain ⟨rfl, hwidth⟩ := splitAtByte?_eq_some_iff.mp hfound
    have hcons : some (kept :: more) = some gaps := hcons
    exact ⟨kept, found, behind, more, rfl, hstart, hwidth, hmore, (Option.some.inj hcons).symm⟩
  · rintro ⟨kept, found, behind, more, rfl, hstart, hwidth, hmore, rfl⟩
    have hkept : splitAtByte? (start - done) (kept ++ (found ++ behind))
        = some (kept, found ++ behind) := splitAtByte?_eq_some_iff.mpr ⟨rfl, hstart⟩
    have hfound : splitAtByte? width (found ++ behind) = some (found, behind) :=
      splitAtByte?_eq_some_iff.mpr ⟨rfl, hwidth⟩
    simp [gapsAt?, hkept, hfound, hmore]

/-- There is a piece more than there are offsets. -/
theorem length_of_gapsAt?_eq_some {gaps : List Text} (h : gapsAt? width done t starts = some gaps) :
    gaps.length = starts.length + 1 := by
  induction starts generalizing done t gaps with
  | nil =>
    obtain rfl : [t] = gaps := by simpa [gapsAt?] using h
    rfl
  | cons start starts ih =>
    obtain ⟨kept, found, behind, more, -, -, -, hmore, rfl⟩ := gapsAt?_cons_eq_some_iff.mp h
    rw [List.length_cons, ih hmore, List.length_cons]

/-- Replacing puts the replacement between the pieces. -/
theorem replaceAt?_eq_map_join (width : Nat) (replacement : Text) (done : Nat) (t : Text)
    (starts : List Nat) :
    replaceAt? width replacement done t starts
      = (gapsAt? width done t starts).map (join replacement) := by
  induction starts generalizing done t with
  | nil => rfl
  | cons start starts ih =>
    rw [replaceAt?, gapsAt?]
    cases splitAtByte? (start - done) t with
    | none => rfl
    | some front =>
      cases hbehind : splitAtByte? width front.2 with
      | none => simp [hbehind]
      | some found =>
        cases hmore : gapsAt? width (start + width) found.2 starts with
        | none => simp [hbehind, ih, hmore]
        | some more =>
          obtain ⟨piece, pieces, rfl⟩ : ∃ piece pieces, more = piece :: pieces :=
            List.exists_cons_of_length_eq_add_one (length_of_gapsAt?_eq_some hmore)
          simp [hbehind, ih, hmore, join]

/-- Offsets in order, none within `width` bytes of the one before or in front of `done`. -/
def Spaced (width : Nat) : Nat → List Nat → Prop
  | _, [] => True
  | done, start :: rest => done ≤ start ∧ Spaced width (start + width) rest

/-- No offset lies in front of where the text begins. -/
theorem Spaced.le (h : Spaced width done starts) : ∀ start ∈ starts, done ≤ start := by
  induction starts generalizing done with
  | nil => exact nofun
  | cons start starts ih =>
    refine List.forall_mem_cons.mpr ⟨h.1, fun later hlater => ?_⟩
    have hle := ih h.2 later hlater
    have hfirst := h.1
    omega

/-- The text may as well begin earlier. -/
theorem Spaced.mono {done' : Nat} (h : Spaced width done starts) (hle : done' ≤ done) :
    Spaced width done' starts := by
  cases starts with
  | nil => trivial
  | cons start starts => exact ⟨Nat.le_trans hle h.1, h.2⟩

/-- A text is cut at the same place whether or not what stands in front of it is counted. -/
theorem splitAtByte?_append_eq_none_iff (hle : byteLength front ≤ n) :
    splitAtByte? n (front ++ rest) = none ↔ splitAtByte? (n - byteLength front) rest = none := by
  have happend := splitAtByte?_append front rest (n - byteLength front)
  rw [Nat.add_sub_cancel' hle] at happend
  rw [happend, Option.map_eq_none_iff]

/-- **A character is cut** if one of the offsets, or `width` bytes behind it, falls into it. -/
theorem gapsAt?_eq_none_iff (h : Spaced width done starts) :
    gapsAt? width done t starts = none
      ↔ ∃ start ∈ starts, splitAtByte? (start - done) t = none
        ∨ splitAtByte? (start + width - done) t = none := by
  -- each cut is made in what the cuts before it have left of the text
  induction starts generalizing done t with
  | nil => simp [gapsAt?]
  | cons start starts ih =>
    obtain ⟨hstart, hlater⟩ := h
    rw [List.exists_mem_cons_iff, gapsAt?]
    cases hkept : splitAtByte? (start - done) t with
    | none => simp
    | some cut =>
      obtain ⟨kept, rest⟩ := cut
      obtain ⟨rfl, hlength⟩ := splitAtByte?_eq_some_iff.mp hkept
      have hstop : splitAtByte? (start + width - done) (kept ++ rest) = none
          ↔ splitAtByte? width rest = none := by
        rw [splitAtByte?_append_eq_none_iff (by omega)]
        rw [show start + width - done - byteLength kept = width by omega]
      cases hfound : splitAtByte? width rest with
      | none => simp [hstop, hfound]
      | some cut =>
        obtain ⟨found, behind⟩ := cut
        obtain ⟨rfl, hwidth⟩ := splitAtByte?_eq_some_iff.mp hfound
        -- the offsets that follow lie behind what is kept and what is found
        have hbehind : ∀ n, start + width ≤ n →
            (splitAtByte? (n - done) (kept ++ (found ++ behind)) = none
              ↔ splitAtByte? (n - (start + width)) behind = none) := by
          intro n hn
          rw [← List.append_assoc, splitAtByte?_append_eq_none_iff
            (by rw [byteLength_append]; omega), byteLength_append]
          rw [show n - done - (byteLength kept + byteLength found) = n - (start + width) by omega]
        have hmore : gapsAt? width (start + width) behind starts = none
            ↔ ∃ later ∈ starts, splitAtByte? (later - done) (kept ++ (found ++ behind)) = none
              ∨ splitAtByte? (later + width - done) (kept ++ (found ++ behind)) = none := by
          rw [ih hlater]
          refine exists_congr fun later => and_congr_right fun hmem => ?_
          have hle := hlater.le later hmem
          rw [hbehind later hle, hbehind (later + width) (by omega)]
        rw [← hmore, hstop, hfound]
        cases hpieces : gapsAt? width (start + width) behind starts <;> simp [hfound, hpieces]

/-- Occurrences do not overlap. -/
theorem spaced_occurrencesFrom (needle : Text) (resume offset : Nat) (t : Text) :
    Spaced needle.byteLength (max resume offset) (occurrencesFrom needle resume offset t) := by
  induction t generalizing resume offset with
  | nil => trivial
  | cons c t ih =>
    rw [occurrencesFrom]
    split
    · next hfound =>
      exact ⟨Nat.max_le.mpr ⟨hfound.1, Nat.le_refl _⟩, (ih _ _).mono (Nat.le_max_left _ _)⟩
    · exact (ih _ _).mono (by omega)

/-! ## §3. What is meant -/

/-- How many characters at the front make up `needle` in lower case. -/
def passed? : Text → List Cased → Option Nat
  | [], _ => some 0
  | _ :: _, [] => none
  | x :: needle, c :: rest =>
    if c.lower.isPrefixOf (x :: needle) then
      (passed? ((x :: needle).drop c.lower.length) rest).map (· + 1)
    else none

/-- The pieces of a text between the characters that make up `needle` in lower case, found
    from the left.  The first `skip` characters belong to such an occurrence. -/
def gaps (needle : Text) : Nat → List Cased → List Text
  | _, [] => [[]]
  | skip + 1, _ :: rest => gaps needle skip rest
  | 0, c :: rest =>
    match passed? needle (c :: rest) with
    | some (more + 1) => [] :: gaps needle more rest
    | _ => (gaps needle 0 rest).modifyHead (c.char :: ·)

/-- Lower-casing changes neither the length of the text nor that of the needle. -/
def KeepsLength (needle t : Text) : Prop :=
  t.lowercase.byteLength = t.byteLength ∧ needle.lowercase.byteLength = needle.byteLength

instance (needle t : Text) : Decidable (KeepsLength needle t) :=
  inferInstanceAs (Decidable (_ ∧ _))

/-- What a replacement comes to, from the pieces that it stands between. -/
def ofPieces (replacement : Text) : Option (List Text) → Replacement
  | none => .cutsCharacter
  | some [_] => .absent
  | some pieces => .replaced (join replacement pieces)

/-- With several pieces the replacement stands between them. -/
theorem ofPieces_some {replacement : Text} {pieces : List Text} (h : pieces.length ≠ 1) :
    ofPieces replacement (some pieces) = .replaced (join replacement pieces) := by
  unfold ofPieces
  split
  · next heq => exact nomatch heq
  · next heq =>
    injection heq with heq
    exact absurd (congrArg List.length heq) h
  · next heq =>
    injection heq with heq
    rw [heq]

/-- With pieces no character is cut. -/
theorem ofPieces_some_ne_cutsCharacter {replacement : Text} (pieces : List Text) :
    ofPieces replacement (some pieces) ≠ .cutsCharacter := by
  by_cases hone : pieces.length = 1
  · obtain ⟨piece, rfl⟩ := List.length_eq_one_iff.mp hone
    exact nofun
  · rw [ofPieces_some hone]
    exact nofun

/-- With one piece there is nothing to be replaced. -/
theorem ofPieces_eq_absent_iff {replacement : Text} {pieces : List Text} :
    ofPieces replacement (some pieces) = .absent ↔ pieces.length = 1 := by
  by_cases hone : pieces.length = 1
  · obtain ⟨piece, rfl⟩ := List.length_eq_one_iff.mp hone
    exact iff_of_true rfl rfl
  · rw [ofPieces_some hone]
    exact iff_of_false nofun hone

/-- A needle that keeps its length is not lost in lower case. -/
theorem KeepsLength.lowercase_ne_nil (h : KeepsLength needle t) (hneedle : needle ≠ []) :
    needle.lowercase ≠ [] := by
  intro hnil
  obtain ⟨c, rest, rfl⟩ := List.exists_cons_of_ne_nil hneedle
  have hlength := h.2
  have hpos := c.utf8Size_pos
  rw [hnil, byteLength_nil, byteLength_cons] at hlength
  omega

/-- The pieces of a text between the characters that make up the needle. -/
def piecesMeant (needle t : Text) : List Text := gaps needle.lowercase 0 (cased t)

/-- **What is meant**: the text with every occurrence of the needle, in any case, replaced,
    character for character.  Where lengths change, occurrences cannot be located. -/
def replaceLocated (needle replacement t : Text) : Replacement :=
  if KeepsLength needle t then ofPieces replacement (some (piecesMeant needle t)) else .absent

/-! ## §4. What is done -/

/-- Offsets at which the lower-case form of the needle occurs in that of the text. -/
def occurrences (needle t : Text) : List Nat := occurrencesFrom needle.lowercase 0 0 t.lowercase

/-- The pieces of a text between the bytes at these offsets. -/
def piecesFound? (needle t : Text) : Option (List Text) :=
  gapsAt? needle.byteLength 0 t (occurrences needle t)

/-- Where lengths change, nothing is replaced. -/
theorem replaceIgnoringCase_of_not_keepsLength {replacement : Text} (h : ¬KeepsLength needle t) :
    replaceIgnoringCase needle replacement t = .absent := by
  unfold replaceIgnoringCase
  exact if_pos (not_and_or.mp h)

/-- Where lengths are kept, the replacement is put between the pieces that are found. -/
theorem replaceIgnoringCase_of_keepsLength {replacement : Text} (h : KeepsLength needle t) :
    replaceIgnoringCase needle replacement t = ofPieces replacement (piecesFound? needle t) := by
  have hlengths : ¬(t.lowercase.byteLength ≠ t.byteLength
      ∨ needle.lowercase.byteLength ≠ needle.byteLength) := fun hnot => not_and_or.mpr hnot h
  unfold replaceIgnoringCase piecesFound? occurrences
  simp only [if_neg hlengths]
  cases occurrencesFrom needle.lowercase 0 0 t.lowercase with
  | nil => rfl
  | cons start starts =>
    simp only [replaceAt?_eq_map_join]
    cases hpieces : gapsAt? needle.byteLength 0 t (start :: starts) with
    | none => rfl
    | some pieces =>
      have hlength := length_of_gapsAt?_eq_some hpieces
      rw [ofPieces_some (by simp [hlength])]
      rfl

/-- The needle occurs, in lower case, at bytes that begin or end inside a character of the
    text, while the lengths as a whole are kept. -/
def CutsCharacter (needle t : Text) : Prop :=
  KeepsLength needle t ∧ ∃ start ∈ occurrences needle t,
    splitAtByte? start t = none ∨ splitAtByte? (start + needle.byteLength) t = none

instance (needle t : Text) : Decidable (CutsCharacter needle t) :=
  inferInstanceAs (Decidable (_ ∧ _))

/-- **When a character is cut.** -/
theorem replaceIgnoringCase_eq_cutsCharacter_iff {replacement : Text} :
    replaceIgnoringCase needle replacement t = .cutsCharacter ↔ CutsCharacter needle t := by
  unfold CutsCharacter
  by_cases hkeeps : KeepsLength needle t
  · have hspaced : Spaced needle.byteLength 0 (occurrences needle t) := by
      have hspaced := spaced_occurrencesFrom needle.lowercase 0 0 t.lowercase
      rw [hkeeps.2] at hspaced
      exact hspaced
    have hgaps := gapsAt?_eq_none_iff (t := t) hspaced
    simp only [Nat.sub_zero] at hgaps
    rw [← hgaps, replaceIgnoringCase_of_keepsLength hkeeps, piecesFound?]
    cases gapsAt? needle.byteLength 0 t (occurrences needle t) with
    | none => simp [ofPieces, hkeeps]
    | some pieces => simp [ofPieces_some_ne_cutsCharacter pieces]
  · simp [replaceIgnoringCase_of_not_keepsLength hkeeps, hkeeps]

/-! ## §5. When it is what is meant -/

/-- The first of several pieces, joined to the others. -/
theorem join_cons_of_ne_nil (separator piece : Text) {pieces : List Text} (h : pieces ≠ []) :
    join separator (piece :: pieces) = piece ++ (separator ++ join separator pieces) := by
  obtain ⟨next, rest, rfl⟩ := List.exists_cons_of_ne_nil h
  simp [join]

/-- A text that goes on with any character at its end is not shorter than another one that
    does so. -/
theorem length_le_of_forall_append_eq {u v : Text}
    (h : ∀ x : Char, ∃ more more', u ++ x :: more = v ++ x :: more') : v.length ≤ u.length := by
  by_contra hlt
  have hat : ∀ x : Char, v[u.length]? = some x := by
    intro x
    obtain ⟨more, more', heq⟩ := h x
    -- the shorter text has the character at its end, where the longer one has its own
    have hu : (u ++ x :: more)[u.length]? = some x := by simp
    rw [heq, List.getElem?_append_left (by omega)] at hu
    exact hu
  exact absurd ((hat 'a').symm.trans (hat 'b')) (by decide)

/-- **Pieces are told from what they make up** with different texts between them. -/
theorem eq_of_forall_join_eq {pieces pieces' : List Text} (hne : pieces ≠ []) (hne' : pieces' ≠ [])
    (h : ∀ separator, join separator pieces = join separator pieces') : pieces = pieces' := by
  -- one piece does not grow with the separator, and more than one do
  have hgrows : ∀ (piece piece' : Text) (others : List Text), others ≠ [] →
      ¬∀ separator, join separator [piece] = join separator (piece' :: others) := by
    intro piece piece' others hothers hjoin
    have hlength := congrArg List.length (hjoin (List.replicate (piece.length + 1) 'a'))
    rw [join_cons_of_ne_nil _ _ hothers] at hlength
    simp [join] at hlength
    omega
  induction pieces generalizing pieces' with
  | nil => exact absurd rfl hne
  | cons piece others ih =>
    obtain ⟨piece', others', rfl⟩ := List.exists_cons_of_ne_nil hne'
    by_cases hothers : others = []
    · by_cases hothers' : others' = []
      · subst hothers hothers'
        exact congrArg (fun t => [t]) (h [])
      · subst hothers
        exact absurd h (hgrows piece piece' others' hothers')
    · by_cases hothers' : others' = []
      · subst hothers'
        exact absurd (fun separator => (h separator).symm) (hgrows piece' piece others hothers)
      · simp only [join_cons_of_ne_nil _ _ hothers, join_cons_of_ne_nil _ _ hothers'] at h
        have hlength : piece.length = piece'.length :=
          Nat.le_antisymm (length_le_of_forall_append_eq fun x => ⟨_, _, (h [x]).symm⟩)
            (length_le_of_forall_append_eq fun x => ⟨_, _, h [x]⟩)
        obtain ⟨rfl, -⟩ := List.append_inj (h []) hlength
        rw [ih hothers hothers' fun separator =>
          List.append_cancel_left (List.append_cancel_left (h separator))]

/-- There is at least one piece. -/
theorem gaps_ne_nil (needle : Text) (skip : Nat) (cs : List Cased) : gaps needle skip cs ≠ [] := by
  fun_induction gaps needle skip cs with
  | case1 => exact List.cons_ne_nil _ _
  | case2 skip c rest ih => exact ih
  | case3 => exact List.cons_ne_nil _ _
  | case4 c rest hpassed ih =>
    obtain ⟨piece, pieces, hpieces⟩ := List.exists_cons_of_ne_nil ih
    rw [hpieces]
    exact List.cons_ne_nil _ _

/-- If there is one piece, it is the whole text. -/
theorem eq_chars_of_gaps_eq_singleton {piece : Text} {cs : List Cased}
    (h : gaps needle 0 cs = [piece]) : piece = chars cs := by
  induction cs generalizing piece with
  | nil => exact (List.cons.inj h).1.symm
  | cons c cs ih =>
    rw [gaps] at h
    split at h
    · exact absurd (List.cons.inj h).2 (gaps_ne_nil needle _ cs)
    · obtain ⟨first, others, hpieces⟩ := List.exists_cons_of_ne_nil (gaps_ne_nil needle 0 cs)
      rw [hpieces, List.modifyHead_cons] at h
      obtain ⟨rfl, rfl⟩ := List.cons.inj h
      rw [ih hpieces, chars_cons]

/-- The pieces are the whole text if there is one of them. -/
theorem ofPieces_eq_iff {pieces pieces' : List Text} (hne : pieces ≠ []) (hne' : pieces' ≠ [])
    (hwhole : pieces.length = 1 → pieces = [t]) (hwhole' : pieces'.length = 1 → pieces' = [t]) :
    (∀ replacement, ofPieces replacement (some pieces) = ofPieces replacement (some pieces'))
      ↔ pieces = pieces' := by
  refine ⟨fun h => ?_, fun heq _ => by rw [heq]⟩
  have habsent : ∀ piece, ofPieces [] (some [piece]) = .absent := fun _ => rfl
  by_cases hone : pieces.length = 1 <;> by_cases hone' : pieces'.length = 1
  · rw [hwhole hone, hwhole' hone']
  · have hempty := h []
    rw [hwhole hone, habsent, ofPieces_some hone'] at hempty
    exact nomatch hempty
  · have hempty := h []
    rw [hwhole' hone', habsent, ofPieces_some hone] at hempty
    exact nomatch hempty
  · refine eq_of_forall_join_eq hne hne' fun separator => ?_
    have hsame := h separator
    rw [ofPieces_some hone, ofPieces_some hone'] at hsame
    injection hsame

/-- **When what is found is what is replaced.**  Whatever the replacement is, it is made as
    meant if and only if the pieces that the offsets leave are those that are meant. -/
theorem replaceIgnoringCase_eq_replaceLocated_iff :
    (∀ replacement, replaceIgnoringCase needle replacement t = replaceLocated needle replacement t)
      ↔ (KeepsLength needle t → piecesFound? needle t = some (piecesMeant needle t)) := by
  by_cases hkeeps : KeepsLength needle t
  · have hmeant : ∀ replacement, replaceLocated needle replacement t
        = ofPieces replacement (some (piecesMeant needle t)) := fun _ => if_pos hkeeps
    simp only [replaceIgnoringCase_of_keepsLength hkeeps, hmeant, hkeeps, true_imp_iff]
    -- either way, a single piece is the whole text, in which nothing was found
    have hwhole : (piecesMeant needle t).length = 1 → piecesMeant needle t = [t] := by
      intro hone
      obtain ⟨piece, hpiece⟩ := List.length_eq_one_iff.mp hone
      rw [hpiece, eq_chars_of_gaps_eq_singleton hpiece, chars_cased]
    cases hfound : piecesFound? needle t with
    | none =>
      refine iff_of_false (fun h => ?_) nofun
      exact ofPieces_some_ne_cutsCharacter _ (h []).symm
    | some pieces =>
      have hlength := length_of_gapsAt?_eq_some hfound
      have hwhole' : pieces.length = 1 → pieces = [t] := by
        intro hone
        have hstarts : occurrences needle t = [] := List.length_eq_zero_iff.mp (by omega)
        rw [piecesFound?, hstarts] at hfound
        exact (Option.some.inj hfound).symm
      have hne : piecesMeant needle t ≠ [] := gaps_ne_nil _ _ _
      rw [ofPieces_eq_iff (List.ne_nil_of_length_pos (by omega)) hne hwhole' hwhole, Option.some_inj]
  · have hmeant : ∀ replacement, replaceLocated needle replacement t = .absent :=
      fun _ => if_neg hkeeps
    simp [replaceIgnoringCase_of_not_keepsLength hkeeps, hmeant, hkeeps]

/-! ## §6. Characters that keep their size -/

/-- The characters that are passed make up the needle. -/
theorem passed?_eq_some {cs : List Cased} (h : passed? needle cs = some n) :
    ∃ front behind, cs = front ++ behind ∧ front.length = n ∧ lowers front = needle := by
  fun_induction passed? needle cs generalizing n with
  | case1 cs => exact ⟨[], cs, rfl, Option.some.inj h, rfl⟩
  | case2 => exact nomatch h
  | case3 x needle c rest hprefix ih =>
    obtain ⟨m, hm, rfl⟩ := Option.map_eq_some_iff.mp h
    obtain ⟨front, behind, rfl, hlength, hlowers⟩ := ih hm
    refine ⟨c :: front, behind, rfl, by rw [List.length_cons, hlength], ?_⟩
    rw [lowers_cons, hlowers]
    exact List.prefix_iff_eq_append.mp (List.isPrefixOf_iff_prefix.mp hprefix)
  | case4 => exact nomatch h

/-- Characters that make up the needle are passed, whatever follows. -/
theorem passed?_append {found : List Cased} (behind : List Cased) (h : lowers found = needle) :
    ∃ n, passed? needle (found ++ behind) = some n := by
  induction found generalizing needle with
  | nil => exact ⟨0, by rw [← h, lowers_nil, passed?]⟩
  | cons c found ih =>
    cases needle with
    | nil => exact ⟨0, rfl⟩
    | cons x needle =>
      rw [lowers_cons] at h
      have hrest : lowers found = (x :: needle).drop c.lower.length := by rw [← h, List.drop_left]
      obtain ⟨n, hn⟩ := ih hrest
      have hhead : c.lower.isPrefixOf (x :: needle) = true := by
        rw [← h]
        exact List.isPrefixOf_iff_prefix.mpr (List.prefix_append _ _)
      exact ⟨n + 1, by simp [passed?, hhead, hn]⟩

/-- Where characters have lower-case forms of one character, every occurrence is one of
    whole characters. -/
theorem exists_passed?_eq_some {cs : List Cased} (hsingle : ∀ c ∈ cs, ∃ x, c.lower = [x])
    (h : needle <+: lowers cs) : ∃ n, passed? needle cs = some n := by
  induction cs generalizing needle with
  | nil => exact ⟨0, by rw [List.prefix_nil.mp h]; rfl⟩
  | cons c cs ih =>
    obtain ⟨⟨x, hx⟩, hrest⟩ := List.forall_mem_cons.mp hsingle
    cases needle with
    | nil => exact ⟨0, rfl⟩
    | cons y needle =>
      rw [lowers_cons, hx, List.singleton_append] at h
      obtain ⟨rfl, hneedle⟩ := List.cons_prefix_cons.mp h
      obtain ⟨n, hn⟩ := ih hrest hneedle
      exact ⟨n + 1, by simp [passed?, hx, hn]⟩

/-- Characters to be skipped may as well be dropped. -/
theorem gaps_eq_gaps_drop (needle : Text) (skip : Nat) (cs : List Cased) :
    gaps needle skip cs = gaps needle 0 (cs.drop skip) := by
  induction skip generalizing cs with
  | zero => rfl
  | succ skip ih =>
    cases cs with
    | nil => rfl
    | cons c cs => exact ih cs

/-- Where an occurrence begins, a piece ends. -/
theorem exists_gaps_eq_cons (hneedle : needle ≠ []) {c : Cased} {cs : List Cased}
    (h : ∃ n, passed? needle (c :: cs) = some n) :
    ∃ front behind, cs = front ++ behind ∧ lowers (c :: front) = needle
      ∧ gaps needle 0 (c :: cs) = [] :: gaps needle 0 behind := by
  obtain ⟨n, hn⟩ := h
  obtain ⟨front, behind, hcs, rfl, rfl⟩ := passed?_eq_some hn
  obtain ⟨c', front, rfl⟩ : ∃ c' rest, front = c' :: rest :=
    List.exists_cons_of_ne_nil fun hnil => hneedle (by rw [hnil, lowers_nil])
  rw [List.cons_append] at hcs
  obtain ⟨rfl, rfl⟩ := List.cons.inj hcs
  refine ⟨front, behind, rfl, rfl, ?_⟩
  rw [gaps, hn]
  show [] :: gaps _ front.length (front ++ behind) = _
  rw [gaps_eq_gaps_drop, List.drop_left]

/-- Where none begins, a piece goes on. -/
theorem gaps_of_passed?_eq_none {c : Cased} {cs : List Cased}
    (h : passed? needle (c :: cs) = none) :
    gaps needle 0 (c :: cs) = (gaps needle 0 cs).modifyHead (c.char :: ·) := by
  rw [gaps, h]

/-- There is one piece if no characters make up the needle. -/
theorem length_gaps_eq_one_iff (hneedle : needle ≠ []) {cs : List Cased} :
    (gaps needle 0 cs).length = 1
      ↔ ∀ front found behind, cs = front ++ (found ++ behind) → lowers found ≠ needle := by
  induction cs with
  | nil =>
    refine iff_of_true rfl fun front found behind hcs hfound => hneedle ?_
    obtain ⟨-, hnil⟩ := List.append_eq_nil_iff.mp hcs.symm
    rw [← hfound, (List.append_eq_nil_iff.mp hnil).1, lowers_nil]
  | cons c cs ih =>
    cases hpassed : passed? needle (c :: cs) with
    | some n =>
      obtain ⟨front, behind, rfl, hfound, hgaps⟩ := exists_gaps_eq_cons hneedle ⟨n, hpassed⟩
      have hpos := List.length_pos_iff.mpr (gaps_ne_nil needle 0 behind)
      refine iff_of_false ?_ fun hnone => hnone [] (c :: front) behind rfl hfound
      rw [hgaps, List.length_cons]
      omega
    | none =>
      rw [gaps_of_passed?_eq_none hpassed, List.length_modifyHead, ih]
      constructor
      · intro hnone front found behind hcs hfound
        -- an occurrence at the first character would have been found
        cases front with
        | nil =>
          obtain ⟨n, hn⟩ := passed?_append behind hfound
          rw [← List.nil_append (found ++ behind), ← hcs, hpassed] at hn
          exact nomatch hn
        | cons c' front => exact hnone front found behind (List.cons.inj hcs).2 hfound
      · intro hnone front found behind hcs
        exact hnone (c :: front) found behind (by rw [hcs]; rfl)

/-- **Nothing is replaced as meant** if and only if lengths change or the needle does not occur. -/
theorem replaceLocated_eq_absent_iff (hneedle : needle ≠ []) {replacement : Text} :
    replaceLocated needle replacement t = .absent
      ↔ ¬(KeepsLength needle t ∧ ∃ front found behind, cased t = front ++ (found ++ behind)
        ∧ lowers found = needle.lowercase) := by
  by_cases hkeeps : KeepsLength needle t
  · have hmeant : replaceLocated needle replacement t
        = ofPieces replacement (some (piecesMeant needle t)) := if_pos hkeeps
    rw [hmeant, ofPieces_eq_absent_iff, piecesMeant,
      length_gaps_eq_one_iff (hkeeps.lowercase_ne_nil hneedle)]
    simp [hkeeps]
  · exact iff_of_true (if_neg hkeeps) fun h => hkeeps h.1

/-- Nothing is found inside of what was found. -/
theorem occurrencesFrom_append {resume offset : Nat} {u : Text} (v : Text)
    (h : offset + u.byteLength ≤ resume) :
    occurrencesFrom needle resume offset (u ++ v)
      = occurrencesFrom needle resume (offset + u.byteLength) v := by
  induction u generalizing offset with
  | nil => rfl
  | cons c u ih =>
    have hpos := c.utf8Size_pos
    rw [byteLength_cons] at h ⊢
    rw [List.cons_append, occurrencesFrom, if_neg (by omega), ih (by omega), Nat.add_assoc]

/-- A character in front of all offsets belongs to the first piece. -/
theorem gapsAt?_cons {c : Char} (h : ∀ start ∈ starts, done + c.utf8Size ≤ start) (width : Nat)
    (t : Text) :
    gapsAt? width done (c :: t) starts
      = (gapsAt? width (done + c.utf8Size) t starts).map (List.modifyHead (c :: ·)) := by
  cases starts with
  | nil => rfl
  | cons start starts =>
    have hstart := h start List.mem_cons_self
    have happend := splitAtByte?_append [c] t (start - (done + c.utf8Size))
    rw [byteLength_cons, byteLength_nil, Nat.add_zero,
      show c.utf8Size + (start - (done + c.utf8Size)) = start - done by omega] at happend
    rw [gapsAt?, gapsAt?, show c :: t = [c] ++ t from rfl, happend]
    cases splitAtByte? (start - (done + c.utf8Size)) t with
    | none => rfl
    | some front =>
      cases hbehind : splitAtByte? width front.2 with
      | none => simp [hbehind]
      | some found =>
        cases hmore : gapsAt? width (start + width) found.2 starts with
        | none => simp [hbehind, hmore]
        | some more => simp [hbehind, hmore]

/-- Characters that keep their sizes keep their length together. -/
theorem KeepsSizes.byteLength_chars {cs : List Cased} (h : KeepsSizes cs) :
    byteLength (chars cs) = byteLength (lowers cs) := by
  induction cs with
  | nil => rfl
  | cons c cs ih =>
    obtain ⟨hc, hrest⟩ := List.forall_mem_cons.mp h
    rw [chars_cons, byteLength_cons, ih hrest, lowers_cons, byteLength_append, hc]

/-- No whole characters are read where the lower-case form does not go on like the needle. -/
theorem passed?_eq_none_of_not_prefix {cs : List Cased} (h : ¬needle <+: lowers cs) :
    passed? needle cs = none := by
  refine Option.eq_none_iff_forall_ne_some.mpr fun n hn => h ?_
  obtain ⟨front, behind, rfl, -, rfl⟩ := passed?_eq_some hn
  rw [lowers_append]
  exact List.prefix_append _ _

/-- The pieces that the offsets in the lower-case form leave are those that are meant. -/
theorem gapsAt?_occurrencesFrom (hneedle : needle ≠ []) {cs : List Cased} (hsizes : KeepsSizes cs)
    (hsingle : ∀ c ∈ cs, ∃ x, c.lower = [x]) {resume offset : Nat} (hresume : resume ≤ offset) :
    gapsAt? needle.byteLength offset (chars cs) (occurrencesFrom needle resume offset (lowers cs))
      = some (gaps needle 0 cs) := by
  -- on the number of characters, for an occurrence passes several of them at once
  induction hlength : cs.length using Nat.strongRecOn generalizing cs resume offset with
  | _ length ih =>
  subst hlength
  cases cs with
  | nil => rfl
  | cons c cs =>
    obtain ⟨⟨x, hx⟩, hrest⟩ := List.forall_mem_cons.mp hsingle
    obtain ⟨hc, hrestSizes⟩ := List.forall_mem_cons.mp hsizes
    have hsize : x.utf8Size = c.char.utf8Size := by simpa [hx] using hc
    rw [lowers_cons, hx, List.singleton_append, occurrencesFrom]
    by_cases hfound : needle <+: x :: lowers cs
    · -- an occurrence begins here: it is one of whole characters
      have hwhole : needle <+: lowers (c :: cs) := by
        rw [lowers_cons, hx]
        exact hfound
      obtain ⟨front, behind, rfl, rfl, hgaps⟩ :=
        exists_gaps_eq_cons hneedle (exists_passed?_eq_some hsingle hwhole)
      have hwidth : byteLength (chars (c :: front)) = byteLength (lowers (c :: front)) := by
        refine KeepsSizes.byteLength_chars fun c' hc' => hsizes c' ?_
        rw [← List.cons_append]
        exact List.mem_append_left _ hc'
      have hskip : byteLength (lowers (c :: front)) = x.utf8Size + byteLength (lowers front) := by
        rw [lowers_cons, hx]
        rfl
      rw [if_pos ⟨hresume, List.isPrefixOf_iff_prefix.mpr hfound⟩, hgaps]
      refine gapsAt?_cons_eq_some_iff.mpr ⟨[], chars (c :: front), chars behind, _, ?_, ?_, hwidth,
        ?_, rfl⟩
      · rw [← chars_append]
        rfl
      · rw [Nat.sub_self]
        rfl
      · rw [lowers_append, occurrencesFrom_append _ (by omega), Nat.add_assoc, ← hskip]
        refine ih behind.length ?_ (fun c hc => hrestSizes c (List.mem_append_right _ hc))
          (fun c hc => hrest c (List.mem_append_right _ hc)) (Nat.le_refl _) rfl
        simp only [List.length_cons, List.length_append]
        omega
    · have hnot : ¬(resume ≤ offset ∧ needle.isPrefixOf (x :: lowers cs) = true) := fun h =>
        hfound (List.isPrefixOf_iff_prefix.mp h.2)
      have hnone : passed? needle (c :: cs) = none := by
        refine passed?_eq_none_of_not_prefix ?_
        rw [lowers_cons, hx]
        exact hfound
      have hbehind : ∀ start ∈ occurrencesFrom needle resume (offset + x.utf8Size) (lowers cs),
          offset + c.char.utf8Size ≤ start := fun start hstart => by
        have hle := (spaced_occurrencesFrom _ _ _ _).le start hstart
        omega
      rw [if_neg hnot, chars_cons, gapsAt?_cons hbehind, gaps_of_passed?_eq_none hnone, ← hsize,
        ih cs.length (by simp) hrestSizes hrest (by omega) rfl]
      rfl

/-- Only the dotted capital I has a lower-case form of two characters, and this is longer
    than it. -/
theorem KeepsSizes.exists_lower_eq {before : Text} (h : KeepsSizes (casedAfter before t)) :
    ∀ c ∈ casedAfter before t, ∃ x, c.lower = [x] := by
  induction t generalizing before with
  | nil => exact nofun
  | cons c t ih =>
    obtain ⟨hc, hrest⟩ := List.forall_mem_cons.mp h
    refine List.forall_mem_cons.mpr ⟨?_, ih hrest⟩
    show ∃ x, Unicode.lowered before c t = [x]
    have hc : byteLength (Unicode.lowered before c t) = c.utf8Size := hc
    unfold Unicode.lowered at hc ⊢
    split_ifs at hc ⊢ with hdotted hsigma
    · have heq : c = Char.ofNat 0x130 := by
        rw [← hdotted]
        exact (Char.ofNat_toNat c).symm
      rw [heq] at hc
      exact absurd hc (by decide)
    all_goals exact ⟨_, rfl⟩

/-- **Where every character keeps its size**, what is found is what is meant. -/
theorem pieces_of_keepsSizes (hneedle : needle ≠ []) (hkeeps : KeepsLength needle t)
    (hsizes : KeepsSizes (cased t)) : piecesFound? needle t = some (piecesMeant needle t) := by
  have hpieces := gapsAt?_occurrencesFrom (hkeeps.lowercase_ne_nil hneedle) hsizes
    hsizes.exists_lower_eq (Nat.le_refl 0)
  rw [chars_cased, lowers_cased, hkeeps.2] at hpieces
  exact hpieces

end Text

end TableLedger
