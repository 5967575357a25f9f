/-
  TableLedger.Proofs.Identifier — names and how they are written.

  Taking quotes off makes a text shorter, so a name that is written in
  quotes is never its own canonical form; any other name is if and only if
  trimming and lower-casing leave it alone.  The other way round, no two
  names are written in a statement alike.

  Main statements:
    • `canonicalize_eq_self_iff` — the fixed points of `canonicalize`,
    • `requote_injective` — a name can be told from how it is written.
-/

import TableLedger.Identifier

namespace TableLedger

/-! ## §1. Lengths -/

namespace Text

theorem length_trimStart_le (t : Text) : t.trimStart.length ≤ t.length :=
  (List.dropWhile_suffix _).length_le

theorem length_trimEnd_le (t : Text) : t.trimEnd.length ≤ t.length := by
  have h := (List.dropWhile_suffix (l := t.reverse) Unicode.isBlank).length_le
  rw [List.length_reverse] at h
  unfold trimEnd
  rw [List.length_reverse]
  exact h

theorem length_trim_le (t : Text) : t.trim.length ≤ t.length :=
  Nat.le_trans (length_trimEnd_le _) (length_trimStart_le t)

theorem length_undouble_le (mark : Char) (t : Text) : (undouble mark t).length ≤ t.length := by
  fun_induction undouble mark t with
  | case1 => exact Nat.le_refl 0
  | case2 c => exact Nat.le_refl 1
  | case3 c d rest hmarks ih =>
    simp only [List.length_cons]
    omega
  | case4 c d rest hmarks ih =>
    simp only [List.length_cons] at ih ⊢
    omega

/-- A text that can be unwrapped stands between its marks. -/
theorem exists_of_unwrap? {opening closing : Char} {t inner : Text}
    (h : unwrap? opening closing t = some inner) :
    ∃ body, t = opening :: (body ++ [closing]) ∧ undouble closing body = inner := by
  cases t with
  | nil => simp [unwrap?] at h
  | cons c rest =>
    rw [unwrap?] at h
    split at h
    · next hmarks =>
      obtain ⟨rfl, hlast⟩ := hmarks
      obtain ⟨body, rfl⟩ := List.getLast?_eq_some_iff.mp hlast
      refine ⟨body, rfl, ?_⟩
      rw [List.dropLast_concat] at h
      injection h
    · injection h

/-- The inside of a quoted text is shorter than the text. -/
theorem length_lt_of_unwrap? {opening closing : Char} {t inner : Text}
    (h : unwrap? opening closing t = some inner) : inner.length < t.length := by
  obtain ⟨body, rfl, rfl⟩ := exists_of_unwrap? h
  have hlength := length_undouble_le closing body
  rw [List.length_cons, List.length_append]
  omega

end Text

namespace Identifier

/-- What is in quotes is in one of the pairs of marks that the style has. -/
theorem exists_unwrap?_of_unquoteOnce? {style : QuoteStyle} {t inner : Text}
    (h : unquoteOnce? style t = some inner) :
    ∃ opening closing, (opening = '[' ∧ closing = ']' ∨ opening = '"' ∧ closing = '"')
      ∧ Text.unwrap? opening closing t = some inner := by
  cases style with
  | doubleQuote => exact ⟨'"', '"', .inr ⟨rfl, rfl⟩, h⟩
  | bracket =>
    unfold unquoteOnce? at h
    cases hbracket : Text.unwrap? '[' ']' t with
    | some found =>
      have hfound : found = inner := by simpa [hbracket] using h
      exact ⟨'[', ']', .inl ⟨rfl, rfl⟩, hfound ▸ hbracket⟩
    | none =>
      have hquote : Text.unwrap? '"' '"' t = some inner := by simpa [hbracket] using h
      exact ⟨'"', '"', .inr ⟨rfl, rfl⟩, hquote⟩

/-- A text becomes shorter when its quotes are taken away. -/
theorem length_lt_of_unquoteOnce? {style : QuoteStyle} {t inner : Text}
    (h : unquoteOnce? style t = some inner) : inner.length < t.length := by
  obtain ⟨opening, closing, -, hinner⟩ := exists_unwrap?_of_unquoteOnce? h
  exact Text.length_lt_of_unwrap? hinner

/-- Quotes are taken away if one pair of them can be. -/
theorem isSome_unquote? (style : QuoteStyle) (t : Text) :
    (unquote? style t).isSome = (unquoteOnce? style t).isSome := by
  cases style with
  | doubleQuote => rfl
  | bracket => exact Option.isSome_map

/-- However many pairs are taken away, the text becomes shorter. -/
theorem length_lt_of_unquote? {style : QuoteStyle} {t inner : Text}
    (h : unquote? style t = some inner) : inner.length < t.length := by
  cases style with
  | doubleQuote =>
    have honce : unquoteOnce? .doubleQuote t = some inner := h
    exact length_lt_of_unquoteOnce? honce
  | bracket =>
    obtain ⟨once, honce, hinner⟩ := Option.map_eq_some_iff.mp h
    have hlt := length_lt_of_unquoteOnce? honce
    cases htwice : unquoteOnce? .bracket once with
    | none =>
      have heq : once = inner := by simpa [htwice] using hinner
      exact heq ▸ hlt
    | some twice =>
      have heq : twice = inner := by simpa [htwice] using hinner
      exact Nat.lt_trans (heq ▸ length_lt_of_unquoteOnce? htwice) hlt

/-! ## §2. Fixed points -/

/-- A name is its own canonical form if and only if it is blank, or is written
    without quotes, in lower case and with no white space around it. -/
theorem canonicalize_eq_self_iff (d : Dialect) (name : Text) :
    canonicalize d name = name
      ↔ name.trim = [] ∨ isQuoted d name = false ∧ name.trim.lowercase = name := by
  unfold canonicalize
  by_cases hblank : name.trim = []
  · simp [hblank]
  · have hempty : ¬name.trim.isEmpty = true := by simpa using hblank
    simp only [if_neg hempty, hblank, false_or]
    unfold isQuoted
    rw [← isSome_unquote?]
    cases hunquoted : unquote? d.quoteStyle name.trim with
    | none => simp
    | some inner =>
      -- the inside of the quotes is too short to be the name
      have hlt := length_lt_of_unquote? hunquoted
      have hle := Text.length_trim_le name
      simp only [Option.getD_some, Option.isSome_some, Bool.true_eq_false, false_and, iff_false]
      intro heq
      rw [heq] at hlt
      omega

end Identifier

/-! ## §3. Written names -/

/-- No two texts are quoted alike. -/
theorem Text.wrap_injective {opening closing : Char} :
    Function.Injective (Text.wrap opening closing) := by
  intro t u heq
  have hunwrap := congrArg (Text.unwrap? opening closing) heq
  rw [unwrap?_wrap, unwrap?_wrap] at hunwrap
  injection hunwrap

namespace Identifier

/-- A name that may stand without quotes does not look like one in quotes. -/
theorem ne_wrap_of_isBare {name : Text} (h : isBare name = true) (other : Text) :
    name ≠ Text.wrap '"' '"' other := by
  rintro rfl
  simp [Text.wrap, isBare, opensBare] at h

/-- No two names are written alike. -/
theorem requote_injective (d : Dialect) : Function.Injective (requote d) := by
  intro name other heq
  unfold requote at heq
  split at heq
  · exact Text.wrap_injective heq
  · split at heq
    · next hname =>
      split at heq
      · exact heq
      · exact absurd heq (ne_wrap_of_isBare hname other)
    · split at heq
      · next hother => exact absurd heq.symm (ne_wrap_of_isBare hother name)
      · exact Text.wrap_injective heq

end Identifier

end TableLedger
