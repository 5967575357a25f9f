/-
  TableLedger.Proofs.Identifier.Requoting — canonical names, written and read again.

  A canonical name is meant to be written into a statement in quotes and to come back as
  it was.  In PostgreSQL it does.  The bracket style takes off up to two pairs of quotes,
  whatever stands in them, while writing puts on one pair; so a canonical name that is
  itself in quotes loses them on its way back.  Lower-casing makes no quotes, so such a
  name can only come from one that was written in three pairs, one inside another:

      canonicalize d (requote d (canonicalize d raw)) = canonicalize d raw
        ↔ (d uses brackets → raw does not stand in three pairs of quotes)

  Main statements:
    • `exists_wrapped_of_lowercase` — lower-casing makes no quotes,
    • `looksQuoted_canonicalize_iff` — the canonical names that are in quotes,
    • `canonical_form_survives_iff` — the names whose canonical form comes back.
-/

import Mathlib.Tactic.ByContra
import TableLedger.Proofs.TableRef.RoundTrip

namespace TableLedger

/-! ## §1. Lower-casing makes no quotes -/

namespace Unicode

/-- The marks of the syntax stand in front of the capital letters, or between these and
    the small ones. -/
def isMark (c : Char) : Bool :=
  0 < c.toNat && c.toNat < 0x41 || 0x5B ≤ c.toNat && c.toNat < 0x61

/-- A number behind the marks is the code of a character behind them, or of none. -/
theorem toNat_ofNat_of_le {n : Nat} (h : 0x61 ≤ n) :
    (Char.ofNat n).toNat = 0 ∨ 0x61 ≤ (Char.ofNat n).toNat := by
  by_cases hvalid : n.isValidChar
  · rw [show Char.ofNat n = Char.ofNatAux n hvalid from dif_pos hvalid]
    exact .inr h
  · rw [show Char.ofNat n = '\x00' from dif_neg hvalid]
    exact .inl rfl

/-- No character from the small letters on is a mark. -/
theorem isMark_eq_false_of_toNat {c : Char} (h : c.toNat = 0 ∨ 0x61 ≤ c.toNat) :
    isMark c = false := by
  rw [← Bool.not_eq_true]
  simp only [isMark, Bool.or_eq_true, Bool.and_eq_true, decide_eq_true_iff]
  omega

theorem isMark_ofNat {n : Nat} (h : 0x61 ≤ n) : isMark (Char.ofNat n) = false :=
  isMark_eq_false_of_toNat (toNat_ofNat_of_le h)

/-- Every lower-case form in the table lies behind the marks. -/
theorem capitals_lower : (capitals.all fun r => decide (0x61 ≤ r.lower)) = true := by decide +kernel

/-- A character that is another one in lower case becomes one that lies behind the marks. -/
theorem toNat_lowerChar {c : Char} (h : lowerChar c ≠ c) :
    (lowerChar c).toNat = 0 ∨ 0x61 ≤ (lowerChar c).toNat := by
  unfold lowerChar at h ⊢
  split at h
  · next hascii =>
    rw [if_pos hascii]
    by_cases hupper : 0x41 ≤ c.toNat ∧ c.toNat ≤ 0x5A
    · rw [toNat_toLower hupper]
      exact .inr (by omega)
    · exact absurd (toLower_of_toNat hupper) h
  · next hhigh =>
    rw [if_neg hhigh]
    unfold lowerFromTable at h ⊢
    cases hrun : capitals[runIndex c.toNat]? with
    | none => simp [hrun] at h
    | some r =>
      obtain ⟨hi, hr⟩ := Array.getElem?_eq_some_iff.mp hrun
      have hlower : 0x61 ≤ r.lower := by
        have hall := (Array.all_eq_true.mp capitals_lower) _ hi
        rw [hr] at hall
        exact of_decide_eq_true hall
      simp only [hrun, CaseRun.lower?] at h ⊢
      split at h
      · next hin =>
        rw [if_pos hin]
        exact toNat_ofNat_of_le (by omega)
      · exact absurd rfl h

/-- No other character becomes a mark in lower case. -/
theorem lowerChar_eq_self_of_isMark_lowerChar {c : Char} (h : isMark (lowerChar c) = true) :
    lowerChar c = c := by
  by_contra hne
  rw [isMark_eq_false_of_toNat (toNat_lowerChar hne)] at h
  exact Bool.noConfusion h

/-- Marks have no case. -/
theorem lowerChar_of_isMark {c : Char} (h : isMark c = true) : lowerChar c = c := by
  simp only [isMark, Bool.or_eq_true, Bool.and_eq_true, decide_eq_true_iff] at h
  rw [lowerChar, if_pos (by omega), toLower_of_toNat (by omega)]

/-- The lower-case forms of one character at the front of a text: a mark stays, and anything
    else becomes no mark. -/
theorem lowerAfter_cons (before rest : List Char) (c : Char) :
    ∃ lowered, lowerAfter before (c :: rest) = lowered ++ lowerAfter (c :: before) rest
      ∧ (isMark c = true ∧ lowered = [c]
        ∨ isMark c = false ∧ lowered ≠ [] ∧ ∀ x ∈ lowered, isMark x = false) := by
  refine ⟨_, rfl, ?_⟩
  split
  · next hcode =>
    refine .inr ⟨isMark_eq_false_of_toNat (by omega), List.cons_ne_nil _ _, ?_⟩
    simp only [List.forall_mem_cons]
    exact ⟨by decide, isMark_ofNat (by omega), fun _ hx => absurd hx List.not_mem_nil⟩
  · split
    · next hcode =>
      refine .inr ⟨isMark_eq_false_of_toNat (by omega), List.cons_ne_nil _ _, fun x hx => ?_⟩
      rw [List.mem_singleton.mp hx]
      exact isMark_ofNat (by split <;> omega)
    · cases hmark : isMark c with
      | true => exact .inl ⟨rfl, by rw [lowerChar_of_isMark hmark]⟩
      | false =>
        refine .inr ⟨rfl, List.cons_ne_nil _ _, fun x hx => ?_⟩
        rw [List.mem_singleton.mp hx, ← Bool.not_eq_true]
        intro hlower
        rw [lowerChar_eq_self_of_isMark_lowerChar hlower, hmark] at hlower
        exact Bool.noConfusion hlower

/-- A mark at the end of a lower-case form stood at the end. -/
theorem getLast?_of_lowerAfter {before t : List Char} {mark : Char} (hmark : isMark mark = true)
    (h : (lowerAfter before t).getLast? = some mark) : t.getLast? = some mark := by
  induction t generalizing before with
  | nil => exact absurd h (by simp [lowerAfter])
  | cons c rest ih =>
    obtain ⟨lowered, heq, hlowered⟩ := lowerAfter_cons before rest c
    rw [heq, List.getLast?_append] at h
    cases rest with
    | cons x rest =>
      -- the last character of the text lies behind this one
      obtain ⟨more, hmore, hlater⟩ := lowerAfter_cons (c :: before) rest x
      have hne : lowerAfter (c :: before) (x :: rest) ≠ [] := by
        rw [hmore]
        obtain ⟨-, rfl⟩ | ⟨-, hne, -⟩ := hlater
        · exact List.cons_ne_nil _ _
        · simp [hne]
      rw [List.getLast?_eq_some_getLast hne, Option.some_or] at h
      rw [List.getLast?_cons_cons]
      exact ih ((List.getLast?_eq_some_getLast hne).trans h)
    | nil =>
      have h : lowered.getLast? = some mark := h
      obtain ⟨-, rfl⟩ | ⟨-, -, hnot⟩ := hlowered
      · exact h
      · rw [hnot mark (List.mem_of_getLast? h)] at hmark
        exact Bool.noConfusion hmark

/-- **Lower-casing makes no quotes**: a text whose lower-case form stands between two marks
    stands between them itself. -/
theorem exists_wrapped_of_lowercase {t inner : List Char} {opening closing : Char}
    (hopening : isMark opening = true) (hclosing : isMark closing = true)
    (h : lowercase t = opening :: inner ++ [closing]) :
    ∃ inner', t = opening :: inner' ++ [closing] := by
  unfold lowercase at h
  cases t with
  | nil => exact absurd h (by simp [lowerAfter])
  | cons c rest =>
    obtain ⟨lowered, heq, hlowered⟩ := lowerAfter_cons [] rest c
    rw [heq] at h
    -- the first character is kept, or becomes one or more characters that are no marks
    obtain ⟨-, rfl⟩ | ⟨-, hne, hnot⟩ := hlowered
    · obtain ⟨rfl, hrest⟩ := List.cons.inj h
      have hlast : rest.getLast? = some closing := by
        have hlast : (lowerAfter [c] rest).getLast? = some closing := by
          rw [show lowerAfter [c] rest = inner ++ [closing] from hrest]
          exact List.getLast?_concat
        exact getLast?_of_lowerAfter hclosing hlast
      obtain ⟨inner', rfl⟩ := List.getLast?_eq_some_iff.mp hlast
      exact ⟨inner', rfl⟩
    · obtain ⟨x, lowered, rfl⟩ := List.exists_cons_of_ne_nil hne
      have hx : x = opening := (List.cons.inj h).1
      rw [← hx, hnot x List.mem_cons_self] at hopening
      exact Bool.noConfusion hopening

/-- What a text goes on with behind some marks is a mark in lower case if it is that mark as
    it is written. -/
theorem head?_dropWhile_lowerAfter {accepts : Char → Bool} {mark : Char}
    (haccepts : ∀ c, accepts c = true → isMark c = true) (hmark : isMark mark = true)
    (before t : List Char) :
    ((lowerAfter before t).dropWhile accepts).head? = some mark
      ↔ (t.dropWhile accepts).head? = some mark := by
  induction t generalizing before with
  | nil => rfl
  | cons c rest ih =>
    obtain ⟨lowered, heq, hlowered⟩ := lowerAfter_cons before rest c
    rw [heq]
    obtain ⟨-, rfl⟩ | ⟨hc, hne, hnot⟩ := hlowered
    · rw [List.singleton_append]
      cases hskip : accepts c with
      | true =>
        rw [List.dropWhile_cons_of_pos hskip, List.dropWhile_cons_of_pos hskip]
        exact ih _
      | false => simp [hskip]
    · -- a character that is no mark stands in both texts
      have hother : ∀ (x : Char) (u : List Char), isMark x = false →
          ((x :: u).dropWhile accepts).head? ≠ some mark := by
        intro x u hx
        have hstays : ¬accepts x = true := fun hskip => by
          rw [haccepts x hskip] at hx
          exact Bool.noConfusion hx
        rw [List.dropWhile_cons_of_neg hstays]
        intro heq
        rw [Option.some.inj heq, hmark] at hx
        exact Bool.noConfusion hx
      obtain ⟨x, lowered, rfl⟩ := List.exists_cons_of_ne_nil hne
      exact iff_of_false (hother x _ (hnot x List.mem_cons_self)) (hother c rest hc)

end Unicode

namespace Identifier

/-- Only a text in quotes is in quotes in lower case. -/
theorem looksQuoted_of_lowercase {t : Text} (h : LooksQuoted t.lowercase) : LooksQuoted t := by
  obtain ⟨inner, hbracket | hquote⟩ := h
  · obtain ⟨inner', ht⟩ := Unicode.exists_wrapped_of_lowercase (by decide) (by decide) hbracket
    exact ⟨inner', .inl ht⟩
  · obtain ⟨inner', ht⟩ := Unicode.exists_wrapped_of_lowercase (by decide) (by decide) hquote
    exact ⟨inner', .inr ht⟩

/-! ## §2. Quotes inside quotes -/

/-- The text stands in this many pairs of quotes, one inside another. -/
def StandsInQuotes (style : QuoteStyle) : Nat → Text → Prop
  | 0, _ => True
  | pairs + 1, t => ∃ inner, unquoteOnce? style t = some inner ∧ StandsInQuotes style pairs inner

/-- To stand in one pair of quotes is to look quoted. -/
theorem standsInQuotes_one_iff {t : Text} : StandsInQuotes .bracket 1 t ↔ LooksQuoted t := by
  have hnone : unquoteOnce? .bracket t = none ↔ ¬LooksQuoted t := unquoteOnce?_bracket_eq_none_iff
  constructor
  · rintro ⟨inner, hinner, -⟩
    by_contra hnot
    rw [hnone.mpr hnot] at hinner
    injection hinner
  · intro h
    cases hinner : unquoteOnce? .bracket t with
    | none => exact absurd h (hnone.mp hinner)
    | some inner => exact ⟨inner, hinner, trivial⟩

/-- What is in quotes is not blank. -/
theorem not_looksQuoted_of_trim_eq_nil {t : Text} (h : t.trim = []) : ¬LooksQuoted t := by
  have htight : ∀ opening closing : Char, Unicode.isBlank opening = false →
      Unicode.isBlank closing = false → ∀ inner, t ≠ opening :: inner ++ [closing] := by
    rintro opening closing hopening hclosing inner rfl
    have htight : Text.Tight (opening :: inner ++ [closing]) :=
      ⟨⟨opening, inner ++ [closing], rfl, hopening⟩, ⟨opening :: inner, closing, rfl, hclosing⟩⟩
    rw [htight.trim] at h
    exact List.cons_ne_nil _ _ h
  rintro ⟨inner, hbracket | hquote⟩
  · exact htight '[' ']' (by decide) (by decide) inner hbracket
  · exact htight '"' '"' (by decide) (by decide) inner hquote

variable {d : Dialect}

/-- **A canonical name is in quotes** if and only if the name was written in three pairs. -/
theorem looksQuoted_canonicalize_iff (hstyle : d.quoteStyle = .bracket) (raw : Text) :
    LooksQuoted (canonicalize d raw) ↔ StandsInQuotes .bracket 3 raw.trim := by
  unfold canonicalize
  by_cases hblank : raw.trim = []
  · have hnot : ¬StandsInQuotes .bracket 3 [] := by
      rintro ⟨inner, hinner, -⟩
      injection hinner
    simp only [hblank, List.isEmpty_nil, if_true]
    exact iff_of_false (not_looksQuoted_of_trim_eq_nil hblank) hnot
  · have hempty : ¬raw.trim.isEmpty = true := by simpa using hblank
    simp only [if_neg hempty, hstyle, unquote?]
    cases honce : unquoteOnce? .bracket raw.trim with
    | none =>
      -- lower case puts no name in quotes
      refine iff_of_false (fun hlower => ?_) ?_
      · exact unquoteOnce?_bracket_eq_none_iff.mp honce (looksQuoted_of_lowercase hlower)
      · rintro ⟨once, hsome, -⟩
        rw [honce] at hsome
        injection hsome
    | some once =>
      have hthird : StandsInQuotes .bracket 3 raw.trim ↔ StandsInQuotes .bracket 2 once := by
        show (∃ inner, unquoteOnce? .bracket raw.trim = some inner ∧ _) ↔ _
        simp [honce]
      rw [hthird]
      show LooksQuoted ((unquoteOnce? .bracket once).getD once) ↔ _
      cases htwice : unquoteOnce? .bracket once with
      | none =>
        refine iff_of_false (unquoteOnce?_bracket_eq_none_iff.mp htwice) ?_
        rintro ⟨twice, hsome, -⟩
        rw [htwice] at hsome
        injection hsome
      | some twice =>
        rw [Option.getD_some, ← standsInQuotes_one_iff]
        show _ ↔ ∃ inner, unquoteOnce? .bracket once = some inner ∧ _
        simp [htwice]

/-! ## §3. Canonical names that come back -/

/-- **Which canonical names survive being written in quotes**: all of them in PostgreSQL, and in
    the bracket style those of the names that do not stand in three pairs of quotes. -/
theorem canonical_form_survives_iff (d : Dialect) (raw : Text) :
    canonicalize d (requote d (canonicalize d raw)) = canonicalize d raw
      ↔ (d.quoteStyle = .bracket → ¬StandsInQuotes .bracket 3 raw.trim) := by
  rw [canonicalize_requote_eq_self_iff]
  refine forall_congr' fun hstyle => ?_
  rw [looksQuoted_canonicalize_iff hstyle]

/-- Of three pairs of quotes, two are taken off at first and the third on the way back. -/
theorem canonical_form_of_three_pairs :
    canonicalize .ms "[\"[x]\"]".toList = "[x]".toList
      ∧ requote .ms "[x]".toList = "[[x]]]".toList
      ∧ canonicalize .ms "[[x]]]".toList = "x".toList
      ∧ canonicalize .ms (requote .ms (canonicalize .ms "[\"[x]\"]".toList))
        ≠ canonicalize .ms "[\"[x]\"]".toList := by
  decide +kernel

end Identifier

end TableLedger
