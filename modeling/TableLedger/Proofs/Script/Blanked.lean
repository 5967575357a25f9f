/-
  TableLedger.Proofs.Script.Blanked — texts that are blanked in part.

  One text is another one blanked in part if each character either stays or gives way
  to the spaces that take its room, line breaks staying where they are.  Every mask is
  the script blanked in part, and so is what is left when spans are blanked besides;
  byte by byte, each byte stays or is a space.

  Spans are found in one mask and blanked in another.  That goes well because their
  ends are places between characters of the script: what is visible in a mask stands
  in the script at the same byte, and wherever the script can be cut, every mask of it
  can be cut too.

  Main statements:
    • `Blanked.flatMap_masked`, `Blanked.blankSpansFrom` — masks are texts blanked in part,
    • `Blanked.bytes` — the same byte by byte,
    • `Blanked.cut`, `Blanked.exists_visible` — places of a text and of its masks,
    • `blankStored?_eq` — blanking spans byte by byte.
-/

import TableLedger.Proofs.Script.ByteScan
import TableLedger.Proofs.Script.Relexing

namespace TableLedger.Script

open Bytes

/-! ## §1. Blanking in part -/

/-- The second text is the first one with some of its characters blanked. -/
inductive Blanked : Text → Text → Prop where
  | nil : Blanked [] []
  | keep (c : Char) {t u : Text} (h : Blanked t u) : Blanked (c :: t) (c :: u)
  | blank (c : Char) {t u : Text} (h : Blanked t u) : Blanked (c :: t) (blankChar c ++ u)

namespace Blanked

variable {t u v : Text}

theorem refl (t : Text) : Blanked t t := by
  induction t with
  | nil => exact nil
  | cons c t ih => exact ih.keep c

theorem append {t' u' : Text} (h : Blanked t u) (h' : Blanked t' u') : Blanked (t ++ t') (u ++ u') := by
  induction h with
  | nil => exact h'
  | keep c _ ih => exact ih.keep c
  | blank c _ ih =>
    rw [List.append_assoc]
    exact ih.blank c

/-- A text may be blanked as a whole. -/
theorem all (t : Text) : Blanked t (Script.blank t) := by
  induction t with
  | nil => exact nil
  | cons c t ih => exact ih.blank c

/-- Blanking keeps the number of bytes. -/
theorem byteLength_eq (h : Blanked t u) : Text.byteLength u = Text.byteLength t := by
  induction h with
  | nil => rfl
  | keep c _ ih => rw [Text.byteLength_cons, Text.byteLength_cons, ih]
  | blank c _ ih => rw [Text.byteLength_append, byteLength_blankChar, Text.byteLength_cons, ih]

/-- The first character stays or is blanked. -/
theorem of_cons {c : Char} (h : Blanked (c :: t) v) :
    ∃ u, (v = c :: u ∨ v = blankChar c ++ u) ∧ Blanked t u := by
  cases h with
  | keep c hu => exact ⟨_, .inl rfl, hu⟩
  | blank c hu => exact ⟨_, .inr rfl, hu⟩

/-- Spaces stay spaces. -/
theorem of_spaces {n : Nat} (h : Blanked (List.replicate n ' ' ++ t) v) :
    ∃ u, v = List.replicate n ' ' ++ u ∧ Blanked t u := by
  induction n generalizing v with
  | zero => exact ⟨v, rfl, h⟩
  | succ n ih =>
    obtain ⟨u, hv, hu⟩ := of_cons (c := ' ') h
    obtain ⟨u', rfl, hu'⟩ := ih hu
    refine ⟨u', ?_, hu'⟩
    obtain rfl | rfl := hv
    · rfl
    · rfl

/-- What is blanked stays blanked. -/
theorem of_blankChar {c : Char} (h : Blanked (blankChar c ++ t) v) :
    ∃ u, v = blankChar c ++ u ∧ Blanked t u := by
  by_cases hc : c = '\n'
  · subst hc
    obtain ⟨u, rfl | rfl, hu⟩ := of_cons (c := '\n') h
    · exact ⟨u, rfl, hu⟩
    · exact ⟨u, rfl, hu⟩
  · have hspaces : blankChar c = List.replicate c.utf8Size ' ' := if_neg hc
    rw [hspaces] at h ⊢
    exact h.of_spaces

theorem trans (h : Blanked t u) (k : Blanked u v) : Blanked t v := by
  induction h generalizing v with
  | nil => exact k
  | keep c h ih =>
    obtain ⟨v, rfl | rfl, hv⟩ := k.of_cons
    · exact (ih hv).keep c
    · exact (ih hv).blank c
  | blank c h ih =>
    obtain ⟨v, rfl, hv⟩ := k.of_blankChar
    exact (ih hv).blank c

/-- Where a text can be cut, so can its masks. -/
theorem cut {front rest : Text} (h : Blanked (front ++ rest) v) :
    ∃ front' rest', v = front' ++ rest' ∧ Blanked front front' ∧ Blanked rest rest' := by
  induction front generalizing v with
  | nil => exact ⟨[], v, rfl, nil, h⟩
  | cons c front ih =>
    obtain ⟨u, hv, hu⟩ := of_cons (t := front ++ rest) h
    obtain ⟨front', rest', rfl, hfront, hrest⟩ := ih hu
    obtain rfl | rfl := hv
    · exact ⟨c :: front', rest', rfl, hfront.keep c, hrest⟩
    · exact ⟨blankChar c ++ front', rest', (List.append_assoc ..).symm, hfront.blank c, hrest⟩

/-- What is visible in a mask stands in the text at the same place. -/
theorem exists_visible {c : Char} {front rest : Text} (h : Blanked t (front ++ c :: rest))
    (hc : c ≠ ' ') :
    ∃ front' rest', t = front' ++ c :: rest' ∧ Blanked front' front ∧ Blanked rest' rest := by
  generalize hv : front ++ c :: rest = v at h
  induction h generalizing front with
  | nil => exact absurd hv (by simp)
  | @keep x t u hu ih =>
    cases front with
    | nil =>
      injection hv with hx hrest
      subst hx hrest
      exact ⟨[], t, rfl, nil, hu⟩
    | cons y front =>
      injection hv with hy hfront
      subst hy
      obtain ⟨front', rest', rfl, hkept, hrest⟩ := ih hfront
      exact ⟨y :: front', rest', rfl, hkept.keep y, hrest⟩
  | @blank x t u hu ih =>
    obtain ⟨front', rfl, hu'⟩ | ⟨rest', hpart, rfl⟩ := append_eq_append_cons hv.symm
    · obtain ⟨front'', rest', rfl, hfront, hrest⟩ := ih hu'.symm
      exact ⟨x :: front'', rest', rfl, hfront.blank x, hrest⟩
    · -- of what is blanked, only a line break is visible
      have hbreak : x = '\n' := by
        by_contra hx
        have hspaces : blankChar x = List.replicate x.utf8Size ' ' := if_neg hx
        have hmem : c ∈ List.replicate x.utf8Size ' ' := by
          rw [← hspaces, hpart]
          exact List.mem_append_right front List.mem_cons_self
        exact hc (List.eq_of_mem_replicate hmem)
      subst hbreak
      have hone : ['\n'] = front ++ c :: rest' := hpart
      cases front with
      | nil =>
        injection hone with hfirst hnil
        subst hfirst hnil
        exact ⟨[], t, rfl, nil, hu⟩
      | cons y front => exact absurd hone (by simp)

/-! ## §2. Masks -/

/-- The more kinds of regions are hidden, the more is blanked. -/
theorem flatMap_masked {hides hides' : Hiding} (hmore : ∀ kind, hides kind = true → hides' kind = true)
    (rs : List Region) :
    Blanked (rs.flatMap (Region.masked hides)) (rs.flatMap (Region.masked hides')) := by
  induction rs with
  | nil => exact nil
  | cons r rs ih =>
    have hfirst : Blanked (r.masked hides) (r.masked hides') := by
      unfold Region.masked
      split
      · next h =>
        rw [if_pos (hmore r.kind h)]
        exact refl _
      · split
        · exact all r.text
        · exact refl r.text
    exact hfirst.append ih

/-- A mask is the script blanked in part. -/
theorem mask (hides : Hiding) (d : Dialect) (script : Text) : Blanked script (mask hides d script) := by
  have hnone : (regions d script).flatMap (Region.masked fun _ => false) = script :=
    flatten_regions d script
  have hmask : Blanked ((regions d script).flatMap (Region.masked fun _ => false))
      ((regions d script).flatMap (Region.masked hides)) :=
    flatMap_masked (fun _ h => Bool.noConfusion h) (regions d script)
  rw [hnone] at hmask
  exact hmask

/-- Spans are blanked, and the rest stays. -/
theorem blankSpansFrom (spans : List Span) (t : Text) (offset : Nat) :
    Blanked t (blankSpansFrom spans offset t) := by
  induction t generalizing offset with
  | nil => exact nil
  | cons c t ih =>
    rw [Script.blankSpansFrom]
    split
    · exact (ih _).blank c
    · exact (ih _).keep c

/-- Blanking the same spans keeps what is blanked in part. -/
theorem blankSpansFrom_congr (spans : List Span) (h : Blanked t u) (offset : Nat) :
    Blanked (Script.blankSpansFrom spans offset t) (Script.blankSpansFrom spans offset u) := by
  induction h generalizing offset with
  | nil => exact nil
  | keep c h ih =>
    rw [Script.blankSpansFrom, Script.blankSpansFrom]
    exact (refl _).append (ih _)
  | blank c h ih =>
    rw [Script.blankSpansFrom, blankSpansFrom_blankChar]
    split
    · exact (refl _).append (ih _)
    · exact (ih _).blank c

end Blanked

/-! ## §3. Bytes -/

/-- Each byte stays or is a space, and the line breaks are the same. -/
def BlankedBytes (bytes bytes' : Bytes) : Prop :=
  List.Forall₂ (fun b b' => (b' = b ∨ b' = ' '.toUInt8) ∧ (b' = '\n'.toUInt8 ↔ b = '\n'.toUInt8))
    bytes bytes'

theorem utf8_blankChar (c : Char) :
    Text.utf8 (blankChar c) = (String.utf8EncodeChar c).map blankByte := by
  have hone := map_blankByte_utf8 [c]
  rw [Text.utf8_cons, Text.utf8_nil, List.append_nil] at hone
  rw [hone, blank, List.flatMap_singleton]

/-- **Byte by byte, a text that is blanked in part has what the text has, or a space.** -/
theorem Blanked.bytes {t u : Text} (h : Blanked t u) :
    BlankedBytes (Text.utf8 t) (Text.utf8 u) := by
  induction h with
  | nil => exact .nil
  | @keep c t u _ ih =>
    have hkept : BlankedBytes (String.utf8EncodeChar c) (String.utf8EncodeChar c) :=
      List.forall₂_same.mpr fun b _ => ⟨.inl rfl, Iff.rfl⟩
    exact List.rel_append hkept ih
  | @blank c t u _ ih =>
    -- a blanked byte is a space, and a line break stays one
    have hbyte : ∀ b : UInt8, (blankByte b = b ∨ blankByte b = ' '.toUInt8)
        ∧ (blankByte b = '\n'.toUInt8 ↔ b = '\n'.toUInt8) := by
      intro b
      unfold blankByte
      by_cases hb : b = '\n'.toUInt8
      · rw [if_pos hb]
        exact ⟨.inl rfl, Iff.rfl⟩
      · rw [if_neg hb]
        exact ⟨.inr rfl, fun heq => absurd heq (by decide), fun heq => absurd heq hb⟩
    have hblanked : BlankedBytes (String.utf8EncodeChar c) (Text.utf8 (blankChar c)) := by
      rw [utf8_blankChar]
      exact List.forall₂_map_right_iff.mpr (List.forall₂_same.mpr fun b _ => hbyte b)
    rw [Text.utf8_cons, Text.utf8_append]
    exact List.rel_append hblanked ih

/-- Blanked bytes are as many as before. -/
theorem BlankedBytes.length_eq {bytes bytes' : Bytes} (h : BlankedBytes bytes bytes') :
    bytes'.length = bytes.length := (List.Forall₂.length_eq h).symm

/-! ## §4. Blanking spans -/

/-- A text can be cut at this byte. -/
def PlaceOf (t : Text) (n : Nat) : Prop := ∃ front rest, t = front ++ rest ∧ Text.byteLength front = n

/-- The places between characters stay places between characters. -/
theorem Blanked.placeOf {t u : Text} {n : Nat} (h : Blanked t u) (hn : PlaceOf t n) : PlaceOf u n := by
  obtain ⟨front, rest, rfl, hlength⟩ := hn
  obtain ⟨front', rest', hu, hfront, -⟩ := h.cut
  exact ⟨front', rest', hu, by rw [hfront.byteLength_eq, hlength]⟩

/-- A span whose ends are places of a text. -/
structure Span.Fits (s : Span) (t : Text) : Prop where
  ordered : s.start ≤ s.stop
  start : PlaceOf t s.start
  stop : PlaceOf t s.stop

/-- So a span that fits a text fits it when it is blanked. -/
theorem Span.Fits.of_blanked {s : Span} {t u : Text} (hs : s.Fits t) (h : Blanked t u) : s.Fits u :=
  ⟨hs.ordered, h.placeOf hs.start, h.placeOf hs.stop⟩

/-- The text in front of a span, in it and behind it. -/
theorem Span.Fits.exists_parts {s : Span} {t : Text} (h : s.Fits t) :
    ∃ front inside rest, t = front ++ (inside ++ rest) ∧ Text.byteLength front = s.start
      ∧ s.stop = s.start + Text.byteLength inside := by
  obtain ⟨front, behind, ht, hstart⟩ := h.start
  obtain ⟨front', rest, ht', hstop⟩ := h.stop
  have hordered := h.ordered
  rw [ht] at ht'
  obtain ⟨inside, rfl, hbehind⟩ | ⟨more, rfl, hrest⟩ := List.append_eq_append_iff.mp ht'
  · refine ⟨front, inside, rest, by rw [ht, hbehind], hstart, ?_⟩
    rw [← hstop, ← hstart, Text.byteLength_append]
  · -- the later place is no earlier one
    rw [Text.byteLength_append] at hstart
    refine ⟨front' ++ more, [], behind, ht, by rw [Text.byteLength_append]; exact hstart, ?_⟩
    rw [Text.byteLength_nil]
    omega

/-- A span that covers a text blanks it, and one that covers none of it leaves it alone. -/
theorem blankSpansFrom_singleton {s : Span} {offset : Nat} {t : Text} {covered : Bool}
    (h : ∀ n, offset ≤ n → n < offset + Text.byteLength t → s.covers n = covered) :
    blankSpansFrom [s] offset t = if covered then blank t else t := by
  induction t generalizing offset with
  | nil => cases covered with | true | false => rfl
  | cons c t ih =>
    have hpos := c.utf8Size_pos
    rw [Text.byteLength_cons] at h
    have hfirst : ([s].any fun s => s.covers offset) = covered := by
      rw [List.any_cons, List.any_nil, Bool.or_false]
      exact h offset (Nat.le_refl _) (by omega)
    have hothers : blankSpansFrom [s] (offset + c.utf8Size) t = if covered then blank t else t :=
      ih fun n hle hlt => h n (by omega) (by omega)
    rw [blankSpansFrom, hfirst, hothers]
    cases covered with
    | true => rfl
    | false => rfl

/-- Spans are blanked one after the other. -/
theorem blankSpansFrom_cons (s : Span) (spans : List Span) (offset : Nat) (t : Text) :
    blankSpansFrom (s :: spans) offset t = blankSpansFrom spans offset (blankSpansFrom [s] offset t) := by
  induction t generalizing offset with
  | nil => rfl
  | cons c t ih =>
    rw [blankSpansFrom, blankSpansFrom, List.any_cons, List.any_cons, List.any_nil, Bool.or_false, ih]
    cases hs : s.covers offset with
    | true =>
      rw [Bool.true_or, if_pos rfl, blankSpansFrom_blankChar]
    | false =>
      rw [Bool.false_or, if_neg Bool.false_ne_true, List.singleton_append, blankSpansFrom]

/-- Blank spans byte by byte; what lies behind the end is left out. -/
def blankSpansBytes? (spans : List Span) (bytes : Bytes) : Option Bytes :=
  spans.foldlM (fun bytes s => bytes.blank? (min s.start bytes.length) (min s.stop bytes.length)) bytes

/-- Blank spans of a text as it is stored; what is left is read as text again. -/
def blankStored? (spans : List Span) (t : Text) : Option Text :=
  if spans = [] then some t else (blankSpansBytes? spans (Text.utf8 t)).bind Text.ofUtf8?

/-- A span that fits is blanked byte by byte as it is character by character. -/
theorem Span.Fits.blank?_eq {s : Span} {t : Text} (h : s.Fits t) :
    (Text.utf8 t).blank? (min s.start (Text.utf8 t).length) (min s.stop (Text.utf8 t).length)
      = some (Text.utf8 (blankSpansFrom [s] 0 t)) := by
  obtain ⟨front, inside, rest, rfl, hstart, hstop⟩ := h.exists_parts
  have hle : s.stop ≤ (Text.utf8 (front ++ (inside ++ rest))).length := by
    rw [Text.length_utf8, Text.byteLength_append, Text.byteLength_append]
    omega
  have hle' : s.start ≤ (Text.utf8 (front ++ (inside ++ rest))).length :=
    Nat.le_trans h.ordered hle
  have hat : At (Text.utf8 (front ++ (inside ++ rest))) s.start
      (Text.utf8 inside ++ Text.utf8 rest) :=
    ⟨Text.utf8 front, by rw [Text.utf8_append, Text.utf8_append], by rw [Text.length_utf8, hstart]⟩
  have hblank := hat.blank?_eq
  have htake : (Text.utf8 (front ++ (inside ++ rest))).take s.start = Text.utf8 front := by
    rw [← hstart, ← Text.length_utf8, Text.utf8_append, List.take_left]
  -- of the three parts, only the one in the middle is covered
  have hfront : blankSpansFrom [s] 0 front = if false then blank front else front :=
    blankSpansFrom_singleton fun n _ hn => by
      rw [Span.covers, Bool.and_eq_false_iff, decide_eq_false_iff_not]
      omega
  have hinside : blankSpansFrom [s] (0 + Text.byteLength front) inside
      = if true then blank inside else inside :=
    blankSpansFrom_singleton fun n hle hn => by
      rw [Span.covers, Bool.and_eq_true, decide_eq_true_iff, decide_eq_true_iff]
      omega
  have hrest : blankSpansFrom [s] (0 + Text.byteLength front + Text.byteLength inside) rest
      = if false then blank rest else rest :=
    blankSpansFrom_singleton fun n hle _ => by
      rw [Span.covers, Bool.and_eq_false_iff, decide_eq_false_iff_not, decide_eq_false_iff_not]
      omega
  rw [Nat.min_eq_left hle', Nat.min_eq_left hle, hstop, ← Text.length_utf8, hblank, htake,
    map_blankByte_utf8, blankSpansFrom_append, blankSpansFrom_append, hfront, hinside, hrest,
    Text.utf8_append, Text.utf8_append, List.append_assoc]
  rfl

theorem blankSpans_nil (t : Text) : blankSpans [] t = t :=
  blankSpansFrom_eq_self fun _ hs => absurd hs List.not_mem_nil

/-- Blanking spans in bytes comes to blanking them in characters, if they fit. -/
theorem blankSpansBytes?_eq {spans : List Span} {t : Text} (h : ∀ s ∈ spans, s.Fits t) :
    blankSpansBytes? spans (Text.utf8 t) = some (Text.utf8 (blankSpans spans t)) := by
  induction spans generalizing t with
  | nil =>
    rw [blankSpans_nil]
    rfl
  | cons s spans ih =>
    have hblanked := Blanked.blankSpansFrom [s] t 0
    have hothers := ih fun s' hs' => (h s' (List.mem_cons_of_mem s hs')).of_blanked hblanked
    unfold blankSpansBytes? at hothers ⊢
    rw [List.foldlM_cons, (h s List.mem_cons_self).blank?_eq, blankSpans,
      blankSpansFrom_cons s spans 0 t]
    exact hothers

/-- **Blanking spans byte by byte** never fails if they fit, and comes to the same text. -/
theorem blankStored?_eq {spans : List Span} {t : Text} (h : ∀ s ∈ spans, s.Fits t) :
    blankStored? spans t = some (blankSpans spans t) := by
  unfold blankStored?
  split
  · next hnil => rw [hnil, blankSpans_nil]
  · rw [blankSpansBytes?_eq h]
    exact Text.ofUtf8?_utf8 _

end TableLedger.Script
