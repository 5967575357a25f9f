/-
  TableLedger.Proofs.Script.RoutineSpans — where routine definitions are found.

  The search for definitions takes the leftmost header that stands where it looks,
  passes to the end of the definition and looks on from there.  A definition takes
  room and ends at a place of the text, so the spans stand one behind the other.  A
  header is passed over in one way only: it stands in a definition that was found.

  Main statements:
    • `Shortens.exists_find?` — the first match stands in front of all others,
    • `exists_headerAt?_of_mem_routineSpans` — every definition begins with a header,
    • `RoutineSearch.pairwise`, `RoutineSearch.exists_covers` — what the search finds, for
      one case after the other,
    • `routine_spans_cover_headers` — the spans of a text, for every text.
-/

import TableLedger.Proofs.Script.Positions

namespace TableLedger

/-! ## §1. The leftmost match -/

/-- Of two places that follow a third one, one follows the other. -/
theorem Cursor.Follows.of_offset_le {c d e : Cursor} (h : c.Follows d) (k : c.Follows e)
    (hle : d.offset ≤ e.offset) : d.Follows e := by
  obtain ⟨taken, hrest, hd⟩ := h
  obtain ⟨more, hrest', he⟩ := k
  have hboth : taken ++ d.rest = more ++ e.rest := hrest.symm.trans hrest'
  obtain ⟨inside, rfl, hbehind⟩ | ⟨inside, rfl, hbehind⟩ := List.append_eq_append_iff.mp hboth
  · refine ⟨inside, hbehind, ?_⟩
    rw [he, hd, past_past]
    rfl
  · -- the second place would lie in front of the first one, unless they are the same
    have hnil : inside = [] := by
      rw [hd, he, past_offset, past_offset, Text.byteLength_append] at hle
      cases inside with
      | nil => rfl
      | cons ch inside =>
        have hpos := ch.utf8Size_pos
        rw [Text.byteLength_cons] at hle
        omega
    subst hnil
    refine ⟨[], hbehind.symm, ?_⟩
    rw [he, hd, past_past, List.append_nil, List.append_nil]
    rfl

namespace Pattern

variable {p : Pattern} {c e : Cursor}

/-- What takes something does not match at the end of the text. -/
theorem Shortens.rest_ne_nil (hp : p.Shortens) {m : Match} (h : p.matchAt? c = some m) :
    c.rest ≠ [] := by
  obtain ⟨-, w, hw⟩ := matchAt?_eq_some h
  have hlt : w.cursor.rest.length < c.rest.length := hp _ _ hw
  exact List.ne_nil_of_length_pos (Nat.zero_lt_of_lt hlt)

/-- **The match that is found is the leftmost one:** where a pattern that takes something
    matches behind a place, a match is found there or in front of it. -/
theorem Shortens.exists_find? (hp : p.Shortens) (h : c.Follows e) {m : Match}
    (hm : p.matchAt? e = some m) : ∃ found, p.find? c = some found ∧ found.first.Follows e := by
  obtain ⟨before, offset, t⟩ := c
  induction t generalizing before offset with
  | nil =>
    obtain rfl | ⟨ch, rest, hnil, -⟩ := h.eq_or_step
    · exact absurd rfl (hp.rest_ne_nil hm)
    · injection hnil
  | cons ch rest ih =>
    rw [find?, findFrom?]
    cases hhere : p.matchAt? ⟨before, offset, ch :: rest⟩ with
    | some found =>
      refine ⟨found, rfl, ?_⟩
      rw [(matchAt?_eq_some hhere).1]
      exact h
    | none =>
      -- nothing matches here, so the match is further on
      obtain rfl | ⟨_, _, hrest, hlater⟩ := h.eq_or_step
      · rw [hhere] at hm
        injection hm
      · obtain ⟨rfl, rfl⟩ := List.cons.inj hrest
        exact ih _ _ hlater

end Pattern

namespace Script

open Pattern

variable {d : Dialect} {masked : Text} {c e : Cursor} {spans : List Span} {header : Match}

/-! ## §2. What the search finds -/

/-- The header of a routine definition that begins at a byte of a text, if one does. -/
def headerAt? (masked : Text) (n : Nat) : Option Match :=
  (Cursor.at? masked n).bind routineHeader.matchAt?

/-- A header at an offset is a match at the place with that offset. -/
theorem headerAt?_eq_some_iff {n : Nat} : headerAt? masked n = some header
    ↔ ∃ place, (Cursor.start masked).Follows place ∧ place.offset = n
      ∧ routineHeader.matchAt? place = some header := by
  constructor
  · intro h
    obtain ⟨place, hplace, hheader⟩ := Option.bind_eq_some_iff.mp h
    obtain ⟨hfollows, hoffset⟩ := Cursor.follows_of_at? hplace
    exact ⟨place, hfollows, hoffset, hheader⟩
  · rintro ⟨place, hfollows, rfl, hheader⟩
    rw [headerAt?, Cursor.at?_eq hfollows]
    exact hheader

/-- A definition that is found takes in its header. -/
theorem exists_headerAt?_of_mem_routineSpans {s : Span} (h : s ∈ routineSpans d masked) :
    ∃ header, headerAt? masked s.start = some header ∧ s.start < header.stop
      ∧ header.stop ≤ s.stop := by
  obtain ⟨place, header, hfollows, hoffset, hmatch, hstop⟩ :=
    exists_header_of_mem_routineSpansFrom (c := Cursor.start masked) h
  have hhead := hfollows.trans (follows_of_matchAt? hmatch).2
  refine ⟨header, headerAt?_eq_some_iff.mpr ⟨place, hfollows, hoffset, hmatch⟩, ?_, ?_⟩
  · rw [← hoffset]
    exact (exists_letter_of_routineHeader hmatch).1
  · rw [hstop]
    exact (routineEnd_solid hhead).1

namespace RoutineSearch

/-- The search finds nothing in front of the place it begins at. -/
theorem le_start (h : RoutineSearch d c spans) : ∀ s ∈ spans, c.offset ≤ s.start := by
  induction h with
  | done => exact fun _ hs => absurd hs List.not_mem_nil
  | @found c e header others hfound hbehind _ _ ih =>
    obtain ⟨hfirst, hmatch⟩ := follows_of_find? hfound
    have hle : c.offset ≤ header.start := hfirst.reaches.offset_le
    have hroom : header.start < header.stop := (exists_letter_of_routineHeader hmatch).1
    have hend : header.stop ≤ e.offset := hbehind.reaches.offset_le
    refine List.forall_mem_cons.mpr ⟨hle, fun s hs => ?_⟩
    have := ih s hs
    omega

/-- **The definitions stand one behind the other.** -/
theorem pairwise (h : RoutineSearch d c spans) :
    spans.Pairwise fun s next => s.start < next.start ∧ s.stop ≤ next.start := by
  induction h with
  | done => exact List.Pairwise.nil
  | @found c e header others hfound hbehind _ hothers ih =>
    obtain ⟨-, hmatch⟩ := follows_of_find? hfound
    have hroom : header.start < header.stop := (exists_letter_of_routineHeader hmatch).1
    have hend : header.stop ≤ e.offset := hbehind.reaches.offset_le
    refine List.pairwise_cons.mpr ⟨fun next hnext => ?_, ih⟩
    have hle : e.offset ≤ next.start := hothers.le_start next hnext
    exact ⟨by show header.start < next.start; omega, hle⟩

/-- **No header is missed:** it begins a definition or stands in one. -/
theorem exists_covers (h : RoutineSearch d c spans) {place : Cursor} (hplace : c.Follows place)
    (hheader : routineHeader.matchAt? place = some header) :
    ∃ s ∈ spans, s.covers place.offset = true := by
  induction h with
  | done hnone =>
    obtain ⟨found, hfound, -⟩ := routineHeader_shortens.exists_find? hplace hheader
    exact nomatch hnone.symm.trans hfound
  | @found c e first others hfirst hbehind _ _ ih =>
    obtain ⟨found, hfound, hleft⟩ := routineHeader_shortens.exists_find? hplace hheader
    obtain rfl : first = found := Option.some.inj (hfirst.symm.trans hfound)
    by_cases hinside : place.offset < e.offset
    · refine ⟨_, List.mem_cons_self, ?_⟩
      have hle : first.start ≤ place.offset := hleft.reaches.offset_le
      simp [Span.covers, hle, hinside]
    · -- the header stands where the search goes on
      obtain ⟨hstart, hmatch⟩ := follows_of_find? hfound
      have he : c.Follows e := (hstart.trans (follows_of_matchAt? hmatch).2).trans hbehind
      obtain ⟨s, hs, hcovers⟩ := ih (he.of_offset_le hplace (Nat.not_lt.mp hinside))
      exact ⟨s, List.mem_cons_of_mem _ hs, hcovers⟩

end RoutineSearch

/-! ## §3. The spans of a text -/

/-- No place lies behind the end of the text. -/
theorem PlaceOf.le_byteLength {t : Text} {n : Nat} (h : PlaceOf t n) : n ≤ Text.byteLength t := by
  obtain ⟨front, rest, rfl, rfl⟩ := h
  rw [Text.byteLength_append]
  exact Nat.le_add_right _ _

/-- **Routine spans are well formed and leave no header out.**  Searched by byte index, any text
    yields its spans without being cut inside of a character.  They stand in order, none
    overlapping another; each has room, lies in the text between two places of it, and takes in
    the header that it begins with; and wherever a header begins, a span covers the place. -/
theorem routine_spans_cover_headers (d : Dialect) (masked : Text) :
    routineSpansFrom? d masked 0 = some (routineSpans d masked)
      ∧ (routineSpans d masked).Pairwise (fun s next => s.start < next.start ∧ s.stop ≤ next.start)
      ∧ (∀ s ∈ routineSpans d masked,
          s.start < s.stop ∧ s.stop ≤ Text.byteLength masked
            ∧ PlaceOf masked s.start ∧ PlaceOf masked s.stop
            ∧ ∃ header, headerAt? masked s.start = some header ∧ header.stop ≤ s.stop)
      ∧ ∀ n, (headerAt? masked n).isSome = true → ∃ s ∈ routineSpans d masked, s.covers n = true := by
  have hstart := Cursor.follows_refl (Cursor.start masked)
  have hsearch : RoutineSearch d (Cursor.start masked) (routineSpans d masked) :=
    routineSearch_of_follows hstart
  refine ⟨hsearch.byIndex hstart, hsearch.pairwise, fun s hs => ?_, fun n hn => ?_⟩
  · have hfits : s.Fits masked := fits_of_mem_routineSpansFrom (Blanked.refl masked) hstart hs
    obtain ⟨header, hheader, hroom, hle⟩ := exists_headerAt?_of_mem_routineSpans hs
    exact ⟨Nat.lt_of_lt_of_le hroom hle, hfits.stop.le_byteLength, hfits.start, hfits.stop,
      header, hheader, hle⟩
  · obtain ⟨header, hheader⟩ := Option.isSome_iff_exists.mp hn
    obtain ⟨place, hfollows, rfl, hmatch⟩ := headerAt?_eq_some_iff.mp hheader
    exact hsearch.exists_covers hfollows hmatch

/-- A procedure with a trigger in its body, and a header that nothing stands behind. -/
def nestedRoutines : Text := "CREATE PROC é AS BEGIN CREATE TRIGGER t END; CREATE FUNCTION".toList

/-- The trigger lies in the span of the procedure, and the last span ends with the text. -/
theorem routine_spans_cover_nested_header :
    routineSpans .ms nestedRoutines = [⟨0, 44⟩, ⟨46, 61⟩]
      ∧ routineSpansFrom? .ms nestedRoutines 0 = some [⟨0, 44⟩, ⟨46, 61⟩]
      ∧ (⟨46, 61⟩ ∈ routineSpans .ms nestedRoutines
        ∧ PlaceOf nestedRoutines 46 ∧ PlaceOf nestedRoutines 61
        ∧ ∃ header, headerAt? nestedRoutines 46 = some header ∧ header.stop ≤ 61)
      ∧ (headerAt? nestedRoutines 24).isSome = true
      ∧ ∃ s ∈ [Span.mk 0 44, ⟨46, 61⟩], s.covers 24 = true := by
  have hspans : routineSpans .ms nestedRoutines = [⟨0, 44⟩, ⟨46, 61⟩] := by decide +kernel
  have hnested : (headerAt? nestedRoutines 24).isSome = true := by decide +kernel
  obtain ⟨hindex, -, hformed, hcovers⟩ := routine_spans_cover_headers .ms nestedRoutines
  rw [hspans] at hindex hformed hcovers ⊢
  have hlast : Span.mk 46 61 ∈ [Span.mk 0 44, ⟨46, 61⟩] :=
    List.mem_cons_of_mem _ (List.mem_singleton_self _)
  obtain ⟨-, -, hstart, hstop, hheader⟩ := hformed _ hlast
  exact ⟨rfl, hindex, ⟨hlast, hstart, hstop, hheader⟩, hnested, hcovers 24 hnested⟩

end Script

end TableLedger
