/-
  TableLedger.Proofs.TableRef.RoundTrip — references, written and read again.

  A reference is written with its parts quoted and dots between them.  Whatever
  characters the parts hold, the cut at the dots that stand outside quotes finds
  these very parts: a closing mark inside a part is doubled, so the reader leaves
  the quotes only where the part ends.

  Reading takes the quotes off again.  In the bracket style it takes two pairs
  off, so a part that itself looks quoted is not recovered; and a server without a
  database is read as a database.  These are the only two ways in which a
  reference is read as something else:

      parse d s (r.qualified d) = .ok r
        ↔ r.server comes with r.database, and no part looks quoted to d

  Main statements:
    • `cut_requote` — the cut passes over a written part,
    • `canonicalize_requote_eq_self_iff` — names that survive being written,
    • `split_qualified` — the parts of a written reference,
    • `reads_back_qualified` — references that are read as they were written.
-/

import TableLedger.Proofs.Identifier
import TableLedger.Proofs.Text.Ascii
import TableLedger.TableRef.Parse

namespace TableLedger

/-! ## §1. Texts without white space around them -/

namespace Text

variable {t u : Text}

/-- A text whose first and last character are not white space. -/
structure Tight (t : Text) : Prop where
  first : ∃ c rest, t = c :: rest ∧ Unicode.isBlank c = false
  last : ∃ front c, t = front ++ [c] ∧ Unicode.isBlank c = false

namespace Tight

theorem ne_nil (h : Tight t) : t ≠ [] := by
  obtain ⟨c, rest, rfl, -⟩ := h.first
  exact List.cons_ne_nil c rest

theorem isEmpty_eq_false (h : Tight t) : t.isEmpty = false := by
  simpa using h.ne_nil

/-- Trimming leaves it as it is. -/
theorem trim (h : Tight t) : t.trim = t := by
  have hstart : t.trimStart = t := by
    obtain ⟨c, rest, rfl, hc⟩ := h.first
    exact List.dropWhile_cons_of_neg (by simp [hc])
  obtain ⟨front, c, ht, hc⟩ := h.last
  unfold Text.trim
  rw [hstart, ht, trimEnd, List.reverse_concat, List.dropWhile_cons_of_neg (by simp [hc]),
    List.reverse_cons, List.reverse_reverse]

/-- The ends of a text are all that counts. -/
theorem append (ht : Tight t) (hu : Tight u) (middle : Text) : Tight (t ++ middle ++ u) := by
  obtain ⟨c, rest, rfl, hc⟩ := ht.first
  obtain ⟨front, d, rfl, hd⟩ := hu.last
  exact ⟨⟨c, rest ++ middle ++ (front ++ [d]), by simp, hc⟩,
    ⟨c :: rest ++ middle ++ front, d, by simp, hd⟩⟩

end Tight

/-- A text in marks is tight if the marks are no white space. -/
theorem tight_wrap {opening closing : Char} (hopening : Unicode.isBlank opening = false)
    (hclosing : Unicode.isBlank closing = false) (t : Text) : Tight (wrap opening closing t) :=
  ⟨⟨opening, double closing t ++ [closing], rfl, hopening⟩,
    ⟨opening :: double closing t, closing, rfl, hclosing⟩⟩

/-- A text without white space is tight if there is something in it. -/
theorem tight_of_forall (hne : t ≠ []) (h : ∀ c ∈ t, Unicode.isBlank c = false) : Tight t := by
  have hfirst := List.cons_head_tail hne
  have hlast := List.dropLast_concat_getLast hne
  exact ⟨⟨t.head hne, t.tail, hfirst.symm, h _ (List.head_mem hne)⟩,
    ⟨t.dropLast, t.getLast hne, hlast.symm, h _ (List.getLast_mem hne)⟩⟩

/-- Tight pieces that are joined are tight. -/
theorem tight_join {separator : Text} {pieces : List Text} (hne : pieces ≠ [])
    (h : ∀ piece ∈ pieces, Tight piece) : Tight (join separator pieces) := by
  induction pieces with
  | nil => exact absurd rfl hne
  | cons piece rest ih =>
    cases rest with
    | nil => exact h piece List.mem_cons_self
    | cons next rest =>
      have hrest := ih (List.cons_ne_nil next rest) fun p hp => h p (List.mem_cons_of_mem piece hp)
      exact (h piece List.mem_cons_self).append hrest separator

/-- What is left of a text when the white space around it is taken off. -/
theorem tight_trim (hne : t.trim ≠ []) : Tight t.trim := by
  have hprefix : t.trim <+: t.trimStart := by
    have hsuffix := List.dropWhile_suffix Unicode.isBlank (l := t.trimStart.reverse)
    exact List.reverse_suffix.mp (by simpa [trim, trimEnd] using hsuffix)
  obtain ⟨c, rest, hc⟩ := List.exists_cons_of_ne_nil hne
  refine ⟨⟨c, rest, hc, ?_⟩, ?_⟩
  · -- the text begins as it does without the white space in front alone
    obtain ⟨behind, hbehind⟩ := hprefix
    rw [hc] at hbehind
    have hfirst := List.head?_dropWhile_not Unicode.isBlank t
    rw [show t.dropWhile Unicode.isBlank = c :: (rest ++ behind) from hbehind.symm] at hfirst
    exact hfirst
  · have hlast := List.head?_dropWhile_not Unicode.isBlank t.trimStart.reverse
    have hreverse : t.trimStart.reverse.dropWhile Unicode.isBlank = t.trim.reverse := by
      simp [trim, trimEnd]
    rw [hreverse, List.head?_reverse, List.getLast?_eq_some_getLast hne] at hlast
    exact ⟨t.trim.dropLast, t.trim.getLast hne, (List.dropLast_concat_getLast hne).symm, hlast⟩

/-- There is nothing left to trim. -/
@[simp] theorem trim_trim (t : Text) : t.trim.trim = t.trim := by
  by_cases hblank : t.trim = []
  · rw [hblank]
    rfl
  · exact (tight_trim hblank).trim

/-- Behind the same marks, a text goes on alike whether its pairs are written once or twice. -/
theorem head?_dropWhile_undouble (accepts : Char → Bool) (mark : Char) (t : Text) :
    ((undouble mark t).dropWhile accepts).head? = (t.dropWhile accepts).head? := by
  fun_induction undouble mark t with
  | case1 => rfl
  | case2 c => rfl
  | case3 c d rest hmarks ih =>
    obtain ⟨rfl, rfl⟩ := hmarks
    cases hc : accepts d with
    | true =>
      simp only [List.dropWhile_cons_of_pos hc]
      exact ih
    | false => simp [hc]
  | case4 c d rest hmarks ih =>
    cases hc : accepts c with
    | true =>
      rw [List.dropWhile_cons_of_pos hc, List.dropWhile_cons_of_pos hc]
      exact ih
    | false => simp [hc]

/-- What a text goes on with behind some marks is what it goes on with when another
    character stands at its end. -/
theorem head?_dropWhile_concat {accepts : Char → Bool} {c last : Char} (hlast : c ≠ last)
    (t : Text) :
    ((t ++ [last]).dropWhile accepts).head? = some c ↔ (t.dropWhile accepts).head? = some c := by
  induction t with
  | nil =>
    have hother : ([last].dropWhile accepts).head? ≠ some c := by
      cases hmark : accepts last with
      | true => simp [hmark]
      | false => simp [hmark, hlast.symm]
    exact iff_of_false hother nofun
  | cons x t ih =>
    rw [List.cons_append]
    cases hx : accepts x with
    | true =>
      rw [List.dropWhile_cons_of_pos hx, List.dropWhile_cons_of_pos hx]
      exact ih
    | false => simp [hx]

/-- A text is in a pair of marks or it cannot be unwrapped. -/
theorem unwrap?_eq_none_iff {opening closing : Char} :
    unwrap? opening closing t = none ↔ ∀ inner, t ≠ opening :: inner ++ [closing] := by
  cases t with
  | nil => simp [unwrap?]
  | cons c rest =>
    rw [unwrap?]
    split
    · next hmarks =>
      obtain ⟨rfl, hlast⟩ := hmarks
      obtain ⟨front, rfl⟩ := List.getLast?_eq_some_iff.mp hlast
      simp
    · next hmarks =>
      refine iff_of_true rfl fun inner heq => hmarks ?_
      injection heq with hc hrest
      exact ⟨hc, hrest ▸ List.getLast?_concat⟩

end Text

/-! ## §2. Written names -/

namespace Identifier

variable {d : Dialect} {name : Text}

/-- What a bare name is made of. -/
theorem continuesBare_of_mem_of_isBare (h : isBare name = true) {c : Char} (hc : c ∈ name) :
    continuesBare c = true := by
  cases name with
  | nil => simp [isBare] at h
  | cons first rest =>
    simp only [isBare, Bool.and_eq_true, List.all_eq_true] at h
    obtain ⟨⟨hfirst, hrest⟩, -⟩ := h
    obtain rfl | hc := List.mem_cons.mp hc
    · have hopens : c.isLower = true ∨ c = '_' := by simpa [opensBare] using hfirst
      obtain hlower | rfl := hopens
      · simp [continuesBare, hlower]
      · rfl
    · exact hrest c hc

/-- Bare names hold ASCII letters in lower case, digits, `_` and `$`. -/
theorem toNat_of_continuesBare {c : Char} (h : continuesBare c = true) :
    0x61 ≤ c.toNat ∧ c.toNat ≤ 0x7A ∨ 0x30 ≤ c.toNat ∧ c.toNat ≤ 0x39
      ∨ c.toNat = 0x5F ∨ c.toNat = 0x24 := by
  simp only [continuesBare, Bool.or_eq_true, beq_iff_eq] at h
  obtain ((hlower | hdigit) | rfl) | rfl := h
  · exact .inl (Unicode.isLower_iff.mp hlower)
  · exact .inr (.inl (Char.isDigit_iff_toNat.mp hdigit))
  · exact .inr (.inr (.inl rfl))
  · exact .inr (.inr (.inr rfl))

/-- A character of a bare name is no white space. -/
theorem isBlank_of_continuesBare {c : Char} (h : continuesBare c = true) :
    Unicode.isBlank c = false := by
  have hcode := toNat_of_continuesBare h
  exact Unicode.isBlank_of_toNat (by omega)

/-- No character with a part in the syntax of references may stand in a bare name. -/
theorem ne_of_continuesBare {c : Char} (h : continuesBare c = true) :
    c ≠ '.' ∧ c ≠ '"' ∧ c ≠ '[' := by
  refine ⟨?_, ?_, ?_⟩ <;>
  · rintro rfl
    exact absurd h (by decide)

/-- A bare name is in lower case. -/
theorem lowerAfter_of_continuesBare (h : ∀ c ∈ name, continuesBare c = true) (before : Text) :
    Unicode.lowerAfter before name = name := by
  have hcode := fun c hc => toNat_of_continuesBare (h c hc)
  rw [Unicode.lowerAfter_of_ascii fun c hc => by have := hcode c hc; omega]
  refine (List.map_congr_left fun c hc => ?_).trans (List.map_id name)
  exact Unicode.toLower_of_toNat (by have := hcode c hc; omega)

/-- A name has no white space around it once it is written. -/
theorem tight_requote (d : Dialect) (name : Text) : (requote d name).Tight := by
  unfold requote
  split
  · exact Text.tight_wrap rfl rfl name
  · split
    · next hbare =>
      have hne : name ≠ [] := by
        rintro rfl
        exact absurd hbare (by decide)
      exact Text.tight_of_forall hne fun c hc =>
        isBlank_of_continuesBare (continuesBare_of_mem_of_isBare hbare hc)
    · exact Text.tight_wrap rfl rfl name

/-- A name that is itself in brackets or in double quotes. -/
def LooksQuoted (name : Text) : Prop :=
  ∃ inner, name = '[' :: inner ++ [']'] ∨ name = '"' :: inner ++ ['"']

/-- In the SQL Server family a name has no quotes to be taken away if it looks like none. -/
theorem unquoteOnce?_bracket_eq_none_iff :
    unquoteOnce? .bracket name = none ↔ ¬LooksQuoted name := by
  simp [unquoteOnce?, LooksQuoted, Text.unwrap?_eq_none_iff, not_or, forall_and]

/-- What is read from a written name: the name, without the quotes that the
    bracket style takes off in addition. -/
theorem canonicalize_requote (d : Dialect) (name : Text) :
    canonicalize d (requote d name)
      = match d.quoteStyle with
        | .bracket => (unquoteOnce? .bracket name).getD name
        | .doubleQuote => name := by
  have htight := tight_requote d name
  simp only [canonicalize, htight.trim, htight.isEmpty_eq_false, Bool.false_eq_true, if_false]
  cases hstyle : d.quoteStyle with
  | bracket =>
    have honce : unquoteOnce? .bracket (Text.wrap '[' ']' name) = some name := by
      simp [unquoteOnce?, Text.unwrap?_wrap]
    simp [requote, hstyle, unquote?, honce]
  | doubleQuote =>
    simp only [requote, hstyle, unquote?, unquoteOnce?]
    split
    · next hbare =>
      have hbarred : Text.unwrap? '"' '"' name = none := by
        refine Text.unwrap?_eq_none_iff.mpr ?_
        rintro inner rfl
        simp [isBare, opensBare] at hbare
      rw [hbarred]
      exact lowerAfter_of_continuesBare (fun c => continuesBare_of_mem_of_isBare hbare) []
    · rw [Text.unwrap?_wrap]
      rfl

/-- The names that survive being written and read: all of them, save those that
    look quoted in the bracket style. -/
theorem canonicalize_requote_eq_self_iff :
    canonicalize d (requote d name) = name
      ↔ (d.quoteStyle = .bracket → ¬LooksQuoted name) := by
  rw [canonicalize_requote]
  cases d.quoteStyle with
  | doubleQuote => simp
  | bracket =>
    rw [← unquoteOnce?_bracket_eq_none_iff]
    cases hinner : unquoteOnce? .bracket name with
    | none => simp
    | some inner =>
      -- the inside of the quotes is too short to be the name
      have hlt := length_lt_of_unquoteOnce? hinner
      have hne : inner ≠ name := by
        rintro rfl
        exact Nat.lt_irrefl _ hlt
      simpa using hne

end Identifier

/-! ## §3. The cut at the dots -/

namespace TableRef

open Identifier

variable {d : Dialect} {name rest : Text}

/-- Characters in front of the pieces stand in front of the first one. -/
theorem foldr_consFirst (text piece : Text) (pieces : List Text) :
    text.foldr consFirst (piece :: pieces) = (text ++ piece) :: pieces := by
  induction text with
  | nil => rfl
  | cons c text ih => rw [List.foldr_cons, ih]; rfl

/-- Inside double quotes a name with its quotes doubled is passed over, and the
    quote behind it leaves them. -/
theorem cut_inDoubleQuotes (brackets : Bool) (name rest : Text) :
    cut brackets .inDoubleQuotes (Text.double '"' name ++ '"' :: rest)
      = (cut brackets .outside rest).map
          ((Text.double '"' name ++ ['"']).foldr consFirst ·) := by
  induction name with
  | nil => simp [Text.double, cut]
  | cons c name ih =>
    by_cases hc : c = '"'
    · subst hc
      simp [Text.double, cut, ih, Function.comp_def]
    · simp [Text.double, cut, hc, ih, Function.comp_def]

/-- Inside brackets a name with its closing brackets doubled is passed over, and the
    bracket behind it leaves them, unless another one follows. -/
theorem cut_inBrackets (brackets : Bool) (hrest : rest.head? ≠ some ']') (name : Text) :
    cut brackets .inBrackets (Text.double ']' name ++ ']' :: rest)
      = (cut brackets .outside rest).map
          ((Text.double ']' name ++ [']']).foldr consFirst ·) := by
  induction name with
  | nil =>
    cases rest with
    | nil => simp [Text.double, cut]
    | cons c rest =>
      have hc : c ≠ ']' := by simpa using hrest
      simp [Text.double, cut, hc]
  | cons c name ih =>
    by_cases hc : c = ']'
    · subst hc
      simp [Text.double, cut, ih, Function.comp_def]
    · simp [Text.double, cut, hc, ih, Function.comp_def]

/-- Characters without a part in the syntax of references are passed over. -/
theorem cut_bare (brackets : Bool) (h : ∀ c ∈ name, c ≠ '.' ∧ c ≠ '"' ∧ c ≠ '[') (rest : Text) :
    cut brackets .outside (name ++ rest)
      = (cut brackets .outside rest).map (name.foldr consFirst ·) := by
  induction name with
  | nil => simp
  | cons c name ih =>
    obtain ⟨hdot, hquote, hbracket⟩ := h c List.mem_cons_self
    have hname := ih fun c hc => h c (List.mem_cons_of_mem _ hc)
    simp [cut, hdot, hquote, hbracket, hname, Function.comp_def]

/-- **No name escapes its quotes.**  Reading on from a written name, the cut stands
    outside quotes behind it and has found no dot, whatever the name holds. -/
theorem cut_requote (d : Dialect) (hrest : rest.head? ≠ some ']') (name : Text) :
    cut (d.quoteStyle == .bracket) .outside (requote d name ++ rest)
      = (cut (d.quoteStyle == .bracket) .outside rest).map
          ((requote d name).foldr consFirst ·) := by
  cases hstyle : d.quoteStyle with
  | bracket =>
    simp only [requote, hstyle, Text.wrap]
    have hinside := cut_inBrackets true hrest name
    simp [cut, hinside, Function.comp_def]
  | doubleQuote =>
    simp only [requote, hstyle]
    split
    · next hbare =>
      exact cut_bare _ (fun c hc => ne_of_continuesBare (continuesBare_of_mem_of_isBare hbare hc)) rest
    · have hinside := cut_inDoubleQuotes (QuoteStyle.doubleQuote == .bracket) name rest
      simp [Text.wrap, cut, hinside, Function.comp_def]

/-- Pieces that the cut passes over, with dots between them, are what it finds. -/
theorem cut_join {brackets : Bool} {pieces : List Text} (hne : pieces ≠ [])
    (h : ∀ piece ∈ pieces, ∀ rest : Text, rest.head? ≠ some ']' →
      cut brackets .outside (piece ++ rest)
        = (cut brackets .outside rest).map (piece.foldr consFirst ·)) :
    cut brackets .outside (Text.join ['.'] pieces) = some pieces := by
  induction pieces with
  | nil => exact absurd rfl hne
  | cons piece rest ih =>
    have hpiece := h piece List.mem_cons_self
    cases rest with
    | nil =>
      have hcut := hpiece [] (by simp)
      simpa [Text.join, cut, foldr_consFirst] using hcut
    | cons next rest =>
      have hrest := ih (List.cons_ne_nil next rest) fun p hp => h p (List.mem_cons_of_mem piece hp)
      have hcut := hpiece ('.' :: Text.join ['.'] (next :: rest)) (by simp)
      rw [cut, if_pos rfl, hrest] at hcut
      simpa [Text.join, foldr_consFirst] using hcut

/-- Written names with dots between them are cut into these names. -/
theorem cut_join_requote {names : List Text} (hne : names ≠ []) :
    cut (d.quoteStyle == .bracket) .outside (Text.join ['.'] (names.map (requote d)))
      = some (names.map (requote d)) := by
  refine cut_join (by simpa using hne) fun piece hpiece rest hrest => ?_
  obtain ⟨name, -, rfl⟩ := List.mem_map.mp hpiece
  exact cut_requote d hrest name

/-! ## §4. References -/

theorem parts_ne_nil (r : TableRef) : r.parts ≠ [] := by
  simp [parts]

/-- Pieces without white space around them are the parts. -/
theorem split_of_cut {raw : Text} {parts : List Text}
    (hcut : cut (d.quoteStyle == .bracket) .outside raw = some parts)
    (htrim : ∀ part ∈ parts, part.trim = part) : split d raw = .ok parts := by
  rw [split, hcut]
  exact congrArg Except.ok ((List.map_congr_left htrim).trans (List.map_id' parts))

/-- The parts have no white space around them. -/
theorem trim_of_mem_split {raw : Text} {parts : List Text} (h : split d raw = .ok parts) :
    ∀ part ∈ parts, part.trim = part := by
  unfold split at h
  split at h
  · next pieces hcut =>
    injection h with h
    subst h
    intro part hpart
    obtain ⟨piece, -, rfl⟩ := List.mem_map.mp hpart
    exact Text.trim_trim piece
  · injection h

/-- A reference without white space around it is read by its parts. -/
theorem parse_of_split {raw : Text} {parts : List Text} (htight : raw.Tight)
    (hsplit : split d raw = .ok parts) (defaultSchema : Text) :
    parse d defaultSchema raw
      = (ofParts d defaultSchema parts).mapError fun fault => ⟨raw, fault⟩ := by
  simp only [parse, htight.trim, htight.isEmpty_eq_false, hsplit, Bool.false_eq_true, if_false]

/-- A written reference is split into its parts as they are written. -/
theorem split_qualified (r : TableRef) (d : Dialect) :
    split d (r.qualified d) = .ok (r.parts.map (requote d)) := by
  refine split_of_cut (cut_join_requote r.parts_ne_nil) fun part hpart => ?_
  obtain ⟨name, -, rfl⟩ := List.mem_map.mp hpart
  exact (tight_requote d name).trim

/-- A qualified name has no white space around it. -/
theorem tight_qualified (r : TableRef) (d : Dialect) : (r.qualified d).Tight := by
  refine Text.tight_join (by simpa using r.parts_ne_nil) fun piece hpiece => ?_
  obtain ⟨part, -, rfl⟩ := List.mem_map.mp hpiece
  exact tight_requote d part

/-- Reading a written reference is reading its written parts. -/
theorem parse_qualified (r : TableRef) (d : Dialect) (defaultSchema : Text) :
    parse d defaultSchema (r.qualified d)
      = (ofParts d defaultSchema (r.parts.map (requote d))).mapError
          fun fault => ⟨r.qualified d, fault⟩ :=
  parse_of_split (r.tight_qualified d) (r.split_qualified d) defaultSchema

/-- The reference that a written one is read as. -/
theorem ofParts_requote (r : TableRef) (d : Dialect) (defaultSchema : Text) :
    ofParts d defaultSchema (r.parts.map (requote d))
      = .ok (match r.server, r.database with
        | some server, none => ⟨none, some (canonicalize d (requote d server)),
            canonicalize d (requote d r.schema), canonicalize d (requote d r.table)⟩
        | _, _ => ⟨r.server.map fun part => canonicalize d (requote d part),
            r.database.map fun part => canonicalize d (requote d part),
            canonicalize d (requote d r.schema), canonicalize d (requote d r.table)⟩) := by
  have hpart : ∀ part, (requote d part).isEmpty = false :=
    fun part => (tight_requote d part).isEmpty_eq_false
  obtain ⟨server, database, schema, table⟩ := r
  cases server <;> cases database <;>
    simp [parts, ofParts, ofParts.omitted, ofParts.canonical, schemaOrDefault, inSchema, hpart]

/-- **Reading is the inverse of writing.**  A written reference is split into its
    requoted parts, in order.  It is read as the reference that was written if and
    only if its server comes with a database and, in the bracket style, none of its
    parts looks quoted; the default schema is of no account. -/
theorem reads_back_qualified (d : Dialect) (r : TableRef) :
    split d (r.qualified d) = .ok (r.parts.map (requote d))
      ∧ ∀ defaultSchema, parse d defaultSchema (r.qualified d) = .ok r
          ↔ (r.server.isSome = true → r.database.isSome = true)
            ∧ (d.quoteStyle = .bracket → ∀ part ∈ r.parts, ¬LooksQuoted part) := by
  refine ⟨r.split_qualified d, fun defaultSchema => ?_⟩
  have hsurvive : (d.quoteStyle = .bracket → ∀ part ∈ r.parts, ¬LooksQuoted part)
      ↔ ∀ part ∈ r.parts, canonicalize d (requote d part) = part := by
    simp only [canonicalize_requote_eq_self_iff]
    exact ⟨fun h part hpart hstyle => h hstyle part hpart,
      fun h hstyle part hpart => h part hpart hstyle⟩
  rw [hsurvive, parse_qualified, ofParts_requote]
  -- no error is left that the text would have to be added to
  show Except.ok _ = Except.ok r ↔ _
  obtain ⟨server, database, schema, table⟩ := r
  cases server <;> cases database <;> simp [parts]

/-- Dots, brackets, quotes and nothing at all as parts. -/
example : parse .ms "dbo".toList
    (qualified ⟨some "a.b".toList, some "c]d".toList, [], "e\".[f]]".toList⟩ .ms)
      = .ok ⟨some "a.b".toList, some "c]d".toList, [], "e\".[f]]".toList⟩ := by rfl

end TableRef

end TableLedger
