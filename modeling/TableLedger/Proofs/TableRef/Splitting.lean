/-
  TableLedger.Proofs.TableRef.Splitting — parts that are split again.

  A reader of references passes single characters and whole spans: a span in double
  quotes ends at the next double quote, a span in brackets at the first closing bracket
  that is not one of a pair.  A text is read in at most one way, and it is read unless a
  quote or bracket is opened behind some stretches and never closed.

  The parts are what stands between the dots that are stretches by themselves.  White
  space is taken off their ends in whole stretches, for neither a quote nor a bracket is
  white space, so what is left of a part is a sublist of the stretches of the reference,
  and is read as this sublist.  A closing bracket at the end of a part stands in front of
  a dot or of nothing, as before it stood in front of anything but a closing bracket.

      split d (written ss) = .ok (the bare pieces of ss, written)

  Main statements:
    • `exists_reading_or_leavesOpen`, `Reading.unique` — reading a text,
    • `split_of_reading` — the parts of a text that is read,
    • `split_eq_error_iff` — the texts that cannot be split,
    • `splitting_is_stable` — splitting the parts again,
    • `StandsAlone.parse_eq`, `StandsAlone.parse_in_schema` — references of one and of two
      parts.
-/

import Mathlib.Data.List.Chain
import Mathlib.Data.List.DropRight
import TableLedger.Proofs.TableRef.RoundTrip

namespace TableLedger.TableRef

variable {brackets : Bool} {d : Dialect} {raw front rest t : Text}

/-! ## §1. Stretches -/

/-- What a reader of references passes at a time. -/
inductive Stretch where
  /-- A character outside quotes. -/
  | char (c : Char)
  /-- Double quotes with what stands between them. -/
  | inQuotes (inside : Text)
  /-- Brackets with what stands between them, closing brackets written once. -/
  | inBrackets (inside : Text)
  deriving DecidableEq, Repr

namespace Stretch

def text : Stretch → Text
  | char c => [c]
  | inQuotes inside => '"' :: inside ++ ['"']
  | inBrackets inside => Text.wrap '[' ']' inside

/-- The stretch is passed as a whole, where nothing in front of it is open. -/
def Stands (brackets : Bool) : Stretch → Prop
  | char c => c ≠ '"' ∧ (brackets = true → c ≠ '[')
  | inQuotes inside => '"' ∉ inside
  | inBrackets _ => brackets = true

/-- The second stretch does not go on with the first one. -/
def Apart (s next : Stretch) : Prop :=
  ∀ inside, s = inBrackets inside → next ≠ char ']'

/-- The text that stretches make up. -/
def written (ss : List Stretch) : Text := ss.flatMap text

@[simp] theorem written_nil : written [] = [] := rfl

@[simp] theorem written_cons (s : Stretch) (ss : List Stretch) :
    written (s :: ss) = s.text ++ written ss := rfl

@[simp] theorem written_append (ss ss' : List Stretch) :
    written (ss ++ ss') = written ss ++ written ss' := List.flatMap_append

/-- A text begins with a closing bracket only if this is its first stretch. -/
theorem head?_written (ss : List Stretch) :
    (written ss).head? = some ']' ↔ ss.head? = some (char ']') := by
  cases ss with
  | nil => simp
  | cons s ss => cases s <;> simp [text, Text.wrap]

end Stretch

open Stretch

/-- The stretches of a text, from left to right. -/
structure Reading (brackets : Bool) (raw : Text) (ss : List Stretch) : Prop where
  /-- Each of them is passed as a whole. -/
  stands : ∀ s ∈ ss, s.Stands brackets
  /-- None goes on with the one in front of it. -/
  apart : ss.IsChain Apart
  written : written ss = raw

/-- A quote or bracket is opened at the beginning and never closed. -/
inductive NeverCloses (brackets : Bool) : Text → Prop
  | quote {inside : Text} : '"' ∉ inside → NeverCloses brackets ('"' :: inside)
  | bracket (inside : Text) : brackets = true →
      NeverCloses brackets ('[' :: Text.double ']' inside)

/-- Behind some stretches a quote or bracket is opened and never closed. -/
def LeavesOpen (brackets : Bool) (raw : Text) : Prop :=
  ∃ front ss rest, Reading brackets front ss ∧ NeverCloses brackets rest ∧ raw = front ++ rest

namespace Reading

variable {s : Stretch} {ss ss' : List Stretch}

theorem nil : Reading brackets [] [] :=
  ⟨nofun, List.IsChain.nil, rfl⟩

/-- A stretch in front of a reading, if the two do not go on with each other. -/
theorem cons (hs : s.Stands brackets) (happart : ∀ inside, s = inBrackets inside → rest.head? ≠ some ']')
    (h : Reading brackets rest ss) : Reading brackets (s.text ++ rest) (s :: ss) := by
  refine ⟨List.forall_mem_cons.mpr ⟨hs, h.stands⟩, List.isChain_cons.mpr ⟨?_, h.apart⟩, ?_⟩
  · rintro next hnext inside rfl rfl
    exact happart inside rfl (h.written ▸ (head?_written ss).mpr hnext)
  · rw [written_cons, h.written]

theorem append (h : Reading brackets front ss) (h' : Reading brackets rest ss')
    (hrest : rest.head? ≠ some ']') : Reading brackets (front ++ rest) (ss ++ ss') := by
  refine ⟨List.forall_mem_append.mpr ⟨h.stands, h'.stands⟩, h.apart.append h'.apart ?_, ?_⟩
  · rintro s - next hnext inside - rfl
    exact hrest (h'.written ▸ (head?_written ss').mpr hnext)
  · rw [written_append, h.written, h'.written]

/-- Stretches in the middle of a text are read as they are. -/
theorem of_part (h : Reading brackets raw ss) (hpart : ss' <:+: ss) :
    Reading brackets (Stretch.written ss') ss' :=
  ⟨fun s hs => h.stands s (hpart.subset hs), List.IsChain.infix h.apart hpart, rfl⟩

/-- Behind its first stretch a text is read as the others. -/
theorem tail (h : Reading brackets raw (s :: ss)) : Reading brackets (Stretch.written ss) ss :=
  h.of_part (List.suffix_cons s ss).isInfix

/-- Behind a span in brackets the text does not go on with a closing bracket. -/
theorem head?_ne (h : Reading brackets raw (s :: ss)) (inside : Text) (hs : s = inBrackets inside) :
    (Stretch.written ss).head? ≠ some ']' := fun hhead =>
  (List.isChain_cons.mp h.apart).1 _ ((head?_written ss).mp hhead) inside hs rfl

end Reading

/-! ## §2. Reading a text -/

/-- What stands behind an opening bracket never closes it, or closes it at the first
    closing bracket that is not one of a pair. -/
theorem exists_eq_double (t : Text) :
    (∃ inside, t = Text.double ']' inside)
      ∨ ∃ inside rest, t = Text.double ']' inside ++ ']' :: rest ∧ rest.head? ≠ some ']' := by
  -- pairs of closing brackets are passed as they are when they are written once
  fun_induction Text.undouble ']' t with
  | case1 => exact .inl ⟨[], rfl⟩
  | case2 c =>
    by_cases hc : c = ']'
    · subst hc
      exact .inr ⟨[], [], rfl, by simp⟩
    · exact .inl ⟨[c], by simp [Text.double, hc]⟩
  | case3 c d rest hpair ih =>
    obtain ⟨rfl, rfl⟩ := hpair
    obtain ⟨inside, rfl⟩ | ⟨inside, behind, rfl, hbehind⟩ := ih
    · exact .inl ⟨']' :: inside, by simp [Text.double]⟩
    · exact .inr ⟨']' :: inside, behind, by simp [Text.double], hbehind⟩
  | case4 c d rest hpair ih =>
    by_cases hc : c = ']'
    · subst hc
      exact .inr ⟨[], d :: rest, rfl, by simpa using hpair⟩
    · obtain ⟨inside, hrest⟩ | ⟨inside, behind, hrest, hbehind⟩ := ih
      · exact .inl ⟨c :: inside, by simp [Text.double, hc, hrest]⟩
      · exact .inr ⟨c :: inside, behind, by simp [Text.double, hc, hrest], hbehind⟩

/-- What is left open stays open behind another stretch. -/
theorem LeavesOpen.behind {s : Stretch} (h : LeavesOpen brackets rest) (hs : s.Stands brackets)
    (happart : ∀ inside, s = inBrackets inside → rest.head? ≠ some ']') :
    LeavesOpen brackets (s.text ++ rest) := by
  obtain ⟨front, ss, last, hfront, hlast, rfl⟩ := h
  refine ⟨s.text ++ front, s :: ss, last, hfront.cons hs fun inside hinside hhead => ?_, hlast,
    (List.append_assoc _ _ _).symm⟩
  exact happart inside hinside (by rw [List.head?_append, hhead]; rfl)

/-- **A text is read or leaves something open.** -/
theorem exists_reading_or_leavesOpen (brackets : Bool) (raw : Text) :
    (∃ ss, Reading brackets raw ss) ∨ LeavesOpen brackets raw := by
  -- on the length, for a stretch may be longer than a character
  induction hlength : raw.length using Nat.strong_induction_on generalizing raw with
  | _ n ih =>
  subst hlength
  -- the first stretch, and what stands behind it
  have hbehind : ∀ (s : Stretch) (rest : Text), raw = s.text ++ rest → s.Stands brackets →
      (∀ inside, s = inBrackets inside → rest.head? ≠ some ']') →
      (∃ ss, Reading brackets raw ss) ∨ LeavesOpen brackets raw := by
    rintro s rest rfl hs happart
    have hlt : rest.length < (s.text ++ rest).length := by
      have hpos : 0 < s.text.length := by cases s <;> simp [Stretch.text, Text.wrap]
      simpa using hpos
    obtain ⟨ss, hss⟩ | hopen := ih _ hlt rest rfl
    · exact .inl ⟨s :: ss, hss.cons hs happart⟩
    · exact .inr (hopen.behind hs happart)
  have hopens : NeverCloses brackets raw → LeavesOpen brackets raw := fun h =>
    ⟨[], [], raw, .nil, h, rfl⟩
  cases raw with
  | nil => exact .inl ⟨[], .nil⟩
  | cons c t =>
    by_cases hquote : c = '"'
    · subst hquote
      by_cases hcloses : '"' ∈ t
      · obtain ⟨inside, rest, rfl, hinside⟩ := List.eq_append_cons_of_mem hcloses
        exact hbehind (.inQuotes inside) rest (by simp [Stretch.text]) hinside (by simp)
      · exact .inr (hopens (.quote hcloses))
    · by_cases hbracket : c = '[' ∧ brackets = true
      · obtain ⟨rfl, hbrackets⟩ := hbracket
        obtain ⟨inside, rfl⟩ | ⟨inside, rest, rfl, hrest⟩ := exists_eq_double t
        · exact .inr (hopens (.bracket inside hbrackets))
        · exact hbehind (.inBrackets inside) rest (by simp [Stretch.text, Text.wrap]) hbrackets
            fun _ _ => hrest
      · exact hbehind (.char c) t rfl ⟨hquote, fun h hc => hbracket ⟨hc, h⟩⟩ (by simp)

/-- Double quotes are closed at one place only. -/
theorem inQuotes_inj {inside inside' rest rest' : Text} (hinside : '"' ∉ inside)
    (hinside' : '"' ∉ inside') (h : inside ++ '"' :: rest = inside' ++ '"' :: rest') :
    inside = inside' ∧ rest = rest' := by
  have htake : ∀ {u v : Text}, '"' ∉ u → (u ++ '"' :: v).takeWhile (· ≠ '"') = u := by
    intro u v hu
    have hall : ∀ c ∈ u, decide (c ≠ '"') = true := fun c hc =>
      decide_eq_true fun heq => hu (heq ▸ hc)
    rw [List.takeWhile_append_of_pos hall]
    simp
  have heq : inside = inside' := by rw [← htake hinside, h, htake hinside']
  subst heq
  exact ⟨rfl, by simpa using h⟩

/-- Brackets are closed at one place only. -/
theorem inBrackets_inj {inside inside' rest rest' : Text} (hrest : rest.head? ≠ some ']')
    (hrest' : rest'.head? ≠ some ']')
    (h : Text.double ']' inside ++ ']' :: rest = Text.double ']' inside' ++ ']' :: rest') :
    inside = inside' ∧ rest = rest' := by
  induction inside generalizing inside' with
  | nil =>
    cases inside' with
    | nil => exact ⟨rfl, by simpa [Text.double] using h⟩
    | cons c inside' =>
      -- where the brackets are closed on one side, a pair stands on the other
      by_cases hc : c = ']'
      · simp [Text.double, hc] at h
        simp [h] at hrest
      · simp [Text.double, hc, Ne.symm hc] at h
  | cons c inside ih =>
    cases inside' with
    | nil =>
      by_cases hc : c = ']'
      · simp [Text.double, hc] at h
        simp [← h] at hrest'
      · simp [Text.double, hc] at h
    | cons c' inside' =>
      have hfirst : c = c' ∧ Text.double ']' inside ++ ']' :: rest
          = Text.double ']' inside' ++ ']' :: rest' := by
        by_cases hc : c = ']' <;> by_cases hc' : c' = ']' <;>
          simp [Text.double, hc, hc', Ne.symm] at h ⊢ <;> exact h
      obtain ⟨heq, hrests⟩ := ih hfirst.2
      exact ⟨by rw [hfirst.1, heq], hrests⟩

/-- The first stretch is the same in every reading: its first character tells what it is. -/
theorem text_append_inj {s s' : Stretch} {rest' : Text} (hs : s.Stands brackets)
    (hs' : s'.Stands brackets) (hrest : ∀ inside, s = inBrackets inside → rest.head? ≠ some ']')
    (hrest' : ∀ inside, s' = inBrackets inside → rest'.head? ≠ some ']')
    (h : s.text ++ rest = s'.text ++ rest') : s = s' ∧ rest = rest' := by
  cases s with
  | char c =>
    cases s' with
    | char c' => simpa [Stretch.text] using h
    | inQuotes inside' =>
      -- a character by itself is no mark, so it is not the first one of a quotation
      have hc : c = '"' := by simpa [Stretch.text] using congrArg List.head? h
      exact absurd hc hs.1
    | inBrackets inside' =>
      have hc : c = '[' := by simpa [Stretch.text, Text.wrap] using congrArg List.head? h
      exact absurd hc (hs.2 hs')
  | inQuotes inside =>
    cases s' with
    | char c' =>
      have hc : c' = '"' := by simpa [Stretch.text] using (congrArg List.head? h).symm
      exact absurd hc hs'.1
    | inQuotes inside' =>
      obtain ⟨rfl, hrests⟩ := inQuotes_inj hs hs' (by simpa [Stretch.text] using h)
      exact ⟨rfl, hrests⟩
    | inBrackets inside' => simp [Stretch.text, Text.wrap] at h
  | inBrackets inside =>
    cases s' with
    | char c' =>
      have hc : c' = '[' := by simpa [Stretch.text, Text.wrap] using (congrArg List.head? h).symm
      exact absurd hc (hs'.2 hs)
    | inQuotes inside' => simp [Stretch.text, Text.wrap] at h
    | inBrackets inside' =>
      obtain ⟨rfl, hrests⟩ := inBrackets_inj (hrest inside rfl) (hrest' inside' rfl)
        (by simpa [Stretch.text, Text.wrap] using h)
      exact ⟨rfl, hrests⟩

/-- **A text is read in one way.** -/
theorem Reading.unique {ss ss' : List Stretch} (h : Reading brackets raw ss)
    (h' : Reading brackets raw ss') : ss = ss' := by
  induction ss generalizing raw ss' with
  | nil =>
    have hwritten := h.written.trans h'.written.symm
    cases ss' with
    | nil => rfl
    | cons s' ss' => cases s' <;> simp [Stretch.text, Text.wrap] at hwritten
  | cons s ss ih =>
    have hwritten := h.written.trans h'.written.symm
    cases ss' with
    | nil => cases s <;> simp [Stretch.text, Text.wrap] at hwritten
    | cons s' ss' =>
      obtain ⟨rfl, hrest⟩ := text_append_inj (h.stands s List.mem_cons_self)
        (h'.stands s' List.mem_cons_self) h.head?_ne h'.head?_ne hwritten
      rw [ih h.tail (hrest ▸ h'.tail)]

/-! ## §3. The cut at the dots -/

/-- What a stretch in front of the rest does to the pieces of the rest. -/
def attach (s : Stretch) (pieces : List Text) : List Text :=
  if s = char '.' then [] :: pieces else s.text.foldr consFirst pieces

/-- A text without the mark is its own double. -/
theorem double_eq_self {mark : Char} (h : mark ∉ t) : Text.double mark t = t := by
  induction t with
  | nil => rfl
  | cons c t ih =>
    have hc : c ≠ mark := fun heq => h (heq ▸ List.mem_cons_self)
    rw [Text.double, if_neg hc, ih fun hmem => h (List.mem_cons_of_mem c hmem)]

/-- A stretch that is no dot belongs to the first piece. -/
theorem attach_of_ne {s : Stretch} (hs : s ≠ char '.') :
    attach s = fun pieces => s.text.foldr consFirst pieces :=
  funext fun _ => if_neg hs

/-- The cut passes a stretch as a whole. -/
theorem cut_text_append {s : Stretch} (hs : s.Stands brackets)
    (hrest : ∀ inside, s = inBrackets inside → rest.head? ≠ some ']') :
    cut brackets .outside (s.text ++ rest) = (cut brackets .outside rest).map (attach s) := by
  by_cases hdot : s = char '.'
  · subst hdot
    rfl
  rw [attach_of_ne hdot]
  cases s with
  | char c =>
    have hc : c ≠ '.' := fun heq => hdot (congrArg char heq)
    have hbracket : ¬(c = '[' ∧ brackets = true) := fun h => hs.2 h.2 h.1
    simp [Stretch.text, cut, hc, hs.1, hbracket]
  | inQuotes inside =>
    have hinside := cut_inDoubleQuotes brackets inside rest
    rw [double_eq_self hs] at hinside
    simp [Stretch.text, cut, hinside, Function.comp_def]
  | inBrackets inside =>
    have hbrackets : brackets = true := hs
    have hinside := cut_inBrackets brackets (hrest inside rfl) inside
    rw [hbrackets] at hinside
    simp [Stretch.text, Text.wrap, cut, hbrackets, hinside, Function.comp_def]

/-- The cut passes whole stretches. -/
theorem cut_append {ss : List Stretch} (h : Reading brackets front ss)
    (hrest : rest.head? ≠ some ']') :
    cut brackets .outside (front ++ rest)
      = (cut brackets .outside rest).map (ss.foldr attach ·) := by
  induction ss generalizing front with
  | nil => simp [← h.written]
  | cons s ss ih =>
    have hbehind : ∀ inside, s = inBrackets inside →
        (Stretch.written ss ++ rest).head? ≠ some ']' := by
      intro inside hs hhead
      rw [List.head?_append, Option.or_eq_some_iff] at hhead
      obtain hhead | ⟨-, hhead⟩ := hhead
      · exact h.head?_ne inside hs hhead
      · exact hrest hhead
    rw [← h.written, written_cons, List.append_assoc,
      cut_text_append (h.stands s List.mem_cons_self) hbehind, ih h.tail, Option.map_map]
    rfl

/-- Stretches are split at the dots one by one. -/
theorem splitOn_cons (dot s : Stretch) (ss : List Stretch) :
    (s :: ss).splitOn dot
      = if s = dot then [] :: ss.splitOn dot else (ss.splitOn dot).modifyHead (s :: ·) := by
  simp [List.splitOn_eq_splitOnP, List.splitOnP_cons_eq_if_modifyHead]

/-- The pieces are what stands between the dots among the stretches. -/
theorem foldr_attach (ss : List Stretch) :
    ss.foldr attach [[]] = (ss.splitOn (char '.')).map Stretch.written := by
  induction ss with
  | nil => simp [List.splitOn_nil]
  | cons s ss ih =>
    rw [List.foldr_cons, ih, splitOn_cons, attach]
    split
    · rfl
    · obtain ⟨piece, pieces, hpieces⟩ :=
        List.exists_cons_of_ne_nil (List.splitOn_ne_nil (char '.') ss)
      rw [hpieces, List.modifyHead_cons, List.map_cons, List.map_cons, foldr_consFirst, written_cons]

/-- There is one more piece than there are dots. -/
theorem length_splitOn (dot : Stretch) (ss : List Stretch) :
    (ss.splitOn dot).length = ss.count dot + 1 := by
  induction ss with
  | nil => simp [List.splitOn_nil]
  | cons s ss ih =>
    rw [splitOn_cons, List.count_cons]
    split <;> simp_all

/-- Stretches fall into pieces with no dots in them. -/
theorem exists_splitOn_eq_cons (dot : Stretch) (ss : List Stretch) :
    ∃ first others, ss.splitOn dot = first :: others ∧ (first <+: ss ∧ dot ∉ first)
      ∧ ∀ piece ∈ others, piece <:+: ss ∧ dot ∉ piece := by
  induction ss with
  | nil => exact ⟨[], [], List.splitOn_nil dot, ⟨List.prefix_refl [], List.not_mem_nil⟩, nofun⟩
  | cons s ss ih =>
    obtain ⟨first, others, hpieces, ⟨hfirst, hdot⟩, hothers⟩ := ih
    have hbehind : ∀ piece ∈ others, piece <:+: s :: ss ∧ dot ∉ piece := fun piece hpiece =>
      ⟨(hothers piece hpiece).1.trans (List.suffix_cons s ss).isInfix, (hothers piece hpiece).2⟩
    rw [splitOn_cons, hpieces]
    by_cases hs : s = dot
    · refine ⟨[], first :: others, if_pos hs, ⟨List.nil_prefix, List.not_mem_nil⟩, ?_⟩
      exact List.forall_mem_cons.mpr
        ⟨⟨hfirst.isInfix.trans (List.suffix_cons s ss).isInfix, hdot⟩, hbehind⟩
    · refine ⟨s :: first, others, if_neg hs, ⟨?_, ?_⟩, hbehind⟩
      · exact (List.prefix_cons_inj s).mpr hfirst
      · simpa using ⟨Ne.symm hs, hdot⟩

/-- A piece is a part of the whole, with no dot in it. -/
theorem isInfix_of_mem_splitOn {dot : Stretch} {piece ss : List Stretch}
    (h : piece ∈ ss.splitOn dot) : piece <:+: ss ∧ dot ∉ piece := by
  obtain ⟨first, others, hpieces, ⟨hfirst, hdot⟩, hothers⟩ := exists_splitOn_eq_cons dot ss
  rw [hpieces] at h
  obtain rfl | h := List.mem_cons.mp h
  · exact ⟨hfirst.isInfix, hdot⟩
  · exact hothers piece h

/-! ## §4. Bare pieces -/

def isBlankChar : Stretch → Bool
  | char c => Unicode.isBlank c
  | _ => false

/-- Stretches without the white space around them. -/
def bare (ss : List Stretch) : List Stretch :=
  (ss.dropWhile isBlankChar).rdropWhile isBlankChar

/-- What is left without white space was there. -/
theorem bare_isInfix (ss : List Stretch) : bare ss <:+: ss :=
  (List.rdropWhile_prefix _ _).isInfix.trans (List.dropWhile_suffix _).isInfix

/-- To trim the start of a text is to drop the blanks of its reading. -/
theorem trimStart_written (ss : List Stretch) :
    (Stretch.written ss).trimStart = Stretch.written (ss.dropWhile isBlankChar) := by
  induction ss with
  | nil => rfl
  | cons s ss ih =>
    cases hs : isBlankChar s with
    | true =>
      cases s with
      | char c =>
        have hc : Unicode.isBlank c = true := hs
        rw [List.dropWhile_cons_of_pos hs, ← ih]
        simp [Text.trimStart, Stretch.text, hc]
      | inQuotes inside => simp [isBlankChar] at hs
      | inBrackets inside => simp [isBlankChar] at hs
    | false =>
      rw [List.dropWhile_cons_of_neg (by simp [hs])]
      cases s with
      | char c =>
        have hc : Unicode.isBlank c = false := hs
        simp [Text.trimStart, Stretch.text, hc]
      | inQuotes inside => rfl
      | inBrackets inside => rfl

theorem trimEnd_written (ss : List Stretch) :
    (Stretch.written ss).trimEnd = Stretch.written (ss.rdropWhile isBlankChar) := by
  -- the white space at the end of a text
  have hconcat : ∀ (t : Text) (c : Char), (t ++ [c]).trimEnd
      = if Unicode.isBlank c then t.trimEnd else t ++ [c] :=
    fun t c => List.rdropWhile_concat Unicode.isBlank t c
  have hquote : Unicode.isBlank '"' = false := rfl
  have hbracket : Unicode.isBlank ']' = false := rfl
  induction ss using List.reverseRecOn with
  | nil => rfl
  | append_singleton ss s ih =>
    rw [List.rdropWhile_concat, written_append]
    cases s with
    | char c =>
      have htext : Stretch.written [char c] = [c] := rfl
      rw [htext, hconcat, ih]
      split <;> simp_all [isBlankChar]
    | inQuotes inside =>
      have htext : Stretch.written ss ++ Stretch.written [inQuotes inside]
          = Stretch.written ss ++ '"' :: inside ++ ['"'] := by simp [Stretch.text]
      rw [htext, hconcat]
      simp [isBlankChar, hquote, Stretch.text]
    | inBrackets inside =>
      have htext : Stretch.written ss ++ Stretch.written [inBrackets inside]
          = Stretch.written ss ++ '[' :: Text.double ']' inside ++ [']'] := by
        simp [Stretch.text, Text.wrap]
      rw [htext, hconcat]
      simp [isBlankChar, hbracket, Stretch.text, Text.wrap]

theorem trim_written (ss : List Stretch) : (Stretch.written ss).trim = Stretch.written (bare ss) := by
  rw [Text.trim, trimStart_written, trimEnd_written, bare]

/-! ## §5. Splitting -/

/-- **The parts of a text that is read** are the pieces between its dots, without the
    white space around them. -/
theorem split_of_reading {ss : List Stretch}
    (h : Reading (d.quoteStyle == .bracket) raw ss) :
    split d raw = .ok ((ss.splitOn (char '.')).map fun piece => Stretch.written (bare piece)) := by
  have hcut : cut _ .outside (raw ++ []) = _ := cut_append h nofun
  rw [List.append_nil] at hcut
  simp only [split, hcut, cut, Option.map_some, foldr_attach, List.map_map]
  exact congrArg Except.ok (List.map_congr_left fun piece _ => trim_written piece)

/-- Quotes that are opened and not closed are found out. -/
theorem cut_inDoubleQuotes_of_not_mem (h : '"' ∉ t) : cut brackets .inDoubleQuotes t = none := by
  induction t with
  | nil => rfl
  | cons c t ih =>
    have hc : c ≠ '"' := fun heq => h (heq ▸ List.mem_cons_self)
    rw [cut, if_neg hc, ih fun hmem => h (List.mem_cons_of_mem c hmem)]
    rfl

/-- Brackets that are opened and in which all closing ones are doubled are found out. -/
theorem cut_inBrackets_double (inside : Text) :
    cut brackets .inBrackets (Text.double ']' inside) = none := by
  induction inside with
  | nil => rfl
  | cons c inside ih =>
    by_cases hc : c = ']'
    · subst hc
      simp [Text.double, cut, ih]
    · simp [Text.double, cut, hc, ih]

/-- The cut finds no pieces where something is left open. -/
theorem cut_of_leavesOpen (h : LeavesOpen brackets raw) : cut brackets .outside raw = none := by
  obtain ⟨front, ss, rest, hfront, hrest, rfl⟩ := h
  have hopen : cut brackets .outside rest = none ∧ rest.head? ≠ some ']' := by
    cases hrest with
    | quote hinside => simp [cut, cut_inDoubleQuotes_of_not_mem hinside]
    | bracket inside hbrackets => simp [cut, hbrackets, cut_inBrackets_double]
  rw [cut_append hfront hopen.2, hopen.1]
  rfl

/-- **A text cannot be split** if and only if it leaves something open. -/
theorem split_eq_error_iff {e : ReferenceError} :
    split d raw = .error e
      ↔ e = ⟨raw, .unterminated⟩ ∧ LeavesOpen (d.quoteStyle == .bracket) raw := by
  obtain ⟨ss, hss⟩ | hopen := exists_reading_or_leavesOpen (d.quoteStyle == .bracket) raw
  · have hclosed : ¬LeavesOpen (d.quoteStyle == .bracket) raw := fun hopen => by
      have hcut : cut _ .outside (raw ++ []) = _ := cut_append hss nofun
      rw [List.append_nil, cut_of_leavesOpen hopen] at hcut
      simp [cut] at hcut
    simp [split_of_reading hss, hclosed]
  · simp [split, cut_of_leavesOpen hopen, hopen, eq_comm]

/-- Texts that are read, with dots between them, are read as their stretches, with dots
    between these. -/
theorem Reading.join {pieces : List (List Stretch)} (hne : pieces ≠ [])
    (h : ∀ piece ∈ pieces, Reading brackets (Stretch.written piece) piece) :
    Reading brackets (Text.join ['.'] (pieces.map Stretch.written))
      ([char '.'].intercalate pieces) := by
  induction pieces with
  | nil => exact absurd rfl hne
  | cons piece rest ih =>
    have hpiece := h piece List.mem_cons_self
    cases rest with
    | nil => simpa [Text.join, List.intercalate] using hpiece
    | cons next rest =>
      have hrest := ih (List.cons_ne_nil next rest) fun p hp => h p (List.mem_cons_of_mem piece hp)
      have hdot : (char '.').Stands brackets := ⟨by decide, fun _ => by decide⟩
      have hbehind := hpiece.append (hrest.cons hdot (by simp)) (by simp [Stretch.text])
      simpa [Text.join, Stretch.text, List.intercalate_cons_cons] using hbehind

/-- **The parts are read as bare pieces**, each by itself and all of them with dots between. -/
theorem split_of_bare {pieces : List (List Stretch)} (hne : pieces ≠ [])
    (h : ∀ piece ∈ pieces, Reading (d.quoteStyle == .bracket) (Stretch.written piece) piece
      ∧ char '.' ∉ piece) :
    split d (Text.join ['.'] (pieces.map fun piece => Stretch.written (bare piece)))
      = .ok (pieces.map fun piece => Stretch.written (bare piece)) := by
  have hbare : ∀ piece ∈ pieces.map bare,
      Reading (d.quoteStyle == .bracket) (Stretch.written piece) piece ∧ char '.' ∉ piece := by
    simp only [List.forall_mem_map]
    exact fun piece hpiece => ⟨(h piece hpiece).1.of_part (bare_isInfix piece),
      fun hdot => (h piece hpiece).2 ((bare_isInfix piece).subset hdot)⟩
  have hne' : pieces.map bare ≠ [] := by simpa using hne
  have hjoin := Reading.join hne' fun piece hpiece => (hbare piece hpiece).1
  rw [List.map_map] at hjoin
  -- no bare piece has a dot among its stretches, so the pieces come back
  rw [show (fun piece => Stretch.written (bare piece)) = Stretch.written ∘ bare from rfl,
    split_of_reading hjoin, List.splitOn_intercalate _ (fun piece hpiece => (hbare piece hpiece).2) hne',
    List.map_map]
  -- white space that has been taken off is not taken off again
  refine congrArg Except.ok (List.map_congr_left fun piece _ => ?_)
  simp [← trim_written]

/-- **Splitting is stable.**  A reference cannot be split if and only if, read from left to
    right, it leaves a quote or bracket open.  Otherwise there is one reading of it, and one
    part more than this has dots outside quotes; every part is split into itself, and the
    parts with dots between them into these parts again. -/
theorem splitting_is_stable (d : Dialect) (raw : Text) :
    (∀ e, split d raw = .error e
        ↔ e = ⟨raw, .unterminated⟩ ∧ LeavesOpen (d.quoteStyle == .bracket) raw)
      ∧ ∀ parts, split d raw = .ok parts →
        (∃ ss, (∀ other, Reading (d.quoteStyle == .bracket) raw other ↔ other = ss)
            ∧ parts.length = ss.count (char '.') + 1)
          ∧ (∀ part ∈ parts, split d part = .ok [part])
          ∧ split d (Text.join ['.'] parts) = .ok parts := by
  refine ⟨fun e => split_eq_error_iff, fun parts hparts => ?_⟩
  obtain ⟨ss, hss⟩ | hopen := exists_reading_or_leavesOpen (d.quoteStyle == .bracket) raw
  · rw [split_of_reading hss] at hparts
    injection hparts with hparts
    subst hparts
    have hpieces : ∀ piece ∈ ss.splitOn (char '.'),
        Reading (d.quoteStyle == .bracket) (Stretch.written piece) piece ∧ char '.' ∉ piece :=
      fun piece hpiece =>
        ⟨hss.of_part (isInfix_of_mem_splitOn hpiece).1, (isInfix_of_mem_splitOn hpiece).2⟩
    refine ⟨⟨ss, fun other => ⟨fun hother => hother.unique hss, fun heq => heq ▸ hss⟩, ?_⟩, ?_, ?_⟩
    · rw [List.length_map, length_splitOn]
    · simp only [List.forall_mem_map]
      exact fun piece hpiece => split_of_bare (List.cons_ne_nil piece [])
        (List.forall_mem_singleton.mpr (hpieces piece hpiece))
    · exact split_of_bare (List.splitOn_ne_nil _ ss) hpieces
  · rw [split_eq_error_iff.mpr ⟨rfl, hopen⟩] at hparts
    exact nomatch hparts

/-- A doubled closing bracket goes on, a dot in quotes separates nothing, and the white
    space behind a closing bracket is taken off. -/
theorem splits_quoted_names_again :
    (split .ms "a.[b]]".toList = .error ⟨"a.[b]]".toList, .unterminated⟩
        ∧ LeavesOpen true "a.[b]]".toList)
      ∧ split .ms "[a]].b] . \"c.d\"".toList = .ok ["[a]].b]".toList, "\"c.d\"".toList]
      ∧ (∃ ss, (∀ other, Reading true "[a]].b] . \"c.d\"".toList other ↔ other = ss)
          ∧ 2 = ss.count (char '.') + 1)
      ∧ split .ms "[a]].b]".toList = .ok ["[a]].b]".toList]
      ∧ split .ms "[a]].b].\"c.d\"".toList = .ok ["[a]].b]".toList, "\"c.d\"".toList] := by
  have hopen : split .ms "a.[b]]".toList = .error ⟨"a.[b]]".toList, .unterminated⟩ := rfl
  have hparts : split .ms "[a]].b] . \"c.d\"".toList
      = .ok ["[a]].b]".toList, "\"c.d\"".toList] := rfl
  obtain ⟨hcount, hsingle, hjoined⟩ := (splitting_is_stable .ms _).2 _ hparts
  exact ⟨⟨hopen, (((splitting_is_stable .ms _).1 _).mp hopen).2⟩, hparts, hcount,
    hsingle _ List.mem_cons_self, hjoined⟩

/-! ## §6. Parts -/

/-- A text that may stand as a part of a reference: there is something in it, and by itself
    it is split into nothing else. -/
structure StandsAlone (d : Dialect) (part : Text) : Prop where
  ne_nil : part ≠ []
  split_eq : split d part = .ok [part]

/-- Such a text is a piece without dots, and without the white space around it. -/
theorem exists_piece_of_split_eq {part : Text} (h : split d part = .ok [part]) :
    ∃ piece, part = Stretch.written (bare piece)
      ∧ Reading (d.quoteStyle == .bracket) (Stretch.written piece) piece ∧ char '.' ∉ piece := by
  obtain ⟨ss, hss⟩ | hopen := exists_reading_or_leavesOpen (d.quoteStyle == .bracket) part
  · rw [split_of_reading hss] at h
    injection h with h
    obtain ⟨piece, hpiece, hwritten⟩ := List.map_eq_singleton_iff.mp h
    obtain ⟨hwithin, hdot⟩ := isInfix_of_mem_splitOn (hpiece ▸ List.mem_singleton_self piece)
    exact ⟨piece, hwritten.symm, hss.of_part hwithin, hdot⟩
  · rw [split_eq_error_iff.mpr ⟨rfl, hopen⟩] at h
    exact nomatch h

/-- Texts that are split into nothing else, with dots between them, are the parts. -/
theorem split_join {parts : List Text} (hne : parts ≠ [])
    (h : ∀ part ∈ parts, split d part = .ok [part]) :
    split d (Text.join ['.'] parts) = .ok parts := by
  choose! piece hwritten hpiece using fun part hpart => exists_piece_of_split_eq (h part hpart)
  have hparts : (parts.map piece).map (fun piece => Stretch.written (bare piece)) = parts := by
    rw [List.map_map]
    exact (List.map_congr_left fun part hpart => (hwritten part hpart).symm).trans (List.map_id parts)
  have hsplit := split_of_bare (by simpa using hne) (List.forall_mem_map.mpr hpiece)
  rwa [hparts] at hsplit

namespace StandsAlone

variable {schema part : Text}

/-- There is no white space around it. -/
theorem tight (h : StandsAlone d part) : part.Tight := by
  have htrim : part.trim = part := trim_of_mem_split h.split_eq part List.mem_cons_self
  rw [← htrim]
  exact Text.tight_trim (by rw [htrim]; exact h.ne_nil)

/-- A written name is a part. -/
theorem requote (d : Dialect) (name : Text) : StandsAlone d (Identifier.requote d name) := by
  have htight := Identifier.tight_requote d name
  refine ⟨htight.ne_nil, split_of_cut ?_ (List.forall_mem_singleton.mpr htight.trim)⟩
  exact cut_join_requote (List.cons_ne_nil name [])

/-- By itself it is read as a table of the default schema. -/
theorem parse_eq (h : StandsAlone d part) (defaultSchema : Text) :
    parse d defaultSchema part
      = .ok (inSchema (Identifier.canonicalize d defaultSchema)
          (Identifier.canonicalize d part)) := by
  rw [parse_of_split h.tight h.split_eq, ofParts, if_neg (by simpa using h.ne_nil)]
  rfl

/-- Behind a schema it is read as a table of this schema. -/
theorem parse_in_schema (hschema : StandsAlone d schema) (h : StandsAlone d part)
    (defaultSchema : Text) :
    parse d defaultSchema (schema ++ '.' :: part)
      = .ok (inSchema (Identifier.canonicalize d schema) (Identifier.canonicalize d part)) := by
  have hjoin : schema ++ '.' :: part = Text.join ['.'] [schema, part] := by simp [Text.join]
  have htight : (schema ++ '.' :: part).Tight := by
    simpa using hschema.tight.append h.tight ['.']
  have hparts : ∀ part' ∈ [schema, part], split d part' = .ok [part'] := by
    simp [hschema.split_eq, h.split_eq]
  have hsplit := split_join (List.cons_ne_nil schema [part]) hparts
  rw [← hjoin] at hsplit
  rw [parse_of_split htight hsplit, ofParts, if_neg (by simp [hschema.ne_nil, h.ne_nil])]
  rfl

end StandsAlone

end TableLedger.TableRef
