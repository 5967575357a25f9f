/-
  TableLedger.Proofs.Script.ByteScan — masking a script byte by byte.

  Where a script is masked as it is stored, the scan goes through bytes by index.  It
  compares them with ASCII characters, takes stretches out and blanks them, and a
  stretch that lies outside the bytes is an error; what is left in the end has to be
  read as UTF-8 again.  The bytes of other characters are passed one at a time, a
  backslash takes one byte along and not a character, and a dollar tag is compared
  with the bytes that follow.  None of this can be seen in the result: the scan never
  fails and comes to the bytes of the mask, region by region.

  Main statements:
    • `skipQuotedFrom_eq`, `skipEscapedFrom_eq`, `findSeq?_eq` — how far a region reaches,
    • `openedAt?_eq` — what opens a region,
    • `lt_of_openedAt?` — a region takes some room, so that the scan comes to an end,
    • `maskBytesFrom_eq`, `maskStored?_eq` — masking bytes is masking characters.
-/

import TableLedger.Proofs.Script.Joined
import TableLedger.Proofs.Text.Utf8

namespace TableLedger

/-! ## §1. Bytes by index

Each function gives `none` where an index lies outside the bytes. -/

namespace Bytes

/-- What is left behind an index. -/
def from? (bytes : Bytes) (start : Nat) : Option Bytes :=
  if start ≤ bytes.length then some (bytes.drop start) else none

/-- The bytes between two indices. -/
def slice? (bytes : Bytes) (start stop : Nat) : Option Bytes :=
  if start ≤ stop ∧ stop ≤ bytes.length then some ((bytes.take stop).drop start) else none

/-- Line breaks stay, and all else gives way to spaces. -/
def blankByte (b : UInt8) : UInt8 := if b = '\n'.toUInt8 then b else ' '.toUInt8

/-- The bytes with those between two indices blanked. -/
def blank? (bytes : Bytes) (start stop : Nat) : Option Bytes :=
  if start ≤ stop ∧ stop ≤ bytes.length then
    some (bytes.take start ++ ((bytes.take stop).drop start).map blankByte ++ bytes.drop stop)
  else none

/-- Index of the first byte that is `needle`, from `start` on, if there is one. -/
def findByte? (bytes : Bytes) (start : Nat) (needle : UInt8) : Option (Option Nat) := do
  let rest ← bytes.from? start
  return (rest.findIdx? (· == needle)).map (start + ·)

/-- How many bytes stand in front of the first occurrence of `needle`. -/
def position? (needle : Bytes) : Bytes → Option Nat
  | [] => none
  | b :: rest => if needle.isPrefixOf (b :: rest) then some 0 else (position? needle rest).map (· + 1)

/-- Index of the first occurrence of `needle`, from `start` on, if there is one.  Nothing is
    found behind the end, and an empty needle cannot be searched for. -/
def findSeq? (bytes : Bytes) (start : Nat) (needle : Bytes) : Option (Option Nat) :=
  if bytes.length < start then some none
  else if needle = [] then none
  else do
    let rest ← bytes.from? start
    return (position? needle rest).map (start + ·)

theorem length_of_slice? {bytes part : Bytes} {start stop : Nat}
    (h : bytes.slice? start stop = some part) : part.length = stop - start := by
  unfold slice? at h
  split at h
  · next hroom => rw [← Option.some.inj h, List.length_drop, List.length_take_of_le hroom.2]
  · exact absurd h nofun

/-- What is found stands behind where the search begins. -/
theorem le_of_findSeq? {bytes needle : Bytes} {start stop : Nat}
    (h : bytes.findSeq? start needle = some (some stop)) : start ≤ stop := by
  unfold findSeq? at h
  split at h
  · exact absurd h nofun
  split at h
  · exact absurd h nofun
  obtain ⟨rest, -, h⟩ := Option.bind_eq_some_iff.mp h
  obtain ⟨n, -, rfl⟩ := Option.map_eq_some_iff.mp (Option.some.inj h)
  exact Nat.le_add_right start n

/-- The byte that is found is the one that is searched for. -/
theorem found_of_findByte? {bytes : Bytes} {start stop : Nat} {needle : UInt8}
    (h : bytes.findByte? start needle = some (some stop)) :
    start ≤ stop ∧ bytes[stop]? = some needle := by
  obtain ⟨rest, hrest, h⟩ := Option.bind_eq_some_iff.mp h
  obtain ⟨n, hn, rfl⟩ := Option.map_eq_some_iff.mp (Option.some.inj h)
  unfold from? at hrest
  split at hrest
  · obtain rfl := Option.some.inj hrest
    obtain ⟨hlt, hbyte, -⟩ := List.findIdx?_eq_some_iff_getElem.mp hn
    rw [← List.getElem?_drop, List.getElem?_eq_getElem hlt, beq_iff_eq.mp hbyte]
    exact ⟨Nat.le_add_right start n, rfl⟩
  · exact absurd hrest nofun

/-- The second list is what stands at an index. -/
def At (bytes : Bytes) (i : Nat) (rest : Bytes) : Prop :=
  ∃ front, bytes = front ++ rest ∧ front.length = i

namespace At

variable {bytes rest u : Bytes} {i : Nat}

theorem length_eq (h : At bytes i rest) : bytes.length = i + rest.length := by
  obtain ⟨front, rfl, rfl⟩ := h
  exact List.length_append

theorem getElem?_eq (h : At bytes i rest) (k : Nat) : bytes[i + k]? = rest[k]? := by
  obtain ⟨front, rfl, rfl⟩ := h
  rw [List.getElem?_append_right (Nat.le_add_right _ _), Nat.add_sub_cancel_left]

theorem here (h : At bytes i rest) : bytes[i]? = rest[0]? := h.getElem?_eq 0

/-- Behind what stands at an index stands the rest. -/
theorem behind (h : At bytes i (u ++ rest)) : At bytes (i + u.length) rest := by
  obtain ⟨front, rfl, rfl⟩ := h
  exact ⟨front ++ u, (List.append_assoc front u rest).symm, List.length_append⟩

theorem from?_eq (h : At bytes i rest) : bytes.from? i = some rest := by
  have hle : i ≤ bytes.length := by
    have hlength := h.length_eq
    omega
  obtain ⟨front, rfl, rfl⟩ := h
  rw [from?, if_pos hle, List.drop_left]

theorem slice?_eq (h : At bytes i (u ++ rest)) : bytes.slice? i (i + u.length) = some u := by
  have hlength := h.length_eq
  rw [List.length_append] at hlength
  obtain ⟨front, rfl, rfl⟩ := h
  have htake : (front ++ (u ++ rest)).take (front.length + u.length) = front ++ u := by
    rw [← List.append_assoc, ← List.length_append, List.take_left]
  rw [slice?, if_pos (by omega), htake, List.drop_left]

/-- What stands at an index is blanked between its ends, and the rest stays. -/
theorem blank?_eq (h : At bytes i (u ++ rest)) :
    bytes.blank? i (i + u.length) = some (bytes.take i ++ u.map blankByte ++ rest) := by
  have hlength := h.length_eq
  rw [List.length_append] at hlength
  obtain ⟨front, rfl, rfl⟩ := h
  have htake : (front ++ (u ++ rest)).take (front.length + u.length) = front ++ u := by
    rw [← List.append_assoc, ← List.length_append, List.take_left]
  have hdrop : (front ++ (u ++ rest)).drop (front.length + u.length) = rest := by
    rw [← List.append_assoc, ← List.length_append, List.drop_left]
  rw [blank?, if_pos (by omega), htake, hdrop, List.drop_left]

end At

end Bytes

open Bytes

/-- The character's first byte. -/
theorem Bytes.At.exists_first {bytes : Bytes} {i : Nat} {c : Char} {t : Text}
    (h : At bytes i (Text.utf8 (c :: t))) :
    ∃ b, bytes[i]? = some b ∧ (0x80 ≤ c.toNat → 0x80 ≤ b.toNat)
      ∧ ∀ x : Char, x.toNat < 0x80 → (b = x.toUInt8 ↔ c = x) := by
  obtain ⟨b, others, hbytes, -, hhigh, hfirst⟩ := Text.utf8_first (c := c)
  refine ⟨b, ?_, hhigh, hfirst⟩
  rw [h.here, Text.utf8_cons, hbytes]
  rfl

/-- Behind a character stand the characters behind it. -/
theorem Bytes.At.behind_char {bytes : Bytes} {i : Nat} {c : Char} {t : Text}
    (h : At bytes i (Text.utf8 (c :: t))) : At bytes (i + c.utf8Size) (Text.utf8 t) := by
  rw [Text.utf8_cons] at h
  rw [← String.length_utf8EncodeChar c]
  exact h.behind

/-- A character of ASCII is a single byte. -/
theorem at_ascii {bytes : Bytes} {i : Nat} {x : Char} {t : Text} (hx : x.toNat < 0x80)
    (h : At bytes i (Text.utf8 (x :: t))) : bytes[i]? = some x.toUInt8 := by
  obtain ⟨b, hb, -, hfirst⟩ := h.exists_first
  rw [hb, (hfirst x hx).mpr rfl]

/-- Behind a character of ASCII the next one stands one byte on. -/
theorem Bytes.At.behind_ascii {bytes : Bytes} {i : Nat} {x : Char} {t : Text}
    (h : At bytes i (Text.utf8 (x :: t))) (hx : x.toNat < 0x80) : At bytes (i + 1) (Text.utf8 t) := by
  have hbehind := h.behind_char
  rw [Text.utf8Size_of_ascii hx] at hbehind
  exact hbehind

/-- Where another character stands, its byte is not found. -/
theorem at_ne {bytes : Bytes} {i : Nat} {c x : Char} {t : Text} (hx : x.toNat < 0x80) (hne : c ≠ x)
    (h : At bytes i (Text.utf8 (c :: t))) : bytes[i]? ≠ some x.toUInt8 := by
  obtain ⟨b, hb, -, hfirst⟩ := h.exists_first
  rw [hb]
  intro heq
  exact hne ((hfirst x hx).mp (Option.some.inj heq))

/-- The byte at an index is that of an ASCII character if the character stands there. -/
theorem at_head_iff {bytes : Bytes} {i : Nat} {x : Char} {t : Text} (hx : x.toNat < 0x80)
    (h : At bytes i (Text.utf8 t)) : bytes[i]? = some x.toUInt8 ↔ t.head? = some x := by
  cases t with
  | nil =>
    have hend : bytes[i]? = none := h.here
    rw [hend]
    simp
  | cons c t =>
    obtain ⟨b, hb, -, hfirst⟩ := h.exists_first
    rw [hb, List.head?_cons, Option.some.injEq, Option.some.injEq, hfirst x hx]

/-- In front of a character the bytes are not over. -/
theorem Bytes.At.lt_length {bytes : Bytes} {i : Nat} {c : Char} {t : Text}
    (h : At bytes i (Text.utf8 (c :: t))) : i < bytes.length := by
  obtain ⟨b, hb, -, -⟩ := h.exists_first
  exact (List.getElem?_eq_some_iff.mp hb).1

/-- Nothing stands at the end. -/
theorem Bytes.At.ne_some {bytes : Bytes} {i : Nat} {b : UInt8} (h : At bytes i (Text.utf8 [])) :
    bytes[i]? ≠ some b := by
  have hend : bytes[i]? = none := h.here
  rw [hend]
  exact nofun

theorem Bytes.At.not_lt_length {bytes : Bytes} {i : Nat} (h : At bytes i (Text.utf8 [])) :
    ¬i < bytes.length := by
  rw [h.length_eq]
  exact Nat.lt_irrefl i

/-- A loop that passes every byte of a kind passes all of them. -/
theorem pass {α : Type} {loop : Nat → α} {bytes u rest : Bytes} {i : Nat} {passed : UInt8 → Prop}
    (hloop : ∀ i b, bytes[i]? = some b → passed b → loop i = loop (i + 1))
    (hu : ∀ b ∈ u, passed b) (h : At bytes i (u ++ rest)) : loop i = loop (i + u.length) := by
  induction u generalizing i with
  | nil => rfl
  | cons b u ih =>
    have hfirst : loop i = loop (i + 1) := hloop i b h.here (hu b List.mem_cons_self)
    have hbehind : At bytes (i + 1) (u ++ rest) := h.behind (u := [b])
    rw [hfirst, ih (fun x hx => hu x (List.mem_cons_of_mem b hx)) hbehind, List.length_cons,
      Nat.add_assoc, Nat.add_comm 1]

section

variable {α : Type} {loop : Nat → α} {bytes : Bytes} {i : Nat} {stops : List Char}
  (hstops : ∀ x ∈ stops, x.toNat < 0x80)
  (hloop : ∀ i b, bytes[i]? = some b → (∀ x ∈ stops, b ≠ x.toUInt8) → loop i = loop (i + 1))

include hstops hloop

/-- A loop that passes every byte but some of ASCII characters passes the bytes that are of no
    ASCII character. -/
theorem pass_high {b : UInt8} (hb : bytes[i]? = some b) (hhigh : 0x80 ≤ b.toNat) :
    loop i = loop (i + 1) := by
  refine hloop i b hb fun x hx heq => ?_
  have hascii := hstops x hx
  have hlow := Text.toNat_toUInt8 hascii
  rw [heq, hlow] at hhigh
  omega

/-- Such a loop passes every character that it does not stop at. -/
theorem pass_char {c : Char} {t : Text} (hc : c ∉ stops) (h : At bytes i (Text.utf8 (c :: t))) :
    loop i = loop (i + c.utf8Size) := by
  obtain ⟨b, others, hbytes, hothers, -, hfirst⟩ := Text.utf8_first (c := c)
  rw [Text.utf8_cons, hbytes, List.cons_append] at h
  have hpass : loop i = loop (i + 1) := by
    refine hloop i b h.here fun x hx heq => ?_
    rw [(hfirst x (hstops x hx)).mp heq] at hc
    exact hc hx
  have hbehind : At bytes (i + 1) (others ++ Text.utf8 t) := h.behind (u := [b])
  rw [hpass, pass (fun _ _ => pass_high hstops hloop) hothers hbehind,
    ← String.length_utf8EncodeChar, hbytes, List.length_cons, Nat.add_assoc, Nat.add_comm 1]

end

namespace Script

variable {bytes : Bytes} {i : Nat}

/-! ## §2. How far a region reaches -/

/-- Index behind the closing mark of a quotation whose inside begins at an index; a doubled
    mark does not close it. -/
def skipQuotedFrom (bytes : Bytes) (closing : UInt8) (i : Nat) : Nat :=
  if i < bytes.length then
    if bytes[i]? = some closing then
      if bytes[i + 1]? = some closing then skipQuotedFrom bytes closing (i + 2) else i + 1
    else skipQuotedFrom bytes closing (i + 1)
  else bytes.length
termination_by bytes.length - i

/-- Index behind the quote that closes an escape string whose inside begins at an index; a
    backslash takes the byte after it along. -/
def skipEscapedFrom (bytes : Bytes) (i : Nat) : Nat :=
  if i < bytes.length then
    if bytes[i]? = some '\\'.toUInt8 then skipEscapedFrom bytes (i + 2)
    else if bytes[i]? = some '\''.toUInt8 then
      if bytes[i + 1]? = some '\''.toUInt8 then skipEscapedFrom bytes (i + 2) else i + 1
    else skipEscapedFrom bytes (i + 1)
  else bytes.length
termination_by bytes.length - i

/-- Inside of a quotation every byte is passed but those of the closing mark. -/
theorem skipQuotedFrom_pass {closing : Char} {b : UInt8} (hb : bytes[i]? = some b)
    (hne : ∀ x ∈ [closing], b ≠ x.toUInt8) :
    skipQuotedFrom bytes closing.toUInt8 i = skipQuotedFrom bytes closing.toUInt8 (i + 1) := by
  have hother : bytes[i]? ≠ some closing.toUInt8 := by
    rw [hb]
    exact mt Option.some.inj (hne closing List.mem_cons_self)
  rw [skipQuotedFrom, if_pos (List.getElem?_eq_some_iff.mp hb).1, if_neg hother]

/-- Bytes and characters agree on where a quotation ends. -/
theorem skipQuotedFrom_eq {closing : Char} (hclosing : closing.toNat < 0x80) {t : Text}
    (h : At bytes i (Text.utf8 t)) :
    skipQuotedFrom bytes closing.toUInt8 i = i + Text.byteLength (t.take (quotedLength closing t)) := by
  have hsize := Text.utf8Size_of_ascii hclosing
  fun_induction quotedLength closing t generalizing i with
  | case1 =>
    rw [skipQuotedFrom, if_neg h.not_lt_length, h.length_eq]
    rfl
  | case2 rest ih =>
    -- a doubled mark
    have hbehind : At bytes (i + 1) (Text.utf8 (closing :: rest)) := h.behind_ascii hclosing
    have hbehind' : At bytes (i + 2) (Text.utf8 rest) := hbehind.behind_ascii hclosing
    rw [skipQuotedFrom, if_pos h.lt_length, if_pos (at_ascii hclosing h),
      if_pos (at_ascii hclosing hbehind), ih hbehind', List.take_succ_cons, List.take_succ_cons,
      Text.byteLength_cons, Text.byteLength_cons, hsize]
    omega
  | case3 d rest hd =>
    have hbehind : At bytes (i + 1) (Text.utf8 (d :: rest)) := h.behind_ascii hclosing
    rw [skipQuotedFrom, if_pos h.lt_length, if_pos (at_ascii hclosing h),
      if_neg (at_ne hclosing hd hbehind), List.take_succ_cons, List.take_zero, Text.byteLength_cons,
      hsize]
    rfl
  | case4 =>
    have hbehind : At bytes (i + 1) (Text.utf8 []) := h.behind_ascii hclosing
    rw [skipQuotedFrom, if_pos h.lt_length, if_pos (at_ascii hclosing h), if_neg hbehind.ne_some,
      List.take_succ_cons, List.take_zero, Text.byteLength_cons, hsize]
    rfl
  | case5 c rest hc ih =>
    have hpass := pass_char (fun x hx => List.mem_singleton.mp hx ▸ hclosing)
      (fun _ _ => skipQuotedFrom_pass) (fun hmem => hc (List.mem_singleton.mp hmem)) h
    rw [hpass, ih h.behind_char, List.take_succ_cons, Text.byteLength_cons, Nat.add_assoc]

/-- Inside of an escape string every byte is passed but those of backslashes and quotes. -/
theorem skipEscapedFrom_pass {b : UInt8} (hb : bytes[i]? = some b)
    (hne : ∀ x ∈ ['\\', '\''], b ≠ x.toUInt8) :
    skipEscapedFrom bytes i = skipEscapedFrom bytes (i + 1) := by
  have hother : ∀ x ∈ ['\\', '\''], bytes[i]? ≠ some x.toUInt8 := by
    intro x hx
    rw [hb]
    exact mt Option.some.inj (hne x hx)
  rw [skipEscapedFrom, if_pos (List.getElem?_eq_some_iff.mp hb).1, if_neg (hother '\\' (by decide)),
    if_neg (hother '\'' (by decide))]

/-- Bytes and characters agree on where an escape string ends. -/
theorem skipEscapedFrom_eq {t : Text} (h : At bytes i (Text.utf8 t)) :
    skipEscapedFrom bytes i = i + Text.byteLength (t.take (escapedLength t)) := by
  have hquote : ('\'' : Char).toNat < 0x80 := by decide
  have hslash : ('\\' : Char).toNat < 0x80 := by decide
  have hstops : ∀ x ∈ ['\\', '\''], x.toNat < 0x80 := by
    simp only [List.mem_cons, List.not_mem_nil, or_false]
    rintro x (rfl | rfl)
    · exact hslash
    · exact hquote
  fun_induction escapedLength t generalizing i with
  | case1 =>
    rw [skipEscapedFrom, if_neg h.not_lt_length, h.length_eq]
    rfl
  | case2 x rest ih =>
    -- of the character behind the backslash, one byte is taken along and the others are passed
    have hbehind : At bytes (i + 1) (Text.utf8 (x :: rest)) := h.behind_char
    obtain ⟨b, others, hbytes, hothers, -, -⟩ := Text.utf8_first (c := x)
    have hinside : At bytes (i + 2) (others ++ Text.utf8 rest) := by
      rw [Text.utf8_cons, hbytes] at hbehind
      exact hbehind.behind (u := [b])
    have hlength : x.utf8Size = 1 + others.length := by
      rw [← String.length_utf8EncodeChar, hbytes, List.length_cons, Nat.add_comm]
    have hpass := pass (fun _ _ => pass_high hstops fun _ _ => skipEscapedFrom_pass) hothers hinside
    rw [skipEscapedFrom, if_pos h.lt_length, if_pos (at_ascii hslash h), hpass, ih hinside.behind,
      List.take_succ_cons, List.take_succ_cons, Text.byteLength_cons, Text.byteLength_cons, hlength]
    show _ = i + (1 + _)
    omega
  | case3 =>
    have hlength := h.length_eq
    rw [Text.length_utf8] at hlength
    have hend : ¬i + 2 < bytes.length := by
      rw [hlength]
      show ¬i + 2 < i + 1
      omega
    rw [skipEscapedFrom, if_pos h.lt_length, if_pos (at_ascii hslash h), skipEscapedFrom, if_neg hend,
      hlength]
    rfl
  | case4 rest hc ih =>
    have hbehind : At bytes (i + 1) (Text.utf8 ('\'' :: rest)) := h.behind_ascii hquote
    have hbehind' : At bytes (i + 2) (Text.utf8 rest) := hbehind.behind_ascii hquote
    rw [skipEscapedFrom, if_pos h.lt_length, if_neg (at_ne hslash (by decide) h),
      if_pos (at_ascii hquote h), if_pos (at_ascii hquote hbehind), ih hbehind', List.take_succ_cons,
      List.take_succ_cons, Text.byteLength_cons, Text.byteLength_cons]
    show _ = i + (1 + (1 + _))
    omega
  | case5 d rest hd hc =>
    have hbehind : At bytes (i + 1) (Text.utf8 (d :: rest)) := h.behind_ascii hquote
    rw [skipEscapedFrom, if_pos h.lt_length, if_neg (at_ne hslash (by decide) h),
      if_pos (at_ascii hquote h), if_neg (at_ne hquote hd hbehind)]
    rfl
  | case6 =>
    have hbehind : At bytes (i + 1) (Text.utf8 []) := h.behind_ascii hquote
    rw [skipEscapedFrom, if_pos h.lt_length, if_neg (at_ne hslash (by decide) h),
      if_pos (at_ascii hquote h), if_neg hbehind.ne_some]
    rfl
  | case7 c rest hc hc' ih =>
    have hother : c ∉ ['\\', '\''] := by
      rw [List.mem_cons, List.mem_singleton, not_or]
      exact ⟨hc, hc'⟩
    rw [pass_char hstops (fun _ _ => skipEscapedFrom_pass) hother h, ih h.behind_char,
      List.take_succ_cons, Text.byteLength_cons, Nat.add_assoc]

/-- A line ends where its first break is, in bytes as well. -/
theorem findIdx?_break (t : Text) :
    ((Text.utf8 t).findIdx? (· == '\n'.toUInt8)).getD (Text.utf8 t).length
      = Text.byteLength (t.take (lineLength t)) := by
  have hbreak : ('\n' : Char).toNat < 0x80 := by decide
  induction t with
  | nil => rfl
  | cons c t ih =>
    obtain ⟨b, others, hbytes, hothers, -, hfirst⟩ := Text.utf8_first (c := c)
    rw [Text.utf8_cons, hbytes, List.cons_append, List.findIdx?_cons]
    by_cases hc : c = '\n'
    · rw [if_pos (beq_iff_eq.mpr ((hfirst _ hbreak).mpr hc)), hc]
      rfl
    · have hb : ¬(b == '\n'.toUInt8) = true := by
        rw [beq_iff_eq, hfirst _ hbreak]
        exact hc
      -- the other bytes of the character are no ASCII
      have hnone : others.findIdx? (· == '\n'.toUInt8) = none := by
        rw [List.findIdx?_eq_none_iff]
        intro x hx
        have hhigh := hothers x hx
        rw [beq_eq_false_iff_ne]
        rintro rfl
        exact absurd hhigh (by decide)
      have htake : (c :: t).take (lineLength (c :: t)) = c :: t.take (lineLength t) := by
        unfold lineLength
        rw [List.takeWhile_cons_of_pos (p := fun x => x != '\n') (bne_iff_ne.mpr hc),
          List.length_cons, List.take_succ_cons]
      have hsize : c.utf8Size = others.length + 1 := by
        rw [← String.length_utf8EncodeChar, hbytes, List.length_cons]
      rw [if_neg hb, List.findIdx?_append, hnone, htake, Text.byteLength_cons, ← ih, hsize]
      cases (Text.utf8 t).findIdx? (· == '\n'.toUInt8) with
      | none =>
        simp only [Option.map_none, Option.none_or, Option.getD_none, List.length_cons,
          List.length_append]
        omega
      | some n =>
        simp only [Option.map_some, Option.none_or, Option.getD_some]
        omega

/-- The end of a line. -/
theorem findByte?_line {t : Text} (h : At bytes i (Text.utf8 t)) :
    ∃ found, findByte? bytes i '\n'.toUInt8 = some found
      ∧ found.getD bytes.length = i + Text.byteLength (t.take (lineLength t)) := by
  refine ⟨((Text.utf8 t).findIdx? (· == '\n'.toUInt8)).map (i + ·), ?_, ?_⟩
  · rw [findByte?, h.from?_eq]
    rfl
  rw [h.length_eq, ← findIdx?_break]
  cases (Text.utf8 t).findIdx? (· == '\n'.toUInt8) with
  | none => rfl
  | some n => rfl

/-- No occurrence of a text that begins with an ASCII character begins inside of another one. -/
theorem position?_high {x : Char} {mark : Text} (hx : x.toNat < 0x80) {others rest : Bytes}
    (hothers : ∀ b ∈ others, 0x80 ≤ b.toNat) :
    position? (Text.utf8 (x :: mark)) (others ++ rest)
      = (position? (Text.utf8 (x :: mark)) rest).map (· + others.length) := by
  induction others with
  | nil => simp
  | cons b others ih =>
    have hnot : ¬(Text.utf8 (x :: mark)).isPrefixOf (b :: (others ++ rest)) = true := by
      obtain ⟨first, behind, hbytes, -, -, hfirst⟩ := Text.utf8_first (c := x)
      have hhigh := hothers b List.mem_cons_self
      rw [Text.utf8_cons, hbytes, List.isPrefixOf_iff_prefix, List.cons_append,
        List.cons_prefix_cons, (hfirst x hx).mpr rfl]
      rintro ⟨rfl, -⟩
      rw [Text.toNat_toUInt8 hx] at hhigh
      omega
    rw [List.cons_append, position?, if_neg hnot, ih fun y hy => hothers y (List.mem_cons_of_mem b hy),
      Option.map_map, List.length_cons]
    rfl

/-- The first occurrence of a mark is where it is among the characters, and ends there. -/
theorem position?_utf8 {x : Char} (hx : x.toNat < 0x80) (mark t : Text) :
    ((position? (Text.utf8 (x :: mark)) (Text.utf8 t)).map
        (· + (Text.utf8 (x :: mark)).length)).getD (Text.utf8 t).length
      = Text.byteLength (t.take (lengthThrough (x :: mark) t)) := by
  induction t with
  | nil => rfl
  | cons c t ih =>
    obtain ⟨b, others, hbytes, hothers, -, hfirst⟩ := Text.utf8_first (c := c)
    have hutf8 : Text.utf8 (c :: t) = b :: (others ++ Text.utf8 t) := by
      rw [Text.utf8_cons, hbytes, List.cons_append]
    rw [lengthThrough, hutf8, position?, ← hutf8, Text.isPrefixOf_utf8]
    split
    · next hpre =>
      obtain ⟨rest, hrest⟩ := List.isPrefixOf_iff_prefix.mp hpre
      rw [← hrest, List.take_left, Option.map_some, Option.getD_some, Text.length_utf8, Nat.zero_add]
    · -- the search goes on behind all the bytes of the character
      have hsize : c.utf8Size = others.length + 1 := by
        rw [← String.length_utf8EncodeChar, hbytes, List.length_cons]
      have hlength : (Text.utf8 (c :: t)).length = others.length + 1 + (Text.utf8 t).length := by
        rw [Text.length_utf8, Text.length_utf8, Text.byteLength_cons, hsize]
      rw [List.take_succ_cons, Text.byteLength_cons, ← ih, position?_high hx hothers, hsize, hlength]
      cases position? (Text.utf8 (x :: mark)) (Text.utf8 t) with
      | none => simp only [Option.map_none, Option.getD_none]
      | some n =>
        simp only [Option.map_some, Option.getD_some]
        omega

/-- The end of a comment or of a dollar-quoted body. -/
theorem findSeq?_eq {x : Char} {mark t : Text} (hx : x.toNat < 0x80) (h : At bytes i (Text.utf8 t)) :
    ∃ found, findSeq? bytes i (Text.utf8 (x :: mark)) = some found
      ∧ (found.map (· + (Text.utf8 (x :: mark)).length)).getD bytes.length
        = i + Text.byteLength (t.take (lengthThrough (x :: mark) t)) := by
  have hne : Text.utf8 (x :: mark) ≠ [] := by
    intro hnil
    have hlength := congrArg List.length hnil
    have hpos := x.utf8Size_pos
    rw [Text.length_utf8, Text.byteLength_cons, List.length_nil] at hlength
    omega
  have hle : ¬bytes.length < i := by
    have hlength := h.length_eq
    omega
  refine ⟨(position? (Text.utf8 (x :: mark)) (Text.utf8 t)).map (i + ·), ?_, ?_⟩
  · rw [findSeq?, if_neg hle, if_neg hne, h.from?_eq]
    rfl
  rw [h.length_eq, ← position?_utf8 hx]
  cases position? (Text.utf8 (x :: mark)) (Text.utf8 t) with
  | none => rfl
  | some n =>
    simp only [Option.map_some, Option.getD_some]
    omega

/-! ## §3. What opens a region -/

/-- Bytes of a bare identifier. -/
def isNameByte (b : UInt8) : Bool :=
  (0x30 ≤ b.toNat && b.toNat ≤ 0x39) || (0x41 ≤ b.toNat && b.toNat ≤ 0x5A)
    || (0x61 ≤ b.toNat && b.toNat ≤ 0x7A) || b == '_'.toUInt8 || 0x80 ≤ b.toNat

def isDigitByte (b : UInt8) : Bool := 0x30 ≤ b.toNat && b.toNat ≤ 0x39

/-- Whether the byte in front of an index belongs to an identifier. -/
def endsInNameAt? (bytes : Bytes) (i : Nat) : Option Bool :=
  if i = 0 then some false else (bytes[i - 1]?).map isNameByte

/-- Whether the quote at an index opens an escape string. -/
def opensEscapesAt? (bytes : Bytes) (i : Nat) : Option Bool :=
  if i = 0 then some false
  else do
    let e ← bytes[i - 1]?
    if e = 'E'.toUInt8 ∨ e = 'e'.toUInt8 then (endsInNameAt? bytes (i - 1)).map not
    else some false

/-- Index behind the name that stands at an index. -/
def skipNameFrom (bytes : Bytes) (i : Nat) : Nat :=
  if i < bytes.length ∧ (bytes[i]?).any isNameByte then skipNameFrom bytes (i + 1) else i
termination_by bytes.length - i

/-- The tag that opens at an index, its dollar signs included. -/
def dollarTagAt? (bytes : Bytes) (i : Nat) : Option (Option Bytes) := do
  let behindName ← endsInNameAt? bytes i
  if behindName then return none
  else if (bytes[i + 1]?).any isDigitByte then return none
  else
    let stop := skipNameFrom bytes (i + 1)
    if bytes[stop]? = some '$'.toUInt8 then (bytes.slice? i (stop + 1)).map some
    else return none

/-- Index behind the literal that opens at an index. -/
def literalEndAt? (d : Dialect) (bytes : Bytes) (i : Nat) : Option Nat :=
  match d with
  | .pg => do
    let escapes ← opensEscapesAt? bytes i
    return if escapes then skipEscapedFrom bytes (i + 1) else skipQuotedFrom bytes '\''.toUInt8 (i + 1)
  | .ms | .azure => some (skipQuotedFrom bytes '\''.toUInt8 (i + 1))

/-- Kind of the region that opens at an index, and the index behind it. -/
def openedAt? (d : Dialect) (bytes : Bytes) (i : Nat) : Option (Option (RegionKind × Nat)) := do
  let b ← bytes[i]?
  if b = '-'.toUInt8 ∧ bytes[i + 1]? = some '-'.toUInt8 then
    let found ← bytes.findByte? i '\n'.toUInt8
    return some (.comment, found.getD bytes.length)
  else if b = '/'.toUInt8 ∧ bytes[i + 1]? = some '*'.toUInt8 then
    let found ← bytes.findSeq? (i + 2) (Text.utf8 ['*', '/'])
    return some (.comment, (found.map (· + 2)).getD bytes.length)
  else if b = '\''.toUInt8 then
    let stop ← literalEndAt? d bytes i
    return some (.literal, stop)
  else if b = '"'.toUInt8 then
    return some (.quotedName, skipQuotedFrom bytes '"'.toUInt8 (i + 1))
  else if b = '['.toUInt8 ∧ d.quoteStyle = .bracket then
    return some (.quotedName, skipQuotedFrom bytes ']'.toUInt8 (i + 1))
  else if b = '$'.toUInt8 ∧ d = .pg then
    match ← dollarTagAt? bytes i with
    | some tag =>
      let found ← bytes.findSeq? (i + tag.length) tag
      return some (.dollarBody, (found.map (· + tag.length)).getD bytes.length)
    | none => return none
  else return none

/-- A quotation ends behind where its inside begins, and with the bytes at the latest. -/
theorem le_skipQuotedFrom (closing : UInt8) (hi : i ≤ bytes.length) :
    i ≤ skipQuotedFrom bytes closing i := by
  fun_induction skipQuotedFrom bytes closing i with
  | case1 i hlt hmark hdoubled ih =>
    have hroom := (List.getElem?_eq_some_iff.mp hdoubled).1
    have hle := ih hroom
    omega
  | case2 i hlt hmark hsingle => exact Nat.le_succ i
  | case3 i hlt hother ih =>
    have hle := ih hlt
    omega
  | case4 i hend => exact hi

/-- A backslash at the end takes a byte along that is not there. -/
theorem min_le_skipEscapedFrom (bytes : Bytes) (i : Nat) :
    min i bytes.length ≤ skipEscapedFrom bytes i := by
  fun_induction skipEscapedFrom bytes i with
  | case1 i hlt hslash ih => omega
  | case2 i hlt hslash hquote hdoubled ih => omega
  | case3 i hlt hslash hquote hsingle => omega
  | case4 i hlt hslash hother ih => omega
  | case5 i hend => exact Nat.min_le_right i bytes.length

theorem le_skipNameFrom (bytes : Bytes) (i : Nat) : i ≤ skipNameFrom bytes i := by
  fun_induction skipNameFrom bytes i with
  | case1 i hname ih => omega
  | case2 i hend => exact Nat.le_refl i

/-- A literal takes at least one byte, so the scan goes on. -/
theorem lt_of_literalEndAt? {d : Dialect} {stop : Nat} (hi : i < bytes.length)
    (h : literalEndAt? d bytes i = some stop) : i < stop := by
  have hquoted : i + 1 ≤ skipQuotedFrom bytes '\''.toUInt8 (i + 1) := le_skipQuotedFrom _ hi
  cases d with
  | pg =>
    obtain ⟨escapes, -, hstop⟩ := Option.bind_eq_some_iff.mp h
    have hescaped := min_le_skipEscapedFrom bytes (i + 1)
    obtain rfl := Option.some.inj hstop
    split
    · omega
    · exact hquoted
  | ms => exact Option.some.inj h ▸ hquoted
  | azure => exact Option.some.inj h ▸ hquoted

/-- A tag has two dollar signs. -/
theorem two_le_of_dollarTagAt? {tag : Bytes} (h : dollarTagAt? bytes i = some (some tag)) :
    2 ≤ tag.length := by
  obtain ⟨behindName, -, h⟩ := Option.bind_eq_some_iff.mp h
  split at h
  · exact absurd h nofun
  split at h
  · exact absurd h nofun
  dsimp only at h
  split at h
  · obtain ⟨slice, hslice, htag⟩ := Option.map_eq_some_iff.mp h
    obtain rfl := Option.some.inj htag
    have hstop := le_skipNameFrom bytes (i + 1)
    rw [length_of_slice? hslice]
    omega
  · exact absurd h nofun

/-- A byte that is looked for from an index on, where another one stands, is found behind it. -/
theorem lt_getD_of_findByte? {b target : UInt8} {found : Option Nat} (hb : bytes[i]? = some b)
    (hne : b ≠ target) (h : bytes.findByte? i target = some found) :
    i < found.getD bytes.length := by
  cases found with
  | none => exact (List.getElem?_eq_some_iff.mp hb).1
  | some stop =>
    obtain ⟨hle, htarget⟩ := found_of_findByte? h
    have hstop : stop ≠ i := by
      rintro rfl
      exact hne (Option.some.inj (hb.symm.trans htarget))
    show i < stop
    omega

/-- What is looked for behind an index ends behind it, and so do the bytes if it is not there. -/
theorem lt_getD_of_findSeq? {start width : Nat} {mark : Bytes} {found : Option Nat}
    (hi : i < bytes.length) (hstart : i < start + width)
    (h : bytes.findSeq? start mark = some found) :
    i < (found.map (· + width)).getD bytes.length := by
  cases found with
  | none => exact hi
  | some place =>
    have hle := le_of_findSeq? h
    show i < place + width
    omega

/-- **A region takes some room.**  Going on behind it comes closer to the end. -/
theorem lt_of_openedAt? {d : Dialect} {kind : RegionKind} {stop : Nat}
    (h : openedAt? d bytes i = some (some (kind, stop))) : i < stop := by
  obtain ⟨b, hb, h⟩ := Option.bind_eq_some_iff.mp h
  have hi : i < bytes.length := (List.getElem?_eq_some_iff.mp hb).1
  have hquoted : ∀ closing, i + 1 ≤ skipQuotedFrom bytes closing (i + 1) :=
    fun closing => le_skipQuotedFrom closing hi
  have hends : ∀ {kind' : RegionKind} {stop' : Nat},
      some (some (kind', stop')) = some (some (kind, stop)) → stop' = stop :=
    fun heq => (Prod.mk.inj (Option.some.inj (Option.some.inj heq))).2
  split at h
  · next hline =>
    -- the line break is not the dash that stands at the index
    obtain ⟨found, hfound, h⟩ := Option.bind_eq_some_iff.mp h
    obtain rfl := hends h
    exact lt_getD_of_findByte? hb (by rw [hline.1]; decide) hfound
  split at h
  · obtain ⟨found, hfound, h⟩ := Option.bind_eq_some_iff.mp h
    obtain rfl := hends h
    exact lt_getD_of_findSeq? hi (by omega) hfound
  split at h
  · obtain ⟨stop', hstop, h⟩ := Option.bind_eq_some_iff.mp h
    obtain rfl := hends h
    exact lt_of_literalEndAt? hi hstop
  split at h
  · obtain rfl := hends h
    exact hquoted _
  split at h
  · obtain rfl := hends h
    exact hquoted _
  split at h
  · obtain ⟨tag?, htag, h⟩ := Option.bind_eq_some_iff.mp h
    cases tag? with
    | none => exact absurd h nofun
    | some tag =>
      obtain ⟨found, hfound, h⟩ := Option.bind_eq_some_iff.mp h
      obtain rfl := hends h
      have htwo := two_le_of_dollarTagAt? htag
      exact lt_getD_of_findSeq? hi (by omega) hfound
  · exact absurd h nofun

/-- The place between two parts of a text, in bytes. -/
structure Between (bytes : Bytes) (i : Nat) (before rest : Text) : Prop where
  bytes_eq : bytes = Text.utf8 before.reverse ++ Text.utf8 rest
  index_eq : i = Text.byteLength before

theorem byteLength_reverse (t : Text) : Text.byteLength t.reverse = Text.byteLength t := by
  induction t with
  | nil => rfl
  | cons c t ih =>
    rw [List.reverse_cons, Text.byteLength_append, ih, Text.byteLength_cons, Text.byteLength_cons,
      Text.byteLength_nil]
    omega

namespace Between

variable {before rest : Text}

/-- Between two texts, the second one stands at the index. -/
theorem atRest (h : Between bytes i before rest) : At bytes i (Text.utf8 rest) :=
  ⟨Text.utf8 before.reverse, h.bytes_eq, by
    rw [Text.length_utf8, byteLength_reverse, h.index_eq]⟩

/-- The byte in front of a place is the last one of the character in front of it. -/
theorem exists_last {c : Char} (h : Between bytes i (c :: before) rest) :
    ∃ b, 0 < i ∧ bytes[i - 1]? = some b
      ∧ ((c.toNat < 0x80 ∧ b = c.toUInt8 ∧ Between bytes (i - 1) before (c :: rest))
        ∨ (0x80 ≤ c.toNat ∧ 0x80 ≤ b.toNat)) := by
  obtain ⟨front, b, hbytes, hcases⟩ := Text.utf8_last c
  have hlength : c.utf8Size = front.length + 1 := by
    rw [← String.length_utf8EncodeChar, hbytes, List.length_append, List.length_singleton]
  have hindex := h.index_eq
  rw [Text.byteLength_cons, hlength] at hindex
  have hwhole : bytes = Text.utf8 before.reverse ++ (front ++ ([b] ++ Text.utf8 rest)) := by
    rw [h.bytes_eq, List.reverse_cons, Text.utf8_append, Text.utf8_cons, Text.utf8_nil,
      List.append_nil, hbytes]
    simp only [List.append_assoc]
  have hat : At bytes (i - 1) ([b] ++ Text.utf8 rest) := by
    refine ⟨Text.utf8 before.reverse ++ front, by rw [hwhole, List.append_assoc], ?_⟩
    rw [List.length_append, Text.length_utf8, byteLength_reverse]
    omega
  refine ⟨b, by omega, hat.here, ?_⟩
  -- a character of ASCII is its only byte; of any other, the last byte is a high one
  obtain ⟨hascii, hfront, hb⟩ | hhigh := hcases
  · refine .inl ⟨hascii, hb, ?_, ?_⟩
    · rw [hwhole, Text.utf8_cons, hbytes, hfront]
      rfl
    · rw [hfront, List.length_nil] at hindex
      omega
  · exact .inr hhigh

end Between

/-- On ASCII the bytes of names are the characters of names. -/
theorem isNameByte_toUInt8 {c : Char} (h : c.toNat < 0x80) :
    isNameByte c.toUInt8 = isNameChar c ∧ isDigitByte c.toUInt8 = c.isDigit := by
  have hall : ∀ n < 0x80, isNameByte (Char.ofNat n).toUInt8 = isNameChar (Char.ofNat n)
      ∧ isDigitByte (Char.ofNat n).toUInt8 = (Char.ofNat n).isDigit := by decide +kernel
  have hchar := hall c.toNat h
  rwa [Char.ofNat_toNat] at hchar

/-- A character outside ASCII belongs to a name. -/
theorem isNameChar_of_high {c : Char} (h : 0x80 ≤ c.toNat) : isNameChar c = true := by
  simp [isNameChar, h]

theorem isNameByte_of_high {b : UInt8} (h : 0x80 ≤ b.toNat) : isNameByte b = true := by
  simp [isNameByte, h]

/-- A look at the byte in front tells whether a name ends there. -/
theorem endsInNameAt?_eq {before rest : Text} (h : Between bytes i before rest) :
    endsInNameAt? bytes i = some (endsInName before) := by
  cases before with
  | nil =>
    have hzero : i = 0 := h.index_eq
    rw [endsInNameAt?, if_pos hzero]
    rfl
  | cons c before =>
    obtain ⟨b, hpos, hb, hcases⟩ := h.exists_last
    rw [endsInNameAt?, if_neg (Nat.ne_of_gt hpos), hb]
    show some (isNameByte b) = some (isNameChar c)
    obtain ⟨hascii, rfl, -⟩ | ⟨hc, hhigh⟩ := hcases
    · rw [(isNameByte_toUInt8 hascii).1]
    · rw [isNameByte_of_high hhigh, isNameChar_of_high hc]

/-- A look at two of them tells whether an escape string opens. -/
theorem opensEscapesAt?_eq {before rest : Text} (h : Between bytes i before rest) :
    opensEscapesAt? bytes i = some (opensEscapes before) := by
  cases before with
  | nil =>
    have hzero : i = 0 := h.index_eq
    rw [opensEscapesAt?, if_pos hzero]
    rfl
  | cons c before =>
    obtain ⟨b, hpos, hb, hcases⟩ := h.exists_last
    rw [opensEscapesAt?, if_neg (Nat.ne_of_gt hpos), hb]
    show (if b = 'E'.toUInt8 ∨ b = 'e'.toUInt8 then _ else _) = some ((c == 'E' || c == 'e') && _)
    obtain ⟨hascii, rfl, hbehind⟩ | ⟨hc, hhigh⟩ := hcases
    · have hmark : (c.toUInt8 = 'E'.toUInt8 ∨ c.toUInt8 = 'e'.toUInt8)
          ↔ (c == 'E' || c == 'e') = true := by
        rw [Bool.or_eq_true, beq_iff_eq, beq_iff_eq]
        exact or_congr ⟨Text.toUInt8_inj hascii (by decide), fun heq => by rw [heq]⟩
          ⟨Text.toUInt8_inj hascii (by decide), fun heq => by rw [heq]⟩
      by_cases hletter : (c == 'E' || c == 'e') = true
      · rw [if_pos (hmark.mpr hletter), hletter, endsInNameAt?_eq hbehind]
        rfl
      · rw [if_neg (mt hmark.mp hletter), Bool.eq_false_iff.mpr hletter]
        rfl
    · -- no letter E
      have hnot : ¬(b = 'E'.toUInt8 ∨ b = 'e'.toUInt8) := by
        rintro (rfl | rfl)
        · exact absurd hhigh (by decide)
        · exact absurd hhigh (by decide)
      have hletter : (c == 'E' || c == 'e') = false := by
        rw [Bool.or_eq_false_iff, beq_eq_false_iff_ne, beq_eq_false_iff_ne]
        refine ⟨?_, ?_⟩
        · rintro rfl
          exact absurd hc (by decide)
        · rintro rfl
          exact absurd hc (by decide)
      rw [if_neg hnot, hletter]
      rfl

/-- A name ends where its characters do. -/
theorem skipNameFrom_eq {t : Text} (h : At bytes i (Text.utf8 t)) :
    skipNameFrom bytes i = i + Text.byteLength (t.takeWhile isNameChar) := by
  have hloop : ∀ i b, bytes[i]? = some b → isNameByte b = true →
      skipNameFrom bytes i = skipNameFrom bytes (i + 1) := by
    intro i b hb hname
    rw [skipNameFrom, if_pos ⟨(List.getElem?_eq_some_iff.mp hb).1, by rw [hb]; exact hname⟩]
  induction t generalizing i with
  | nil =>
    rw [skipNameFrom, if_neg fun hboth => h.not_lt_length hboth.1]
    rfl
  | cons c t ih =>
    by_cases hc : isNameChar c = true
    · -- every byte of a name character is a name byte, so the loop takes the whole character
      have hbytes : ∀ b ∈ String.utf8EncodeChar c, isNameByte b = true := by
        obtain ⟨hascii, hbytes⟩ | ⟨-, hbytes⟩ := Text.utf8_cases c
        · intro b hb
          rw [hbytes, List.mem_singleton] at hb
          rw [hb, (isNameByte_toUInt8 hascii).1, hc]
        · exact fun b hb => isNameByte_of_high (hbytes b hb)
      have hbehind := h.behind_char
      rw [Text.utf8_cons] at h
      rw [pass hloop hbytes h, String.length_utf8EncodeChar, ih hbehind,
        List.takeWhile_cons_of_pos hc, Text.byteLength_cons, Nat.add_assoc]
    · -- only a character of ASCII can be none of a name, and it is one byte
      have hascii : c.toNat < 0x80 := Nat.lt_of_not_le fun hle => hc (isNameChar_of_high hle)
      have hstop : ¬(bytes[i]?).any isNameByte = true := by
        rw [at_ascii hascii h]
        show ¬isNameByte c.toUInt8 = true
        rw [(isNameByte_toUInt8 hascii).1]
        exact hc
      rw [skipNameFrom, if_neg fun hboth => hstop hboth.2, List.takeWhile_cons_of_neg hc]
      rfl

/-- Whether a digit stands at a place. -/
theorem isDigitByte_at {t : Text} (h : At bytes i (Text.utf8 t)) :
    (bytes[i]?).any isDigitByte = t.head?.any Char.isDigit := by
  cases t with
  | nil =>
    have hend : bytes[i]? = none := h.here
    rw [hend]
    rfl
  | cons c t =>
    by_cases hascii : c.toNat < 0x80
    · rw [at_ascii hascii h]
      exact (isNameByte_toUInt8 hascii).2
    · obtain ⟨b, hb, hhigh, -⟩ := h.exists_first
      have hb' := hhigh (Nat.le_of_not_lt hascii)
      have hbyte : isDigitByte b = false := by
        simp only [isDigitByte, Bool.and_eq_false_iff, decide_eq_false_iff_not]
        omega
      have hchar : c.isDigit = false := by
        have hle : ¬c.val.toNat ≤ 57 := fun hle => hascii (by
          show c.val.toNat < 128
          omega)
        rw [Char.isDigit, Bool.and_eq_false_iff, decide_eq_false_iff_not, decide_eq_false_iff_not]
        exact .inr hle
      rw [hb]
      show isDigitByte b = c.isDigit
      rw [hbyte, hchar]

/-- Bytes and characters agree on the tag of a dollar-quoted body. -/
theorem dollarTagAt?_eq {before rest : Text} (h : Between bytes i before ('$' :: rest)) :
    dollarTagAt? bytes i
      = some ((dollarTag? before rest).map fun tag => Text.utf8 ('$' :: tag ++ ['$'])) := by
  have hdollar : ('$' : Char).toNat < 0x80 := by decide
  have hopen := h.atRest
  have hbehind := hopen.behind_ascii hdollar
  obtain ⟨behind, hrest⟩ := List.takeWhile_prefix isNameChar (l := rest)
  have hstop := skipNameFrom_eq hbehind
  unfold dollarTagAt? dollarTag?
  rw [endsInNameAt?_eq h]
  show (if endsInName before then some none else _) = _
  split
  · rfl
  rw [isDigitByte_at hbehind]
  split
  · rfl
  rw [hstop]
  -- behind the name there is a second dollar sign, or there is no tag
  generalize rest.takeWhile isNameChar = tag at hrest
  have hdrop : rest.drop tag.length = behind := by rw [← hrest, List.drop_left]
  have hat : At bytes (i + 1 + Text.byteLength tag) (Text.utf8 behind) := by
    rw [← hrest, Text.utf8_append] at hbehind
    rw [← Text.length_utf8]
    exact hbehind.behind
  show (if bytes[i + 1 + Text.byteLength tag]? = some '$'.toUInt8 then _ else _)
    = some (Option.map _ (if (rest.drop tag.length).head? = some '$' then some tag else none))
  rw [hdrop]
  by_cases hclosing : behind.head? = some '$'
  · obtain ⟨body, rfl⟩ := List.head?_eq_some_iff.mp hclosing
    have hwhole : At bytes i (Text.utf8 ('$' :: tag ++ ['$']) ++ Text.utf8 body) := by
      rw [← Text.utf8_append, List.append_assoc]
      rw [← hrest] at hopen
      exact hopen
    have hlength : i + (Text.utf8 ('$' :: tag ++ ['$'])).length = i + 1 + Text.byteLength tag + 1 := by
      rw [Text.length_utf8, Text.byteLength_append, Text.byteLength_cons]
      show i + (1 + _ + 1) = _
      omega
    have hslice := hwhole.slice?_eq
    rw [hlength] at hslice
    rw [if_pos ((at_head_iff hdollar hat).mpr hclosing), if_pos hclosing, hslice]
    rfl
  · rw [if_neg (mt (at_head_iff hdollar hat).mp hclosing), if_neg hclosing]
    rfl

/-- The region that opens at a character and where it ends, in bytes; `none` for plain code. -/
def opened? (d : Dialect) (before : Text) (c : Char) (rest : Text) (i : Nat) :
    Option (RegionKind × Nat) :=
  match regionAt d before c rest with
  | (.plain, _) => none
  | (kind, n) => some (kind, i + Text.byteLength (c :: rest.take n))

/-- Bytes and characters agree on where a literal ends, whichever kind it is. -/
theorem literalEndAt?_eq {d : Dialect} {before rest : Text}
    (h : Between bytes i before ('\'' :: rest)) :
    literalEndAt? d bytes i = some (i + Text.byteLength ('\'' :: rest.take
      (if d = .pg ∧ opensEscapes before then escapedLength rest else quotedLength '\'' rest))) := by
  have hquote : ('\'' : Char).toNat < 0x80 := by decide
  have hinside := h.atRest.behind_ascii hquote
  have hescaped := skipEscapedFrom_eq hinside
  have hquoted := skipQuotedFrom_eq hquote hinside
  have hlength : ∀ t : Text, i + 1 + Text.byteLength t = i + Text.byteLength ('\'' :: t) :=
    fun t => Nat.add_assoc i 1 _
  rw [hlength] at hescaped hquoted
  cases d with
  | pg =>
    show ((opensEscapesAt? bytes i).bind fun escapes => some (if escapes then _ else _)) = _
    rw [opensEscapesAt?_eq h]
    cases opensEscapes before with
    | true => exact congrArg some hescaped
    | false => exact congrArg some hquoted
  | ms => exact congrArg some hquoted
  | azure => exact congrArg some hquoted

/-- The end of a block comment. -/
theorem findSeq?_blockComment {rest : Text} (h : At bytes i (Text.utf8 ('/' :: '*' :: rest))) :
    ∃ found, findSeq? bytes (i + 2) (Text.utf8 ['*', '/']) = some found
      ∧ (found.map (· + 2)).getD bytes.length
        = i + Text.byteLength ('/' :: '*' :: rest.take (lengthThrough ['*', '/'] rest)) := by
  have hinside : At bytes (i + 2) (Text.utf8 rest) :=
    (h.behind_ascii (by decide)).behind_ascii (by decide)
  obtain ⟨found, hfound, hstop⟩ := @findSeq?_eq bytes _ '*' ['/'] rest (by decide) hinside
  refine ⟨found, hfound, ?_⟩
  show _ = i + (1 + (1 + Text.byteLength (rest.take (lengthThrough ['*', '/'] rest))))
  rw [← Nat.add_assoc 1 1, ← Nat.add_assoc]
  exact hstop

/-- The end of a dollar-quoted body, which is looked for behind its opening tag. -/
theorem findSeq?_dollarBody {before rest tag : Text} (h : At bytes i (Text.utf8 ('$' :: rest)))
    (htag : dollarTag? before rest = some tag) :
    ∃ found, findSeq? bytes (i + (Text.utf8 ('$' :: (tag ++ ['$']))).length)
        (Text.utf8 ('$' :: (tag ++ ['$']))) = some found
      ∧ (found.map (· + (Text.utf8 ('$' :: (tag ++ ['$']))).length)).getD bytes.length
        = i + Text.byteLength ('$' :: rest.take (tag.length + 1
          + lengthThrough ('$' :: (tag ++ ['$'])) (rest.drop (tag.length + 1)))) := by
  obtain ⟨⟨body, hbody⟩, -⟩ := exists_of_dollarTag?_eq_some htag
  have hlength : (tag ++ ['$']).length = tag.length + 1 := List.length_append
  have hdrop : rest.drop (tag.length + 1) = body := by rw [hbody, ← hlength, List.drop_left]
  have htake : ∀ n, '$' :: rest.take (tag.length + 1 + n) = '$' :: (tag ++ ['$']) ++ body.take n := by
    intro n
    rw [hbody, ← hlength, List.take_length_add_append]
    rfl
  -- behind the opening tag stands the body, and the tag is looked for in it
  have hinside : At bytes (i + (Text.utf8 ('$' :: (tag ++ ['$']))).length) (Text.utf8 body) := by
    have hwhole : Text.utf8 ('$' :: rest) = Text.utf8 ('$' :: (tag ++ ['$'])) ++ Text.utf8 body := by
      rw [hbody, ← Text.utf8_append]
      rfl
    rw [hwhole] at h
    exact h.behind
  obtain ⟨found, hfound, hstop⟩ :=
    @findSeq?_eq bytes _ '$' (tag ++ ['$']) body (by decide) hinside
  refine ⟨found, hfound, ?_⟩
  rw [hstop, htake, hdrop, Text.byteLength_append, Text.length_utf8, Nat.add_assoc]

/-- **What opens a region.**  In bytes the same regions open as in characters, and they end where
    these end. -/
theorem openedAt?_eq {d : Dialect} {before rest : Text} {c : Char}
    (h : Between bytes i before (c :: rest)) :
    openedAt? d bytes i = some (opened? d before c rest i) := by
  -- the branches are tried in the same order, and the first byte decides each as its character does
  obtain ⟨b, hb, -, hfirst⟩ := h.atRest.exists_first
  have hpair : ∀ x y : Char, x.toNat < 0x80 → y.toNat < 0x80 →
      ((b = x.toUInt8 ∧ bytes[i + 1]? = some y.toUInt8) ↔ (c = x ∧ rest.head? = some y)) := by
    intro x y hx hy
    rw [hfirst x hx]
    refine and_congr_right fun hc => ?_
    rw [hc] at h
    exact at_head_iff hy (h.atRest.behind_ascii hx)
  have hquotation : ∀ {x closing : Char}, c = x → x.toNat < 0x80 → closing.toNat < 0x80 →
      skipQuotedFrom bytes closing.toUInt8 (i + 1)
        = i + Text.byteLength (c :: rest.take (quotedLength closing rest)) := by
    rintro x closing rfl hx hclosing
    rw [skipQuotedFrom_eq hclosing (h.atRest.behind_ascii hx), Text.byteLength_cons,
      Text.utf8Size_of_ascii hx, Nat.add_assoc]
  unfold openedAt? opened? regionAt
  rw [hb]
  show (if b = '-'.toUInt8 ∧ bytes[i + 1]? = some '-'.toUInt8 then _ else _) = _
  by_cases hline : c = '-' ∧ rest.head? = some '-'
  · obtain ⟨found, hfound, hstop⟩ := findByte?_line h.atRest
    rw [if_pos ((hpair '-' '-' (by decide) (by decide)).mpr hline), if_pos hline, hfound]
    show some (some (RegionKind.comment, found.getD bytes.length)) = _
    rw [hstop, hline.1]
    rfl
  rw [if_neg (mt (hpair '-' '-' (by decide) (by decide)).mp hline), if_neg hline]
  by_cases hblock : c = '/' ∧ rest.head? = some '*'
  · rw [if_pos ((hpair '/' '*' (by decide) (by decide)).mpr hblock), if_pos hblock]
    obtain ⟨rfl, hstar⟩ := hblock
    obtain ⟨rest, rfl⟩ := List.head?_eq_some_iff.mp hstar
    obtain ⟨found, hfound, hstop⟩ := findSeq?_blockComment h.atRest
    rw [hfound]
    show some (some (RegionKind.comment, (found.map (· + 2)).getD bytes.length)) = _
    rw [hstop]
    rfl
  rw [if_neg (mt (hpair '/' '*' (by decide) (by decide)).mp hblock), if_neg hblock]
  by_cases hliteral : c = '\''
  · rw [if_pos ((hfirst '\'' (by decide)).mpr hliteral), if_pos hliteral]
    subst hliteral
    rw [literalEndAt?_eq h]
    rfl
  rw [if_neg (mt (hfirst '\'' (by decide)).mp hliteral), if_neg hliteral]
  by_cases hname : c = '"'
  · rw [if_pos ((hfirst '"' (by decide)).mpr hname), if_pos hname,
      hquotation hname (by decide) (by decide), hname]
    rfl
  rw [if_neg (mt (hfirst '"' (by decide)).mp hname), if_neg hname]
  have hdialect : ∀ (x : Char) (p : Prop), x.toNat < 0x80 → (b = x.toUInt8 ∧ p ↔ c = x ∧ p) :=
    fun x p hx => by rw [hfirst x hx]
  by_cases hbracket : c = '[' ∧ d.quoteStyle = .bracket
  · rw [if_pos ((hdialect '[' _ (by decide)).mpr hbracket), if_pos hbracket,
      hquotation hbracket.1 (by decide) (by decide)]
    rfl
  rw [if_neg (mt (hdialect '[' _ (by decide)).mp hbracket), if_neg hbracket]
  by_cases hdollar : c = '$' ∧ d = .pg
  · rw [if_pos ((hdialect '$' _ (by decide)).mpr hdollar), if_pos hdollar]
    obtain ⟨rfl, rfl⟩ := hdollar
    rw [dollarTagAt?_eq h]
    cases htag : dollarTag? before rest with
    | none => rfl
    | some tag =>
      obtain ⟨found, hfound, hstop⟩ := findSeq?_dollarBody h.atRest htag
      let mark := Text.utf8 ('$' :: (tag ++ ['$']))
      show ((findSeq? bytes (i + mark.length) mark).bind fun found =>
        some (some (RegionKind.dollarBody, (found.map (· + mark.length)).getD bytes.length))) = _
      rw [hfound, Option.bind_some, hstop]
      rfl
  rw [if_neg (mt (hdialect '$' _ (by decide)).mp hdollar), if_neg hdollar]
  rfl

/-- No region opens inside of a character. -/
theorem openedAt?_high {d : Dialect} {b : UInt8} (hb : bytes[i]? = some b) (hhigh : 0x80 ≤ b.toNat) :
    openedAt? d bytes i = some none := by
  have hne : ∀ x : Char, x.toNat < 0x80 → b ≠ x.toUInt8 := by
    rintro x hx rfl
    rw [Text.toNat_toUInt8 hx] at hhigh
    omega
  have hpair : ∀ (x : Char) (p : Prop), x.toNat < 0x80 → ¬(b = x.toUInt8 ∧ p) :=
    fun x p hx hboth => hne x hx hboth.1
  unfold openedAt?
  rw [hb]
  show (if b = '-'.toUInt8 ∧ bytes[i + 1]? = some '-'.toUInt8 then _ else _) = _
  rw [if_neg (hpair '-' _ (by decide)), if_neg (hpair '/' _ (by decide)),
    if_neg (hne '\'' (by decide)), if_neg (hne '"' (by decide)), if_neg (hpair '[' _ (by decide)),
    if_neg (hpair '$' _ (by decide))]
  rfl

/-! ## §4. Masking -/

/-- Blanking the bytes of a text is blanking its characters. -/
theorem map_blankByte_utf8 (t : Text) : (Text.utf8 t).map blankByte = Text.utf8 (blank t) := by
  have hspaces : ∀ n, Text.utf8 (List.replicate n ' ') = List.replicate n ' '.toUInt8 := by
    intro n
    induction n with
    | zero => rfl
    | succ n ih =>
      rw [List.replicate_succ, Text.utf8_cons, ih]
      rfl
  induction t with
  | nil => rfl
  | cons c t ih =>
    have hfirst : (String.utf8EncodeChar c).map blankByte = Text.utf8 (blankChar c) := by
      unfold blankChar
      split
      · next hc =>
        rw [hc]
        rfl
      · next hc =>
        have hall : ∀ b ∈ String.utf8EncodeChar c, blankByte b = ' '.toUInt8 := by
          intro b hb
          -- only a line break is stored with the byte of one: beyond ASCII all bytes are high
          have hbreak : b ≠ '\n'.toUInt8 := by
            rintro rfl
            obtain ⟨hascii, hbytes⟩ | ⟨-, hbytes⟩ := Text.utf8_cases c
            · rw [hbytes, List.mem_singleton] at hb
              exact hc (Text.toUInt8_inj hascii (by decide) hb.symm)
            · exact absurd (hbytes _ hb) (by decide)
          exact if_neg hbreak
        rw [hspaces, List.map_congr_left hall, List.map_const', String.length_utf8EncodeChar]
    rw [Text.utf8_cons, List.map_append, ih, hfirst, ← Text.utf8_append]
    rfl

/-- The region between two indices as a mask shows it. -/
def showRegion? (hides : Hiding) (masked : Bytes) (kind : RegionKind) (i stop : Nat) : Option Bytes :=
  if hides kind then masked.blank? i stop else some masked

/-- Mask what is stored behind an index, region by region. -/
def maskBytesFrom (d : Dialect) (hides : Hiding) (bytes masked : Bytes) (i : Nat) : Option Bytes :=
  if i < bytes.length then
    match hopened : openedAt? d bytes i with
    | none => none
    | some none => maskBytesFrom d hides bytes masked (i + 1)
    | some (some (kind, stop)) => do
      let masked ← showRegion? hides masked kind i stop
      maskBytesFrom d hides bytes masked stop
  else some masked
termination_by bytes.length - i
decreasing_by
  · omega
  · have hlt := lt_of_openedAt? hopened
    omega

/-- Mask a script as it is stored; what is left is read as text again. -/
def maskStored? (hides : Hiding) (d : Dialect) (script : Text) : Option Text :=
  (maskBytesFrom d hides (Text.utf8 script) (Text.utf8 script) 0).bind Text.ofUtf8?

/-- Behind a text that is taken, it stands in front. -/
theorem Between.behind {before taken rest : Text} (h : Between bytes i before (taken ++ rest)) :
    Between bytes (i + Text.byteLength taken) (taken.reverse ++ before) rest := by
  refine ⟨?_, ?_⟩
  · rw [h.bytes_eq, List.reverse_append, List.reverse_reverse, Text.utf8_append, Text.utf8_append,
      List.append_assoc]
  · rw [Text.byteLength_append, byteLength_reverse, h.index_eq, Nat.add_comm]

/-- Plain code is taken one character at a time. -/
theorem regionAt_plain (d : Dialect) (before : Text) (c : Char) (rest : Text) :
    (regionAt d before c rest).1 = .plain → (regionAt d before c rest).2 = 0 := by
  unfold regionAt
  split
  · exact fun h => RegionKind.noConfusion h
  split
  · exact fun h => RegionKind.noConfusion h
  split
  · exact fun h => RegionKind.noConfusion h
  split
  · exact fun h => RegionKind.noConfusion h
  split
  · exact fun h => RegionKind.noConfusion h
  split
  · split
    · exact fun h => RegionKind.noConfusion h
    · exact fun _ => rfl
  · exact fun _ => rfl

/-- One step of the scan: a region is shown or hidden, or a byte is passed. -/
theorem maskBytesFrom_of_lt {d : Dialect} {hides : Hiding} (masked : Bytes) (hlt : i < bytes.length) :
    maskBytesFrom d hides bytes masked i
      = (openedAt? d bytes i).bind fun opened => match opened with
        | some (kind, stop) =>
          (showRegion? hides masked kind i stop).bind fun masked =>
            maskBytesFrom d hides bytes masked stop
        | none => maskBytesFrom d hides bytes masked (i + 1) := by
  rw [maskBytesFrom, if_pos hlt]
  split
  · next hopened =>
    rw [hopened]
    rfl
  · next hopened =>
    rw [hopened]
    rfl
  · next hopened =>
    rw [hopened]
    rfl

/-- Plain code is passed byte by byte and shown as it is. -/
theorem maskBytesFrom_plain {d : Dialect} {hides : Hiding} {before rest : Text} {c : Char}
    (masked : Bytes) (h : Between bytes i before (c :: rest))
    (hfound : opened? d before c rest i = none) :
    maskBytesFrom d hides bytes masked i = maskBytesFrom d hides bytes masked (i + c.utf8Size) := by
  have hpassed : ∀ j b, bytes[j]? = some b → 0x80 ≤ b.toNat →
      maskBytesFrom d hides bytes masked j = maskBytesFrom d hides bytes masked (j + 1) := by
    intro j b hb hhigh
    have hj : j < bytes.length := (List.getElem?_eq_some_iff.mp hb).1
    rw [maskBytesFrom_of_lt masked hj, openedAt?_high hb hhigh]
    rfl
  obtain ⟨b, others, hbytes, hothers, -, -⟩ := Text.utf8_first (c := c)
  have hinside : At bytes (i + 1) (others ++ Text.utf8 rest) := by
    have hat := h.atRest
    rw [Text.utf8_cons, hbytes] at hat
    exact hat.behind (u := [b])
  have hlength : i + 1 + others.length = i + c.utf8Size := by
    rw [← String.length_utf8EncodeChar, hbytes, List.length_cons]
    omega
  rw [maskBytesFrom_of_lt masked h.atRest.lt_length, openedAt?_eq h, hfound, ← hlength]
  exact pass hpassed hothers hinside

/-- The bytes of a region as a mask shows the region. -/
theorem showRegion?_eq (hides : Hiding) (kind : RegionKind) {shown : Bytes} (taken rest : Text) :
    showRegion? hides (shown ++ Text.utf8 (taken ++ rest)) kind shown.length
        (shown.length + Text.byteLength taken)
      = some (shown ++ Text.utf8 (Region.masked hides ⟨kind, taken⟩) ++ Text.utf8 rest) := by
  have hat : At (shown ++ (Text.utf8 taken ++ Text.utf8 rest)) shown.length
      (Text.utf8 taken ++ Text.utf8 rest) := ⟨shown, rfl, rfl⟩
  have hblank := hat.blank?_eq
  rw [Text.length_utf8, map_blankByte_utf8, List.take_left] at hblank
  rw [Text.utf8_append]
  unfold showRegion? Region.masked
  split
  · exact hblank
  · rw [List.append_assoc]

/-- A region is masked at once. -/
theorem maskBytesFrom_region {d : Dialect} {hides : Hiding} {before rest : Text} {c : Char}
    {shown : Bytes} (hplain : hides .plain = false) (h : Between bytes i before (c :: rest))
    (hshown : shown.length = i) {kind : RegionKind} {n : Nat}
    (hfound : regionAt d before c rest = (kind, n)) :
    maskBytesFrom d hides bytes (shown ++ Text.utf8 (c :: rest)) i
      = maskBytesFrom d hides bytes
        (shown ++ Text.utf8 (Region.masked hides ⟨kind, c :: rest.take n⟩) ++ Text.utf8 (rest.drop n))
        (i + Text.byteLength (c :: rest.take n)) := by
  by_cases hkind : kind = .plain
  · subst hkind
    -- code is passed character by character
    obtain rfl : n = 0 := by
      have hzero := regionAt_plain d before c rest
      rw [hfound] at hzero
      exact hzero rfl
    have hopened : opened? d before c rest i = none := by rw [opened?, hfound]
    have hshows : Region.masked hides ⟨.plain, [c]⟩ = [c] := by
      rw [Region.masked, hplain]
      rfl
    rw [maskBytesFrom_plain _ h hopened, List.take_zero, List.drop_zero, hshows, List.append_assoc,
      ← Text.utf8_append]
    rfl
  · have hopened : opened? d before c rest i
        = some (kind, i + Text.byteLength (c :: rest.take n)) := by
      rw [opened?, hfound]
      cases kind with
      | plain => exact absurd rfl hkind
      | comment | literal | dollarBody | quotedName => rfl
    have hsplit : c :: rest = c :: rest.take n ++ rest.drop n := by
      rw [List.cons_append, List.take_append_drop]
    rw [maskBytesFrom_of_lt _ h.atRest.lt_length, openedAt?_eq h, hopened, Option.bind_some]
    show (showRegion? hides (shown ++ Text.utf8 (c :: rest)) kind i _).bind _ = _
    rw [← hshown, hsplit, showRegion?_eq, Option.bind_some]

/-- **Masking bytes is masking characters.** -/
theorem maskBytesFrom_eq {d : Dialect} {hides : Hiding} (hplain : hides .plain = false)
    (before t : Text) : ∀ {i : Nat} {shown : Bytes}, Between bytes i before t → shown.length = i →
      maskBytesFrom d hides bytes (shown ++ Text.utf8 t) i
        = some (shown ++ Text.utf8 ((regionsAfter d before t).flatMap (Region.masked hides))) := by
  induction before, t using regionsAfter.induct d with
  | case1 before =>
    intro i shown h hshown
    have hend : ¬i < bytes.length := by
      rw [h.atRest.length_eq]
      exact Nat.lt_irrefl i
    rw [maskBytesFrom, if_neg hend, regionsAfter]
    rfl
  | case2 before c rest found =>
    rename_i taken ih
    intro i shown h hshown
    have hsplit : c :: rest = taken ++ rest.drop found.2 := by
      rw [List.cons_append, List.take_append_drop]
    -- blanks are as long as what they stand for, so the next region begins where it did
    have hlength : (shown ++ Text.utf8 (Region.masked hides ⟨found.1, taken⟩)).length
        = i + Text.byteLength taken := by
      rw [List.length_append, hshown, Text.length_utf8]
      unfold Region.masked
      split
      · rw [byteLength_blank]
      · rfl
    have hfound : regionAt d before c rest = (found.1, found.2) := rfl
    have hregion := maskBytesFrom_region hplain h hshown hfound
    rw [hsplit] at h
    rw [hregion, ih h.behind hlength, regionsAfter, List.flatMap_cons, Text.utf8_append,
      List.append_assoc]

/-- Masking a script as it is stored never fails, and comes to the mask. -/
theorem maskStored?_eq {hides : Hiding} (hplain : hides .plain = false) (d : Dialect) (script : Text) :
    maskStored? hides d script = some (mask hides d script) := by
  have hstart : Between (Text.utf8 script) 0 [] script := ⟨rfl, rfl⟩
  have hmasked := maskBytesFrom_eq (d := d) hplain [] script hstart List.length_nil
  show (maskBytesFrom d hides (Text.utf8 script) ([] ++ Text.utf8 script) 0).bind _ = _
  rw [hmasked]
  exact Text.ofUtf8?_utf8 _

end Script

end TableLedger
