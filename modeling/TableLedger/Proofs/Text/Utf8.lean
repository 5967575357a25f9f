/-
  TableLedger.Proofs.Text.Utf8 — texts as bytes.

  A text is stored as the UTF-8 bytes of its characters.  ASCII characters are stored
  as themselves, and every byte of another character is 0x80 or more, so a search for
  ASCII bytes never stops inside a character.  No encoding of a character begins the
  encoding of another one, so texts can be searched for in their bytes.

  Main statements:
    • `utf8_cases` — the bytes of a character,
    • `ofUtf8?_utf8` — a text is read back from its bytes,
    • `isPrefixOf_utf8` — one text begins another if its bytes do.
-/

import TableLedger.Text.Basic

namespace TableLedger

/-- Bytes in order. -/
abbrev Bytes := List UInt8

namespace Text

/-! ## §1. Bytes of characters -/

/-- The bytes of a text. -/
def utf8 (t : Text) : Bytes := t.flatMap String.utf8EncodeChar

@[simp] theorem utf8_nil : utf8 [] = [] := rfl

theorem utf8_cons (c : Char) (t : Text) : utf8 (c :: t) = String.utf8EncodeChar c ++ utf8 t := rfl

theorem utf8_append (t u : Text) : utf8 (t ++ u) = utf8 t ++ utf8 u := List.flatMap_append

/-- A text has as many bytes as its characters take together. -/
theorem length_utf8 (t : Text) : (utf8 t).length = byteLength t := by
  induction t with
  | nil => rfl
  | cons c t ih =>
    rw [utf8_cons, List.length_append, String.length_utf8EncodeChar, byteLength_cons, ih]

/-- An ASCII character is its own byte, and the bytes of any other character are no ASCII. -/
theorem utf8_cases (c : Char) :
    (c.toNat < 0x80 ∧ String.utf8EncodeChar c = [c.toUInt8])
      ∨ (0x80 ≤ c.toNat ∧ ∀ b ∈ String.utf8EncodeChar c, 0x80 ≤ b.toNat) := by
  by_cases hascii : c.toNat < 0x80
  · left
    have hle : c.val.toNat ≤ 127 := Nat.le_of_lt_succ hascii
    refine ⟨hascii, ?_⟩
    unfold String.utf8EncodeChar
    simp only [if_pos hle]
    rfl
  · right
    have hlt : ¬c.val.toNat ≤ 127 := fun hle => hascii (Nat.lt_succ_of_le hle)
    refine ⟨Nat.le_of_not_lt hascii, ?_⟩
    unfold String.utf8EncodeChar
    simp only [if_neg hlt]
    -- two, three or four bytes, each with its highest bit set
    intro b hb
    split at hb
    · simp only [List.mem_cons, List.not_mem_nil, or_false] at hb
      obtain rfl | rfl := hb
      all_goals simp only [UInt8.toNat_ofNat']; omega
    · split at hb
      · simp only [List.mem_cons, List.not_mem_nil, or_false] at hb
        obtain rfl | rfl | rfl := hb
        all_goals simp only [UInt8.toNat_ofNat']; omega
      · simp only [List.mem_cons, List.not_mem_nil, or_false] at hb
        obtain rfl | rfl | rfl | rfl := hb
        all_goals simp only [UInt8.toNat_ofNat']; omega

/-- The byte of a character of ASCII is its code. -/
theorem toNat_toUInt8 {c : Char} (h : c.toNat < 0x80) : c.toUInt8.toNat = c.toNat := by
  show c.val.toNat % 256 = c.val.toNat
  have hlt : c.val.toNat < 0x80 := h
  omega

/-- A character of ASCII takes one byte. -/
theorem utf8Size_of_ascii {c : Char} (h : c.toNat < 0x80) : c.utf8Size = 1 := by
  have hlength := String.length_utf8EncodeChar c
  obtain ⟨-, hbytes⟩ | ⟨hhigh, -⟩ := utf8_cases c
  · rw [hbytes] at hlength
    exact hlength.symm
  · omega

/-- ASCII characters have different bytes. -/
theorem toUInt8_inj {c x : Char} (hc : c.toNat < 0x80) (hx : x.toNat < 0x80)
    (h : c.toUInt8 = x.toUInt8) : c = x := by
  have hnat : c.toNat = x.toNat := by rw [← toNat_toUInt8 hc, ← toNat_toUInt8 hx, h]
  exact Char.toNat_inj.mp hnat

/-- The first byte of a character tells whether it is a given ASCII character. -/
theorem utf8_first {c : Char} :
    ∃ b others, String.utf8EncodeChar c = b :: others ∧ (∀ x ∈ others, 0x80 ≤ x.toNat)
      ∧ (0x80 ≤ c.toNat → 0x80 ≤ b.toNat)
      ∧ ∀ x : Char, x.toNat < 0x80 → (b = x.toUInt8 ↔ c = x) := by
  obtain ⟨hascii, hbytes⟩ | ⟨hhigh, hbytes⟩ := utf8_cases c
  · refine ⟨_, [], hbytes, fun x hx => absurd hx List.not_mem_nil, fun hle => absurd hle (by omega),
      fun x hx => ?_⟩
    exact ⟨toUInt8_inj hascii hx, fun h => by rw [h]⟩
  · have hlength := String.length_utf8EncodeChar c
    cases hcode : String.utf8EncodeChar c with
    | nil =>
      have hpos := c.utf8Size_pos
      rw [hcode, List.length_nil] at hlength
      omega
    | cons b others =>
      rw [hcode, List.forall_mem_cons] at hbytes
      refine ⟨b, others, rfl, hbytes.2, fun _ => hbytes.1, fun x hx => ?_⟩
      constructor
      · intro hb
        -- a high byte is not the byte of a character of ASCII
        have hlow := toNat_toUInt8 hx
        rw [← hb] at hlow
        omega
      · intro hcx
        rw [hcx] at hhigh
        omega

/-- The last byte of a character. -/
theorem utf8_last (c : Char) :
    ∃ front b, String.utf8EncodeChar c = front ++ [b]
      ∧ ((c.toNat < 0x80 ∧ front = [] ∧ b = c.toUInt8) ∨ (0x80 ≤ c.toNat ∧ 0x80 ≤ b.toNat)) := by
  obtain ⟨hascii, hbytes⟩ | ⟨hhigh, hbytes⟩ := utf8_cases c
  · exact ⟨[], _, hbytes, .inl ⟨hascii, rfl, rfl⟩⟩
  · have hne : String.utf8EncodeChar c ≠ [] := by
      intro hnil
      have hlength := String.length_utf8EncodeChar c
      have hpos := c.utf8Size_pos
      rw [hnil, List.length_nil] at hlength
      omega
    exact ⟨_, _, (List.dropLast_concat_getLast hne).symm,
      .inr ⟨hhigh, hbytes _ (List.getLast_mem hne)⟩⟩

/-! ## §2. Texts of bytes -/

/-- A text is read back from its bytes. -/
theorem ofUtf8?_utf8 (t : Text) : ofUtf8? (utf8 t) = some t := by
  have hbytes : (⟨(utf8 t).toArray⟩ : ByteArray) = (String.ofList t).toByteArray := by
    rw [String.toByteArray_ofList]
    apply ByteArray.ext
    show (utf8 t).toArray = (List.toByteArray (utf8 t)).data
    rw [List.data_toByteArray]
  unfold ofUtf8? String.fromUTF8?
  rw [hbytes, dif_pos (String.ofList t).isValidUTF8]
  show some (String.ofList t).toList = some t
  rw [String.toList_ofList]

/-- The bytes of a character end where they end. -/
theorem utf8EncodeChar_append_inj {c x : Char} {bytes bytes' : Bytes}
    (h : String.utf8EncodeChar c ++ bytes = String.utf8EncodeChar x ++ bytes') :
    c = x ∧ bytes = bytes' := by
  have hread : ∀ (c : Char) (bytes : Bytes),
      (String.utf8EncodeChar c ++ bytes).toByteArray.utf8DecodeChar? 0 = some c := by
    intro c bytes
    rw [List.toByteArray_append]
    exact ByteArray.utf8DecodeChar?_utf8EncodeChar_append
  have hchar : c = x := by
    have hsame := hread c bytes
    rw [h, hread x bytes'] at hsame
    exact (Option.some.inj hsame).symm
  rw [hchar] at h
  exact ⟨hchar, List.append_cancel_left h⟩

/-- One text begins another if its bytes do. -/
theorem isPrefixOf_utf8 (t u : Text) : (utf8 t).isPrefixOf (utf8 u) = t.isPrefixOf u := by
  rw [Bool.eq_iff_iff, List.isPrefixOf_iff_prefix, List.isPrefixOf_iff_prefix]
  constructor
  · rintro ⟨rest, hrest⟩
    induction t generalizing u with
    | nil => exact List.nil_prefix
    | cons c t ih =>
      rw [utf8_cons, List.append_assoc] at hrest
      cases u with
      | nil =>
        have hpos := c.utf8Size_pos
        have hlength := congrArg List.length hrest
        rw [List.length_append, String.length_utf8EncodeChar, utf8_nil, List.length_nil] at hlength
        omega
      | cons x u =>
        rw [utf8_cons] at hrest
        obtain ⟨hc, hbehind⟩ := utf8EncodeChar_append_inj hrest
        exact List.cons_prefix_cons.mpr ⟨hc, ih u hbehind⟩
  · rintro ⟨rest, rfl⟩
    exact ⟨utf8 rest, (utf8_append t rest).symm⟩

end Text

end TableLedger
