/-
  TableLedger.Proofs.Journal.LogName — logs that are never logged.

  The log of a user is a table like any other, and a script may name it.  Nothing is said
  about it in the log if it is told from other tables however it is written.  Its name is
  made for that.  Lower-casing leaves no capital letter of ASCII, whatever the user's name
  holds, and the characters that are left over become `_`; so the name is a word in small
  letters, which needs no quotes and does not change when it is lower-cased again.

      canonicalize d spelling = ofUser user     for every spelling in other letters
      canonicalize d (requote d spelling) = spelling

  In a reference the name is the last part, alone or behind a schema, and the table that
  is read has the canonical name of this part, which is the name of the log but for the
  case of ASCII letters.

  Main statements:
    • `isUpper_of_mem_lowercase` — lower-casing leaves no capital letters,
    • `AsciiWord.canonicalize_eq` — the canonical names of ASCII words,
    • `cases_of_mem_ofUser` — what the name of a log is made of,
    • `passesOver_of_standsAlone` — references to a log,
    • `log_never_logs_itself` — the log is not loggable under any spelling.
-/

import TableLedger.Journal.Basic
import TableLedger.Proofs.Identifier.Requoting
import TableLedger.Proofs.TableRef.Splitting
import TableLedger.Unicode.Letters

namespace TableLedger

/-! ## §1. Capital letters -/

namespace Unicode

/-- No capital letter stands behind the marks. -/
theorem isUpper_eq_false_of_toNat {c : Char} (h : c.toNat = 0 ∨ 0x61 ≤ c.toNat) :
    c.isUpper = false := by
  rw [← Bool.not_eq_true, isUpper_iff]
  omega

/-- A capital letter of ASCII is none any more. -/
theorem isUpper_toLower (c : Char) : c.toLower.isUpper = false := by
  rw [← Bool.not_eq_true, isUpper_iff]
  by_cases hupper : 0x41 ≤ c.toNat ∧ c.toNat ≤ 0x5A
  · rw [toNat_toLower hupper]
    omega
  · rwa [toLower_of_toNat hupper]

/-- No character is a capital letter in lower case. -/
theorem isUpper_lowerChar (c : Char) : (lowerChar c).isUpper = false := by
  by_cases hsame : lowerChar c = c
  · by_cases hascii : c.toNat < 0x80
    · rw [lowerChar, if_pos hascii]
      exact isUpper_toLower c
    · rw [hsame]
      exact isUpper_eq_false_of_toNat (by omega)
  · exact isUpper_eq_false_of_toNat (toNat_lowerChar hsame)

/-- No capital letter comes out of a text in lower case, whatever stands in front of it. -/
theorem isUpper_of_mem_lowerAfter {before t : List Char} {c : Char} (h : c ∈ lowerAfter before t) :
    c.isUpper = false := by
  induction t generalizing before with
  | nil => exact absurd h List.not_mem_nil
  | cons x rest ih =>
    rw [lowerAfter, List.mem_append] at h
    obtain h | h := h
    · -- the dotted capital I, the sigma, and the characters that are taken by themselves
      split at h
      · simp only [List.mem_cons, List.not_mem_nil, or_false] at h
        obtain rfl | rfl := h
        · decide
        · exact isUpper_eq_false_of_toNat (toNat_ofNat_of_le (by omega))
      · split at h
        · rw [List.mem_singleton.mp h]
          exact isUpper_eq_false_of_toNat (toNat_ofNat_of_le (by split <;> omega))
        · rw [List.mem_singleton.mp h]
          exact isUpper_lowerChar x
    · exact ih h

/-- **Lower-casing leaves no capital letters** of ASCII, whatever characters the text holds. -/
theorem isUpper_of_mem_lowercase {t : List Char} {c : Char} (h : c ∈ lowercase t) :
    c.isUpper = false :=
  isUpper_of_mem_lowerAfter h

end Unicode

/-! ## §2. ASCII words -/

/-- A text that is one word of ASCII letters, digits and underscores. -/
structure Text.AsciiWord (t : Text) : Prop where
  ne_nil : t ≠ []
  isAsciiWord : ∀ c ∈ t, Unicode.isAsciiWord c = true

namespace Text.AsciiWord

open Identifier

variable {t u : Text}

/-- A word has no white space at its ends. -/
theorem tight (h : AsciiWord t) : t.Tight := by
  refine Text.tight_of_forall h.ne_nil fun c hc => Unicode.isBlank_of_toNat ?_
  have hcode := Unicode.toNat_of_isAsciiWord (h.isAsciiWord c hc)
  omega

/-- A word is not in quotes. -/
theorem not_looksQuoted (h : AsciiWord t) : ¬LooksQuoted t := by
  rintro ⟨inner, rfl | rfl⟩
  · exact absurd (h.isAsciiWord '[' List.mem_cons_self) (by decide)
  · exact absurd (h.isAsciiWord '"' List.mem_cons_self) (by decide)

/-- The word may be written in other letters. -/
theorem of_equalsIgnoringAsciiCase (hu : AsciiWord u) (h : t.equalsIgnoringAsciiCase u = true) :
    AsciiWord t := by
  have hlower : t.map Char.toLower = u.map Char.toLower := beq_iff_eq.mp h
  refine ⟨?_, fun c hc => ?_⟩
  · rintro rfl
    exact hu.ne_nil (List.map_eq_nil_iff.mp hlower.symm)
  · have hmem : c.toLower ∈ u.map Char.toLower := hlower ▸ List.mem_map_of_mem hc
    obtain ⟨x, hx, hxc⟩ := List.mem_map.mp hmem
    rw [← Unicode.isAsciiWord_toLower, ← hxc, Unicode.isAsciiWord_toLower]
    exact hu.isAsciiWord x hx

/-- No quotes are taken away from a word. -/
theorem unquote?_eq_none (h : AsciiWord t) (style : QuoteStyle) : unquote? style t = none := by
  have hbracket : unquoteOnce? .bracket t = none :=
    unquoteOnce?_bracket_eq_none_iff.mpr h.not_looksQuoted
  cases style with
  | bracket => rw [unquote?, hbracket, Option.map_none]
  | doubleQuote =>
    refine Text.unwrap?_eq_none_iff.mpr fun inner heq => ?_
    exact h.not_looksQuoted ⟨inner, .inr heq⟩

/-- A word in lower case is one in the lower case of ASCII. -/
theorem lowercase_eq (h : AsciiWord t) : t.lowercase = t.asciiLowercase := by
  refine Unicode.lowerAfter_of_ascii (fun c hc => ?_) []
  have hcode := Unicode.toNat_of_isAsciiWord (h.isAsciiWord c hc)
  omega

/-- **The canonical name of an ASCII word** is the word in small letters. -/
theorem canonicalize_eq (h : AsciiWord t) (d : Dialect) : canonicalize d t = t.asciiLowercase := by
  simp only [canonicalize, h.tight.trim, h.tight.isEmpty_eq_false, h.unquote?_eq_none,
    Bool.false_eq_true, if_false, Option.getD_none, h.lowercase_eq]

/-- In quotes the word keeps its letters. -/
theorem canonicalize_requote (h : AsciiWord t) (d : Dialect) : canonicalize d (requote d t) = t :=
  canonicalize_requote_eq_self_iff.mpr fun _ => h.not_looksQuoted

/-- Without quotes the word is a part of a reference. -/
theorem standsAlone (h : AsciiWord t) (d : Dialect) : TableRef.StandsAlone d t := by
  have hplain : ∀ c ∈ t, c ≠ '.' ∧ c ≠ '"' ∧ c ≠ '[' := by
    intro c hc
    have hword := h.isAsciiWord c hc
    refine ⟨?_, ?_, ?_⟩ <;>
    · rintro rfl
      exact absurd hword (by decide)
  refine ⟨h.ne_nil, TableRef.split_of_cut ?_ (List.forall_mem_singleton.mpr h.tight.trim)⟩
  have hcut := TableRef.cut_join (List.cons_ne_nil t []) (List.forall_mem_singleton.mpr
    fun rest _ => TableRef.cut_bare (d.quoteStyle == .bracket) hplain rest)
  exact hcut

end Text.AsciiWord

/-! ## §3. The name of a log -/

namespace LogName

open Identifier

/-- A character that is no capital letter is kept if it may stand in the name, and becomes
    `_` otherwise. -/
theorem sanitize_cases {c : Char} (h : c.isUpper = false) :
    (sanitize c).isLower = true ∨ (sanitize c).isDigit = true ∨ sanitize c = '_' := by
  unfold sanitize
  split
  · next hkept =>
    rw [Bool.or_eq_true, Unicode.isAlphanum_iff, h, beq_iff_eq] at hkept
    simpa [or_assoc] using hkept
  · exact .inr (.inr rfl)

/-- What stands around the user's name. -/
theorem all_frame : (("__temp_log_table_".toList ++ "__".toList).all
    fun c => c.isLower || c == '_') = true := rfl

/-- **What the name of a log is made of**: small letters of ASCII, digits and underscores. -/
theorem cases_of_mem_ofUser {user : Text} {c : Char} (h : c ∈ ofUser user) :
    c.isLower = true ∨ c.isDigit = true ∨ c = '_' := by
  have hframe : c ∈ "__temp_log_table_".toList ++ "__".toList →
      c.isLower = true ∨ c.isDigit = true ∨ c = '_' := fun hc => by
    have hcases := List.all_eq_true.mp all_frame c hc
    rw [Bool.or_eq_true, beq_iff_eq] at hcases
    exact hcases.imp_right .inr
  unfold ofUser at h
  rw [List.mem_append, List.mem_append] at h
  obtain (h | h) | h := h
  · exact hframe (List.mem_append_left _ h)
  · obtain ⟨x, hx, rfl⟩ := List.mem_map.mp h
    exact sanitize_cases (Unicode.isUpper_of_mem_lowercase hx)
  · exact hframe (List.mem_append_right _ h)

/-- All its characters may stand in a bare name. -/
theorem continuesBare_of_mem_ofUser {user : Text} {c : Char} (h : c ∈ ofUser user) :
    continuesBare c = true := by
  obtain hlower | hdigit | rfl := cases_of_mem_ofUser h
  · simp [continuesBare, hlower]
  · simp [continuesBare, hdigit]
  · rfl

/-- The name of a log is a word of ASCII. -/
theorem asciiWord_ofUser (user : Text) : (ofUser user).AsciiWord := by
  refine ⟨List.cons_ne_nil '_' _, fun c hc => ?_⟩
  obtain hlower | hdigit | rfl := cases_of_mem_ofUser hc
  · rw [Unicode.isAsciiWord, Unicode.isAlphanum_iff.mpr (.inl (.inr hlower))]
    rfl
  · rw [Unicode.isAsciiWord, Unicode.isAlphanum_iff.mpr (.inr hdigit)]
    rfl
  · rfl

/-- The name does not change when it is lower-cased. -/
theorem asciiLowercase_ofUser (user : Text) : (ofUser user).asciiLowercase = ofUser user := by
  rw [← (asciiWord_ofUser user).lowercase_eq]
  exact lowerAfter_of_continuesBare (fun c hc => continuesBare_of_mem_ofUser hc) []

/-- No reserved word begins like the name of a log. -/
theorem head?_of_mem_reservedWords : ∀ word ∈ reservedWords, word.head? ≠ some '_' := by decide

/-- The name of a log need not be written in quotes. -/
theorem isBare_ofUser (user : Text) : isBare (ofUser user) = true := by
  have hrest : (ofUser user).tail.all continuesBare = true :=
    List.all_eq_true.mpr fun c hc => continuesBare_of_mem_ofUser (List.mem_of_mem_tail hc)
  have hword : reservedWords.contains (ofUser user) = false := by
    rw [← Bool.not_eq_true, List.contains_iff_mem]
    exact fun hmem => head?_of_mem_reservedWords _ hmem rfl
  show (opensBare '_' && (ofUser user).tail.all continuesBare
    && !reservedWords.contains (ofUser user)) = true
  rw [hrest, hword]
  rfl

/-- Where names need no quotes if they are bare, the name of a log has none. -/
theorem requote_ofUser (user : Text) : requote .pg (ofUser user) = ofUser user :=
  if_pos (isBare_ofUser user)

end LogName

/-! ## §4. References to a log -/

namespace Journal

open Identifier TableRef

variable {j : Journal} {d : Dialect} {part : Text}

/-- The text is read as a reference, and to a table that the journal does not log. -/
def PassesOver (j : Journal) (d : Dialect) (defaultSchema raw : Text) : Prop :=
  ∃ r, parse d defaultSchema raw = .ok r ∧ j.isLoggable r = false

/-- A table that is named like the log, whatever its case, is not loggable. -/
theorem isLoggable_eq_false_of_table {r : TableRef}
    (h : r.table.equalsIgnoringAsciiCase j.logName = true) : j.isLoggable r = false := by
  rw [isLoggable, h, Bool.not_true, Bool.and_false]

/-- **A reference is passed over** if its table has the name of the log, but for the case of
    ASCII letters. -/
theorem passesOver_of_standsAlone (hpart : StandsAlone d part)
    (h : (canonicalize d part).equalsIgnoringAsciiCase j.logName = true) (defaultSchema : Text) :
    j.PassesOver d defaultSchema part
      ∧ ∀ schema, StandsAlone d schema → j.PassesOver d defaultSchema (schema ++ '.' :: part) := by
  refine ⟨⟨_, hpart.parse_eq defaultSchema, ?_⟩, fun schema hschema =>
    ⟨_, hschema.parse_in_schema hpart defaultSchema, ?_⟩⟩
  · exact isLoggable_eq_false_of_table h
  · exact isLoggable_eq_false_of_table h

/-- **The log never logs itself.**  The name of a user's log is made of small letters of
    ASCII, digits and underscores, and is written without quotes in PostgreSQL.  Whatever
    case its letters are written in, it is the canonical name; and a reference to it, in these
    letters or in quotes, alone or behind a schema, is read as a table that the user's journal
    does not log. -/
theorem log_never_logs_itself (user : Text) (d : Dialect) :
    (∀ c ∈ LogName.ofUser user, c.isLower = true ∨ c.isDigit = true ∨ c = '_')
      ∧ requote .pg (LogName.ofUser user) = LogName.ofUser user
      ∧ ∀ spelling, spelling.equalsIgnoringAsciiCase (LogName.ofUser user) = true →
        canonicalize d spelling = LogName.ofUser user
          ∧ ∀ j : Journal, j.owner = user → ∀ part ∈ [spelling, requote d spelling],
            ∀ defaultSchema, j.PassesOver d defaultSchema part
              ∧ ∀ schema, StandsAlone d schema →
                j.PassesOver d defaultSchema (schema ++ '.' :: part) := by
  refine ⟨fun c => LogName.cases_of_mem_ofUser, LogName.requote_ofUser user,
    fun spelling hspelling => ?_⟩
  have hword : spelling.AsciiWord :=
    (LogName.asciiWord_ofUser user).of_equalsIgnoringAsciiCase hspelling
  have hcanonical : canonicalize d spelling = LogName.ofUser user := by
    rw [hword.canonicalize_eq, ← LogName.asciiLowercase_ofUser user]
    exact beq_iff_eq.mp hspelling
  refine ⟨hcanonical, ?_⟩
  rintro j rfl part hpart defaultSchema
  obtain rfl | rfl : part = spelling ∨ part = requote d spelling := by simpa using hpart
  · refine passesOver_of_standsAlone (hword.standsAlone d) ?_ defaultSchema
    rw [hcanonical]
    exact beq_self_eq_true _
  · -- in quotes the letters stay as they are, and their case is of no account
    refine passesOver_of_standsAlone (.requote d spelling) ?_ defaultSchema
    rw [hword.canonicalize_requote]
    exact hspelling

/-- A user's name with white space around it, a dotted capital I and a Kelvin sign. -/
def accentedUser : Text := " \u00c5sa-\u0130\u212a ".toList

/-- The dotted capital I becomes two characters, one of them of ASCII, and the Kelvin sign
    becomes a letter of ASCII.  A table with a letter less in its name is logged. -/
theorem log_of_accented_user_never_logs_itself :
    LogName.ofUser accentedUser = "__temp_log_table__sa_i_k__".toList
      ∧ Text.equalsIgnoringAsciiCase "__Temp_Log_Table__SA_i_K__".toList
          (LogName.ofUser accentedUser) = true
      ∧ StandsAlone .ms "[my.schema]".toList
      ∧ canonicalize .ms "__Temp_Log_Table__SA_i_K__".toList = LogName.ofUser accentedUser
      ∧ PassesOver ⟨.ms, accentedUser, 7, none⟩ .ms "dbo".toList
          "[my.schema].[__Temp_Log_Table__SA_i_K__]".toList
      ∧ ¬PassesOver ⟨.ms, accentedUser, 7, none⟩ .ms "dbo".toList
          "[my.schema].[__Temp_Log_Table__SA_i__]".toList := by
  have hname : LogName.ofUser accentedUser = "__temp_log_table__sa_i_k__".toList := by
    decide +kernel
  have hspelling : Text.equalsIgnoringAsciiCase "__Temp_Log_Table__SA_i_K__".toList
      (LogName.ofUser accentedUser) = true := by
    rw [hname]
    rfl
  have hschema : StandsAlone .ms "[my.schema]".toList := ⟨List.cons_ne_nil _ _, rfl⟩
  obtain ⟨hcanonical, hpart⟩ := (log_never_logs_itself accentedUser .ms).2.2 _ hspelling
  have hquoted := (hpart ⟨.ms, accentedUser, 7, none⟩ rfl _
    (List.mem_cons_of_mem _ List.mem_cons_self) "dbo".toList).2 _ hschema
  refine ⟨hname, hspelling, hschema, hcanonical, hquoted, ?_⟩
  rintro ⟨r, hparse, hlogged⟩
  have hother : parse .ms "dbo".toList "[my.schema].[__Temp_Log_Table__SA_i__]".toList
      = .ok (inSchema "my.schema".toList "__Temp_Log_Table__SA_i__".toList) := rfl
  rw [hother] at hparse
  injection hparse with hr
  subst hr
  unfold isLoggable logName at hlogged
  rw [hname] at hlogged
  exact absurd hlogged (by decide)

end Journal

end TableLedger
