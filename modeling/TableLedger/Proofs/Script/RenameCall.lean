/-
  TableLedger.Proofs.Script.RenameCall — calls of the rename procedure.

  A call of sp_rename is written as the word, the old name and the new name, each of
  them a string literal, with a comma between; comments have become blanks where calls
  are looked for.  What may follow is a third argument, which says what kind of thing
  is renamed.  It is recognised when it is a literal, and then the call is no rename of
  a table, unless the literal is blank.  Written in any other way, as a bare word, a
  variable or by the name of its parameter, it is not recognised, and the call counts
  as the rename of a table.

  Main statements:
    • `prefers_call` — a call is read as it is written,
    • `mem_ways_thirdArgument`, `exists_prefers_thirdArgument` — when a third argument
      is recognised,
    • `mem_renameMentions_of_call` — what a call mentions,
    • `renamed_of_call_iff` — which calls are reported as renames of a table.
-/

import Mathlib.Data.List.TakeWhile
import TableLedger.Proofs.Pattern.Preferred
import TableLedger.Proofs.Script.LiveCode
import TableLedger.Proofs.Text.Ascii

namespace TableLedger.Script

open Pattern

/-! ## §1. How calls are written -/

/-- White space or nothing. -/
def IsGap (t : Text) : Prop := ∀ c ∈ t, Unicode.isBlank c = true

theorem isGap_nil : IsGap [] := fun _ hc => absurd hc List.not_mem_nil

theorem isGap_space : IsGap [' '] := fun c hc => by
  rw [List.mem_singleton.mp hc]
  decide

/-- No quote stands in front of a comma. -/
theorem IsGap.head?_comma_ne {gap : Text} (hgap : IsGap gap) (rest : Text) :
    (gap ++ ',' :: rest).head? ≠ some '\'' := by
  cases gap with
  | nil => exact fun heq => absurd (Option.some.inj heq) (by decide)
  | cons x gap =>
    intro heq
    have hx := hgap x List.mem_cons_self
    rw [show x = '\'' from Option.some.inj heq] at hx
    exact absurd hx (by decide)

/-- A string literal as it is written. -/
structure Literal where
  /-- The letter N, in any case, or nothing. -/
  mark : Text
  mark_spells : mark = [] ∨ spells "n".toList mark = true
  /-- What the literal stands for; each quote of it is written twice. -/
  inside : Text

def Literal.text (l : Literal) : Text := l.mark ++ Text.wrap '\'' '\'' l.inside

/-- A comma and the literal behind it. -/
structure Argument where
  gap : Text
  gap_isGap : IsGap gap
  gapBehind : Text
  gapBehind_isGap : IsGap gapBehind
  literal : Literal

def Argument.text (a : Argument) : Text := a.gap ++ ',' :: (a.gapBehind ++ a.literal.text)

/-- The rename procedure, called with two names. -/
structure Call where
  word : Text
  word_spells : spells "sp_rename".toList word = true
  gap : Text
  gap_ne_nil : gap ≠ []
  gap_isGap : IsGap gap
  oldName : Literal
  oldName_ne_nil : oldName.inside ≠ []
  newName : Argument
  newName_ne_nil : newName.literal.inside ≠ []

def Call.text (call : Call) : Text :=
  call.word ++ (call.gap ++ (call.oldName.text ++ call.newName.text))

/-- A call begins with the first letter of its word. -/
theorem Call.exists_letter (call : Call) :
    ∃ letter word, call.word = letter :: word ∧ isLetter 's' letter = true := by
  have hspells := call.word_spells
  cases hword : call.word with
  | nil => rw [hword] at hspells; exact absurd hspells (by decide)
  | cons letter word =>
    rw [hword] at hspells
    exact ⟨letter, word, rfl, (Bool.and_eq_true _ _ ▸ hspells :).1⟩

/-- A third argument that names a kind of thing: a literal that is not blank. -/
def NamesObjectType (behind : Text) : Prop :=
  ∃ (a : Argument) (rest : Text), behind = a.text ++ rest
    ∧ ∃ c ∈ a.literal.inside, Unicode.isBlank c = false

/-! ## §2. What is no white space -/

/-- The letters of keywords lie between `A` and `z`, but for two. -/
theorem toNat_of_isLetter {letter c : Char} (hletter : letter.isLower = true)
    (h : isLetter letter c = true) :
    0x41 ≤ c.toNat ∧ c.toNat ≤ 0x7A ∨ c.toNat = 0x17F ∨ c.toNat = 0x212A := by
  unfold isLetter at h
  simp only [Bool.or_eq_true, Bool.and_eq_true, beq_iff_eq] at h
  obtain (rfl | ⟨-, h⟩) | ⟨-, h⟩ := h
  · rw [Unicode.isLower_iff] at hletter
    by_cases hupper : 0x41 ≤ c.toNat ∧ c.toNat ≤ 0x5A
    · exact .inl (by omega)
    · rw [Unicode.toLower_of_toNat hupper] at hletter
      exact .inl (by omega)
  · exact .inr (.inl h)
  · exact .inr (.inr h)

theorem isBlank_of_isLetter {letter c : Char} (hletter : letter.isLower = true)
    (h : isLetter letter c = true) : Unicode.isBlank c = false := by
  have hcode := toNat_of_isLetter hletter h
  simp only [Unicode.isBlank, Bool.or_eq_false_iff, Bool.and_eq_false_iff, beq_eq_false_iff_ne,
    decide_eq_false_iff_not]
  omega

namespace Literal

variable (l : Literal)

/-- A literal begins with its mark or with a quote. -/
theorem exists_text_eq (rest : Text) :
    ∃ c u, l.text ++ rest = c :: u ∧ (c = '\'' ∨ isLetter 'n' c = true) := by
  obtain hmark | hmark := l.mark_spells
  · exact ⟨'\'', _, by rw [text, hmark]; rfl, .inl rfl⟩
  · cases hl : l.mark with
    | nil => rw [hl] at hmark; exact absurd hmark (by decide)
    | cons c mark =>
      rw [hl] at hmark
      have hletter : isLetter 'n' c = true := (Bool.and_eq_true _ _ ▸ hmark :).1
      exact ⟨c, _, by rw [text, hl]; rfl, .inr hletter⟩

/-- An argument does not begin with white space. -/
theorem isBlank_head? (rest : Text) : ∀ c ∈ (l.text ++ rest).head?, Unicode.isBlank c = false := by
  obtain ⟨c, u, htext, hc⟩ := l.exists_text_eq rest
  rw [htext]
  intro x hx
  obtain rfl := Option.some.inj hx
  obtain rfl | hletter := hc
  · decide
  · exact isBlank_of_isLetter (by decide) hletter

/-- No quote stands in front of the one that opens a literal. -/
theorem not_mem_mark : '\'' ∉ l.mark := by
  obtain hmark | hmark := l.mark_spells
  · rw [hmark]
    exact List.not_mem_nil
  · exact not_mem_of_spells (by decide) (by decide) hmark (by decide)

end Literal

/-! ## §3. How calls are read -/

variable {c : Cursor} {cs : List Capture}

/-- The opening of a literal takes its mark and its quote. -/
theorem prefers_literalStart {mark rest : Text}
    (hmark : mark = [] ∨ spells "n".toList mark = true) (h : c.rest = mark ++ '\'' :: rest) :
    literalStart.Prefers ⟨c, cs⟩ ⟨c.past (mark ++ ['\'']) rest, cs⟩ := by
  obtain rfl | hmark := hmark
  · have hrest : c.rest = '\'' :: rest := h
    have hnone : (one (isLetter 'n')).ways ⟨c, cs⟩ = [] := ways_one_of_not fun x hx => by
      rw [hrest] at hx
      rw [← Option.some.inj hx]
      decide
    exact (prefers_optional_of_nil hnone).append (prefers_char hrest)
  · have hletter : (one (isLetter 'n')).Prefers ⟨c, cs⟩ ⟨c.past mark ('\'' :: rest), cs⟩ :=
      prefers_keyword h hmark
    have hquote : (char '\'').Prefers ⟨c.past mark ('\'' :: rest), cs⟩
        ⟨(c.past mark ('\'' :: rest)).past ['\''] rest, cs⟩ := prefers_char rfl
    rw [Cursor.past_past] at hquote
    exact hletter.optional.append hquote

/-- The opening of a literal takes its mark and its quote, and nothing else. -/
theorem mem_ways_literalStart {w v : Way} (h : v ∈ literalStart.ways w) :
    ∃ mark, (mark = [] ∨ spells "n".toList mark = true)
      ∧ w.cursor.rest = mark ++ '\'' :: v.cursor.rest := by
  obtain ⟨u, hu, hv⟩ := List.mem_flatMap.mp h
  obtain ⟨x, hx, hrest⟩ := mem_ways_one hv
  rw [beq_iff_eq] at hx
  subst hx
  obtain hu | hu := List.mem_append.mp hu
  · obtain ⟨letter, hletter, hrest'⟩ := mem_ways_one hu
    refine ⟨[letter], .inr (by simpa [spells] using hletter), ?_⟩
    rw [hrest', hrest]
    rfl
  · rw [List.mem_singleton.mp hu] at hrest
    exact ⟨[], .inl rfl, hrest⟩

/-- The comma between two arguments, up to the quote behind it. -/
theorem prefers_comma {p : Pattern} {w : Way} {t gap rest : Text} (hgap : IsGap gap) (l : Literal)
    (hp : p.Prefers w ⟨c.past t (',' :: (gap ++ (l.mark ++ '\'' :: rest))), cs⟩)
    (hhead : ∀ x ∈ (l.mark ++ '\'' :: rest).head?, Unicode.isBlank x = false) :
    (p ++ char ',' ++ blanks? ++ literalStart).Prefers w
      ⟨c.past (t ++ [','] ++ gap ++ (l.mark ++ ['\''])) rest, cs⟩ := by
  have hcomma := hp.past (prefers_char rfl)
  have hgap' := hcomma.past (prefers_run rfl hgap hhead)
  exact hgap'.past (prefers_literalStart l.mark_spells rfl)

/-- The two names of a call, captured as they are written. -/
def twoArguments : Pattern :=
  wordEdge ++ keyword "sp_rename".toList ++ blanks
    ++ literalStart ++ Pattern.capture .oldName (literalChar ++ many literalChar) ++ char '\''
    ++ blanks? ++ char ',' ++ blanks?
    ++ literalStart ++ Pattern.capture .newName (literalChar ++ many literalChar) ++ char '\''

/-- A third argument that is a literal. -/
def thirdArgument : Pattern :=
  blanks? ++ char ',' ++ blanks? ++ literalStart ++ many literalChar ++ char '\''

/-- The pattern for calls, with its third argument set apart. -/
theorem procedure_pattern_eq (style : QuoteStyle) :
    RenameForm.procedure.pattern style
      = twoArguments ++ optional (Pattern.capture .objectType thirdArgument) := rfl

/-- **A call is read as it is written.** -/
theorem prefers_call (call : Call) {behind : Text} (hedge : c.atWordEdge = true)
    (h : c.rest = call.text ++ behind) (hbehind : behind.head? ≠ some '\'') :
    ∃ old new : Capture, twoArguments.Prefers ⟨c, []⟩ ⟨c.past call.text behind, [new, old]⟩
      ∧ old.slot = .oldName ∧ old.text = Text.double '\'' call.oldName.inside
      ∧ new.slot = .newName ∧ new.text = Text.double '\'' call.newName.literal.inside := by
  obtain ⟨word, hword, gap, hgap, hblank, old, hold, new, hnew⟩ := call
  -- what is left to read, piece by piece
  let newLeft := new.literal.mark ++ '\'' :: (Text.double '\'' new.literal.inside ++ '\'' :: behind)
  let commaLeft := new.gap ++ ',' :: (new.gapBehind ++ newLeft)
  let oldLeft := old.mark ++ '\'' :: (Text.double '\'' old.inside ++ '\'' :: commaLeft)
  have hrest : c.rest = word ++ (gap ++ oldLeft) := by
    rw [h]
    simp [Call.text, Literal.text, Argument.text, Text.wrap, oldLeft, commaLeft, newLeft]
  have hnewLeft : newLeft = new.literal.text ++ behind := by
    simp [Literal.text, Text.wrap, newLeft]
  have holdLeft : oldLeft = old.text ++ commaLeft := by
    simp [Literal.text, Text.wrap, oldLeft]
  have hcommaHead : ∀ x ∈ (',' :: (new.gapBehind ++ newLeft)).head?, Unicode.isBlank x = false := by
    intro x hx
    rw [← Option.some.inj hx]
    decide
  have hcomma : commaLeft.head? ≠ some '\'' := new.gap_isGap.head?_comma_ne _
  have hread : (wordEdge ++ keyword "sp_rename".toList).Prefers ⟨c, []⟩
      ⟨c.past word (gap ++ oldLeft), []⟩ :=
    (prefers_wordEdge hedge).append (prefers_keyword hrest hword)
  have hread := hread.past (prefers_run1 rfl hgap hblank
    (by rw [holdLeft]; exact old.isBlank_head? commaLeft))
  have hread := hread.past (prefers_literalStart old.mark_spells rfl)
  have hread := hread.past
    ((prefers_quotedChars1 hold rfl hcomma).capture .oldName)
  have hread := hread.past (prefers_char rfl)
  have hread := hread.past (prefers_run rfl new.gap_isGap hcommaHead)
  have hread := prefers_comma new.gapBehind_isGap new.literal hread
    (by show ∀ x ∈ newLeft.head?, _; rw [hnewLeft]; exact new.literal.isBlank_head? behind)
  have hread := hread.past
    ((prefers_quotedChars1 hnew rfl hbehind).capture .newName)
  have hread := hread.past (prefers_char rfl)
  have htext : word ++ gap ++ (old.mark ++ ['\'']) ++ Text.double '\'' old.inside ++ ['\''] ++ new.gap
      ++ [','] ++ new.gapBehind ++ (new.literal.mark ++ ['\''])
      ++ Text.double '\'' new.literal.inside ++ ['\'']
        = word ++ (gap ++ (old.text ++ new.text)) := by
    simp [Literal.text, Argument.text, Text.wrap]
  rw [htext] at hread
  exact ⟨_, _, hread, rfl, Cursor.textTo_past rfl, rfl, Cursor.textTo_past rfl⟩

/-! ## §4. Third arguments -/

/-- An argument as it is written, cut into its pieces. -/
theorem Argument.text_append (a : Argument) (rest : Text) :
    a.text ++ rest = a.gap ++ ',' :: (a.gapBehind ++ (a.literal.mark
      ++ '\'' :: (Text.double '\'' a.literal.inside ++ '\'' :: rest))) := by
  simp [Argument.text, Literal.text, Text.wrap]

/-- The third argument is read like the others. -/
theorem ways_thirdArgument (w : Way) :
    thirdArgument.ways w
      = (blanks? ++ char ',' ++ blanks? ++ literalStart ++ quotedEnd '\'').ways w :=
  ways_append_assoc _ _ _ w

/-- What is recognised as a third argument is a comma and a literal. -/
theorem mem_ways_thirdArgument {v : Way} (h : v ∈ thirdArgument.ways ⟨c, cs⟩) :
    ∃ a : Argument, c.rest = a.text ++ v.cursor.rest := by
  rw [ways_thirdArgument] at h
  obtain ⟨w₄, h, hv⟩ := List.mem_flatMap.mp h
  obtain ⟨w₃, h, h₄⟩ := List.mem_flatMap.mp h
  obtain ⟨w₂, h, h₃⟩ := List.mem_flatMap.mp h
  obtain ⟨w₁, h₁, h₂⟩ := List.mem_flatMap.mp h
  obtain ⟨gap, hgap, hblank⟩ := mem_ways_run h₁
  obtain ⟨x, hx, hcomma⟩ := mem_ways_one h₂
  obtain ⟨gapBehind, hgapBehind, hblankBehind⟩ := mem_ways_run h₃
  obtain ⟨mark, hmark, hopen⟩ := mem_ways_literalStart h₄
  obtain ⟨inside, hinside⟩ := mem_ways_quotedEnd hv
  rw [beq_iff_eq] at hx
  refine ⟨⟨gap, hblank, gapBehind, hblankBehind, mark, hmark, inside⟩, ?_⟩
  have hgap : c.rest = gap ++ w₁.cursor.rest := hgap
  rw [Argument.text_append, hgap, hcomma, hgapBehind, hopen, hinside, hx]

/-- **A literal is recognised as a third argument,** and read as far as it can reach. -/
theorem exists_prefers_thirdArgument {a : Argument} {behind : Text} (h : c.rest = a.text ++ behind) :
    ∃ (a' : Argument) (behind' : Text), a.literal.inside <+: a'.literal.inside
      ∧ c.rest = a'.text ++ behind'
      ∧ thirdArgument.Prefers ⟨c, cs⟩ ⟨c.past a'.text behind', cs⟩ := by
  obtain ⟨gap, hgap, gapBehind, hgapBehind, literal⟩ := a
  let left := Text.double '\'' literal.inside ++ '\'' :: behind
  have hrest : c.rest = gap ++ ',' :: (gapBehind ++ (literal.mark ++ '\'' :: left)) := by
    rw [h, Argument.text_append]
  have hcommaHead : ∀ x ∈ (',' :: (gapBehind ++ (literal.mark ++ '\'' :: left))).head?,
      Unicode.isBlank x = false := by
    intro x hx
    rw [← Option.some.inj hx]
    decide
  have hliteral : literal.mark ++ '\'' :: left = literal.text ++ behind := by
    simp [Literal.text, Text.wrap, left]
  have hread : blanks?.Prefers ⟨c, cs⟩
      ⟨c.past gap (',' :: (gapBehind ++ (literal.mark ++ '\'' :: left))), cs⟩ :=
    prefers_run hrest hgap hcommaHead
  have hread := prefers_comma hgapBehind literal hread
    (by rw [hliteral]; exact literal.isBlank_head? behind)
  -- where the literal ends is up to what stands behind it
  have hends : ∃ inside' behind', literal.inside <+: inside'
      ∧ left = Text.double '\'' inside' ++ '\'' :: behind'
      ∧ (quotedEnd '\'').Prefers ⟨c.past (gap ++ [','] ++ gapBehind ++ (literal.mark ++ ['\''])) left, cs⟩
        ⟨(c.past (gap ++ [','] ++ gapBehind ++ (literal.mark ++ ['\''])) left).past
          (Text.double '\'' inside' ++ ['\'']) behind', cs⟩ := by
    have hopened : (c.past (gap ++ [','] ++ gapBehind ++ (literal.mark ++ ['\''])) left).rest
        = Text.double '\'' literal.inside ++ '\'' :: behind := rfl
    exact @exists_prefers_quotedEnd _ cs _ _ _ hopened
  obtain ⟨inside', behind', hlonger, hleft, hend⟩ := hends
  have hread := hread.past hend
  let a' : Argument := ⟨gap, hgap, gapBehind, hgapBehind, literal.mark, literal.mark_spells, inside'⟩
  have htext : gap ++ [','] ++ gapBehind ++ (literal.mark ++ ['\''])
      ++ (Text.double '\'' inside' ++ ['\'']) = a'.text := by
    simp [Argument.text, Literal.text, Text.wrap, a']
  refine ⟨a', behind', hlonger, by rw [hrest, hleft, Argument.text_append], ?_⟩
  unfold Prefers
  rw [ways_thirdArgument, ← htext]
  exact hread

/-- The inside of a literal, as it is cut out of an argument. -/
theorem literalInside_text (a : Argument) :
    Naming.literalInside a.text = Text.double '\'' a.literal.inside := by
  have hgap : ∀ {t : Text}, IsGap t → '\'' ∉ t := by
    intro t ht hmem
    exact absurd (ht _ hmem) (by decide)
  -- no quote stands in front of the opening one
  have hfront : ∀ x ∈ a.gap ++ ',' :: (a.gapBehind ++ a.literal.mark), (x != '\'') = true := by
    intro x hx
    rw [bne_iff_ne]
    rintro rfl
    rw [List.mem_append, List.mem_cons, List.mem_append] at hx
    obtain hx | hx | hx | hx := hx
    · exact hgap a.gap_isGap hx
    · exact absurd hx (by decide)
    · exact hgap a.gapBehind_isGap hx
    · exact a.literal.not_mem_mark hx
  have htext : a.text = (a.gap ++ ',' :: (a.gapBehind ++ a.literal.mark))
      ++ '\'' :: (Text.double '\'' a.literal.inside ++ ['\'']) := by
    simp [Argument.text, Literal.text, Text.wrap]
  show (((a.text.dropWhile (· != '\'')).drop 1).reverse.dropWhile (· != '\'') |>.drop 1).reverse = _
  rw [htext, List.dropWhile_append_of_pos hfront, List.dropWhile_cons_of_neg (by decide),
    List.drop_succ_cons, List.drop_zero, List.reverse_append, List.reverse_singleton,
    List.singleton_append, List.dropWhile_cons_of_neg (by decide), List.drop_succ_cons,
    List.drop_zero, List.reverse_reverse]

theorem mem_double {mark x : Char} {t : Text} : x ∈ Text.double mark t ↔ x ∈ t := by
  induction t with
  | nil => exact Iff.rfl
  | cons ch t ih =>
    rw [double_cons, List.mem_append, ih, List.mem_cons]
    by_cases h : ch = mark
    · simp [Text.double, h]
    · simp [Text.double, h]

/-- Nothing is left of a text of white space, and something of any other. -/
theorem trim_isEmpty_iff {t : Text} :
    t.trim.isEmpty = true ↔ ∀ c ∈ t, Unicode.isBlank c = true := by
  have hnil : ∀ u : Text, u.dropWhile Unicode.isBlank = [] ↔ ∀ c ∈ u, Unicode.isBlank c = true :=
    fun u => List.dropWhile_eq_nil_iff
  have htrim : t.trim.isEmpty = true ↔ ∀ c ∈ t.dropWhile Unicode.isBlank, Unicode.isBlank c = true := by
    rw [List.isEmpty_iff]
    show ((t.dropWhile Unicode.isBlank).reverse.dropWhile Unicode.isBlank).reverse = [] ↔ _
    rw [List.reverse_eq_nil_iff, hnil]
    simp only [List.mem_reverse]
  rw [htrim]
  constructor
  · intro hleft c hc
    rw [← List.takeWhile_append_dropWhile (p := Unicode.isBlank) (l := t)] at hc
    obtain hc | hc := List.mem_append.mp hc
    · exact List.mem_takeWhile_imp hc
    · exact hleft c hc
  · intro hall c hc
    exact hall c ((List.dropWhile_suffix Unicode.isBlank).subset hc)

/-- A third argument is passed over if it is blank. -/
theorem literalInside_trim_isEmpty (a : Argument) :
    (Naming.literalInside a.text).trim.isEmpty = true
      ↔ ∀ c ∈ a.literal.inside, Unicode.isBlank c = true := by
  rw [literalInside_text, trim_isEmpty_iff]
  simp only [mem_double]

/-! ## §5. What calls mention -/

/-- A call is found at the edge of a word only. -/
theorem atWordEdge_of_matchAt? {style : QuoteStyle} {m : Match}
    (h : (RenameForm.procedure.pattern style).matchAt? c = some m) : c.atWordEdge = true := by
  obtain ⟨-, v, hv⟩ := matchAt?_eq_some h
  rw [procedure_pattern_eq] at hv
  unfold twoArguments at hv
  repeat obtain ⟨_, hv, -⟩ := List.mem_flatMap.mp hv
  exact (mem_ways_wordEdge hv).2

/-- **The names of a call.**  A call that names a kind of thing names no table, and any other
    call names a table by its first argument. -/
theorem renamedNames?_of_call (call : Call) {style : QuoteStyle} {m : Match} {behind : Text}
    (hm : (RenameForm.procedure.pattern style).matchAt? c = some m)
    (h : c.rest = call.text ++ behind) (hbehind : behind.head? ≠ some '\'') :
    (NamesObjectType behind → Naming.renamedNames? .procedure m = none)
      ∧ (¬NamesObjectType behind → Naming.renamedNames? .procedure m
        = some (call.oldName.inside, call.newName.literal.inside)) := by
  obtain ⟨old, new, hread, hold, holdText, hnew, hnewText⟩ :=
    prefers_call call (atWordEdge_of_matchAt? hm) h hbehind
  let behindCall : Way := ⟨c.past call.text behind, [new, old]⟩
  -- the match is made by what is preferred behind the two names
  have hmatch : ∀ {v : Way},
      (optional (Pattern.capture .objectType thirdArgument)).Prefers behindCall v →
      m = ⟨c, v.cursor, v.captures⟩ := by
    intro v hv
    have hall := (hread.append hv).matchAt?
    rw [← procedure_pattern_eq style, hm] at hall
    exact Option.some.inj hall
  have hthird : ∀ {a : Argument} {rest : Text}, behind = a.text ++ rest →
      thirdArgument.Prefers behindCall ⟨behindCall.cursor.past a.text rest, [new, old]⟩ →
      Naming.renamedNames? .procedure m
        = if (Naming.literalInside a.text).trim.isEmpty then
            some (call.oldName.inside, call.newName.literal.inside) else none := by
    intro a rest hrest hprefers
    let third : Capture := ⟨.objectType, behindCall.cursor, behindCall.cursor.past a.text rest⟩
    have htext : third.text = a.text := Cursor.textTo_past hrest
    have hm : m = ⟨c, _, [third, new, old]⟩ := hmatch (hprefers.capture .objectType).optional
    have holdFound : m.captured? .oldName = some old := by
      simp [hm, Match.captured?, third, hold, hnew]
    have hnewFound : m.captured? .newName = some new := by simp [hm, Match.captured?, third, hnew]
    have hthirdFound : m.captured? .objectType = some third := by simp [hm, Match.captured?, third]
    rw [renamedNames?_procedure, holdFound, hnewFound, hthirdFound]
    simp only [Option.map_some, Option.all_some, htext, holdText, hnewText, Text.undouble_double]
  constructor
  · rintro ⟨a, rest, hrest, x, hx, hblank⟩
    obtain ⟨a', rest', hlonger, hrest', hprefers⟩ := exists_prefers_thirdArgument
      (show behindCall.cursor.rest = _ from hrest)
    have hfull : ¬(Naming.literalInside a'.text).trim.isEmpty = true := by
      rw [literalInside_trim_isEmpty]
      intro hall
      rw [hall x (hlonger.subset hx)] at hblank
      exact Bool.noConfusion hblank
    rw [hthird hrest' hprefers, if_neg hfull]
  · intro hnone
    cases hways : thirdArgument.ways behindCall with
    | nil =>
      have hcapture : (Pattern.capture .objectType thirdArgument).ways behindCall = [] := by
        show (thirdArgument.ways behindCall).map _ = []
        rw [hways]
        rfl
      have hm := hmatch (prefers_optional_of_nil hcapture)
      rw [renamedNames?_procedure, hm]
      simp [Match.captured?, behindCall, hold, hnew, holdText, hnewText, Text.undouble_double]
    | cons v others =>
      obtain ⟨a, hrest⟩ := mem_ways_thirdArgument (hways ▸ List.mem_cons_self)
      obtain ⟨a', rest', -, hrest', hprefers⟩ := exists_prefers_thirdArgument hrest
      have hblank : (Naming.literalInside a'.text).trim.isEmpty = true := by
        rw [literalInside_trim_isEmpty]
        intro x hx
        by_contra hx'
        exact hnone ⟨a', rest', hrest', x, hx, Bool.eq_false_iff.mpr hx'⟩
      rw [hthird hrest' hprefers, if_pos hblank]

/-- What a call mentions is its first argument, unless it names a kind of thing. -/
theorem mem_renameMentions_of_call (call : Call) {style : QuoteStyle} {m : Match} {behind : Text}
    (hm : (RenameForm.procedure.pattern style).matchAt? c = some m)
    (h : c.rest = call.text ++ behind) (hbehind : behind.head? ≠ some '\'') {mention : Mention} :
    mention ∈ renameMentions .procedure m ↔ ¬NamesObjectType behind
      ∧ mention = ⟨"sp_rename".toList, m.start, m.start, call.oldName.inside,
        .rename call.newName.literal.inside⟩ := by
  obtain ⟨hnamed, hunnamed⟩ := renamedNames?_of_call call hm h hbehind
  unfold renameMentions
  by_cases hobject : NamesObjectType behind
  · rw [hnamed hobject]
    simp [hobject]
  · rw [hunnamed hobject]
    show mention ∈ [_] ↔ _
    rw [List.mem_singleton]
    exact ⟨fun hmention => ⟨hobject, hmention⟩, fun hmention => hmention.2⟩

/-! ## §6. Calls in scripts -/

variable {d : Dialect} {script : Text}

/-- What is found at a place is the match there. -/
theorem matchAt?_of_mem_procedureMatches {m : Match} {front rest : Text}
    (hm : m ∈ procedureMatches d script) (hstart : m.start = Text.byteLength front)
    (htext : (MaskedScript.ofScript d script).withLiterals = front ++ rest) :
    m.first.rest = rest
      ∧ (RenameForm.procedure.pattern d.quoteStyle).matchAt? m.first = some m := by
  obtain ⟨front', htext', hstart', -⟩ := mem_matchesIn_start hm
  obtain ⟨place, -, hmatch⟩ := exists_matchAt?_of_mem_matchesFrom hm
  obtain ⟨hfirst, -⟩ := leads_of_matchAt?_eq_some hmatch
  rw [htext] at htext'
  have hlength : Text.byteLength front = Text.byteLength front' := by rw [← hstart, hstart']
  exact ⟨(text_append_inj_of_byteLength htext' hlength).2.symm, by rw [hfirst]; exact hmatch⟩

/-- A live call that the search comes to is mentioned. -/
theorem mem_mentions_of_procedureMatch {found : Match} {m : Mention}
    (hserver : d.isServerFamily = true) (hfound : found ∈ procedureMatches d script)
    (hlive : charAt? found.start (MaskedScript.ofScript d script).code = found.first.rest.head?)
    (hm : m ∈ renameMentions .procedure found) : m ∈ mentions d script := by
  have hform : RenameForm.procedure ∈ d.renameForms := by
    cases d with
    | pg => exact absurd hserver (by decide)
    | ms | azure => exact List.mem_cons_self
  have hshown : charAt? found.start (MaskedScript.ofScript d script).withLiterals
      = found.first.rest.head? := charAt?_of_mem_matchesIn hfound
  have hkept : found ∈ (MaskedScript.ofScript d script).liveRenames d.quoteStyle .procedure :=
    List.mem_filter.mpr ⟨hfound, beq_iff_eq.mpr (hlive.trans hshown.symm)⟩
  exact List.mem_append_right _
    (List.mem_flatMap.mpr ⟨.procedure, hform, List.mem_flatMap.mpr ⟨found, hkept, hm⟩⟩)

/-- The words of the other rename forms begin with other letters. -/
theorem letter_of_word {form : RenameForm} {c : Char} {word : Text} (hform : form ≠ .procedure)
    (hspells : spells form.word (c :: word) = true) : isLetter 's' c = false := by
  have hlower : ∀ letter ∈ ['a', 'r'], isLetter letter c = true → isLetter 's' c = false := by
    intro letter hletter h
    simp only [List.mem_cons, List.not_mem_nil, or_false] at hletter
    have hc : c.toLower = letter := by
      obtain rfl | rfl := hletter
      · simpa [isLetter] using h
      · simpa [isLetter] using h
    have hne : c.toLower ≠ 's' := by
      rw [hc]
      obtain rfl | rfl := hletter
      · decide
      · decide
    -- the long s is the one other character that a pattern takes for an s
    have hlong : c.toNat ≠ 0x17F := by
      rintro hnat
      have hchar : c = 'ſ' := Char.toNat_inj.mp hnat
      rw [hchar] at hc
      rw [← hc] at hletter
      exact absurd hletter (by decide)
    simp [isLetter, hne, hlong]
  have hfirst : ∀ {letter : Char} {others : Text}, form.word = letter :: others →
      isLetter letter c = true := by
    intro letter others hword
    rw [hword, spells, Bool.and_eq_true] at hspells
    exact hspells.1
  cases form with
  | procedure => exact absurd rfl hform
  | alterTable => exact hlower 'a' (by decide) (hfirst rfl)
  | renameObject => exact hlower 'r' (by decide) (hfirst rfl)

/-- A rename that is mentioned where a call begins is mentioned by a call. -/
theorem exists_procedureMatch {m : Mention} {newName : Text} {letter : Char}
    (hm : m ∈ mentions d script) (hrename : m.change = .rename newName)
    (hletter : isLetter 's' letter = true)
    (hlive : charAt? m.trigger (MaskedScript.ofScript d script).code = some letter) :
    ∃ found ∈ procedureMatches d script, m ∈ renameMentions .procedure found := by
  obtain ⟨found, -, hm⟩ | ⟨found, -, hm⟩ | ⟨found, -, hm⟩ | ⟨form, -, found, hfound, hm⟩ :=
    mem_mentions.mp hm
  -- creations and drops are no renames
  · obtain ⟨-, table, -, rfl⟩ := mem_creationMentions.mp hm
    exact Change.noConfusion hrename
  · obtain ⟨-, table, -, rfl⟩ := mem_creationMentions.mp hm
    exact Change.noConfusion hrename
  · obtain ⟨tables, -, table, -, rfl⟩ := mem_dropMentions.mp hm
    exact Change.noConfusion hrename
  · have hmatch := (List.mem_filter.mp hfound).1
    by_cases hform : form = .procedure
    · rw [hform] at hmatch hm
      exact ⟨found, hmatch, hm⟩
    · -- the other forms are searched for in the code, and begin with their own word
      exfalso
      have hcode : (MaskedScript.ofScript d script).searched form
          = (MaskedScript.ofScript d script).code := by
        cases form with
        | procedure => exact absurd rfl hform
        | alterTable | renameObject => rfl
      obtain ⟨old, new, -, rfl⟩ := mem_renameMentions.mp hm
      rw [hcode] at hmatch
      obtain ⟨front, word, rest, htext, hstart, hspells⟩ :=
        spelled_of_mem_matchesIn (form.pattern_announces d.quoteStyle) hmatch
      rw [hstart, htext, List.append_assoc, charAt?_append] at hlive
      cases word with
      | nil =>
        cases form with
        | procedure | alterTable | renameObject => exact absurd hspells (by decide)
      | cons c word =>
        have hc : c = letter := Option.some.inj hlive
        rw [← hc, letter_of_word hform hspells] at hletter
        exact Bool.noConfusion hletter

/-- What comes to an event is no session table. -/
theorem isSessionTable_of_event? {n : Naming} {m : Mention} {event : TableEvent}
    (h : n.event? m = .ok (some event)) : isSessionTable n.dialect m.reference = .ok false := by
  unfold Naming.event? Naming.trackedTable? at h
  cases hsession : isSessionTable n.dialect m.reference with
  | error e => rw [hsession] at h; injection h
  | ok session =>
    rw [hsession] at h
    cases session with
    | true => injection h with h; injection h
    | false => rfl

/-- What is mentioned in a script without errors comes to an event, unless it is a session table. -/
theorem exists_event? {defaultSchema : Text} {found : List Sighting} {m : Mention}
    (hfound : sightings d defaultSchema script = .ok found) (hm : m ∈ mentions d script)
    (hsession : isSessionTable d m.reference = .ok false) :
    ∃ table, Naming.event? ⟨d, defaultSchema⟩ m = .ok (some (m.change.event d table)) := by
  rw [sightings_eq] at hfound
  have hsettled := (gather_eq_ok_iff.mp hfound).1 m hm
  unfold Naming.settle at hsettled
  have hevent : Naming.event? ⟨d, defaultSchema⟩ m
      = (TableRef.parse d defaultSchema m.reference).map fun table => some (m.change.event d table) := by
    unfold Naming.event? Naming.trackedTable?
    rw [hsession]
    cases TableRef.parse d defaultSchema m.reference with
    | error e => rfl
    | ok table => rfl
  rw [hevent] at hsettled ⊢
  cases hparse : TableRef.parse d defaultSchema m.reference with
  | error e => rw [hparse] at hsettled; injection hsettled
  | ok table => exact ⟨table, rfl⟩

/-- **Which calls are reported as renames.**  A call that stands in live code of a server script
    is reported as the rename of a table if and only if the search comes to it, its first
    argument is no session table, and no literal that is not blank follows as third argument. -/
theorem renamed_of_call_iff {defaultSchema front behind : Text} {found : List Sighting} (call : Call)
    (hserver : d.isServerFamily = true)
    (hfound : sightings d defaultSchema script = .ok found)
    (hcall : (MaskedScript.ofScript d script).withLiterals = front ++ (call.text ++ behind))
    (hbehind : behind.head? ≠ some '\'')
    (hlive : charAt? (Text.byteLength front) (MaskedScript.ofScript d script).code
      = (call.text ++ behind).head?) :
    (∃ s ∈ found, s.trigger = Text.byteLength front ∧ ∃ old new, s.event = .renamed old new)
      ↔ (∃ m ∈ procedureMatches d script, m.start = Text.byteLength front)
        ∧ isSessionTable d call.oldName.inside = .ok false
        ∧ ¬NamesObjectType behind := by
  constructor
  · rintro ⟨s, hs, htrigger, old, new, hevent⟩
    obtain ⟨m, hm, hmevent, hmtrigger, -⟩ := (mem_sightings hfound).mp hs
    obtain ⟨table, -, hchange⟩ := Naming.parse_of_event? hmevent
    obtain ⟨newName, hrename⟩ : ∃ newName, m.change = .rename newName := by
      rw [hevent] at hchange
      cases hkind : m.change with
      | creation => rw [hkind] at hchange; injection hchange
      | drop => rw [hkind] at hchange; injection hchange
      | rename newName => exact ⟨newName, rfl⟩
    -- a rename that is triggered by the first letter of a call is that of a procedure match
    obtain ⟨letter, word, hword, hletter⟩ := call.exists_letter
    have hfirst : (call.text ++ behind).head? = some letter := by
      rw [Call.text, hword]
      rfl
    rw [← htrigger, hmtrigger, hfirst] at hlive
    obtain ⟨found', hfound', hmention⟩ := exists_procedureMatch hm hrename hletter hlive
    have hstart : found'.start = Text.byteLength front := by
      rw [← htrigger, hmtrigger]
      unfold renameMentions at hmention
      split at hmention
      · rw [List.mem_singleton.mp hmention]
      · exact absurd hmention List.not_mem_nil
    obtain ⟨hrest, hmatch⟩ := matchAt?_of_mem_procedureMatches hfound' hstart hcall
    obtain ⟨hobject, hmentioned⟩ := (mem_renameMentions_of_call call hmatch hrest hbehind).mp hmention
    have hsession := isSessionTable_of_event? hmevent
    rw [hmentioned] at hsession
    exact ⟨⟨found', hfound', hstart⟩, hsession, hobject⟩
  · rintro ⟨⟨m, hm, hstart⟩, hsession, hobject⟩
    obtain ⟨hrest, hmatch⟩ := matchAt?_of_mem_procedureMatches hm hstart hcall
    have hmention := (mem_renameMentions_of_call call hmatch hrest hbehind).mpr ⟨hobject, rfl⟩
    have hshown : charAt? m.start (MaskedScript.ofScript d script).code = m.first.rest.head? := by
      rw [hstart, hrest, hlive]
    have hmentioned := mem_mentions_of_procedureMatch hserver hm hshown hmention
    obtain ⟨table, hevent⟩ := exists_event? hfound hmentioned hsession
    refine ⟨⟨m.start, m.start, _⟩, (mem_sightings hfound).mpr ⟨_, hmentioned, hevent, rfl, rfl⟩,
      hstart, _, _, rfl⟩

theorem spells_sp_rename : spells "sp_rename".toList "sp_rename".toList = true := by decide +kernel

theorem space_ne_nil : [' '] ≠ [] := List.cons_ne_nil ' ' []

/-- A call as it is usually written. -/
def plainCall (oldName newName : Text) (hold : oldName ≠ []) (hnew : newName ≠ []) : Call where
  word := "sp_rename".toList
  word_spells := spells_sp_rename
  gap := [' ']
  gap_ne_nil := space_ne_nil
  gap_isGap := isGap_space
  oldName := ⟨[], .inl rfl, oldName⟩
  oldName_ne_nil := hold
  newName := ⟨[], isGap_nil, [' '], isGap_space, ⟨[], .inl rfl, newName⟩⟩
  newName_ne_nil := hnew

/-- A variable as third argument is not recognised. -/
theorem renamed_of_call_variable :
    ∃ found, sightings .ms "dbo".toList "EXEC sp_rename 'dbo.t', 'u', @kind".toList = .ok found
      ∧ ∃ s ∈ found, s.trigger = 5 ∧ ∃ old new, s.event = .renamed old new := by
  have hfound : sightings .ms "dbo".toList "EXEC sp_rename 'dbo.t', 'u', @kind".toList
      = .ok [⟨5, 5,
        .renamed (.inSchema "dbo".toList "t".toList) (.inSchema "dbo".toList "u".toList)⟩] := by
    decide +kernel
  have hcall : (MaskedScript.ofScript .ms "EXEC sp_rename 'dbo.t', 'u', @kind".toList).withLiterals
      = "EXEC ".toList ++ ((plainCall "dbo.t".toList "u".toList (by decide) (by decide)).text
        ++ ", @kind".toList) := by decide +kernel
  have hmatch : ∃ m ∈ procedureMatches .ms "EXEC sp_rename 'dbo.t', 'u', @kind".toList,
      m.start = Text.byteLength "EXEC ".toList := by decide +kernel
  have hsession : isSessionTable .ms "dbo.t".toList = .ok false := by decide +kernel
  have hobject : ¬NamesObjectType ", @kind".toList := by
    rintro ⟨a, rest, hrest, -⟩
    have hquote : '\'' ∈ a.text ++ rest := by simp [Argument.text_append]
    rw [← hrest] at hquote
    exact absurd hquote (by decide +kernel)
  exact ⟨_, hfound, (renamed_of_call_iff _ rfl hfound hcall (by decide +kernel)
    (by decide +kernel)).mpr ⟨hmatch, hsession, hobject⟩⟩

/-- The rename of a column is reported as one of a table if the third argument, which says that
    it is a column, is a bare word. -/
theorem renamed_of_call_bareWord :
    (MaskedScript.ofScript .ms "EXEC sp_rename 'dbo.t.c', 'd', COLUMN".toList).withLiterals
        = "EXEC ".toList ++ ((plainCall "dbo.t.c".toList "d".toList (by decide) (by decide)).text
          ++ ", COLUMN".toList)
      ∧ charAt? 5 (MaskedScript.ofScript .ms "EXEC sp_rename 'dbo.t.c', 'd', COLUMN".toList).code
        = some 's'
      ∧ classify .ms "dbo".toList "EXEC sp_rename 'dbo.t.c', 'd', COLUMN".toList
        = .ok ⟨[.renamed (.inSchema "t".toList "c".toList) (.inSchema "t".toList "d".toList)]⟩ := by
  have hclassify : classify .ms "dbo".toList "EXEC sp_rename 'dbo.t.c', 'd', COLUMN".toList
      = .ok ⟨[.renamed (.inSchema "t".toList "c".toList) (.inSchema "t".toList "d".toList)]⟩ := by
    decide +kernel
  exact ⟨by decide +kernel, by decide +kernel, hclassify⟩

end TableLedger.Script
