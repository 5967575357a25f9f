/-
  TableLedger.Proofs.Script.RoutineBlock — where the block of a routine ends.

  A routine of the SQL Server family whose body opens with BEGIN ends with the END that
  closes the block of that BEGIN, or with its batch if there is none.  What closes what is
  a matter of nesting.  The definition counts instead: up at each word that opens a block,
  down at each END, and the routine ends where the count is back at zero.

  Where the body begins with a block, counting is right.  Where it begins with a
  transaction, it is not: BEGIN TRAN opens no block, so the count is zero behind it, and
  the routine ends with the first inner block, or with a stray END, though its body goes
  on to the end of the batch:

      the routine ends where it should
        ↔ it begins no transaction, or no block closes in front of the end of its batch

  Main statements:
    • `closeAt?_append_of_balanced`, `exists_balanced_of_closeAt?` — the count and the
      nesting of blocks,
    • `exists_opener_of_opensWithBegin` — the mark of the BEGIN that opens a body,
    • `routine_ends_properly_iff` — routines that end where they should.
-/

import TableLedger.Proofs.Script.BlockWords
import TableLedger.Proofs.Script.Positions
import TableLedger.Proofs.Script.Spacing

namespace TableLedger.Script

open Pattern

/-! ## §1. Blocks -/

/-- Blocks one behind another, each with such blocks inside. -/
inductive Balanced : List BlockMark → Prop where
  | nil : Balanced []
  | block {opener closer : BlockMark} {inner rest : List BlockMark} (hopens : opener.role = .opens)
      (hinner : Balanced inner) (hcloses : closer.role = .closes) (hrest : Balanced rest) :
      Balanced (opener :: (inner ++ closer :: rest))

/-- The first mark opens a block, and the END that closes it ends at byte `stop`. -/
def FirstBlockEnds (marks : List BlockMark) (stop : Nat) : Prop :=
  ∃ opener inner closer rest, marks = opener :: (inner ++ closer :: rest) ∧ opener.role = .opens
    ∧ Balanced inner ∧ closer.role = .closes ∧ closer.stop = stop

/-- The first mark is an END, with nothing to close, that ends at byte `stop`. -/
def StrayEnd (marks : List BlockMark) (stop : Nat) : Prop :=
  ∃ closer rest, marks = closer :: rest ∧ closer.role = .closes ∧ closer.stop = stop

/-! ## §2. Counting -/

/-- Where the count of the open blocks comes down to zero. -/
def closeAt? : (depth : Nat) → List BlockMark → Option Nat
  | _, [] => none
  | depth, mark :: rest =>
    match mark.role with
    | .closes => if depth - 1 = 0 then some mark.stop else closeAt? (depth - 1) rest
    | .opens => closeAt? (depth + 1) rest

theorem closeAt?_cons_of_opens {mark : BlockMark} (h : mark.role = .opens) (depth : Nat)
    (rest : List BlockMark) : closeAt? depth (mark :: rest) = closeAt? (depth + 1) rest := by
  rw [closeAt?, h]

theorem closeAt?_cons_of_closes {mark : BlockMark} (h : mark.role = .closes) (depth : Nat)
    (rest : List BlockMark) :
    closeAt? depth (mark :: rest)
      = if depth - 1 = 0 then some mark.stop else closeAt? (depth - 1) rest := by
  rw [closeAt?, h]

/-- The block words are counted by the marks that they set. -/
theorem blockEnd?_eq (depth : Nat) (words : List Match) :
    blockEnd? depth words = closeAt? depth (words.filterMap markOf?) := by
  induction words generalizing depth with
  | nil => rfl
  | cons m words ih =>
    rw [blockEnd?, List.filterMap_cons, markOf?, matchedRole?]
    by_cases hend : m.text.asciiLowercase = "end".toList
    · rw [if_pos hend, if_pos hend]
      show _ = if depth - 1 = 0 then some m.stop else closeAt? (depth - 1) _
      rw [ih]
    · rw [if_neg hend, if_neg hend]
      split
      · exact ih (depth + 1)
      · exact ih depth

/-- Balanced blocks leave the count as it is. -/
theorem closeAt?_append_of_balanced {inner : List BlockMark} (h : Balanced inner) (depth : Nat)
    (rest : List BlockMark) : closeAt? (depth + 1) (inner ++ rest) = closeAt? (depth + 1) rest := by
  induction h generalizing depth rest with
  | nil => rfl
  | @block opener closer inner others hopens _ hcloses _ ihInner ihOthers =>
    rw [List.cons_append, List.append_assoc, List.cons_append, closeAt?_cons_of_opens hopens, ihInner,
      closeAt?_cons_of_closes hcloses]
    exact ihOthers depth rest

/-- Where the count comes down, balanced blocks stand in front of an END that closes the
    innermost block; from there on it comes down for the others. -/
theorem exists_balanced_of_closeAt? {depth stop : Nat} {marks : List BlockMark}
    (h : closeAt? (depth + 1) marks = some stop) :
    ∃ inner closer rest, marks = inner ++ closer :: rest ∧ Balanced inner ∧ closer.role = .closes
      ∧ if depth = 0 then closer.stop = stop else closeAt? depth rest = some stop := by
  induction hn : marks.length using Nat.strongRecOn generalizing depth marks with
  | ind n ih =>
    cases marks with
    | nil => injection h
    | cons mark marks =>
      rw [List.length_cons] at hn
      cases hrole : mark.role with
      | closes =>
        refine ⟨[], mark, marks, rfl, .nil, hrole, ?_⟩
        rw [closeAt?_cons_of_closes hrole, Nat.add_sub_cancel] at h
        split
        · next hzero => rw [if_pos hzero] at h; exact Option.some.inj h
        · next hzero => rwa [if_neg hzero] at h
      | opens =>
        -- the block that is opened here closes first, and then the one around it
        rw [closeAt?_cons_of_opens hrole] at h
        obtain ⟨inner, closer, rest, rfl, hinner, hcloses, hlater⟩ := ih marks.length (by omega) h rfl
        rw [if_neg (Nat.succ_ne_zero depth)] at hlater
        rw [List.length_append, List.length_cons] at hn
        obtain ⟨inner', closer', rest', rfl, hinner', hcloses', hlast⟩ :=
          ih rest.length (by omega) hlater rfl
        refine ⟨mark :: (inner ++ closer :: inner'), closer', rest', ?_,
          .block hrole hinner hcloses hinner', hcloses', hlast⟩
        simp only [List.cons_append, List.append_assoc]

/-- **Counting from zero** finds the end of the first block, or a stray END in front of it. -/
theorem closeAt?_zero_iff {marks : List BlockMark} {stop : Nat} :
    closeAt? 0 marks = some stop ↔ FirstBlockEnds marks stop ∨ StrayEnd marks stop := by
  constructor
  · intro h
    cases marks with
    | nil => injection h
    | cons mark marks =>
      cases hrole : mark.role with
      | closes =>
        rw [closeAt?_cons_of_closes hrole] at h
        exact .inr ⟨mark, marks, rfl, hrole, Option.some.inj h⟩
      | opens =>
        rw [closeAt?_cons_of_opens hrole] at h
        -- an opening mark is closed behind a balanced stretch, which the count from one finds
        obtain ⟨inner, closer, rest, rfl, hinner, hcloses, hstop⟩ := exists_balanced_of_closeAt? h
        exact .inl ⟨mark, inner, closer, rest, rfl, hrole, hinner, hcloses, hstop⟩
  · rintro (⟨opener, inner, closer, rest, rfl, hopens, hinner, hcloses, rfl⟩
      | ⟨closer, rest, rfl, hcloses, rfl⟩)
    · rw [closeAt?_cons_of_opens hopens, closeAt?_append_of_balanced hinner,
        closeAt?_cons_of_closes hcloses]
      rfl
    · rw [closeAt?_cons_of_closes hcloses]
      rfl

/-! ## §3. The body of a routine -/

/-- The marks of a body; quoted names set none. -/
def bodyMarks (d : Dialect) (offset : Nat) (body : Text) : List BlockMark :=
  blockMarks false offset (mask hidesNames d body)

/-- The first BEGIN of a body is that of a transaction. -/
def beginsTransaction (d : Dialect) (body : Text) : Bool :=
  continuesTransaction (behindFirstWord (mask hidesNames d body))

variable {d : Dialect} {offset : Nat} {body : Text}

/-- A body is searched for the end of its block by counting. -/
theorem bodyEnd_eq (h : opensWithBegin body = true) :
    bodyEnd d offset body
      = (closeAt? 0 (bodyMarks d offset body)).getD (offset + Text.byteLength body) := by
  unfold bodyEnd bodyMarks
  rw [if_pos h, blockEnd?_eq, filterMap_matchesIn_blockWord]

/-- What hides quoted names leaves the BEGIN in front of them, and the end of that word. -/
theorem exists_shown_of_opensWithBegin (d : Dialect) (h : opensWithBegin body = true) :
    ∃ gap word behind, mask hidesNames d body = gap ++ (word ++ behind) ∧ IsGap gap
      ∧ WholeWord word behind ∧ word ≠ [] ∧ word.asciiLowercase = "begin".toList := by
  obtain ⟨gap, hbody, hgap, -⟩ := exists_gap_firstWord body
  have hwhole : WholeWord (firstWord body) (behindFirstWord body) := wholeWord_takeWhile _
  have hbegin : (firstWord body).asciiLowercase = "begin".toList := beq_iff_eq.mp h
  generalize firstWord body = word, behindFirstWord body = behind at hbody hwhole hbegin
  have hplain : hidesNames .plain = false := rfl
  have hshown := (shownAs_gap (d := d) hplain hgap).append (shownAs_word hplain hwhole.chars) [] behind
  have hfront : FrontKept (shownBehind hidesNames d ((gap ++ word).reverse ++ []) behind) behind :=
    frontKept_mask hidesNames d _ behind
  generalize shownBehind hidesNames d ((gap ++ word).reverse ++ []) behind = shown at hshown hfront
  refine ⟨gap, word, shown, ?_, hgap, ⟨hwhole.chars, fun c hc => ?_⟩, ?_, hbegin⟩
  · rw [hbody]
    simp only [List.append_assoc] at hshown
    exact hshown
  · by_cases hspace : c = ' '
    · rw [hspace]
      decide +kernel
    · exact hwhole.ends c (hfront.head?_eq_of_ne hspace hc)
  · rintro rfl
    exact absurd hbegin (by decide)

/-- **The BEGIN that opens a body** sets the first mark, unless it begins a transaction. -/
theorem exists_opener_of_opensWithBegin (offset : Nat) (h : opensWithBegin body = true)
    (htransaction : beginsTransaction d body = false) :
    ∃ opener rest, bodyMarks d offset body = opener :: rest ∧ opener.role = .opens := by
  obtain ⟨gap, word, behind, hshown, hgap, hwhole, hne, hbegin⟩ := exists_shown_of_opensWithBegin d h
  have hbehind : behindFirstWord (mask hidesNames d body) = behind := by
    rw [hshown]
    exact (firstWord_eq hgap hne hwhole).2
  have hrole : blockRole? word behind = some .opens := by
    unfold beginsTransaction at htransaction
    unfold blockRole?
    rw [← hbehind, hbegin, htransaction]
    rfl
  unfold bodyMarks
  rw [hshown]
  by_cases hnil : gap = []
  · rw [hnil, List.nil_append, blockMarks_word hne hwhole, hrole]
    exact ⟨_, _, rfl, rfl⟩
  · rw [blockMarks_gap hnil hgap, blockMarks_word hne hwhole, hrole]
    exact ⟨_, _, rfl, rfl⟩

/-! ## §4. Where routines should end -/

/-- A routine of a text whose body opens with BEGIN: the match of its header and of the AS in
    front of its body. -/
structure BlockRoutine (masked : Text) (start : Nat) (header introducer : Match) : Prop where
  place : ∃ place, (Cursor.start masked).Follows place ∧ place.offset = start
    ∧ routineHeader.matchAt? place = some header
  body : bodyIntroducer.find? (header.last.sliceTo (batchEnd header.last)) = some introducer
  opens : opensWithBegin introducer.last.rest = true

/-- A routine should end behind the END that closes the block of its first BEGIN, and with its
    batch if none does; so it should if the BEGIN is that of a transaction. -/
def ProperEnd (d : Dialect) (header introducer : Match) (stop : Nat) : Prop :=
  let body := introducer.last.rest
  let closes := FirstBlockEnds (bodyMarks d introducer.stop body)
  if beginsTransaction d body then stop = (batchEnd header.last).offset
  else closes stop ∨ (∀ n, ¬closes n) ∧ stop = (batchEnd header.last).offset

variable {masked : Text} {span : Span} {header introducer : Match}

/-- The routine that is found ends where its body does. -/
theorem stop_eq_of_mem_routineSpans (hd : d.isServerFamily = true) (h : span ∈ routineSpans d masked)
    (hr : BlockRoutine masked span.start header introducer) :
    span.stop = (closeAt? 0 (bodyMarks d introducer.stop introducer.last.rest)).getD
      (batchEnd header.last).offset := by
  obtain ⟨place, header', hfollows, hoffset, hheader, hstop⟩ :=
    exists_header_of_mem_routineSpansFrom (c := Cursor.start masked) h
  obtain ⟨place', hfollows', hoffset', hheader'⟩ := hr.place
  -- there is one place at a byte index
  obtain rfl : place = place' := by
    have hplace := Cursor.at?_eq hfollows
    rw [hoffset, ← hoffset', Cursor.at?_eq hfollows'] at hplace
    exact (Option.some.inj hplace).symm
  obtain rfl : header' = header := Option.some.inj (hheader.symm.trans hheader')
  have hhead := hfollows.trans (follows_of_matchAt? hheader).2
  obtain ⟨-, -, -, -, hbatch, -⟩ := exists_body hhead hr.body
  rw [hstop, routineEnd, if_pos hd, hr.body, hbatch]
  exact bodyEnd_eq hr.opens

/-- **Routines that end where they should.**  A routine whose body opens with BEGIN ends properly,
    except where the BEGIN is that of a transaction and a block, or a stray END, ends in front of
    the end of the batch: there the routine ends with the first of them. -/
theorem routine_ends_properly_iff (hd : d.isServerFamily = true) (h : span ∈ routineSpans d masked)
    (hr : BlockRoutine masked span.start header introducer) :
    ProperEnd d header introducer span.stop
      ↔ ¬(beginsTransaction d introducer.last.rest = true
        ∧ ∃ n, n ≠ (batchEnd header.last).offset
          ∧ (FirstBlockEnds (bodyMarks d introducer.stop introducer.last.rest) n
            ∨ StrayEnd (bodyMarks d introducer.stop introducer.last.rest) n)) := by
  have hstop := stop_eq_of_mem_routineSpans hd h hr
  simp only [← closeAt?_zero_iff]
  cases htransaction : beginsTransaction d introducer.last.rest with
  | false =>
    -- the body opens with a block, so the first END that closes ends it and is not stray
    refine iff_of_true ?_ (by simp)
    obtain ⟨opener, rest, hmarks, hopens⟩ :=
      exists_opener_of_opensWithBegin introducer.stop hr.opens htransaction
    have hcloses : ∀ {n}, closeAt? 0 (bodyMarks d introducer.stop introducer.last.rest) = some n →
        FirstBlockEnds (bodyMarks d introducer.stop introducer.last.rest) n := by
      intro n hn
      refine (closeAt?_zero_iff.mp hn).resolve_right ?_
      rintro ⟨closer, others, hclosed, hcloses, -⟩
      obtain rfl := (List.cons.inj (hmarks.symm.trans hclosed)).1
      rw [hopens] at hcloses
      exact BlockRole.noConfusion hcloses
    simp only [ProperEnd, htransaction, Bool.false_eq_true, if_false]
    cases hclose : closeAt? 0 (bodyMarks d introducer.stop introducer.last.rest) with
    | some n =>
      rw [hclose] at hstop
      exact .inl (hstop ▸ hcloses hclose)
    | none =>
      rw [hclose] at hstop
      refine .inr ⟨fun n hn => ?_, hstop⟩
      rw [closeAt?_zero_iff.mpr (.inl hn)] at hclose
      injection hclose
  | true =>
    -- the routine ends with the first END that closes or with the batch, its only proper end
    simp only [ProperEnd, htransaction, if_true, true_and, not_exists, not_and]
    cases hclose : closeAt? 0 (bodyMarks d introducer.stop introducer.last.rest) with
    | some n =>
      rw [hclose] at hstop
      constructor
      · rintro heq m hm hsame
        exact hm ((Option.some.inj hsame).symm.trans (hstop.symm.trans heq))
      · intro hall
        by_contra hne
        exact hall n (fun heq => hne (hstop.trans heq)) rfl
    | none =>
      rw [hclose] at hstop
      exact iff_of_true hstop fun n _ hn => by injection hn

/-! ## §5. A routine that ends properly, and one that does not -/

/-- A body of blocks, one in the other, and a statement behind it. -/
def nestedBody : Text := " BEGIN SELECT CASE WHEN 1 = 1 THEN 2 END END; DROP TABLE b".toList

/-- A body that is a transaction, with a block inside. -/
def transactionBody : Text := " BEGIN TRAN; IF 1 = 1 BEGIN DELETE a END; DROP TABLE b; COMMIT".toList

/-- A procedure with the given body. -/
def procedureOf (body : Text) : Text := "CREATE PROC p AS".toList ++ body

/-- The match of the header of the procedure, and that of its AS. -/
def headerOf (body : Text) : Match :=
  ⟨Cursor.start (procedureOf body), ⟨some 'C', 11, " p AS".toList ++ body⟩, []⟩

def introducerOf (body : Text) : Match :=
  ⟨⟨some ' ', 14, "AS".toList ++ body⟩, ⟨some 'S', 16, body⟩, []⟩

/-- The nested blocks end with the second END, and so does the procedure. -/
theorem nested_procedure_ends_properly :
    BlockRoutine (procedureOf nestedBody) 0 (headerOf nestedBody) (introducerOf nestedBody)
      ∧ ⟨0, 60⟩ ∈ routineSpans .ms (procedureOf nestedBody)
      ∧ ProperEnd .ms (headerOf nestedBody) (introducerOf nestedBody) 60 := by
  have hroutine : BlockRoutine (procedureOf nestedBody) 0 (headerOf nestedBody)
      (introducerOf nestedBody) :=
    ⟨⟨Cursor.start _, Cursor.follows_refl _, rfl, rfl⟩, rfl, by decide +kernel⟩
  have hspans : routineSpans .ms (procedureOf nestedBody) = [⟨0, 60⟩] := by decide +kernel
  have hmem : ⟨0, 60⟩ ∈ routineSpans .ms (procedureOf nestedBody) := by
    rw [hspans]
    exact List.mem_singleton_self _
  have hblock : beginsTransaction .ms nestedBody = false := by decide +kernel
  refine ⟨hroutine, hmem, (routine_ends_properly_iff rfl hmem hroutine).mpr fun h => ?_⟩
  exact Bool.noConfusion (hblock.symm.trans h.1)

/-- The procedure ends with the block inside of the transaction, in front of its DROP TABLE. -/
theorem transaction_procedure_ends_early :
    BlockRoutine (procedureOf transactionBody) 0 (headerOf transactionBody)
        (introducerOf transactionBody)
      ∧ ⟨0, 56⟩ ∈ routineSpans .ms (procedureOf transactionBody)
      ∧ beginsTransaction .ms transactionBody = true
      ∧ (batchEnd (headerOf transactionBody).last).offset = 78
      ∧ ¬ProperEnd .ms (headerOf transactionBody) (introducerOf transactionBody) 56 := by
  have hspans : routineSpans .ms (procedureOf transactionBody) = [⟨0, 56⟩] := by decide +kernel
  have htransaction : beginsTransaction .ms transactionBody = true := by decide +kernel
  have hbatch : (batchEnd (headerOf transactionBody).last).offset = 78 := by decide +kernel
  refine ⟨⟨⟨Cursor.start _, Cursor.follows_refl _, rfl, rfl⟩, rfl, by decide +kernel⟩, ?_,
    htransaction, hbatch, ?_⟩
  · rw [hspans]
    exact List.mem_singleton_self _
  · have hproper : ProperEnd .ms (headerOf transactionBody) (introducerOf transactionBody) 56
        = (56 = (batchEnd (headerOf transactionBody).last).offset) := if_pos htransaction
    rw [hproper, hbatch]
    decide

end TableLedger.Script
