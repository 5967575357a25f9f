/-
  TableLedger.Text.Quoted — quoting by doubling the closing mark.

  A name is quoted by an opening mark, the name with every closing mark
  written twice, and a closing mark.  `unwrap?` takes such a text apart
  again.  Main statement: `undouble close (double close t) = t`, so a name
  is recovered from its quoted form whatever characters it holds.
-/

import TableLedger.Text.Basic

namespace TableLedger.Text

/-- The text with every `mark` written twice. -/
def double (mark : Char) : Text → Text
  | [] => []
  | c :: rest => if c = mark then c :: c :: double mark rest else c :: double mark rest

/-- The text with every adjacent pair of `mark`s, taken from the left, written once. -/
def undouble (mark : Char) : Text → Text
  | [] => []
  | [c] => [c]
  | c :: d :: rest =>
    if c = mark ∧ d = mark then mark :: undouble mark rest else c :: undouble mark (d :: rest)

/-- The text between an opening and a closing mark, closing marks inside it doubled. -/
def wrap (opening closing : Char) (t : Text) : Text :=
  opening :: double closing t ++ [closing]

/-- The text inside an opening and a closing mark, doubled closing marks
    written once; `none` when the marks are not there. -/
def unwrap? (opening closing : Char) : Text → Option Text
  | [] => none
  | c :: rest =>
    if c = opening ∧ rest.getLast? = some closing then some (undouble closing rest.dropLast)
    else none

theorem undouble_cons_of_ne {mark c : Char} (h : c ≠ mark) (t : Text) :
    undouble mark (c :: t) = c :: undouble mark t := by
  cases t with
  | nil => simp [undouble]
  | cons d t => simp [undouble, h]

/-- Undoubling takes doubling back. -/
theorem undouble_double (mark : Char) (t : Text) : undouble mark (double mark t) = t := by
  induction t with
  | nil => rfl
  | cons c t ih =>
    by_cases h : c = mark
    · simp [double, undouble, h, ih]
    · rw [double, if_neg h, undouble_cons_of_ne h, ih]

/-- A text comes back out of its marks. -/
theorem unwrap?_wrap (opening closing : Char) (t : Text) :
    unwrap? opening closing (wrap opening closing t) = some t := by
  simp [unwrap?, wrap, undouble_double]

end TableLedger.Text
