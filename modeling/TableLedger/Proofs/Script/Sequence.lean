/-
  TableLedger.Proofs.Script.Sequence — scripts classify statement by statement.

  A PostgreSQL script is classified as a whole, form by form, and then its events
  are put in the order of their places.  Put two scripts together with a semicolon
  between them: what each of them mentions is still mentioned, all of the first in
  front of the semicolon and all of the second behind it, and sorting keeps the two
  apart:

      classify (p ; q)  =  classify p, and then classify q

  Main statements:
    • `sortBy_filter_le` — sorting puts low keys first,
    • `exists_gather_append_semicolon` — what is found on either side of a semicolon,
    • `classify_append_semicolon` — the events of two scripts.
-/

import TableLedger.Proofs.Script.Joined
import TableLedger.Proofs.Script.Semicolon

namespace TableLedger.Script

/-! ## §1. Sorting by a key -/

section Sorting

variable {α : Type}

/-- A run stops in front of characters that it does not take. -/
theorem takeWhile_append_of_neg {p : α → Bool} {ys : List α} (h : ∀ y ∈ ys, p y = false)
    (xs : List α) :
    (xs ++ ys).takeWhile p = xs.takeWhile p ∧ (xs ++ ys).dropWhile p = xs.dropWhile p ++ ys := by
  induction xs with
  | nil =>
    cases ys with
    | nil => exact ⟨rfl, rfl⟩
    | cons y ys => simp [h y List.mem_cons_self]
  | cons x xs ih =>
    rw [List.cons_append, List.takeWhile_cons, List.dropWhile_cons, List.takeWhile_cons,
      List.dropWhile_cons, ih.1, ih.2]
    cases p x with
    | true => exact ⟨rfl, rfl⟩
    | false => exact ⟨rfl, rfl⟩

variable (key : α → Nat)

/-- Sort by a key, keeping the order of equal keys. -/
def sortBy (xs : List α) : List α := xs.mergeSort fun a b => key a ≤ key b

/-- Sorting puts an element behind those with lower keys. -/
theorem sortBy_cons (x : α) (xs : List α) :
    sortBy key (x :: xs)
      = (sortBy key xs).takeWhile (fun y => key y < key x)
        ++ x :: (sortBy key xs).dropWhile (fun y => key y < key x) := by
  have htrans : ∀ a b c : α, decide (key a ≤ key b) = true → decide (key b ≤ key c) = true →
      decide (key a ≤ key c) = true := by
    simp only [decide_eq_true_iff]
    exact fun a b c => Nat.le_trans
  have htotal : ∀ a b : α, (decide (key a ≤ key b) || decide (key b ≤ key a)) = true := by
    simp only [Bool.or_eq_true, decide_eq_true_iff]
    exact fun a b => Nat.le_total (key a) (key b)
  obtain ⟨low, high, hcons, hsorted, hnot⟩ := List.mergeSort_cons htrans htotal x xs
  have hpairwise := List.pairwise_mergeSort htrans htotal (x :: xs)
  rw [hcons, List.pairwise_append, List.pairwise_cons] at hpairwise
  -- sorting is stable: what stands in front of the element is lower, what stands behind it is not
  have hlow : ∀ y ∈ low, decide (key y < key x) = true := by
    intro y hy
    have hgreater := hnot y hy
    rw [Bool.not_eq_true', decide_eq_false_iff_not, Nat.not_le] at hgreater
    exact decide_eq_true hgreater
  have hhigh : ∀ y ∈ high, decide (key y < key x) = false := by
    intro y hy
    exact decide_eq_false (Nat.not_lt.mpr (of_decide_eq_true (hpairwise.2.1.1 y hy)))
  unfold sortBy
  rw [hcons, hsorted, List.takeWhile_append_of_pos hlow, List.dropWhile_append_of_pos hlow]
  obtain ⟨htake, hdrop⟩ := takeWhile_append_of_neg hhigh []
  rw [List.nil_append] at htake hdrop
  rw [htake, hdrop, List.takeWhile_nil, List.append_nil]
  rfl

/-- Sorting brings in nothing and loses nothing. -/
theorem mem_sortBy {y : α} {xs : List α} : y ∈ sortBy key xs ↔ y ∈ xs := List.mem_mergeSort

/-- **Sorting puts low keys first.**  What has a low key is sorted by itself, and so
    is what has not. -/
theorem sortBy_filter_le (n : Nat) (xs : List α) :
    sortBy key xs = sortBy key (xs.filter fun x => key x ≤ n)
      ++ sortBy key (xs.filter fun x => !decide (key x ≤ n)) := by
  induction xs with
  | nil => simp [sortBy]
  | cons x xs ih =>
    have hlow : ∀ y ∈ sortBy key (xs.filter fun x => key x ≤ n), key y ≤ n := by
      intro y hy
      exact of_decide_eq_true (List.mem_filter.mp ((mem_sortBy key).mp hy)).2
    have hhigh : ∀ y ∈ sortBy key (xs.filter fun x => !decide (key x ≤ n)), n < key y := by
      intro y hy
      have hnot := (List.mem_filter.mp ((mem_sortBy key).mp hy)).2
      rw [Bool.not_eq_true', decide_eq_false_iff_not, Nat.not_le] at hnot
      exact hnot
    rw [sortBy_cons, ih, List.filter_cons, List.filter_cons]
    by_cases hx : key x ≤ n
    · -- the element comes among the low keys
      have hbehind : ∀ y ∈ sortBy key (xs.filter fun x => !decide (key x ≤ n)),
          decide (key y < key x) = false := by
        intro y hy
        have hy := hhigh y hy
        exact decide_eq_false (by omega)
      obtain ⟨htake, hdrop⟩ := takeWhile_append_of_neg hbehind
        (sortBy key (xs.filter fun x => key x ≤ n))
      rw [htake, hdrop]
      simp only [hx, decide_true, if_true, Bool.not_true, Bool.false_eq_true, if_false]
      rw [sortBy_cons, List.append_assoc, List.cons_append]
    · -- the element comes behind all low keys
      have hfront : ∀ y ∈ sortBy key (xs.filter fun x => key x ≤ n),
          decide (key y < key x) = true := by
        intro y hy
        have hy := hlow y hy
        exact decide_eq_true (by omega)
      rw [List.takeWhile_append_of_pos hfront, List.dropWhile_append_of_pos hfront]
      simp only [hx, decide_false, Bool.false_eq_true, if_false, Bool.not_false, if_true]
      rw [sortBy_cons, List.append_assoc]

end Sorting

/-! ## §2. Sightings -/

/-- The sighting as it lies in a script with `n` bytes more in front. -/
def Sighting.shift (n : Nat) (s : Sighting) : Sighting := ⟨n + s.trigger, n + s.offset, s.event⟩

theorem ofSightings_eq (found : List Sighting) :
    ofSightings found = ⟨(sortBy Sighting.offset found).map Sighting.event⟩ := rfl

/-- Where all of a script lies has no effect on the order of its events. -/
theorem ofSightings_shift (n : Nat) (found : List Sighting) :
    ofSightings (found.map (Sighting.shift n)) = ofSightings found := by
  have hsort : (sortBy Sighting.offset found).map (Sighting.shift n)
      = sortBy Sighting.offset (found.map (Sighting.shift n)) := by
    refine List.map_mergeSort fun a _ b _ => ?_
    simp [Sighting.shift]
  rw [ofSightings_eq, ofSightings_eq, ← hsort, List.map_map]
  rfl

/-- The events of what is found up to a place come first. -/
theorem ofSightings_filter_le (n : Nat) (found : List Sighting) :
    (ofSightings found).events
      = (ofSightings (found.filter fun s => s.offset ≤ n)).events
        ++ (ofSightings (found.filter fun s => !decide (s.offset ≤ n))).events := by
  rw [ofSightings_eq, sortBy_filter_le Sighting.offset n found, List.map_append]
  rfl

/-- To keep some of what members yield is to keep the members that yield it. -/
theorem filter_flatMap_of_forall {α β : Type} {f : α → List β} {keeps : α → Bool}
    {keeps' : β → Bool} (h : ∀ x, ∀ y ∈ f x, keeps' y = keeps x) (xs : List α) :
    (xs.flatMap f).filter keeps' = (xs.filter keeps).flatMap f := by
  induction xs with
  | nil => rfl
  | cons x xs ih =>
    rw [List.flatMap_cons, List.filter_append, ih, List.filter_cons]
    cases hx : keeps x with
    | true =>
      have hall : (f x).filter keeps' = f x :=
        List.filter_eq_self.mpr fun y hy => (h x y hy).trans hx
      rw [hall, if_pos rfl, List.flatMap_cons]
    | false =>
      have hnone : (f x).filter keeps' = [] :=
        List.filter_eq_nil_iff.mpr fun y hy => by rw [h x y hy, hx]; exact Bool.false_ne_true
      rw [hnone, if_neg Bool.false_ne_true, List.nil_append]

namespace Naming

variable (n : Naming)

/-- What a mention yields stands at its place. -/
theorem offset_of_mem_yielded {m : Mention} {s : Sighting} (h : s ∈ yielded n.settle m) :
    s.offset = m.offset := by
  unfold yielded at h
  cases hsettle : n.settle m with
  | error e => rw [hsettle] at h; exact absurd h List.not_mem_nil
  | ok made =>
    rw [hsettle] at h
    exact (mem_settle.mp ⟨made, hsettle, h⟩).2.2

/-- A mention that is shifted yields the same, shifted. -/
theorem settle_shift (k : Nat) (m : Mention) :
    n.settle (m.shift k) = (n.settle m).map (List.map (Sighting.shift k)) := by
  unfold settle
  have hevent : n.event? (m.shift k) = n.event? m := rfl
  rw [hevent]
  cases n.event? m with
  | error e => rfl
  | ok event? =>
    cases event? with
    | none => rfl
    | some event => rfl

theorem yielded_shift (k : Nat) (m : Mention) :
    yielded n.settle (m.shift k) = (yielded n.settle m).map (Sighting.shift k) := by
  unfold yielded
  rw [settle_shift]
  cases n.settle m with
  | error e => rfl
  | ok made => rfl

variable {n} {t u : Text} {first second : List Sighting}

/-- If what code mentions on either side of a semicolon can be settled, so can all
    that it mentions, and a sighting is one of the side that it lies on. -/
theorem exists_gather_append_semicolon (ht : '"' ∉ t) (hu : '"' ∉ u)
    (hfirst : gather n.settle (mentionsIn t) = .ok first)
    (hsecond : gather n.settle (mentionsIn u) = .ok second) :
    ∃ found, gather n.settle (mentionsIn (t ++ ';' :: u)) = .ok found
      ∧ found.filter (fun s => s.offset ≤ Text.byteLength t) = first
      ∧ found.filter (fun s => !decide (s.offset ≤ Text.byteLength t))
        = second.map (Sighting.shift (Text.byteLength t + 1)) := by
  obtain ⟨hallFirst, rfl⟩ := gather_eq_ok_iff.mp hfirst
  obtain ⟨hallSecond, rfl⟩ := gather_eq_ok_iff.mp hsecond
  have hfront := filter_mentionsIn_front ht hu
  have hback := filter_mentionsIn_back ht hu
  -- a mention lies on one side of the semicolon, and is settled as it is there
  have hall : ∀ m ∈ mentionsIn (t ++ ';' :: u), n.settle m = .ok (yielded n.settle m) := by
    intro m hm
    by_cases hle : m.offset ≤ Text.byteLength t
    · have hmem : m ∈ mentionsIn t := hfront ▸ List.mem_filter.mpr ⟨hm, decide_eq_true hle⟩
      exact hallFirst m hmem
    · have hmem : m ∈ (mentionsIn u).map (Mention.shift (Text.byteLength t + 1)) :=
        hback ▸ List.mem_filter.mpr ⟨hm, congrArg not (decide_eq_false hle)⟩
      obtain ⟨behind, hbehind, rfl⟩ := List.mem_map.mp hmem
      rw [settle_shift, hallSecond behind hbehind, yielded_shift]
      rfl
  refine ⟨_, gather_eq_ok_iff.mpr ⟨hall, rfl⟩, ?_, ?_⟩
  · rw [← hfront]
    refine filter_flatMap_of_forall (fun m s hs => ?_) _
    rw [n.offset_of_mem_yielded hs]
  · have hshift : ((mentionsIn u).map (Mention.shift (Text.byteLength t + 1))).flatMap
          (yielded n.settle)
        = ((mentionsIn u).flatMap (yielded n.settle)).map
          (Sighting.shift (Text.byteLength t + 1)) := by
      rw [List.flatMap_map, List.map_flatMap]
      exact List.flatMap_congr fun m _ => n.yielded_shift _ m
    rw [← hshift, ← hback]
    refine filter_flatMap_of_forall (fun m s hs => ?_) _
    rw [n.offset_of_mem_yielded hs]

end Naming

/-! ## §3. Classification -/

/-- In PostgreSQL the sightings are what the mentions of the code settle to. -/
theorem sightings_pg (schema script : Text) :
    sightings .pg schema script
      = gather (Naming.settle ⟨.pg, schema⟩) (mentionsIn (MaskedScript.ofScript .pg script).code) := by
  rw [sightings_eq, mentions_pg]

/-- **Statement by statement.**  A script that ends in code and opens no routine
    definition, a semicolon and another script: if both scripts can be classified,
    so can the whole, with the events of the first one and then those of the second. -/
theorem classify_append_semicolon {schema p q : Text} {first second : Classification}
    (hp : '"' ∉ p) (hq : '"' ∉ q) (hends : EndsInCode p)
    (hroutine : routineHeader.occursIn (Cursor.start (maskCommentsAndLiterals .pg p)) = false)
    (hfirst : classify .pg schema p = .ok first)
    (hsecond : classify .pg schema q = .ok second) :
    classify .pg schema (p ++ ';' :: q) = .ok ⟨first.events ++ second.events⟩ := by
  obtain ⟨foundFirst, hfoundFirst, rfl⟩ := classify_eq_ok_iff.mp hfirst
  obtain ⟨foundSecond, hfoundSecond, rfl⟩ := classify_eq_ok_iff.mp hsecond
  rw [sightings_pg] at hfoundFirst hfoundSecond
  obtain ⟨found, hfound, hfront, hback⟩ := Naming.exists_gather_append_semicolon
    (not_mem_code (by decide) (by decide) hp) (not_mem_code (by decide) (by decide) hq)
    hfoundFirst hfoundSecond
  have hevents : (ofSightings found).events
      = (ofSightings foundFirst).events ++ (ofSightings foundSecond).events := by
    rw [ofSightings_filter_le _ found, hfront, hback, ofSightings_shift]
  refine classify_eq_ok_iff.mpr ⟨found, ?_, by rw [← hevents]⟩
  rw [sightings_pg, code_append_semicolon hp hq hends hroutine, hfound]

/-- A creation and a rename of what it created, the second one behind a comment with
    a semicolon in it. -/
theorem classify_create_then_rename :
    classify .pg "public".toList
        ("CREATE TABLE t (a text DEFAULT ';')".toList ++ ';'
          :: "ALTER TABLE t /* ; */ RENAME TO u".toList)
      = .ok ⟨[.created (.inSchema "public".toList "t".toList)]
        ++ [.renamed (.inSchema "public".toList "t".toList)
          (.inSchema "public".toList "u".toList)]⟩ :=
  classify_append_semicolon (by decide) (by decide) (by unfold EndsInCode; decide +kernel)
    (by decide +kernel) (by decide +kernel) (by decide +kernel)

end TableLedger.Script
