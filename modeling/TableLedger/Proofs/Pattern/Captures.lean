/-
  TableLedger.Proofs.Pattern.Captures — what slots capture.

  A pattern captures with the groups that stand inside it.  A group may be repeated,
  or left out for an alternative, and a match may have taken back what it had read
  before.  None of this is left to see in what is captured: from where a capture
  begins to where it ends leads a way of the group that has its slot.

  Main statements:
    • `captures_of_mem_ways` — what holds of the ways of the groups holds of every
      capture,
    • `leadsTo_of_captured?` — a capture of a match, as a way of a group.
-/

import TableLedger.Proofs.Pattern.Places

namespace TableLedger.Pattern

/-! ## §1. Groups -/

/-- The patterns inside a pattern that capture, each with its slot. -/
def groups : Pattern → List (Slot × Pattern)
  | one _ | run _ | wordEdge | lineStart | lineEnd | nothing => []
  | seq first second | alt first second => groups first ++ groups second
  | many repeated => groups repeated
  | capture slot inner => (slot, inner) :: groups inner

@[simp] theorem groups_append (p q : Pattern) : (p ++ q).groups = p.groups ++ q.groups := rfl

@[simp] theorem groups_optional (p : Pattern) : (optional p).groups = p.groups :=
  List.append_nil p.groups

/-- A captured pattern is a group of its own, in front of those inside it. -/
@[simp] theorem groups_capture (slot : Slot) (p : Pattern) :
    (capture slot p).groups = (slot, p) :: p.groups := rfl

@[simp] theorem groups_char (c : Char) : (char c).groups = [] := rfl

@[simp] theorem groups_blanks : blanks.groups = [] := rfl

@[simp] theorem groups_blanks? : blanks?.groups = [] := rfl

@[simp] theorem groups_wordEdge : wordEdge.groups = [] := rfl

/-- A keyword captures nothing. -/
@[simp] theorem groups_keyword (word : Text) : (keyword word).groups = [] := by
  induction word using keyword.induct with
  | case1 => rfl
  | case2 letter => rfl
  | case3 letter word hword ih =>
    rw [keyword]
    · exact ih
    · exact hword

@[simp] theorem groups_many (p : Pattern) : (many p).groups = p.groups := rfl

/-- A choice of patterns has the groups of all of them. -/
@[simp] theorem groups_anyOf (ps : List Pattern) : (anyOf ps).groups = ps.flatMap groups := by
  induction ps using anyOf.induct with
  | case1 => rfl
  | case2 p => exact (List.append_nil p.groups).symm
  | case3 p rest hrest ih =>
    rw [anyOf, List.flatMap_cons, ← ih]
    · rfl
    · exact hrest

/-! ## §2. Captures -/

/-- Whether a way of the pattern leads from one place to another. -/
def LeadsTo (p : Pattern) (c d : Cursor) : Prop :=
  ∃ w v, v ∈ p.ways w ∧ w.cursor = c ∧ v.cursor = d

/-- What holds of the ways of every group holds of all that is captured. -/
theorem captures_of_mem_ways {p : Pattern} {holds : Capture → Prop}
    (hgroups : ∀ group ∈ p.groups, ∀ c d, group.2.LeadsTo c d → holds ⟨group.1, c, d⟩)
    {w v : Way} (hw : ∀ c ∈ w.captures, holds c) (hv : v ∈ p.ways w) :
    ∀ c ∈ v.captures, holds c := by
  induction p generalizing w v with
  | one accepts =>
    obtain ⟨c, rest, -, -, rfl⟩ := exists_step_of_mem_ways_one hv
    exact hw
  | run accepts =>
    obtain ⟨c, -, rfl⟩ := List.mem_map.mp hv
    exact hw
  | wordEdge | lineStart | lineEnd =>
    obtain ⟨rfl, -⟩ := eq_of_mem_test hv
    exact hw
  | nothing =>
    rw [List.mem_singleton.mp hv]
    exact hw
  | seq first second ihFirst ihSecond =>
    obtain ⟨u, hu, hv⟩ := List.mem_flatMap.mp hv
    have hfirst := ihFirst (fun group hgroup => hgroups group (List.mem_append_left _ hgroup)) hw hu
    exact ihSecond (fun group hgroup => hgroups group (List.mem_append_right _ hgroup)) hfirst hv
  | alt first second ihFirst ihSecond =>
    obtain hv | hv := List.mem_append.mp hv
    · exact ihFirst (fun group hgroup => hgroups group (List.mem_append_left _ hgroup)) hw hv
    · exact ihSecond (fun group hgroup => hgroups group (List.mem_append_right _ hgroup)) hw hv
  | many repeated ih =>
    -- every turn starts from what the turns before it captured
    have honce : ∀ u : Way, (∀ c ∈ u.captures, holds c) → ∀ v ∈ repeated.ways u,
        ∀ c ∈ v.captures, holds c := fun _ hu _ hv => ih hgroups hu hv
    exact of_mem_ways_many honce hw hv
  | capture slot inner ih =>
    obtain ⟨u, hu, rfl⟩ := List.mem_map.mp hv
    -- the inner captures, and the one that the group adds
    have hinner := ih (fun group hgroup => hgroups group (List.mem_cons_of_mem _ hgroup)) hw hu
    have hhere := hgroups (slot, inner) List.mem_cons_self w.cursor u.cursor ⟨w, u, hu, rfl, rfl⟩
    exact List.forall_mem_cons.mpr ⟨hhere, hinner⟩

/-! ## §3. Captures of matches -/

variable {p : Pattern} {m : Match} {c : Cursor}

/-- A match is made in a way of the pattern. -/
theorem exists_way_of_mem_matchesIn (hm : m ∈ p.matchesIn c) :
    ∃ w ∈ p.ways ⟨m.first, []⟩, w.cursor = m.last ∧ w.captures = m.captures := by
  obtain ⟨d, -, hmatch⟩ := exists_matchAt?_of_mem_matchesFrom hm
  obtain ⟨w, hw, rfl⟩ := Option.map_eq_some_iff.mp hmatch
  exact ⟨w, List.mem_of_mem_head? hw, rfl, rfl⟩

/-- What a search finds leads from its first place to its last. -/
theorem leadsTo_of_mem_matchesIn (hm : m ∈ p.matchesIn c) : p.LeadsTo m.first m.last := by
  obtain ⟨w, hw, hlast, -⟩ := exists_way_of_mem_matchesIn hm
  exact ⟨_, w, hw, rfl, hlast⟩

/-- **A capture is a way of a group.** -/
theorem leadsTo_of_captured? {slot : Slot} {found : Capture} (hm : m ∈ p.matchesIn c)
    (hfound : m.captured? slot = some found) :
    ∃ q, (slot, q) ∈ p.groups ∧ q.LeadsTo found.first found.last := by
  obtain ⟨w, hw, -, hcaptures⟩ := exists_way_of_mem_matchesIn hm
  have hfind : m.captures.find? (·.slot == slot) = some found := hfound
  have hslot := List.find?_some hfind
  have hmem : found ∈ w.captures := hcaptures ▸ List.mem_of_find?_eq_some hfind
  have hall : ∀ c ∈ w.captures, ∃ q, (c.slot, q) ∈ p.groups ∧ q.LeadsTo c.first c.last :=
    captures_of_mem_ways (fun group hgroup _ _ hleads => ⟨group.2, hgroup, hleads⟩)
      (fun _ hc => absurd hc List.not_mem_nil) hw
  rw [← beq_iff_eq.mp hslot]
  exact hall found hmem

end TableLedger.Pattern
