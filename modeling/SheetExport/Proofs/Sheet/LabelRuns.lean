/-
**The runs of labels that leave no gaps.**

* `Contiguous labels` — between two positions of a label there is no other label;
* `labelled_of_mem_labelRuns`, `eq_of_overlap`, `label_behind`: a run has its label throughout,
  two runs have no position in common, and a label does not go on behind its run;
* `exists_run_of_contiguous`: so a label of a contiguous block of labels has one run that meets
  the block, and that run has all the positions of the label there.
-/

import SheetExport.Proofs.Sheet.HeaderTiling

namespace SheetExport

/-- No label has another one between two of its positions. -/
def Contiguous (labels : List String) : Prop :=
  ∀ ⦃label⦄, label ≠ "" → ∀ ⦃i j k : Nat⦄, i < j → j < k →
    labels[i]? = some label → labels[k]? = some label → labels[j]? = some label

/-- The position is one of the run's. -/
def LabelRun.Has (run : LabelRun) (position : Nat) : Prop :=
  run.first ≤ position ∧ position ≤ run.last

/-! ### Single runs -/

theorem Tiles.first_le {first beyond : Nat} {runs : List LabelRun}
    (tiles : Tiles first runs beyond) {run : LabelRun} (member : run ∈ runs) :
    first ≤ run.first := by
  induction tiles with
  | nil => cases member
  | cons forward _ _ ih =>
    rcases List.mem_cons.mp member with rfl | later
    · exact Nat.le_refl _
    · have := ih later
      omega

theorem Tiles.last_lt {first beyond : Nat} {runs : List LabelRun}
    (tiles : Tiles first runs beyond) {run : LabelRun} (member : run ∈ runs) :
    run.last < beyond := by
  induction tiles with
  | nil => cases member
  | cons _ _ rest ih =>
    rcases List.mem_cons.mp member with rfl | later
    · exact rest.le
    · exact ih later

/-- Every position of a tiling is in a run. -/
theorem Tiles.exists_run {first beyond position : Nat} {runs : List LabelRun}
    (tiles : Tiles first runs beyond) (notBefore : first ≤ position) (inside : position < beyond) :
    ∃ run ∈ runs, run.Has position := by
  induction tiles with
  | nil => omega
  | @cons run _ _ _ _ _ ih =>
    by_cases here : position ≤ run.last
    · exact ⟨run, List.mem_cons_self, notBefore, here⟩
    · obtain ⟨other, later, has⟩ := ih (by omega) inside
      exact ⟨other, List.mem_cons_of_mem _ later, has⟩

/-- The runs of a tiling stand in the order of their positions. -/
theorem Tiles.pairwise {first beyond : Nat} {runs : List LabelRun}
    (tiles : Tiles first runs beyond) : runs.Pairwise fun a b => a.last < b.first := by
  induction tiles with
  | nil => exact .nil
  | cons _ _ rest ih => exact .cons (fun run later => rest.first_le later) ih

theorem Tiles.first_eq {first beyond : Nat} {run : LabelRun} {runs : List LabelRun}
    (tiles : Tiles first (run :: runs) beyond) : run.first = first := by
  cases tiles
  rfl

/-- A label begins a run of its own, or goes on in the run behind it. -/
theorem labelRunsFrom_cons (start : Nat) (label : String) (rest : List String) :
    (labelRunsFrom start (label :: rest) = ⟨start, start, label⟩ :: labelRunsFrom (start + 1) rest ∧
      ∀ next ∈ (labelRunsFrom (start + 1) rest).head?, label ≠ "" → next.label ≠ label) ∨
    ∃ next more, labelRunsFrom (start + 1) rest = next :: more ∧ next.label = label ∧
      labelRunsFrom start (label :: rest) = ⟨start, next.last, label⟩ :: more := by
  rw [labelRunsFrom]
  split
  · rename_i next more runs
    rw [runs]
    split
    · rename_i joined
      exact Or.inr ⟨next, more, rfl, joined.2, rfl⟩
    · rename_i apart
      refine Or.inl ⟨rfl, fun head isHead labelled same => ?_⟩
      cases isHead
      exact apart ⟨labelled, same⟩
  · rename_i runs
    rw [runs]
    exact Or.inl ⟨rfl, fun _ isHead => by cases isHead⟩

/-- The first run has the first label. -/
theorem label_of_head {start : Nat} {labels : List String} {label : String}
    (head : labels[0]? = some label) :
    ∃ first ∈ (labelRunsFrom start labels).head?, first.label = label := by
  cases labels with
  | nil => cases head
  | cons other rest =>
    cases head
    rcases labelRunsFrom_cons start label rest with ⟨alone, _⟩ | ⟨next, more, _, _, joined⟩
    · rw [alone]
      exact ⟨_, rfl, rfl⟩
    · rw [joined]
      exact ⟨_, rfl, rfl⟩

/-- **A run has its label throughout.** -/
theorem labelled_of_mem_labelRunsFrom {start : Nat} {labels : List String} {run : LabelRun}
    (member : run ∈ labelRunsFrom start labels) {position : Nat} (has : run.Has position) :
    labels[position - start]? = some run.label := by
  induction labels generalizing start run with
  | nil => cases member
  | cons label rest ih =>
    have tiles := tiles_labelRunsFrom (start + 1) rest
    -- A run that begins further on has its labels in the rest.
    have later : ∀ run ∈ labelRunsFrom (start + 1) rest, run.Has position →
        (label :: rest)[position - start]? = some run.label := by
      intro run inRest has
      have first := tiles.first_le inRest
      have notBefore := has.1
      have next : position - start = position - (start + 1) + 1 := by omega
      rw [next, List.getElem?_cons_succ]
      exact ih inRest has
    have here : position = start → (label :: rest)[position - start]? = some label := by
      rintro rfl
      rw [Nat.sub_self]
      rfl
    rcases labelRunsFrom_cons start label rest with ⟨alone, _⟩ | ⟨next, more, runs, same, joined⟩
    · rw [alone] at member
      rcases List.mem_cons.mp member with rfl | inRest
      · exact here (Nat.le_antisymm has.2 has.1)
      · exact later run inRest has
    · rw [joined] at member
      rw [runs] at later tiles
      rcases List.mem_cons.mp member with rfl | inMore
      · have begins := tiles.first_eq
        have notBefore : start ≤ position := has.1
        by_cases isStart : position = start
        · exact here isStart
        · rw [later next List.mem_cons_self ⟨by omega, has.2⟩, same]
      · exact later run (List.mem_cons_of_mem _ inMore) has

/-- A label does not go on behind its run. -/
theorem label_behind_from {start : Nat} {labels : List String} {run : LabelRun}
    (member : run ∈ labelRunsFrom start labels) (labelled : run.label ≠ "") :
    labels[run.last + 1 - start]? ≠ some run.label := by
  induction labels generalizing start run with
  | nil => cases member
  | cons label rest ih =>
    have tiles := tiles_labelRunsFrom (start + 1) rest
    have later : ∀ run ∈ labelRunsFrom (start + 1) rest, run.label ≠ "" →
        (label :: rest)[run.last + 1 - start]? ≠ some run.label := by
      intro run inRest labelled
      have first := tiles.first_le inRest
      have forward := tiles.forward inRest
      have next : run.last + 1 - start = run.last + 1 - (start + 1) + 1 := by omega
      rw [next, List.getElem?_cons_succ]
      exact ih inRest labelled
    rcases labelRunsFrom_cons start label rest with
      ⟨alone, apart⟩ | ⟨next, more, runs, same, joined⟩
    · rw [alone] at member
      rcases List.mem_cons.mp member with rfl | inRest
      · -- The next label is that of the next run, which was not joined.
        rw [Nat.add_sub_cancel_left, List.getElem?_cons_succ]
        intro goesOn
        obtain ⟨next, isNext, same⟩ := label_of_head goesOn
        exact apart next isNext labelled same
      · exact later run inRest labelled
    · rw [joined] at member
      rw [runs] at later
      rcases List.mem_cons.mp member with rfl | inMore
      · have behind := later next List.mem_cons_self (by rw [same]; exact labelled)
        rw [same] at behind
        exact behind
      · exact later run (List.mem_cons_of_mem _ inMore) labelled

/-! ### All runs -/

variable {labels : List String} {run other : LabelRun} {position : Nat}

theorem labelled_of_mem_labelRuns (member : run ∈ labelRuns labels) (has : run.Has position) :
    labels[position]? = some run.label :=
  labelled_of_mem_labelRunsFrom member has

theorem label_behind (member : run ∈ labelRuns labels) (labelled : run.label ≠ "") :
    labels[run.last + 1]? ≠ some run.label :=
  label_behind_from member labelled

theorem pairwise_labelRuns (labels : List String) :
    (labelRuns labels).Pairwise fun a b => a.last < b.first :=
  (tiles_labelRuns labels).pairwise

/-- Two runs with a common position are one. -/
theorem eq_of_overlap (member : run ∈ labelRuns labels) (member' : other ∈ labelRuns labels)
    (has : run.Has position) (has' : other.Has position) : run = other := by
  obtain ⟨i, below, rfl⟩ := List.mem_iff_getElem.mp member
  obtain ⟨j, below', rfl⟩ := List.mem_iff_getElem.mp member'
  have ordered := List.pairwise_iff_getElem.mp (pairwise_labelRuns labels)
  rcases Nat.lt_trichotomy i j with first | rfl | first
  · exact absurd (Nat.le_trans has'.1 has.2) (Nat.not_le.mpr (ordered i j below below' first))
  · rfl
  · exact absurd (Nat.le_trans has.1 has'.2) (Nat.not_le.mpr (ordered j i below' below first))

/-! ### Blocks of labels -/

section Blocks

variable {before block after : List String} {label : String}

theorem getElem?_block {i : Nat} (below : i < block.length) :
    (before ++ block ++ after)[before.length + i]? = block[i]? := by
  rw [List.append_assoc, List.getElem?_append_right (Nat.le_add_right _ _),
    Nat.add_sub_cancel_left, List.getElem?_append_left below]

/-- The label that a run has at a position of the block. -/
theorem getElem?_of_has (isRun : run ∈ labelRuns (before ++ block ++ after)) {i : Nat}
    (below : i < block.length) (has : run.Has (before.length + i)) :
    block[i]? = some run.label := by
  rw [← getElem?_block below]
  exact labelled_of_mem_labelRuns isRun has

theorem exists_run_of_block (before after : List String) {i : Nat} (below : i < block.length) :
    ∃ run ∈ labelRuns (before ++ block ++ after), run.Has (before.length + i) := by
  refine (tiles_labelRuns _).exists_run (Nat.zero_le _) ?_
  rw [List.length_append, List.length_append]
  omega

/-- The run of a label does not end before a further position of the label in the block. -/
theorem le_last_of_contiguous (contiguous : Contiguous block) (labelled : label ≠ "")
    (isRun : run ∈ labelRuns (before ++ block ++ after)) {i j : Nat}
    (has : run.Has (before.length + i)) (here : block[i]? = some label)
    (there : block[j]? = some label) : before.length + j ≤ run.last := by
  rcases Nat.lt_or_ge run.last (before.length + j) with ends | goesOn
  · obtain ⟨inBlock, _⟩ := List.getElem?_eq_some_iff.mp here
    obtain ⟨inBlock', _⟩ := List.getElem?_eq_some_iff.mp there
    have sameLabel : run.label = label := by
      have labelHere := getElem?_of_has isRun inBlock has
      rw [here] at labelHere
      exact (Option.some.inj labelHere).symm
    -- The position behind the run is in the block, and has the label as well.
    have within := has.2
    have position : run.last + 1 = before.length + (run.last + 1 - before.length) := by omega
    have next : block[run.last + 1 - before.length]? = some label := by
      rcases Nat.lt_or_ge (run.last + 1 - before.length) j with between | reached
      · exact contiguous labelled (by omega) between here there
      · have last : run.last + 1 - before.length = j := by omega
        rw [last, there]
    have behind := label_behind isRun (by rwa [sameLabel])
    rw [position, getElem?_block (by omega), next, sameLabel] at behind
    exact absurd rfl behind
  · exact goesOn

/-- **A label of a contiguous block has one run that meets the block**, and all positions of the
label in the block are positions of this run. -/
theorem exists_run_of_contiguous (contiguous : Contiguous block) (labelled : label ≠ "")
    (member : label ∈ block) :
    ∃ run ∈ labelRuns (before ++ block ++ after), run.label = label ∧
      (∀ i < block.length, block[i]? = some label ↔ run.Has (before.length + i)) ∧
      ∀ other ∈ labelRuns (before ++ block ++ after), other.label = label →
        (∃ i < block.length, other.Has (before.length + i)) → other = run := by
  obtain ⟨i, below, here⟩ := List.mem_iff_getElem.mp member
  have isLabel : block[i]? = some label := by rw [List.getElem?_eq_getElem below, here]
  obtain ⟨run, isRun, has⟩ := exists_run_of_block before after below
  have sameLabel : run.label = label := by
    have labelHere := getElem?_of_has isRun below has
    rw [isLabel] at labelHere
    exact (Option.some.inj labelHere).symm
  have whole : ∀ j < block.length, block[j]? = some label → run.Has (before.length + j) := by
    intro j inBlock there
    obtain ⟨other, isOther, has'⟩ := exists_run_of_block before after inBlock
    have reaches := le_last_of_contiguous contiguous labelled isRun has isLabel there
    have reaches' := le_last_of_contiguous contiguous labelled isOther has' there isLabel
    rcases Nat.le_total i j with later | earlier
    · exact ⟨Nat.le_trans has.1 (by omega), reaches⟩
    · have overlap : other.Has (before.length + i) := ⟨Nat.le_trans has'.1 (by omega), reaches'⟩
      rw [eq_of_overlap isRun isOther has overlap]
      exact has'
  refine ⟨run, isRun, sameLabel, fun j inBlock => ⟨whole j inBlock, fun has' => ?_⟩, ?_⟩
  · rw [getElem?_of_has isRun inBlock has', sameLabel]
  · rintro other isOther otherLabel ⟨j, inBlock, has'⟩
    refine eq_of_overlap isOther isRun has' (whole j inBlock ?_)
    rw [getElem?_of_has isOther inBlock has', otherLabel]

end Blocks

end SheetExport
