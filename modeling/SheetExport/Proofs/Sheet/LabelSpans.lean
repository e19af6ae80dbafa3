/-
**The columns that the check of labels accepts.**

* `Spans orders least greatest` — the least and the greatest of orders;
* `Fits columns label` — the columns of the label have different orders, which are all from the
  least of them to the greatest, and no other column has an order between these;
* `MergeHeaderGap.Witnessed columns gap` — what a gap tells of columns is true of them;
* `Ascending columns label orders least greatest` — the orders of a label's columns as they are
  checked; what is found in them is witnessed, and the columns fit where nothing is found;
* `of_groupGap?`: the columns of a label fit, or a gap is found that is witnessed;
* `checkMergeHeaders_iff`: the check accepts columns just when those of every label on several
  columns fit; and where it does not, it names such a label that does not fit, and an order from the
  least to the greatest of this label that shows it.
-/

import Mathlib.Data.List.Nodup
import Mathlib.Data.List.Permutation
import SheetExport.Proofs.Outcome
import SheetExport.Sheet.Header

namespace SheetExport

/-! ### Ascending orders -/

/-- Sorting by an integer gives an ascending list. -/
theorem pairwise_mergeSort_by {α : Type} (key : α → Int) (xs : List α) :
    (xs.mergeSort fun a b => decide (key a ≤ key b)).Pairwise fun a b => key a ≤ key b := by
  have sorted := @List.pairwise_mergeSort α (fun a b => decide (key a ≤ key b))
    (fun a b c first second => decide_eq_true
      (Int.le_trans (of_decide_eq_true first) (of_decide_eq_true second)))
    (fun a b => by simpa using Int.le_total (key a) (key b)) xs
  exact sorted.imp of_decide_eq_true

variable {orders : List Int} {order least greatest : Int}

/-- All of an ascending list is between its first element and its last one. -/
theorem between_of_sorted (sorted : orders.Pairwise (· ≤ ·)) (first : orders.head? = some least)
    (last : orders.getLast? = some greatest) (member : order ∈ orders) :
    least ≤ order ∧ order ≤ greatest := by
  constructor
  · obtain ⟨rest, rfl⟩ := List.head?_eq_some_iff.mp first
    rcases List.mem_cons.mp member with rfl | later
    · exact Int.le_refl _
    · exact List.rel_of_pairwise_cons sorted later
  · obtain ⟨rest, rfl⟩ := List.getLast?_eq_some_iff.mp last
    rcases List.mem_append.mp member with earlier | isLast
    · exact (List.pairwise_append.mp sorted).2.2 _ earlier _ List.mem_cons_self
    · cases List.mem_singleton.mp isLast
      exact Int.le_refl _

/-- An order that is repeated is there twice. -/
theorem two_le_count_of_firstRepeated? (found : firstRepeated? orders = some order) :
    2 ≤ orders.count order := by
  induction orders with
  | nil => cases found
  | cons a rest ih =>
    cases rest with
    | nil => cases found
    | cons b rest =>
      rw [firstRepeated?] at found
      split at found
      · rename_i same
        cases found
        rw [same, List.count_cons_self, List.count_cons_self]
        omega
      · exact Nat.le_trans (ih found) List.count_le_count_cons

/-- An ascending list without repetition ascends from each element to the next. -/
theorem pairwise_lt_of_firstRepeated? (sorted : orders.Pairwise (· ≤ ·))
    (distinct : firstRepeated? orders = none) : orders.Pairwise (· < ·) := by
  induction orders with
  | nil => exact .nil
  | cons a rest ih =>
    cases rest with
    | nil => exact List.pairwise_singleton _ _
    | cons b rest =>
      rw [firstRepeated?] at distinct
      split at distinct
      · cases distinct
      · rename_i differ
        have later := ih sorted.of_cons distinct
        have below : a < b := by
          have notAbove := List.rel_of_pairwise_cons sorted List.mem_cons_self
          omega
        refine .cons (fun order member => ?_) later
        rcases List.mem_cons.mp member with rfl | further
        · exact below
        · exact Int.lt_trans below (List.rel_of_pairwise_cons later further)

/-- An order that is missing is not there, but a smaller and a greater one are. -/
theorem of_firstMissing? (ascends : orders.Pairwise (· < ·))
    (found : firstMissing? orders = some order) :
    order ∉ orders ∧ (∃ a ∈ orders, a < order) ∧ ∃ b ∈ orders, order < b := by
  induction orders with
  | nil => cases found
  | cons a rest ih =>
    cases rest with
    | nil => cases found
    | cons b rest =>
      have below := List.rel_of_pairwise_cons ascends List.mem_cons_self
      rw [firstMissing?] at found
      split at found
      · obtain ⟨absent, ⟨c, isThere, less⟩, ⟨d, isThere', more⟩⟩ := ih ascends.of_cons found
        have above := List.rel_of_pairwise_cons ascends isThere
        refine ⟨?_, ⟨c, List.mem_cons_of_mem _ isThere, less⟩,
          ⟨d, List.mem_cons_of_mem _ isThere', more⟩⟩
        rw [List.mem_cons, not_or]
        exact ⟨by omega, absent⟩
      · rename_i apart
        cases found
        refine ⟨?_, ⟨a, List.mem_cons_self, by omega⟩, ⟨b, by simp, by omega⟩⟩
        intro member
        rcases List.mem_cons.mp member with same | later
        · omega
        · -- The elements behind `a` begin with `b`, which is greater than `a + 1`.
          have fromNext : b ≤ a + 1 := by
            rcases List.mem_cons.mp later with same | further
            · omega
            · exact Int.le_of_lt (List.rel_of_pairwise_cons ascends.of_cons further)
          omega

/-- If none is missing, all orders from the first to the last are there. -/
theorem mem_of_firstMissing? (complete : firstMissing? orders = none)
    (first : orders.head? = some least) (last : orders.getLast? = some greatest)
    (above : least ≤ order) (below : order ≤ greatest) : order ∈ orders := by
  induction orders generalizing least with
  | nil => cases first
  | cons a rest ih =>
    obtain rfl : a = least := Option.some.inj first
    cases rest with
    | nil =>
      obtain rfl : a = greatest := Option.some.inj last
      have same : order = a := by omega
      rw [same]
      exact List.mem_cons_self
    | cons b rest =>
      rw [firstMissing?] at complete
      split at complete
      · rename_i next
        by_cases isFirst : order = a
        · rw [isFirst]
          exact List.mem_cons_self
        · rw [List.getLast?_cons_cons] at last
          exact List.mem_cons_of_mem _ (ih complete rfl last (by omega))
      · cases complete

/-! ### The columns of a label -/

/-- The labels of columns. -/
def labelsOf (columns : List Column) : List String := columns.map Column.mergeHeader

/-- The columns that declare a label. -/
def membersOf (columns : List Column) (label : String) : List Column :=
  columns.filter (·.mergeHeader = label)

/-- The orders of the columns that declare a label. -/
def ordersOf (columns : List Column) (label : String) : List Int :=
  (membersOf columns label).map Column.order

/-- The least and the greatest of orders. -/
structure Spans (orders : List Int) (least greatest : Int) : Prop where
  least_mem : least ∈ orders
  greatest_mem : greatest ∈ orders
  between : ∀ order ∈ orders, least ≤ order ∧ order ≤ greatest

theorem Spans.unique {least' greatest' : Int} (spans : Spans orders least greatest)
    (spans' : Spans orders least' greatest') : least = least' ∧ greatest = greatest' := by
  have least_le := spans.between _ spans'.least_mem
  have le_least := spans'.between _ spans.least_mem
  have le_greatest := spans.between _ spans'.greatest_mem
  have greatest_le := spans'.between _ spans.greatest_mem
  omega

/-- The columns of a label have different orders, just those from the least of them to the greatest,
and no other column has an order between these. -/
def Fits (columns : List Column) (label : String) : Prop :=
  ∃ least greatest, Spans (ordersOf columns label) least greatest ∧
    (ordersOf columns label).Nodup ∧
    (∀ order, order ∈ ordersOf columns label ↔ least ≤ order ∧ order ≤ greatest) ∧
    ∀ c ∈ columns, c.mergeHeader ≠ label → ¬ (least ≤ c.order ∧ c.order ≤ greatest)

/-- The order of the gap is from the least to the greatest of its label, and the reason is true: two
columns of the label have the order; or none has, and the header told is that of the first other
column with it, if there is one; or a column without the label has it. -/
def MergeHeaderGap.Witnessed (columns : List Column) (gap : MergeHeaderGap) : Prop :=
  ∃ least greatest, Spans (ordersOf columns gap.label) least greatest ∧
    (least ≤ gap.order ∧ gap.order ≤ greatest) ∧
    match gap.reason with
    | .shared => 2 ≤ (ordersOf columns gap.label).count gap.order
    | .missing first last header =>
      first = least ∧ last = greatest ∧ gap.order ∉ ordersOf columns gap.label ∧
        header = (columns.find? (·.order = gap.order)).map Column.header
    | .intruder first last header =>
      first = least ∧ last = greatest ∧
        ∃ c ∈ columns, c.mergeHeader ≠ gap.label ∧ c.order = gap.order ∧ c.header = header

variable {columns : List Column} {label : String} {gap : MergeHeaderGap}

/-- Where a gap is witnessed, the columns of its label do not fit. -/
theorem MergeHeaderGap.Witnessed.not_fits (witnessed : gap.Witnessed columns) :
    ¬ Fits columns gap.label := by
  rintro ⟨least, greatest, spans, distinct, filled, alone⟩
  obtain ⟨least', greatest', spans', inside, reason⟩ := witnessed
  obtain ⟨rfl, rfl⟩ := spans.unique spans'
  split at reason
  · have once := List.nodup_iff_count_le_one.mp distinct gap.order
    omega
  · obtain ⟨_, _, absent, _⟩ := reason
    exact absent ((filled gap.order).mpr inside)
  · obtain ⟨_, _, c, member, differs, sameOrder, _⟩ := reason
    rw [← sameOrder] at inside
    exact alone c member differs inside

/-- Nothing else has an order between those of two columns of a label that fits. -/
theorem Fits.mergeHeader_eq (fits : Fits columns label) {a b c : Column}
    (isFirst : a ∈ membersOf columns label) (isLast : b ∈ membersOf columns label)
    (member : c ∈ columns) (above : a.order ≤ c.order) (below : c.order ≤ b.order) :
    c.mergeHeader = label := by
  obtain ⟨least, greatest, spans, _, _, alone⟩ := fits
  have fromLeast := (spans.between a.order (List.mem_map_of_mem isFirst)).1
  have upToGreatest := (spans.between b.order (List.mem_map_of_mem isLast)).2
  by_contra differs
  exact alone c member differs ⟨Int.le_trans fromLeast above, Int.le_trans below upToGreatest⟩

/-- A label of fewer than two columns has no gap. -/
theorem groupGap?_of_short {members : List Column} (short : members.length < 2) :
    groupGap? columns members label = none := by
  have length : ((members.map Column.order).mergeSort fun a b => decide (a ≤ b)).length < 2 := by
    rw [List.length_mergeSort, List.length_map]
    exact short
  unfold groupGap?
  dsimp only
  split
  · rename_i sorted _
    rw [sorted, List.length_cons, List.length_cons] at length
    omega
  · rfl

/-- The orders of the columns of a label as they are checked: ascending, from the least to the
greatest. -/
structure Ascending (columns : List Column) (label : String) (orders : List Int)
    (least greatest : Int) : Prop where
  perm : orders.Perm (ordersOf columns label)
  sorted : orders.Pairwise (· ≤ ·)
  first : orders.head? = some least
  last : orders.getLast? = some greatest

section Checks

variable (ascending : Ascending columns label orders least greatest)

include ascending

theorem Ascending.inside (member : order ∈ orders) : least ≤ order ∧ order ≤ greatest :=
  between_of_sorted ascending.sorted ascending.first ascending.last member

theorem Ascending.spans : Spans (ordersOf columns label) least greatest :=
  ⟨ascending.perm.mem_iff.mp (List.mem_of_head? ascending.first),
    ascending.perm.mem_iff.mp (List.mem_of_getLast? ascending.last),
    fun _ member => ascending.inside (ascending.perm.mem_iff.mpr member)⟩

/-- An order that is repeated is one of two columns of the label. -/
theorem Ascending.witnessed_shared (repeated : firstRepeated? orders = some order) :
    MergeHeaderGap.Witnessed columns ⟨label, order, .shared⟩ := by
  have twice := two_le_count_of_firstRepeated? repeated
  have member : order ∈ orders :=
    List.count_pos_iff.mp (Nat.lt_of_lt_of_le Nat.zero_lt_two twice)
  rw [ascending.perm.count_eq] at twice
  exact ⟨least, greatest, ascending.spans, ascending.inside member, twice⟩

/-- An order that is missing is between two of the label. -/
theorem Ascending.witnessed_missing (distinct : firstRepeated? orders = none)
    (missing : firstMissing? orders = some order) :
    MergeHeaderGap.Witnessed columns ⟨label, order,
      .missing least greatest ((columns.find? (·.order = order)).map Column.header)⟩ := by
  obtain ⟨absent, ⟨a, isThere, less⟩, ⟨b, isThere', more⟩⟩ :=
    of_firstMissing? (pairwise_lt_of_firstRepeated? ascending.sorted distinct) missing
  have above := (ascending.inside isThere).1
  have below := (ascending.inside isThere').2
  exact ⟨least, greatest, ascending.spans, by dsimp only; omega, rfl, rfl,
    fun member => absent (ascending.perm.mem_iff.mpr member), rfl⟩

/-- Another column that is found is between two of the label. -/
theorem Ascending.witnessed_intruder {c : Column} (found : columns.find?
      (fun c => c.mergeHeader ≠ label && least ≤ c.order && c.order ≤ greatest) = some c) :
    MergeHeaderGap.Witnessed columns
      ⟨label, c.order, .intruder least greatest c.header⟩ := by
  have isOne := List.find?_some found
  simp only [Bool.and_eq_true, decide_eq_true_eq] at isOne
  obtain ⟨⟨differs, above⟩, below⟩ := isOne
  exact ⟨least, greatest, ascending.spans, ⟨above, below⟩, rfl, rfl, c,
    List.mem_of_find?_eq_some found, differs, rfl, rfl⟩

/-- Where nothing is found, the columns of the label fit. -/
theorem Ascending.fits (distinct : firstRepeated? orders = none)
    (complete : firstMissing? orders = none) (alone : columns.find?
      (fun c => c.mergeHeader ≠ label && least ≤ c.order && c.order ≤ greatest) = none) :
    Fits columns label := by
  have ascends := pairwise_lt_of_firstRepeated? ascending.sorted distinct
  refine ⟨least, greatest, ascending.spans,
    ascending.perm.nodup_iff.mp (ascends.imp Int.ne_of_lt), fun order => ?_, ?_⟩
  · refine ⟨ascending.spans.between order, fun within => ascending.perm.mem_iff.mp ?_⟩
    exact mem_of_firstMissing? complete ascending.first ascending.last within.1 within.2
  · intro c member differs within
    refine List.find?_eq_none.mp alone c member ?_
    simp [differs, within]

end Checks

/-- The orders of several columns ascend when they are sorted. -/
theorem exists_ascending (several : 2 ≤ (membersOf columns label).length) :
    ∃ least second rest greatest, (ordersOf columns label).mergeSort
        (fun a b => decide (a ≤ b)) = least :: second :: rest ∧
      Ascending columns label (least :: second :: rest) least greatest := by
  have sorted := pairwise_mergeSort_by id (ordersOf columns label)
  have perm := List.mergeSort_perm (ordersOf columns label) fun a b => decide (a ≤ b)
  have length := perm.length_eq
  rw [ordersOf, List.length_map, ← ordersOf] at length
  simp only [id_eq] at sorted
  generalize (ordersOf columns label).mergeSort (fun a b => decide (a ≤ b)) = orders at *
  match orders, length with
  | [], length => rw [← length] at several; cases several
  | [_], length => rw [← length] at several; exact absurd several (Nat.not_succ_le_self 1)
  | least :: second :: rest, _ =>
    obtain ⟨greatest, last⟩ := Option.ne_none_iff_exists'.mp
      (mt List.getLast?_eq_none_iff.mp (List.cons_ne_nil least (second :: rest)))
    exact ⟨least, second, rest, greatest, rfl, perm, sorted, rfl, last⟩

/-- **The columns of a label fit, or a gap is found that is witnessed.** -/
theorem of_groupGap? (several : 2 ≤ (membersOf columns label).length) :
    (groupGap? columns (membersOf columns label) label = none → Fits columns label) ∧
    ∀ gap, groupGap? columns (membersOf columns label) label = some gap →
      gap.label = label ∧ gap.Witnessed columns := by
  obtain ⟨least, second, rest, greatest, sorted, ascending⟩ := exists_ascending several
  unfold groupGap?
  rw [← ordersOf, sorted]
  simp only [ascending.last]
  split
  · rename_i order repeated
    refine ⟨fun noGap => absurd noGap (Option.some_ne_none _), fun gap isGap => ?_⟩
    cases isGap
    exact ⟨rfl, ascending.witnessed_shared repeated⟩
  · rename_i order distinct missing
    refine ⟨fun noGap => absurd noGap (Option.some_ne_none _), fun gap isGap => ?_⟩
    cases isGap
    exact ⟨rfl, ascending.witnessed_missing distinct missing⟩
  · rename_i distinct complete
    refine ⟨fun noGap => ?_, fun gap isGap => ?_⟩
    · exact ascending.fits distinct complete (Option.map_eq_none_iff.mp noGap)
    · obtain ⟨c, found, rfl⟩ := Option.map_eq_some_iff.mp isGap
      exact ⟨rfl, ascending.witnessed_intruder found⟩

/-! ### All labels -/

/-- The groups that are checked are those of the labels of columns. -/
theorem mem_labelGroups {members : List Column} :
    (label, members) ∈ groupBy Column.mergeHeader (columns.filter (·.mergeHeader ≠ "")) ↔
      label ≠ "" ∧ label ∈ labelsOf columns ∧ members = membersOf columns label := by
  have group : label ≠ "" → (columns.filter (·.mergeHeader ≠ "")).filter (·.mergeHeader = label) =
      membersOf columns label := by
    intro labelled
    rw [List.filter_filter, membersOf]
    refine List.filter_congr fun c _ => ?_
    by_cases same : c.mergeHeader = label
    · simp [same, labelled]
    · simp [same]
  rw [groupBy, List.mem_map]
  constructor
  · rintro ⟨key, isKey, same⟩
    cases same
    obtain ⟨c, isColumn, rfl⟩ := List.mem_map.mp (mem_distinct.mp isKey)
    obtain ⟨isColumn, labelled⟩ := List.mem_filter.mp isColumn
    exact ⟨of_decide_eq_true labelled, List.mem_map_of_mem isColumn,
      group (of_decide_eq_true labelled)⟩
  · rintro ⟨labelled, isLabel, rfl⟩
    obtain ⟨c, isColumn, rfl⟩ := List.mem_map.mp isLabel
    refine ⟨c.mergeHeader, mem_distinct.mpr (List.mem_map_of_mem ?_), ?_⟩
    · exact List.mem_filter.mpr ⟨isColumn, decide_eq_true labelled⟩
    · rw [group labelled]

/-- A check that succeeds has found no gap in the columns of any label. -/
theorem groupGap?_of_checkMergeHeaders (checked : checkMergeHeaders columns = .ok ())
    (labelled : label ≠ "") (member : label ∈ labelsOf columns) :
    groupGap? columns (membersOf columns label) label = none := by
  unfold checkMergeHeaders at checked
  dsimp only at checked
  split at checked
  · cases checked
  · rename_i noGap
    exact List.findSome?_eq_none_iff.mp noGap _ (mem_labelGroups.mpr ⟨labelled, member, rfl⟩)

/-- A gap that the check tells is one in the columns of a label. -/
theorem of_checkMergeHeaders_eq_error (refused : checkMergeHeaders columns = .error gap) :
    ∃ label, label ≠ "" ∧ groupGap? columns (membersOf columns label) label = some gap := by
  unfold checkMergeHeaders at refused
  dsimp only at refused
  split at refused
  · rename_i found
    cases refused
    obtain ⟨⟨label, members⟩, isGroup, isGap⟩ := List.exists_of_findSome?_eq_some found
    obtain ⟨labelled, _, rfl⟩ := mem_labelGroups.mp isGroup
    exact ⟨label, labelled, isGap⟩
  · cases refused

/-- A gap that the check tells is one of several columns with a label that do not fit. -/
theorem witnessed_of_checkMergeHeaders (refused : checkMergeHeaders columns = .error gap) :
    gap.label ≠ "" ∧ 2 ≤ (membersOf columns gap.label).length ∧ gap.Witnessed columns := by
  obtain ⟨label, labelled, isGap⟩ := of_checkMergeHeaders_eq_error refused
  have several : 2 ≤ (membersOf columns label).length := by
    by_contra short
    rw [groupGap?_of_short (by omega)] at isGap
    cases isGap
  obtain ⟨rfl, witnessed⟩ := (of_groupGap? several).2 gap isGap
  exact ⟨labelled, several, witnessed⟩

/-- The columns of a label that passed the check fit, if there are several. -/
theorem fits_of_checkMergeHeaders (checked : checkMergeHeaders columns = .ok ())
    (labelled : label ≠ "") (several : 2 ≤ (membersOf columns label).length) :
    Fits columns label := by
  have member : label ∈ labelsOf columns := by
    obtain ⟨c, isMember⟩ := List.exists_mem_of_length_pos (Nat.lt_of_lt_of_le Nat.zero_lt_two several)
    obtain ⟨isColumn, same⟩ := List.mem_filter.mp isMember
    exact List.mem_map.mpr ⟨c, isColumn, of_decide_eq_true same⟩
  exact (of_groupGap? several).1 (groupGap?_of_checkMergeHeaders checked labelled member)

/-- **The check accepts columns just when those of every label on several columns fit.** Where it
does not, the label it names is on several columns that do not fit, and the order it tells is one
from the least to the greatest of these that shows it. -/
theorem checkMergeHeaders_iff (columns : List Column) :
    (checkMergeHeaders columns = .ok () ↔ ∀ label, label ≠ "" →
      2 ≤ (membersOf columns label).length → Fits columns label) ∧
    ∀ gap, checkMergeHeaders columns = .error gap →
      gap.label ≠ "" ∧ 2 ≤ (membersOf columns gap.label).length ∧
        ¬ Fits columns gap.label ∧ gap.Witnessed columns := by
  refine ⟨⟨fun checked label labelled several => ?_, fun fit => ?_⟩, fun gap refused => ?_⟩
  · exact fits_of_checkMergeHeaders checked labelled several
  · cases outcome : checkMergeHeaders columns with
    | ok done => rfl
    | error gap =>
      obtain ⟨labelled, several, witnessed⟩ := witnessed_of_checkMergeHeaders outcome
      exact absurd (fit gap.label labelled several) witnessed.not_fits
  · obtain ⟨labelled, several, witnessed⟩ := witnessed_of_checkMergeHeaders refused
    exact ⟨labelled, several, witnessed.not_fits, witnessed⟩

/-! ### A column between two of a label -/

/-- Three columns of the orders 1, 2 and 3, the middle one without the label of the others. -/
def partedColumns : List Column :=
  [{ Column.plain ⟨0, "Plain", ⟨.empty, 12, false⟩⟩ "paid" 1 with mergeHeader := "Sums" },
    Column.plain ⟨0, "Plain", ⟨.empty, 12, false⟩⟩ "note" 2,
    { Column.plain ⟨0, "Plain", ⟨.empty, 12, false⟩⟩ "due" 3 with mergeHeader := "Sums" }]

/-- The label is refused with the order of the column in the middle, which shows that it is apart. -/
theorem checkMergeHeaders_iff_sample :
    checkMergeHeaders partedColumns = .error ⟨"Sums", 2, .missing 1 3 (some "note")⟩ ∧
      ¬ Fits partedColumns "Sums" ∧
      MergeHeaderGap.Witnessed partedColumns ⟨"Sums", 2, .missing 1 3 (some "note")⟩ := by
  have refused : checkMergeHeaders partedColumns =
      .error ⟨"Sums", 2, .missing 1 3 (some "note")⟩ := by cbv
  exact ⟨refused, ((checkMergeHeaders_iff partedColumns).2 _ refused).2.2⟩

end SheetExport
