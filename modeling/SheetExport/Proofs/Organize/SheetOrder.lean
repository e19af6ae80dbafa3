/-
**The order of sheets.**

* `declaredOrders groups` — the orders that groups declare, in their sequence; they are all different
  just when no two groups declare the same (`not_nodup_declaredOrders_iff`);
* `EarliestRepeat groups order first second` — `second` is the earliest group whose order was given
  before, and `first` is the group that declared it;
* `earliestRepeat_of_firstDuplicateOrder?` — looking for it finds just that group, or none if all
  orders are different;
* `exists_ascending_of_orderSheets` — ordering puts groups without an order first, as they come, and
  the others behind them in strictly ascending order;
* `not_fails_prepareSheets_single` — the sheets of one source never have the same order, as only the
  sheet that its type declares has one;
* `orderSheets_prepareSheets_single` puts these together.
-/

import Mathlib.Data.List.Pairwise
import SheetExport.Proofs.Organize.Shares

namespace SheetExport

/-! ### Declared orders -/

/-- The orders that groups declare. -/
def declaredOrders (groups : SheetGroups) : List Int := groups.filterMap (·.2.order)

/-- The group at a place declares an order. -/
def DeclaresAt (groups : SheetGroups) (i : Nat) (order : Int) : Prop :=
  ∃ g, groups[i]? = some g ∧ g.2.order = some order

/-- The group `second` is the earliest whose order was declared before; the one that declared it is
`first`. -/
def EarliestRepeat (groups : SheetGroups) (order : Int) (first second : String) : Prop :=
  ∃ i, (∃ g, groups[i]? = some (second, g) ∧ g.order = some order) ∧
    (∃ g, (first, g) ∈ groups.take i ∧ g.order = some order) ∧
    (declaredOrders (groups.take i)).Nodup

section Declared

variable {groups earlier : SheetGroups} {order : Int}

theorem mem_declaredOrders_iff :
    order ∈ declaredOrders groups ↔ ∃ g ∈ groups, g.2.order = some order :=
  List.mem_filterMap

/-- Some order is declared twice just when the groups at two places declare the same. -/
theorem not_nodup_declaredOrders_iff : ¬ (declaredOrders groups).Nodup ↔
    ∃ i j order, i < j ∧ DeclaresAt groups i order ∧ DeclaresAt groups j order := by
  rw [List.Nodup, declaredOrders, List.pairwise_filterMap, List.pairwise_iff_getElem]
  constructor
  · intro shared
    refine Classical.not_not.mp fun apart =>
      shared fun i j hi hj less order isOrder order' isOrder' => ?_
    rintro rfl
    exact apart ⟨i, j, order, less, ⟨_, List.getElem?_eq_getElem hi, isOrder⟩,
      ⟨_, List.getElem?_eq_getElem hj, isOrder'⟩⟩
  · rintro ⟨i, j, order, less, ⟨g, isFirst, isOrder⟩, ⟨h, isSecond, isOrder'⟩⟩ apart
    obtain ⟨hi, rfl⟩ := List.getElem?_eq_some_iff.mp isFirst
    obtain ⟨hj, rfl⟩ := List.getElem?_eq_some_iff.mp isSecond
    exact apart i j hi hj less order isOrder order isOrder' rfl

/-- Groups that declare the same among different orders are the same. -/
theorem eq_of_nodup_declaredOrders (apart : (declaredOrders groups).Nodup)
    {g h : String × SheetGroup} (isGroup : g ∈ groups) (isGroup' : h ∈ groups)
    (isOrder : g.2.order = some order) (isOrder' : h.2.order = some order) : g = h := by
  obtain ⟨i, hi, rfl⟩ := List.mem_iff_getElem.mp isGroup
  obtain ⟨j, hj, rfl⟩ := List.mem_iff_getElem.mp isGroup'
  have first : DeclaresAt groups i order := ⟨_, List.getElem?_eq_getElem hi, isOrder⟩
  have second : DeclaresAt groups j order := ⟨_, List.getElem?_eq_getElem hj, isOrder'⟩
  rcases Nat.lt_trichotomy i j with less | rfl | greater
  · exact absurd apart (not_nodup_declaredOrders_iff.mpr ⟨i, j, order, less, first, second⟩)
  · rfl
  · exact absurd apart (not_nodup_declaredOrders_iff.mpr ⟨j, i, order, greater, second, first⟩)

/-- Behind a repeat the orders are not different any more. -/
theorem not_nodup_take {i n : Nat} (behind : i < n) (again : DeclaresAt groups i order)
    (before : ∃ g ∈ groups.take i, g.2.order = some order) :
    ¬ (declaredOrders (groups.take n)).Nodup := by
  obtain ⟨g, isBefore, isOrder⟩ := before
  obtain ⟨k, hk, rfl⟩ := List.mem_iff_getElem.mp isBefore
  obtain ⟨h, isRepeat, isOrder'⟩ := again
  have less : k < i := Nat.lt_of_lt_of_le hk (List.length_take_le i groups)
  refine not_nodup_declaredOrders_iff.mpr ⟨k, i, order, less, ⟨_, ?_, isOrder⟩, h, ?_, isOrder'⟩
  · rw [List.getElem?_take_of_lt (Nat.lt_trans less behind), List.getElem_take]
    exact List.getElem?_eq_getElem _
  · rw [List.getElem?_take_of_lt behind]
    exact isRepeat

/-- There is one earliest repeat at most. -/
theorem EarliestRepeat.unique {order' : Int} {first second first' second' : String}
    (one : EarliestRepeat groups order first second)
    (other : EarliestRepeat groups order' first' second') :
    order = order' ∧ first = first' ∧ second = second' := by
  obtain ⟨i, ⟨g, again, isOrder⟩, ⟨d, isBefore, declares⟩, apart⟩ := one
  obtain ⟨j, ⟨h, again', isOrder'⟩, ⟨e, isBefore', declares'⟩, apart'⟩ := other
  rcases Nat.lt_trichotomy i j with less | rfl | greater
  · exact absurd apart' (not_nodup_take less ⟨_, again, isOrder⟩ ⟨_, isBefore, declares⟩)
  · rw [again] at again'
    cases again'
    rw [isOrder] at isOrder'
    cases isOrder'
    cases eq_of_nodup_declaredOrders apart isBefore isBefore' declares declares'
    exact ⟨rfl, rfl, rfl⟩
  · exact absurd apart (not_nodup_take greater ⟨_, again', isOrder'⟩ ⟨_, isBefore', declares'⟩)

/-- A repeat is one of two places that declare the same order. -/
theorem EarliestRepeat.not_nodup {first second : String}
    (isRepeat : EarliestRepeat groups order first second) : ¬ (declaredOrders groups).Nodup := by
  obtain ⟨i, ⟨g, again, isOrder⟩, ⟨d, isBefore, declares⟩, _⟩ := isRepeat
  have inside := (List.getElem?_eq_some_iff.mp again).1
  have behind := not_nodup_take inside ⟨_, again, isOrder⟩ ⟨_, isBefore, declares⟩
  rwa [List.take_length] at behind

/-! ### Looking for a repeat -/

/-- What was declared, the last first. -/
def declared (groups : SheetGroups) : List (Int × String) :=
  (groups.filterMap fun g => g.2.order.map (·, g.1)).reverse

theorem mem_declared_iff {name : String} :
    (order, name) ∈ declared groups ↔ ∃ g, (name, g) ∈ groups ∧ g.order = some order := by
  rw [declared, List.mem_reverse, List.mem_filterMap]
  constructor
  · rintro ⟨⟨n, g⟩, isGroup, same⟩
    obtain ⟨o, isOrder, pair⟩ := Option.map_eq_some_iff.mp same
    cases pair
    exact ⟨g, isGroup, isOrder⟩
  · rintro ⟨g, isGroup, isOrder⟩
    exact ⟨(name, g), isGroup, by simp [isOrder]⟩

theorem declaredOrders_append_singleton (groups : SheetGroups) (g : String × SheetGroup) :
    declaredOrders (groups ++ [g]) = declaredOrders groups ++ g.2.order.toList := by
  rw [declaredOrders, List.filterMap_append]
  cases isOrder : g.2.order <;> simp [declaredOrders, isOrder]

theorem declared_append_singleton (groups : SheetGroups) (g : String × SheetGroup) :
    declared (groups ++ [g]) = (g.2.order.map (·, g.1)).toList ++ declared groups := by
  rw [declared, List.filterMap_append, List.reverse_append]
  cases isOrder : g.2.order <;> simp [declared, isOrder]

/-- What is not found was not declared. -/
theorem notMem_declaredOrders (unknown : (declared groups).lookup order = none) :
    order ∉ declaredOrders groups := by
  intro member
  obtain ⟨⟨name, g⟩, isGroup, declares⟩ := mem_declaredOrders_iff.mp member
  have isDeclared := mem_declared_iff.mpr ⟨g, isGroup, declares⟩
  have unequal := List.lookup_eq_none_iff.mp unknown _ isDeclared
  simp at unequal

/-- What is found was declared by a group of that name. -/
theorem exists_of_lookup_declared {first : String}
    (found : (declared groups).lookup order = some first) :
    ∃ g, (first, g) ∈ groups ∧ g.order = some order := by
  obtain ⟨_, _, same, _⟩ := List.lookup_eq_some_iff.mp found
  exact mem_declared_iff.mp (by simp [same])

/-- **Looking for a repeat finds the earliest one.** The induction is on the groups that are left;
the orders of those before are all different. -/
theorem earliestRepeat_of_firstDuplicateOrder? (groups earlier : SheetGroups)
    (apart : (declaredOrders earlier).Nodup) :
    match firstDuplicateOrder? (declared earlier) groups with
    | none => (declaredOrders (earlier ++ groups)).Nodup
    | some (order, first, second) => EarliestRepeat (earlier ++ groups) order first second := by
  induction groups generalizing earlier with
  | nil =>
    rw [firstDuplicateOrder?, List.append_nil]
    exact apart
  | cons group groups ih =>
    obtain ⟨name, group⟩ := group
    have further := ih (earlier ++ [(name, group)])
    rw [declaredOrders_append_singleton, declared_append_singleton, ← List.append_cons] at further
    rw [firstDuplicateOrder?]
    cases isOrder : group.order with
    | none =>
      rw [isOrder, Option.toList_none, List.append_nil] at further
      exact further apart
    | some order =>
      rw [isOrder] at further
      dsimp only
      cases found : (declared earlier).lookup order with
      | some first =>
        obtain ⟨g, isGroup, declares⟩ := exists_of_lookup_declared found
        refine ⟨earlier.length, ⟨group, by simp, isOrder⟩, ⟨g, ?_, declares⟩, ?_⟩
        · rw [List.take_left]
          exact isGroup
        · rw [List.take_left]
          exact apart
      | none =>
        refine further (List.nodup_append.mpr ⟨apart, List.nodup_singleton order, ?_⟩)
        rintro _ member _ last rfl
        exact notMem_declaredOrders found (List.mem_singleton.mp last ▸ member)

/-- Ordering fails with the earliest repeat, and with nothing else. -/
theorem orderSheets_eq_error_iff {failure : Failure} : orderSheets groups = .error failure ↔
    ∃ order first second, failure = .duplicateOrder order first second ∧
      EarliestRepeat groups order first second := by
  have found := earliestRepeat_of_firstDuplicateOrder? groups [] List.nodup_nil
  rw [List.nil_append, show declared [] = [] from rfl] at found
  unfold orderSheets
  cases outcome : firstDuplicateOrder? [] groups with
  | none =>
    rw [outcome] at found
    constructor
    · intro failed
      cases failed
    · rintro ⟨order, first, second, _, isRepeat⟩
      exact absurd found isRepeat.not_nodup
  | some result =>
    obtain ⟨order, first, second⟩ := result
    rw [outcome] at found
    constructor
    · intro failed
      cases failed
      exact ⟨order, first, second, rfl, found⟩
    · rintro ⟨order', first', second', rfl, isRepeat⟩
      obtain ⟨rfl, rfl, rfl⟩ := EarliestRepeat.unique found isRepeat
      rfl

/-- Ordering fails just when an order is declared twice. -/
theorem exists_error_orderSheets_iff :
    (∃ failure, orderSheets groups = .error failure) ↔ ¬ (declaredOrders groups).Nodup := by
  constructor
  · rintro ⟨failure, failed⟩
    obtain ⟨order, first, second, _, isRepeat⟩ := orderSheets_eq_error_iff.mp failed
    exact isRepeat.not_nodup
  · intro shared
    have found := earliestRepeat_of_firstDuplicateOrder? groups [] List.nodup_nil
    rw [List.nil_append, show declared [] = [] from rfl] at found
    unfold orderSheets
    cases outcome : firstDuplicateOrder? [] groups with
    | none =>
      rw [outcome] at found
      exact absurd found shared
    | some result => exact ⟨_, rfl⟩

/-! ### Ascending orders -/

theorem map_order_eq (ordered : ∀ g ∈ groups, g.2.order.isSome = true) :
    groups.map (·.2.order) = (declaredOrders groups).map some := by
  induction groups with
  | nil => rfl
  | cons g groups ih =>
    obtain ⟨order, isOrder⟩ := Option.isSome_iff_exists.mp (ordered g List.mem_cons_self)
    have declares : declaredOrders (g :: groups) = order :: declaredOrders groups :=
      List.filterMap_cons_some isOrder
    rw [List.map_cons, ih fun h member => ordered h (List.mem_cons_of_mem _ member), declares,
      List.map_cons, isOrder]

/-- **Groups without an order come first, as they are, and the others in ascending order.** -/
theorem exists_ascending_of_orderSheets {ordered : SheetGroups}
    (sorted : orderSheets groups = .ok ordered) :
    ∃ rest, ordered = groups.filter (·.2.order.isNone) ++ rest ∧
      rest.map (·.2.order) = (declaredOrders rest).map some ∧
      (declaredOrders rest).Pairwise (· < ·) := by
  have apart : (declaredOrders groups).Nodup := by
    refine Classical.not_not.mp fun shared => ?_
    obtain ⟨failure, failed⟩ := exists_error_orderSheets_iff.mpr shared
    rw [sorted] at failed
    cases failed
  unfold orderSheets at sorted
  split at sorted
  · cases sorted
  · cases sorted
    have perm := List.mergeSort_perm (groups.filter (·.2.order.isSome)) fun a b =>
      decide (a.2.order.getD 0 ≤ b.2.order.getD 0)
    have sorted := pairwise_mergeSort_by (fun g : String × SheetGroup => g.2.order.getD 0)
      (groups.filter (·.2.order.isSome))
    refine ⟨_, rfl, map_order_eq fun g member => ?_, ?_⟩
    · exact (List.mem_filter.mp (perm.mem_iff.mp member)).2
    · have different : (declaredOrders ((groups.filter (·.2.order.isSome)).mergeSort fun a b =>
          decide (a.2.order.getD 0 ≤ b.2.order.getD 0))).Nodup :=
        (perm.filterMap _).nodup_iff.mpr (apart.sublist (List.filter_sublist.filterMap _))
      refine ((List.pairwise_filterMap.mpr (sorted.imp fun {a b} less x isX y isY => ?_)).and
        different).imp fun {x y} both => lt_of_le_of_ne both.1 both.2
      rwa [isX, isY] at less

end Declared

/-! ### The sheets of one source -/

/-- Only the sheet of the type's own name keeps an order. -/
theorem Sheet.eq_name_of_mem_split {s : Sheet} {p : String × Sheet} (isPart : p ∈ s.split)
    {order : Int} (isOrder : p.2.order = some order) : p.1 = s.name := by
  rw [(splitsInto_split s).order p isPart] at isOrder
  split at isOrder
  · assumption
  · cases isOrder

namespace Workspace

variable {w w' : Workspace} {key : String} {number : Nat} {groups : SheetGroups}

/-- The order of a sheet is that of the type's own sheet. -/
theorem eq_name_of_entryFor? {source : String × Nat} {share : Share}
    (isShare : IsShareOf w w' source share) :
    ∃ own, ∀ name entry order, share.entryFor? name = some entry → entry.sheet.order = some order →
      name = own := by
  obtain ⟨whole, split, _, _, _, parts⟩ := isShare.described
  refine ⟨whole.value.name, fun name entry order found isOrder => ?_⟩
  obtain ⟨_, _, same, _⟩ := List.lookup_eq_some_iff.mp found
  have isEntry : (name, entry) ∈ share.part := by simp [same]
  obtain ⟨pair, isPair, made⟩ := List.mem_map.mp isEntry
  cases made
  have isPart := (List.of_mem_zip isPair).1
  rw [parts] at isPart
  exact Sheet.eq_name_of_mem_split isPart isOrder

/-- **The groups of one source declare different orders.** -/
theorem nodup_declaredOrders_single (reachable : w.catalog.Reachable)
    (present : number < w.supplies.length)
    (grouped : Yields (groupSheets [(key, number)]) w groups w') :
    (declaredOrders groups).Nodup := by
  have independent : ([(key, number)].map Prod.snd).Nodup := List.nodup_singleton _
  obtain ⟨shares, firstCome⟩ := (groupSheets_firstCome reachable independent
    (by simpa using present)).1 groups w' grouped
  obtain ⟨share, _, isShare, none, rfl⟩ := List.forall₂_cons_left_iff.mp firstCome.given
  obtain rfl := List.forall₂_nil_left_iff.mp none
  obtain ⟨own, isOwn⟩ := eq_name_of_entryFor? isShare
  have named : ∀ g ∈ groups, ∀ order, g.2.order = some order → g.1 = own := by
    intro g isGroup order isOrder
    obtain ⟨first, rest, entries, declares⟩ := firstCome.order g isGroup
    have isEntry : first ∈ g.2.entries := by rw [entries]; exact List.mem_cons_self
    rw [firstCome.entries g isGroup] at isEntry
    obtain ⟨s, isMember, found⟩ := List.mem_filterMap.mp isEntry
    rw [List.mem_singleton.mp isMember] at found
    exact isOwn g.1 first order found (declares.symm.trans isOrder)
  refine Classical.not_not.mp fun shared => ?_
  obtain ⟨i, j, order, less, ⟨g, isFirst, isOrder⟩, h, isSecond, isOrder'⟩ :=
    not_nodup_declaredOrders_iff.mp shared
  have names : (groups.map Prod.fst).Nodup := firstCome.names ▸ distinct_nodup _
  have inside := (List.getElem?_eq_some_iff.mp isSecond).1
  refine List.nodup_iff_getElem?_ne_getElem?.mp names i j less (by simpa using inside) ?_
  rw [List.getElem?_map, List.getElem?_map, isFirst, isSecond, Option.map_some, Option.map_some,
    named g (List.mem_of_getElem? isFirst) order isOrder,
    named h (List.mem_of_getElem? isSecond) order isOrder']

/-- Groups are refused only for what types declare, for a fault, or for a source without records. -/
theorem failsOnly_groupSheets (sources : List (String × Nat)) :
    FailsOnly (fun f => f.IsOfType ∨ ∃ key, f = .emptySource key) (groupSheets sources) := by
  refine .foldlM (fun groups source _ w failure w' fails => ?_) []
  rcases fails_addSource fails with failed | isOfType
  · exact failsOnly_firstRecord _ _ failed
  · exact Or.inl isOfType

/-- Merging knows no order of sheets. -/
theorem failsOnly_merge (name : String) (order : Option Int) (entries : List SheetEntry)
    (strict : Bool) :
    FailsOnly (fun f => ∀ order first second, f ≠ .duplicateOrder order first second)
      (merge name order entries strict) := by
  have newReading : ∀ (P : Failure → Prop), FailsOnly P newReading :=
    fun P _ _ _ fails => nomatch (Prod.mk.inj fails).1
  unfold merge
  split
  · exact .throw fun _ _ _ => nofun
  · exact .bind (newReading _) fun _ => .pure _
  · dsimp only
    split
    · split
      · exact .bind (.throw fun _ _ _ => nofun) fun _ => .bind (newReading _) fun _ => .pure _
      · exact .bind (.pure _) fun _ => .bind (newReading _) fun _ => .pure _
    · split
      · exact .bind (.throw fun _ _ _ => nofun) fun _ => .bind (newReading _) fun _ => .pure _
      · refine .bind (failsOnly_onCatalog (Catalog.failsOnly_warn _)) fun _ => ?_
        exact .bind (.pure _) fun _ => .bind (newReading _) fun _ => .pure _

/-- **The sheets of one source never have the same order.** -/
theorem not_fails_prepareSheets_single (reachable : w.catalog.Reachable)
    (present : number < w.supplies.length) (strict : Bool) (order : Int) (first second : String) :
    ¬ Fails (prepareSheets [(key, number)] strict) w (.duplicateOrder order first second) w' := by
  intro fails
  rcases fails_bind_iff.mp fails with failed | ⟨groups, w₁, grouped, others⟩
  · rcases failsOnly_groupSheets _ failed with isOfType | ⟨k, same⟩
    · exact isOfType
    · cases same
  · split at others
    · rename_i failure failed
      have apart := nodup_declaredOrders_single reachable present grouped
      exact exists_error_orderSheets_iff.mp ⟨failure, failed⟩ apart
    · exact FailsOnly.mapM (fun group _ => failsOnly_merge _ _ _ strict)
        others order first second rfl

/-- **Sheets are ordered.** Groups are refused just when two of them declare the same order; the
failure names the earliest group whose order was declared before, and the group that declared it.
Else the groups without an order come first, in their sequence, and the others follow in strictly
ascending order. The sheets of a single source are never refused for their orders. -/
theorem orderSheets_prepareSheets_single :
    (∀ groups failure, orderSheets groups = .error failure ↔
      ∃ order first second, failure = .duplicateOrder order first second ∧
        EarliestRepeat groups order first second) ∧
    (∀ groups, (∃ failure, orderSheets groups = .error failure) ↔
      ∃ i j order, i < j ∧ DeclaresAt groups i order ∧ DeclaresAt groups j order) ∧
    (∀ groups ordered, orderSheets groups = .ok ordered →
      ordered.Perm groups ∧
        ∃ rest, ordered = groups.filter (·.2.order.isNone) ++ rest ∧
          rest.map (·.2.order) = (declaredOrders rest).map some ∧
          (declaredOrders rest).Pairwise (· < ·)) ∧
    ∀ (w : Workspace), w.catalog.Reachable → ∀ key number, number < w.supplies.length →
      ∀ strict order first second w',
        ¬ Fails (prepareSheets [(key, number)] strict) w
          (.duplicateOrder order first second) w' := by
  refine ⟨fun groups failure => orderSheets_eq_error_iff, fun groups => ?_,
    fun groups ordered sorted =>
      ⟨perm_of_orderSheets sorted, exists_ascending_of_orderSheets sorted⟩, ?_⟩
  · rw [exists_error_orderSheets_iff, not_nodup_declaredOrders_iff]
  · intro w reachable key number present strict order first second w'
    exact not_fails_prepareSheets_single reachable present strict order first second

/-- The sheets of one of two sources of one sheet. -/
theorem orderSheets_prepareSheets_single_sample :
    ¬ ∃ w', Fails (prepareSheets [("paid", 0)] true) labelledWorkspace
      (.duplicateOrder 1 "Invoices" "Invoices") w' := by
  rintro ⟨w', fails⟩
  exact orderSheets_prepareSheets_single.2.2.2 labelledWorkspace .empty "paid" 0 (by decide) true 1
    "Invoices" "Invoices" w' fails

end Workspace

end SheetExport
