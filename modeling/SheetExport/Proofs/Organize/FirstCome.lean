/-
**Groups of entries, first come first served.**

* `groupsOf given` — one group for every sheet named among the given entries, in the order of first
  naming, with the entries for it and the order that the first of them declares;
* `ignoredOrder? given key p` — the warning of an entry of the source `key` that declares another
  order than the first one for its sheet;
* `run_addEntry`, `run_addEntries` — adding entries to the groups of those before gives the groups of
  all of them, and warns of every order that is ignored. It never fails.
-/

import SheetExport.Proofs.Organize.Gathering

namespace SheetExport

/-! ### Groups -/

/-- The order that the first entry for a sheet declares. -/
def orderFor (name : String) (given : List NamedEntry) : Option Int :=
  (entriesFor name given).head?.bind (·.sheet.order)

/-- The group of the entries for a sheet. -/
def groupFor (given : List NamedEntry) (name : String) : SheetGroup :=
  ⟨orderFor name given, entriesFor name given, false⟩

/-- The groups of entries, one for each sheet, in the order of first naming. -/
def groupsOf (given : List NamedEntry) : SheetGroups :=
  (distinct (given.map Prod.fst)).map fun name => (name, groupFor given name)

/-- The entry of a sheet of a type, which reads a stream. -/
def entryOf (type : RecordType) (pair : (String × Sheet) × Nat) : NamedEntry :=
  (pair.1.1, ⟨pair.2, type, pair.1.2⟩)

/-- The warning of an entry whose order is not the one of the first entry for its sheet. -/
def ignoredOrder? (given : List NamedEntry) (key : String) (p : NamedEntry) : Option Warning :=
  if p.2.sheet.order = orderFor p.1 given then none
  else some (.orderIgnored p.1 key p.2.sheet.order (orderFor p.1 given))

section Groups

variable {given : List NamedEntry} {name : String} {entry : SheetEntry}

/-- A further element is distinct at the end, unless it was there before. -/
theorem distinct_append_singleton {κ : Type} [DecidableEq κ] (ks : List κ) (k : κ) :
    distinct (ks ++ [k]) = if k ∈ ks then distinct ks else distinct ks ++ [k] := by
  induction ks with
  | nil => rfl
  | cons first ks ih =>
    rw [List.cons_append, distinct, distinct, ih]
    by_cases isFirst : k = first
    · rw [isFirst, if_pos List.mem_cons_self]
      split
      · rfl
      · rw [List.filter_append, List.filter_cons_of_neg (by simp), List.filter_nil, List.append_nil]
    · by_cases later : k ∈ ks
      · rw [if_pos later, if_pos (List.mem_cons_of_mem _ later)]
      · rw [if_neg later, if_neg fun member => (List.mem_cons.mp member).elim isFirst later,
          List.filter_append, List.filter_cons_of_pos (by simpa using isFirst), List.filter_nil,
          List.cons_append]

theorem entriesFor_ne_nil (named : name ∈ given.map Prod.fst) : entriesFor name given ≠ [] := by
  obtain ⟨p, member, rfl⟩ := List.mem_map.mp named
  intro none
  rw [entriesFor, List.map_eq_nil_iff, List.filter_eq_nil_iff] at none
  exact none p member (decide_eq_true rfl)

theorem entriesFor_append_singleton (name : String) (p : NamedEntry) :
    entriesFor name (given ++ [p]) =
      if p.1 = name then entriesFor name given ++ [p.2] else entriesFor name given := by
  rw [entriesFor_append]
  by_cases same : p.1 = name
  · simp [entriesFor, same]
  · simp [entriesFor, same]

/-- Once a sheet is named, its order is fixed. -/
theorem orderFor_append (named : name ∈ given.map Prod.fst) (more : List NamedEntry) :
    orderFor name (given ++ more) = orderFor name given := by
  obtain ⟨first, rest, same⟩ := List.exists_cons_of_ne_nil (entriesFor_ne_nil named)
  rw [orderFor, orderFor, entriesFor_append, same]
  rfl

theorem ignoredOrder?_append {p : NamedEntry} (isGiven : p ∈ given) (more : List NamedEntry)
    (key : String) : ignoredOrder? (given ++ more) key p = ignoredOrder? given key p := by
  rw [ignoredOrder?, ignoredOrder?, orderFor_append (List.mem_map_of_mem isGiven)]

/-- Entries of one sheet do not matter to the groups of others. -/
theorem groupFor_of_ne {n : String} (other : name ≠ n) :
    groupFor (given ++ [(name, entry)]) n = groupFor given n := by
  rw [groupFor, groupFor, orderFor, orderFor, entriesFor_append_singleton, if_neg other]

theorem groupFor_new (unnamed : name ∉ given.map Prod.fst) :
    groupFor (given ++ [(name, entry)]) name = ⟨entry.sheet.order, [entry], false⟩ := by
  rw [groupFor, orderFor, entriesFor_append_singleton, if_pos rfl, entriesFor_of_notMem unnamed]
  rfl

theorem groupFor_known (named : name ∈ given.map Prod.fst) :
    groupFor (given ++ [(name, entry)]) name =
      { groupFor given name with entries := (groupFor given name).entries ++ [entry] } := by
  rw [groupFor, orderFor_append named, entriesFor_append_singleton, if_pos rfl]
  rfl

theorem lookup_groupsOf (given : List NamedEntry) (name : String) :
    (groupsOf given).lookup name =
      if name ∈ given.map Prod.fst then some (groupFor given name) else none := by
  split
  · rename_i named
    exact List.lookup_graph _ (mem_distinct.mpr named)
  · rename_i unnamed
    refine List.lookup_eq_none_iff.mpr fun p member => ?_
    obtain ⟨n, isName, rfl⟩ := List.mem_map.mp member
    refine bne_iff_ne.mpr ?_
    rintro rfl
    exact unnamed (mem_distinct.mp isName)

theorem groupsOf_append_new (unnamed : name ∉ given.map Prod.fst) :
    groupsOf (given ++ [(name, entry)]) =
      groupsOf given ++ [(name, ⟨entry.sheet.order, [entry], false⟩)] := by
  rw [groupsOf, List.map_append, List.map_singleton, distinct_append_singleton, if_neg unnamed,
    List.map_append, List.map_singleton, groupFor_new unnamed, groupsOf]
  congr 1
  refine List.map_congr_left fun n isName => ?_
  rw [groupFor_of_ne]
  rintro rfl
  exact unnamed (mem_distinct.mp isName)

theorem groupsOf_append_known (named : name ∈ given.map Prod.fst) :
    groupsOf (given ++ [(name, entry)]) = (groupsOf given).map fun (n, g) =>
      if n = name then (n, { g with entries := g.entries ++ [entry] }) else (n, g) := by
  rw [groupsOf, List.map_append, List.map_singleton, distinct_append_singleton, if_pos named,
    groupsOf, List.map_map]
  refine List.map_congr_left fun n _ => ?_
  simp only [Function.comp_apply]
  split
  · rename_i same
    rw [same, groupFor_known named]
  · rename_i other
    rw [groupFor_of_ne (Ne.symm other)]

end Groups

/-! ### Adding entries -/

namespace Workspace

/-- The workspace with further warnings. -/
def warned (w : Workspace) (warnings : List Warning) : Workspace :=
  { w with catalog := { w.catalog with warnings := w.catalog.warnings ++ warnings } }

theorem warned_nil (w : Workspace) : w.warned [] = w := by
  rw [warned, List.append_nil]

theorem warned_append (w : Workspace) (warnings more : List Warning) :
    (w.warned warnings).warned more = w.warned (warnings ++ more) := by
  rw [warned, warned, warned, List.append_assoc]

/-- **One more entry** joins the groups of those before. -/
theorem run_addEntry (given : List NamedEntry) (key name : String) (entry : SheetEntry)
    (w : Workspace) :
    Yields (addEntry key (groupsOf given) name entry) w (groupsOf (given ++ [(name, entry)]))
      (w.warned (ignoredOrder? (given ++ [(name, entry)]) key (name, entry)).toList) := by
  unfold addEntry
  rw [lookup_groupsOf]
  by_cases named : name ∈ given.map Prod.fst
  · rw [if_pos named, groupsOf_append_known named, ignoredOrder?, orderFor_append named]
    dsimp only [groupFor]
    by_cases same : entry.sheet.order = orderFor name given
    · rw [if_pos same, if_neg (not_not_intro same.symm), Option.toList_none, warned_nil]
      exact .pure _ _
    · rw [if_neg same, if_pos (Ne.symm same)]
      rfl
  · -- The first entry for a sheet declares the order itself.
    have own : orderFor name (given ++ [(name, entry)]) = entry.sheet.order := by
      rw [orderFor, entriesFor_append_singleton, if_pos rfl, entriesFor_of_notMem named]
      rfl
    rw [if_neg named, groupsOf_append_new named, ignoredOrder?, own, if_pos rfl, Option.toList_none,
      warned_nil]
    exact .pure _ _

/-- **The entries of a source** join the groups of those before. Later entries do not change whether
the order of an earlier one is ignored. -/
theorem run_addEntries (key : String) (type : RecordType) (pairs : List ((String × Sheet) × Nat))
    (given : List NamedEntry) (w : Workspace) :
    Yields (pairs.foldlM (fun groups ((name, sheet), stream) =>
        addEntry key groups name ⟨stream, type, sheet⟩) (groupsOf given)) w
      (groupsOf (given ++ pairs.map (entryOf type)))
      (w.warned ((pairs.map (entryOf type)).filterMap
        (ignoredOrder? (given ++ pairs.map (entryOf type)) key))) := by
  induction pairs generalizing given w with
  | nil =>
    rw [List.map_nil, List.append_nil, List.filterMap_nil, warned_nil]
    exact .pure _ _
  | cons pair pairs ih =>
    have first := run_addEntry given key pair.1.1 ⟨pair.2, type, pair.1.2⟩ w
    have others := ih (given ++ [entryOf type pair])
      (w.warned (ignoredOrder? (given ++ [entryOf type pair]) key (entryOf type pair)).toList)
    have together := yields_foldlM_cons_iff.mpr ⟨_, _, first, others⟩
    have isGiven : entryOf type pair ∈ given ++ [entryOf type pair] :=
      List.mem_append_right _ List.mem_cons_self
    have same := ignoredOrder?_append isGiven (pairs.map (entryOf type)) key
    rw [warned_append, ← same, List.append_assoc, List.singleton_append] at together
    rw [List.map_cons, List.filterMap_cons]
    cases warning : ignoredOrder? (given ++ entryOf type pair :: pairs.map (entryOf type)) key
        (entryOf type pair) with
    | none =>
      rw [warning] at together
      exact together
    | some w =>
      rw [warning] at together
      exact together

end Workspace

end SheetExport
