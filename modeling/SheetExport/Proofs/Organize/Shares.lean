/-
**What each source gives to the groups.**

* `Share` — the type of a source's first record, the sheets of that type, and a stream for each of
  them; `Share.part` are the entries that it gives;
* `Share.IsOf w w' source share` — the share is the one that a source gives on the way from `w` to
  `w'`, whatever its stream does after its first record;
* `exists_share_of_addSource`, `exists_shares_of_addSources` — a source, or one source after the
  other, adds the entries of its share to the groups of those before, and leaves the other sources as
  they are;
* `fails_addSource_emptySource_iff` — a source is said to be empty just when its stream has ended;
* `FirstCome`, `groupSheets_firstCome`: grouping gives a group for every sheet, in the order of first
  encounter, with one entry for each source of the sheet and the order that the first one declares,
  and warns of the others; or it names the first source without records.
-/

import SheetExport.Proofs.Catalog.Description
import SheetExport.Proofs.Organize.FirstCome
import SheetExport.Proofs.Organize.Labels

namespace SheetExport

/-! ### Streams -/

namespace Stream

variable {α : Type} {s : Stream α} {a : α}

/-- A record that is seen is the first one held. -/
theorem head?_held_of_peek (seen : s.peek.1 = .ok a) : s.held.head? = some a := by
  obtain ⟨_ | ⟨b, buffer⟩, source, taken⟩ := s
  · rcases source with _ | ⟨b | fault, rest⟩
    · cases seen
    · cases seen
      rfl
    · cases seen
  · cases seen
    rfl

/-- Draining does not depend on a record having been seen. -/
theorem fst_drain_of_peek (seen : s.peek.1 = .ok a) : s.peek.2.drain.1 = s.drain.1 := by
  obtain ⟨_ | ⟨b, buffer⟩, source, taken⟩ := s
  · rcases source with _ | ⟨b | fault, rest⟩
    · cases seen
    · simp only [peek, pull, drain, recordsOf]
      cases (recordsOf rest).2 <;> rfl
    · cases seen
  · rfl

/-- Looking ahead meets the end just when nothing is left. -/
theorem peek_exhausted_iff : s.peek.1 = .error .exhausted ↔ s.buffer = [] ∧ s.source = [] := by
  obtain ⟨_ | ⟨b, buffer⟩, source, taken⟩ := s
  · rcases source with _ | ⟨b | fault, rest⟩ <;> simp [peek, pull]
  · simp [peek]

end Stream

/-! ### Shares -/

/-- What a source gives: the type of its first record, the sheets of that type, and the streams that
they read. -/
structure Share where
  key : String
  type : RecordType
  sheets : List (String × Sheet)
  streams : List Nat

namespace Share

/-- The names of the sheets. -/
def names (s : Share) : List String := s.sheets.map Prod.fst

/-- The entries, one for each sheet. -/
def part (s : Share) : List NamedEntry := (s.sheets.zip s.streams).map (entryOf s.type)

/-- The entry for a sheet, if the type has such a sheet. -/
def entryFor? (s : Share) (name : String) : Option SheetEntry := s.part.lookup name

end Share

namespace Workspace

variable {w w₁ w' : Workspace} {key : String} {number : Nat} {given : List NamedEntry}
  {groups groups' : SheetGroups} {sources : List (String × Nat)} {share : Share}

/-- The share that a source gives: its sheets are the split of the sheet of its first record's type.
One sheet reads the source itself, which stands before its first record again; several read copies of
all its records. -/
structure IsShareOf (w w' : Workspace) (source : String × Nat) (share : Share) : Prop where
  key : share.key = source.1
  first : ∃ r, (w.held source.2).head? = some r ∧ r.type = share.type
  described : Catalog.Described w'.catalog share.type share.sheets
  length : share.streams.length = share.sheets.length
  undivided : share.sheets.length = 1 →
    share.streams = [source.2] ∧ w'.stream source.2 = (w.stream source.2).peek.2
  divided : share.sheets.length ≠ 1 → ∃ records, (w.stream source.2).drain.1 = .ok records ∧
    ∀ n ∈ share.streams, w.supplies.length ≤ n ∧ w'.Holds n records

/-! ### One source -/

/-- The first record is seen, and nothing else happens. -/
theorem exists_of_firstRecord {r : Record} (yields : Yields (firstRecord key number) w r w') :
    (w.stream number).peek.1 = .ok r ∧ Keeps w w' [number] ∧ w'.catalog = w.catalog ∧
      (number < w.supplies.length →
        number < w'.supplies.length ∧ w'.stream number = (w.stream number).peek.2) := by
  have catalog : w'.catalog = w.catalog :=
    ((upholds_firstRecord (I := (· = w.catalog)) key number).of_yields rfl yields).1
  obtain ⟨outcome, w₁, peeked, last⟩ := yields_bind_iff.mp yields
  obtain ⟨w₂, peeks, keeps, after⟩ := exists_yields_onStream w number Stream.peek
  obtain ⟨rfl, rfl⟩ := peeked.unique peeks
  split at last
  · rename_i first seen
    obtain ⟨rfl, rfl⟩ := yields_pure_iff.mp last
    exact ⟨seen, keeps, catalog, after⟩
  · exact absurd last (not_yields_throw _)
  · exact absurd last (not_yields_throw _)

/-- One sheet reads the source itself, several read copies of what it still gives. -/
structure Streamed (w w' : Workspace) (number : Nat) (count : Nat) (numbers : List Nat) : Prop where
  keeps : Keeps w w' [number]
  catalog : w'.catalog = w.catalog
  length : numbers.length = count
  undivided : count = 1 → numbers = [number] ∧ w' = w
  divided : count ≠ 1 → ∃ records, (w.stream number).drain.1 = .ok records ∧
    ∀ n ∈ numbers, w.supplies.length ≤ n ∧ w'.Holds n records

theorem streamed_of_streamsFor {sheets : List (String × Sheet)} {numbers : List Nat}
    (yields : Yields (streamsFor number sheets) w numbers w') :
    Streamed w w' number sheets.length numbers := by
  have catalog : w'.catalog = w.catalog :=
    ((upholds_streamsFor (I := (· = w.catalog)) number sheets).of_yields rfl yields).1
  unfold streamsFor at yields
  split at yields
  · obtain ⟨rfl, rfl⟩ := yields_pure_iff.mp yields
    exact ⟨.refl w' _, rfl, rfl, fun _ => ⟨rfl, rfl⟩, fun several => absurd rfl several⟩
  · rename_i several
    obtain ⟨outcome, w₁, drained, copied⟩ := yields_bind_iff.mp yields
    obtain ⟨w₂, drains, keeps, _⟩ := exists_yields_onStream w number Stream.drain
    obtain ⟨rfl, rfl⟩ := drained.unique drains
    split at copied
    · exact absurd copied (not_yields_throw _)
    · rename_i records all
      obtain ⟨length, _, new, holds, keeps'⟩ := of_addStreams copied
      refine ⟨keeps.trans (keeps'.mono (List.nil_subset _)), catalog, length, fun one => ?_,
        fun _ => ⟨records, all, fun n member => ⟨?_, holds n member⟩⟩⟩
      · obtain ⟨sheet, rfl⟩ := List.length_eq_one_iff.mp one
        exact absurd rfl (several sheet)
      · exact Nat.le_trans keeps.count (new n member)

/-- What a source adds: the entries of its share, and warnings of the orders that they ignore. -/
structure Adds (w w' : Workspace) (given : List NamedEntry) (groups' : SheetGroups)
    (shares : List Share) : Prop where
  groups : groups' = groupsOf (given ++ shares.flatMap Share.part)
  warnings : w'.catalog.ignoredOrders = w.catalog.ignoredOrders ++ shares.flatMap fun share =>
    share.part.filterMap (ignoredOrder? (given ++ shares.flatMap Share.part) share.key)
  catalog : w.catalog.Extends w'.catalog

theorem ignoredOrders_warned (w : Workspace) (given part : List NamedEntry) (key : String) :
    (w.warned (part.filterMap (ignoredOrder? given key))).catalog.ignoredOrders =
      w.catalog.ignoredOrders ++ part.filterMap (ignoredOrder? given key) := by
  show (w.catalog.warnings ++ part.filterMap (ignoredOrder? given key)).filter _ = _
  rw [List.filter_append]
  refine congrArg _ (List.filter_eq_self.mpr fun warning member => ?_)
  obtain ⟨p, _, ignored⟩ := List.mem_filterMap.mp member
  unfold ignoredOrder? at ignored
  split at ignored
  · cases ignored
  · cases ignored
    rfl

/-- **A source gives its share**, whatever was given before, and touches no other stream. -/
theorem exists_share_of_addSource (splits : w.catalog.SplitsOfSheets)
    (present : number < w.supplies.length)
    (yields : Yields (addSource (groupsOf given) key number) w groups' w') :
    ∃ share, IsShareOf w w' (key, number) share ∧ Adds w w' given groups' [share] ∧
      Keeps w w' [number] := by
  obtain ⟨r, w₁, peeked, afterPeek⟩ := yields_bind_iff.mp yields
  obtain ⟨seen, keeps₁, catalog₁, after₁⟩ := exists_of_firstRecord peeked
  obtain ⟨present₁, stream₁⟩ := after₁ present
  obtain ⟨p, w₂, onCatalog, afterCatalog⟩ := yields_bind_iff.mp afterPeek
  obtain ⟨describes, keeps₂, supplies₂⟩ := keeps_of_onCatalog onCatalog
  have stream₂ : w₂.stream number = w₁.stream number := keeps₂.streams number (by simp) present₁
  rw [catalog₁] at describes
  obtain ⟨numbers, w₃, copied, added⟩ := yields_bind_iff.mp afterCatalog
  have streamed := streamed_of_streamsFor copied
  obtain ⟨rfl, rfl⟩ :=
    added.unique (run_addEntries key r.type (p.value.zip numbers) given w₃)
  let share : Share := ⟨key, r.type, p.value, numbers⟩
  have ignored := ignoredOrders_warned w₃ (given ++ share.part) share.part key
  have extended : w.catalog.Extends (w₃.warned (share.part.filterMap
      (ignoredOrder? (given ++ share.part) key))).catalog := by
    refine (Catalog.extends_of_describeSheets describes).trans ?_
    rw [← streamed.catalog]
    exact Catalog.extends_of_warned _ _
  have described : Catalog.Described w₃.catalog r.type p.value := by
    rw [streamed.catalog]
    exact Catalog.described_of_describeSheets splits describes
  refine ⟨share, ⟨rfl, ⟨r, Stream.head?_held_of_peek seen, rfl⟩, described, streamed.length,
    fun one => ?_, fun several => ?_⟩, ⟨?_, ?_, extended⟩, ?_⟩
  · obtain ⟨same, rfl⟩ := streamed.undivided one
    exact ⟨same, stream₂.trans stream₁⟩
  · obtain ⟨records, drained, copies⟩ := streamed.divided several
    rw [stream₂, stream₁, Stream.fst_drain_of_peek seen] at drained
    refine ⟨records, drained, fun n member => ⟨?_, (copies n member).2⟩⟩
    exact Nat.le_trans (Nat.le_trans keeps₁.count keeps₂.count) (copies n member).1
  · rw [List.flatMap_singleton]
    rfl
  · rw [← Catalog.ignoredOrders_of_describeSheets describes, ← streamed.catalog,
      List.flatMap_singleton, List.flatMap_singleton]
    exact ignored
  · have kept := (keeps₁.trans (keeps₂.mono (List.nil_subset _))).trans streamed.keeps
    exact ⟨kept.streams, kept.count, kept.ended, kept.nextReading⟩

/-! ### One source after the other -/

/-- A share is not touched by sources that come later. -/
theorem IsShareOf.forward {source : String × Nat} {numbers : List Nat}
    (isShare : IsShareOf w w₁ source share) (keeps : Keeps w₁ w' numbers)
    (extended : w₁.catalog.Extends w'.catalog) (present : source.2 < w₁.supplies.length)
    (notMem : source.2 ∉ numbers) (old : ∀ n ∈ numbers, n < w.supplies.length) :
    IsShareOf w w' source share where
  key := isShare.key
  first := isShare.first
  described := extended.described _ _ isShare.described
  length := isShare.length
  undivided one := by
    obtain ⟨same, stream⟩ := isShare.undivided one
    exact ⟨same, (keeps.streams _ notMem present).trans stream⟩
  divided several := by
    obtain ⟨records, drained, copies⟩ := isShare.divided several
    refine ⟨records, drained, fun n member => ⟨(copies n member).1, ?_⟩⟩
    -- The copies are younger than all sources.
    exact (copies n member).2.keeps keeps fun isNumber =>
      absurd (old n isNumber) (Nat.not_lt.mpr (copies n member).1)

/-- A share is that of the source as it was before other sources gave theirs. -/
theorem IsShareOf.backward {source : String × Nat} {numbers : List Nat} (keeps : Keeps w w₁ numbers)
    (isShare : IsShareOf w₁ w' source share) (present : source.2 < w.supplies.length)
    (notMem : source.2 ∉ numbers) : IsShareOf w w' source share := by
  have same := keeps.streams source.2 notMem present
  obtain ⟨key, first, described, length, undivided, divided⟩ := isShare
  unfold held at first
  rw [same] at first undivided divided
  refine ⟨key, first, described, length, undivided, fun several => ?_⟩
  obtain ⟨records, drained, copies⟩ := divided several
  exact ⟨records, drained, fun n member =>
    ⟨Nat.le_trans keeps.count (copies n member).1, (copies n member).2⟩⟩

theorem Adds.cons {shares : List Share} (first : Adds w w₁ given groups [share])
    (others : Adds w₁ w' (given ++ share.part) groups' shares) :
    Adds w w' given groups' (share :: shares) := by
  have all : given ++ (share :: shares).flatMap Share.part =
      given ++ share.part ++ shares.flatMap Share.part := by
    rw [List.flatMap_cons, List.append_assoc]
  refine ⟨by rw [all]; exact others.groups, ?_, first.catalog.trans others.catalog⟩
  rw [all, others.warnings, first.warnings, List.flatMap_singleton, List.flatMap_singleton,
    List.flatMap_cons, List.append_assoc]
  congr 2
  refine List.filterMap_congr fun p member => ?_
  exact (ignoredOrder?_append (List.mem_append_right given member) _ _).symm

/-- **One source after the other gives its share.** The induction is on the sources that are left:
those that gave theirs are not touched any more, and those to come stand as they did at first. -/
theorem exists_shares_of_addSources (given : List NamedEntry) (splits : w.catalog.SplitsOfSheets)
    (independent : (sources.map Prod.snd).Nodup)
    (present : ∀ source ∈ sources, source.2 < w.supplies.length)
    (yields : Yields (sources.foldlM (fun groups (key, number) => addSource groups key number)
      (groupsOf given)) w groups' w') :
    ∃ shares, List.Forall₂ (IsShareOf w w') sources shares ∧ Adds w w' given groups' shares ∧
      Keeps w w' (sources.map Prod.snd) := by
  induction sources generalizing given w with
  | nil =>
    obtain ⟨rfl, rfl⟩ := yields_foldlM_nil_iff.mp yields
    refine ⟨[], .nil, ⟨?_, ?_, .refl _⟩, .refl _ _⟩
    · rw [List.flatMap_nil, List.append_nil]
    · rw [List.flatMap_nil, List.append_nil]
  | cons source sources ih =>
    obtain ⟨key, number⟩ := source
    rw [List.map_cons, List.nodup_cons] at independent
    obtain ⟨groups₁, w₁, first, others⟩ := yields_foldlM_cons_iff.mp yields
    have isPresent := present (key, number) List.mem_cons_self
    obtain ⟨share, isShare, adds, keeps⟩ := exists_share_of_addSource splits isPresent first
    have presentRest : ∀ source ∈ sources, source.2 < w.supplies.length :=
      fun source member => present source (List.mem_cons_of_mem _ member)
    have groups := adds.groups
    rw [List.flatMap_singleton] at groups
    rw [groups] at others
    obtain ⟨shares, areShares, adds', keeps'⟩ := ih _ (adds.catalog.splits splits) independent.2
      (fun source member => Nat.lt_of_lt_of_le (presentRest source member) keeps.count) others
    refine ⟨share :: shares, .cons ?_ ?_, adds.cons adds', ?_⟩
    · refine isShare.forward keeps' adds'.catalog (Nat.lt_of_lt_of_le isPresent keeps.count)
        independent.1 fun n member => ?_
      obtain ⟨source, isLeft, rfl⟩ := List.mem_map.mp member
      exact presentRest source isLeft
    · have apart : ∀ source ∈ sources,
          source.2 < w.supplies.length ∧ source.2 ∉ [number] := by
        refine fun source member => ⟨presentRest source member, fun same => independent.1 ?_⟩
        exact List.mem_map.mpr ⟨source, member, List.mem_singleton.mp same⟩
      refine ((List.forall₂_and_left _ _).mpr ⟨apart, areShares⟩).imp fun source share both => ?_
      exact both.2.backward keeps both.1.1 both.1.2
    · exact (keeps.mono (by simp)).trans (keeps'.mono (by simp))

/-! ### Sources without records -/

/-- A record is missed just where the stream has ended. -/
theorem fails_firstRecord_emptySource_iff {k : String} :
    (∃ w', Fails (firstRecord key number) w (.emptySource k) w') ↔
      k = key ∧ (w.stream number).peek.1 = .error .exhausted := by
  obtain ⟨w₁, peeks, _⟩ := exists_yields_onStream w number Stream.peek
  constructor
  · rintro ⟨w', fails⟩
    rcases fails_bind_iff.mp fails with failed | ⟨outcome, w₂, peeked, failed⟩
    · exact (failsOnly_onStream (P := fun _ => False) _ _ failed).elim
    · obtain ⟨rfl, rfl⟩ := peeked.unique peeks
      split at failed
      · exact absurd failed not_fails_pure
      · rename_i ended
        obtain ⟨same, _⟩ := fails_throw_iff.mp failed
        cases same
        exact ⟨rfl, ended⟩
      · obtain ⟨same, _⟩ := fails_throw_iff.mp failed
        cases same
  · rintro ⟨rfl, ended⟩
    refine ⟨w₁, fails_bind_iff.mpr (Or.inr ⟨_, w₁, peeks, ?_⟩)⟩
    rw [ended]
    exact fails_throw_iff.mpr ⟨rfl, rfl⟩

theorem failsOnly_firstRecord (key : String) (number : Nat) :
    FailsOnly (fun f => f.IsOfType ∨ ∃ key, f = .emptySource key) (firstRecord key number) := by
  refine .bind (failsOnly_onStream _ _) fun outcome => ?_
  split
  · exact .pure _
  · exact .throw (Or.inr ⟨key, rfl⟩)
  · exact .throw (Or.inl trivial)

theorem failsOnly_streamsFor (number : Nat) (sheets : List (String × Sheet)) :
    FailsOnly Failure.IsOfType (streamsFor number sheets) := by
  unfold streamsFor
  split
  · exact .pure _
  · refine .bind (failsOnly_onStream _ _) fun outcome => ?_
    split
    · exact .throw trivial
    · exact .mapM fun _ _ _ _ _ fails => nomatch (Prod.mk.inj fails).1

/-- An entry is always added. -/
theorem failsOnly_addEntry {P : Failure → Prop} (key : String) (groups : SheetGroups) (name : String)
    (entry : SheetEntry) : FailsOnly P (addEntry key groups name entry) := by
  unfold addEntry
  split
  · exact .pure _
  · dsimp only
    split
    · exact .bind (failsOnly_onCatalog (Catalog.failsOnly_warn _)) fun _ => .pure _
    · exact .pure _

/-- Behind the first record, a source fails only by what the type of the record declares, or by a
fault of the source. -/
theorem fails_addSource {failure : Failure}
    (fails : Fails (addSource groups key number) w failure w') :
    Fails (firstRecord key number) w failure w' ∨ failure.IsOfType := by
  rcases fails_bind_iff.mp fails with failed | ⟨r, w₁, _, afterPeek⟩
  · exact Or.inl failed
  · refine Or.inr ((FailsOnly.bind (failsOnly_onCatalog (Catalog.failsOnly_describeSheets r.type))
      fun p => .bind (failsOnly_streamsFor _ _) fun numbers => ?_) afterPeek)
    exact .foldlM (fun groups pair _ => failsOnly_addEntry _ _ _ _) groups

/-- **A source is said to be empty just when its stream has ended.** -/
theorem fails_addSource_emptySource_iff {k : String} :
    (∃ w', Fails (addSource groups key number) w (.emptySource k) w') ↔
      k = key ∧ (w.stream number).buffer = [] ∧ (w.stream number).source = [] := by
  rw [← Stream.peek_exhausted_iff, ← fails_firstRecord_emptySource_iff]
  constructor
  · rintro ⟨w', fails⟩
    rcases fails_addSource fails with failed | isOfType
    · exact ⟨w', failed⟩
    · exact isOfType.elim
  · rintro ⟨w', failed⟩
    exact ⟨w', fails_bind_iff.mpr (Or.inl failed)⟩

/-! ### The groups of sources -/

section Entries

/-- Entries of different names have one place each. -/
theorem entriesFor_eq_lookup {name : String} (different : (given.map Prod.fst).Nodup) :
    entriesFor name given = (given.lookup name).toList := by
  induction given with
  | nil => rfl
  | cons p given ih =>
    rw [List.map_cons, List.nodup_cons] at different
    rw [entriesFor, List.lookup_cons]
    by_cases same : p.1 = name
    · have others : entriesFor name given = [] := entriesFor_of_notMem (same ▸ different.1)
      rw [entriesFor] at others
      rw [List.filter_cons_of_pos (by simpa using same), List.map_cons, others, same,
        beq_self_eq_true]
      rfl
    · rw [List.filter_cons_of_neg (by simpa using same), beq_eq_false_iff_ne.mpr (Ne.symm same)]
      exact ih different.2

theorem IsShareOf.map_fst_part {source : String × Nat} (isShare : IsShareOf w w' source share) :
    share.part.map Prod.fst = share.names := by
  have whole : (share.sheets.zip share.streams).map Prod.fst = share.sheets :=
    List.map_fst_zip (Nat.le_of_eq isShare.length.symm)
  rw [Share.part, Share.names, List.map_map]
  conv_rhs => rw [← whole, List.map_map]
  rfl

theorem IsShareOf.nodup {source : String × Nat} (isShare : IsShareOf w w' source share) :
    share.names.Nodup := by
  obtain ⟨whole, split, _, _, _, parts⟩ := isShare.described
  rw [Share.names, parts]
  exact Sheet.nodup_split whole.value

/-- The entries for a sheet, one for each source whose type has the sheet. -/
theorem entriesFor_flatMap_part (name : String) {shares : List Share}
    (areShares : List.Forall₂ (IsShareOf w w') sources shares) :
    entriesFor name (shares.flatMap Share.part) = shares.filterMap (·.entryFor? name) := by
  induction areShares with
  | nil => rfl
  | cons isShare _ ih =>
    have different := isShare.nodup
    rw [← isShare.map_fst_part] at different
    rw [List.flatMap_cons, entriesFor_append, ih, entriesFor_eq_lookup different,
      List.filterMap_cons, Share.entryFor?]
    cases List.lookup name (Share.part _) <;> rfl

theorem map_fst_flatMap_part {shares : List Share}
    (areShares : List.Forall₂ (IsShareOf w w') sources shares) :
    (shares.flatMap Share.part).map Prod.fst = shares.flatMap Share.names := by
  induction areShares with
  | nil => rfl
  | cons isShare _ ih =>
    rw [List.flatMap_cons, List.map_append, ih, isShare.map_fst_part, List.flatMap_cons]

end Entries

/-- The warnings of entries that declare another order than their group has. -/
def ignoredOrdersOf (groups : SheetGroups) (shares : List Share) : List Warning :=
  shares.flatMap fun share => share.part.filterMap fun (name, entry) =>
    let kept := (groups.lookup name).bind (·.order)
    if entry.sheet.order = kept then none
    else some (.orderIgnored name share.key entry.sheet.order kept)

/-- The groups of sources, first come first served. -/
structure FirstCome (w w' : Workspace) (sources : List (String × Nat)) (groups : SheetGroups)
    (shares : List Share) : Prop where
  /-- Every source gives its share. -/
  given : List.Forall₂ (IsShareOf w w') sources shares
  /-- There is a group for every sheet, in the order of first encounter. -/
  names : groups.map Prod.fst = distinct (shares.flatMap Share.names)
  /-- A group has one entry for each source whose type has the sheet, in the order of the sources. -/
  entries : ∀ g ∈ groups, g.2.entries = shares.filterMap (·.entryFor? g.1)
  /-- The first entry declares the order of the group. -/
  order : ∀ g ∈ groups, ∃ first rest, g.2.entries = first :: rest ∧ g.2.order = first.sheet.order
  untaken : ∀ g ∈ groups, g.2.consumed = false
  /-- Every entry that declares another order is warned of, once. -/
  warnings : w'.catalog.ignoredOrders = w.catalog.ignoredOrders ++ ignoredOrdersOf groups shares

theorem firstCome_of_adds {shares : List Share}
    (areShares : List.Forall₂ (IsShareOf w w') sources shares) (adds : Adds w w' [] groups shares) :
    FirstCome w w' sources groups shares := by
  have grouped : groups = groupsOf (shares.flatMap Share.part) := adds.groups
  refine ⟨areShares, ?_, ?_, ?_, ?_, ?_⟩
  · rw [grouped, groupsOf, List.map_map, ← map_fst_flatMap_part areShares]
    exact List.map_id _
  · intro g isGroup
    rw [grouped] at isGroup
    obtain ⟨name, _, rfl⟩ := List.mem_map.mp isGroup
    exact entriesFor_flatMap_part name areShares
  · intro g isGroup
    rw [grouped] at isGroup
    obtain ⟨name, isName, rfl⟩ := List.mem_map.mp isGroup
    obtain ⟨first, rest, same⟩ :=
      List.exists_cons_of_ne_nil (entriesFor_ne_nil (mem_distinct.mp isName))
    refine ⟨first, rest, same, ?_⟩
    show orderFor name (shares.flatMap Share.part) = _
    rw [orderFor, same]
    rfl
  · intro g isGroup
    rw [grouped] at isGroup
    obtain ⟨name, _, rfl⟩ := List.mem_map.mp isGroup
    rfl
  · rw [adds.warnings, ignoredOrdersOf, List.nil_append, grouped]
    congr 1
    refine List.flatMap_congr fun share isShare => List.filterMap_congr fun p member => ?_
    have named : p.1 ∈ (shares.flatMap Share.part).map Prod.fst :=
      List.mem_map_of_mem (List.mem_flatMap.mpr ⟨share, isShare, member⟩)
    obtain ⟨name, entry⟩ := p
    dsimp only at named ⊢
    rw [lookup_groupsOf, if_pos named]
    rfl

/-- A source that is reached has not been touched by those before. -/
theorem stream_of_front {before after : List (String × Nat)} (splits : w.catalog.SplitsOfSheets)
    (independent : ((before ++ (key, number) :: after).map Prod.snd).Nodup)
    (present : ∀ source ∈ before ++ (key, number) :: after, source.2 < w.supplies.length)
    (passed : Yields (groupSheets before) w groups w₁) : w₁.stream number = w.stream number := by
  rw [List.map_append, List.map_cons, List.nodup_append] at independent
  obtain ⟨shares, _, _, keeps⟩ := exists_shares_of_addSources [] splits independent.1
    (fun source member => present source (List.mem_append_left _ member)) passed
  refine keeps.streams number (fun isBefore => ?_) ?_
  · exact independent.2.2 number isBefore number List.mem_cons_self rfl
  · exact present (key, number) (List.mem_append_right _ List.mem_cons_self)

/-- **Sources are grouped first come, first served.** Where grouping succeeds, each sheet has a group
with one entry for every source of the sheet, in the order of first encounter. It fails for want of
records just where the first source that fails gives none. -/
theorem groupSheets_firstCome (reachable : w.catalog.Reachable)
    (independent : (sources.map Prod.snd).Nodup)
    (present : ∀ source ∈ sources, source.2 < w.supplies.length) :
    (∀ groups w', Yields (groupSheets sources) w groups w' →
      ∃ shares, FirstCome w w' sources groups shares) ∧
    ∀ key, (∃ w', Fails (groupSheets sources) w (.emptySource key) w') ↔
      ∃ before number after groups w₁, sources = before ++ (key, number) :: after ∧
        Yields (groupSheets before) w groups w₁ ∧
        (w.stream number).buffer = [] ∧ (w.stream number).source = [] := by
  have splits := Catalog.splitsOfSheets_of_reachable reachable
  refine ⟨fun groups w' grouped => ?_, fun key => ?_⟩
  · obtain ⟨shares, areShares, adds, _⟩ :=
      exists_shares_of_addSources [] splits independent present grouped
    exact ⟨shares, firstCome_of_adds areShares adds⟩
  constructor
  · rintro ⟨w', fails⟩
    obtain ⟨before, ⟨k, number⟩, after, groups₁, w₁, rfl, passed, failed⟩ :=
      fails_foldlM_iff.mp fails
    have same := stream_of_front splits independent present passed
    obtain ⟨rfl, ended⟩ := fails_addSource_emptySource_iff.mp ⟨w', failed⟩
    rw [same] at ended
    exact ⟨before, number, after, _, w₁, rfl, passed, ended⟩
  · rintro ⟨before, number, after, groups, w₁, rfl, passed, ended⟩
    rw [← stream_of_front splits independent present passed] at ended
    obtain ⟨w', failed⟩ := fails_addSource_emptySource_iff.mpr ⟨rfl, ended⟩
    exact ⟨w', fails_foldlM_iff.mpr ⟨before, (key, number), after, _, w₁, rfl, passed, failed⟩⟩

/-- The sources of the workspace with two sources of one sheet. -/
def labelledSources : List (String × Nat) := [("paid", 0), ("due", 1)]

/-- Both sources give an entry for the sheet. -/
theorem groupSheets_firstCome_sample :
    ∃ groups w' shares, Yields (groupSheets labelledSources) labelledWorkspace groups w' ∧
      FirstCome labelledWorkspace w' labelledSources groups shares := by
  have independent : (labelledSources.map Prod.snd).Nodup := by decide
  have succeeds : ((groupSheets labelledSources).run.run labelledWorkspace).1.isOk = true := by
    decide +kernel
  cases outcome : (groupSheets labelledSources).run.run labelledWorkspace with
  | mk result w' =>
    rw [outcome] at succeeds
    cases result with
    | error e => cases succeeds
    | ok groups =>
      obtain ⟨shares, firstCome⟩ := (groupSheets_firstCome (w := labelledWorkspace) .empty
        independent (by decide)).1 groups w' outcome
      exact ⟨groups, w', shares, outcome, firstCome⟩

end Workspace

end SheetExport
