/-
**What grouping makes of named sources.**

* `Contribution records number part` — `part` is what a source of `records` in the stream `number`
  gives: one entry for every sheet of the type of its first record, and the stream itself is read
  if there is one sheet only.
* `Gathered groups given` — each sheet named among the given entries has one group, with the
  entries given for it, in their order.
* `exists_parts_of_groupSheets`: after grouping, every source has given its part, each entry has a
  stream of its own, and that stream holds all records of the source.
* `Apart w given sources` — the entries given so far read different streams of the workspace, and
  none of them is one of the sources that are still to come; each source keeps to this, whatever its
  records are and whether it fails later on (`exists_apart_of_addSource`).
* `nodup_streams_of_groupSheets`: no two entries of a group read the same stream.
-/

import Mathlib.Data.List.Forall2
import Mathlib.Data.List.Nodup
import SheetExport.Proofs.Organize.Supplies

namespace SheetExport

/-- An entry and the name of the sheet that it is for. -/
abbrev NamedEntry := String × SheetEntry

/-- The streams of entries. -/
def streamsOf (given : List NamedEntry) : List Nat := given.map (·.2.stream)

/-- What a source gives: one entry for every sheet of the type of its first record. -/
structure Contribution (records : List Record) (number : Nat) (part : List NamedEntry) : Prop where
  /-- The sheets are those that the type of the first record is described by. -/
  described : ∀ first ∈ records.head?, ∃ catalog described catalog',
    Yields (Catalog.describeSheets first.type) catalog described catalog' ∧
      part.map (fun p => (p.1, p.2.sheet)) = described.value
  types : ∀ first ∈ records.head?, ∀ p ∈ part, p.2.type = first.type
  /-- The source itself is read if there is one sheet. -/
  undivided : part.length = 1 → streamsOf part = [number]

/-- The entries given for a sheet. -/
def entriesFor (name : String) (given : List NamedEntry) : List SheetEntry :=
  (given.filter (·.1 = name)).map Prod.snd

/-- Each sheet has one group, with the entries given for it. -/
structure Gathered (groups : SheetGroups) (given : List NamedEntry) : Prop where
  distinct : (groups.map Prod.fst).Nodup
  names : ∀ name, name ∈ groups.map Prod.fst ↔ name ∈ given.map Prod.fst
  entries : ∀ g ∈ groups, g.2.entries = entriesFor g.1 given

/-! ### Entries -/

section Entries

variable {groups : SheetGroups} {given : List NamedEntry}

theorem gathered_nil : Gathered [] [] := ⟨by simp, by simp, by simp⟩

theorem entriesFor_append (name : String) (given more : List NamedEntry) :
    entriesFor name (given ++ more) = entriesFor name given ++ entriesFor name more := by
  simp [entriesFor]

theorem entriesFor_of_notMem {name : String} (notMem : name ∉ given.map Prod.fst) :
    entriesFor name given = [] := by
  rw [entriesFor, List.map_eq_nil_iff, List.filter_eq_nil_iff]
  intro p member same
  exact notMem (List.mem_map.mpr ⟨p, member, of_decide_eq_true same⟩)

/-- A group for a sheet that has none yet. -/
theorem Gathered.addGroup (gathered : Gathered groups given) {name : String} {entry : SheetEntry}
    (unknown : groups.lookup name = none) :
    Gathered (groups ++ [(name, ⟨entry.sheet.order, [entry], false⟩)])
      (given ++ [(name, entry)]) := by
  have notMem : name ∉ groups.map Prod.fst := by
    intro member
    obtain ⟨g, inGroups, same⟩ := List.mem_map.mp member
    have apart := List.lookup_eq_none_iff.mp unknown g inGroups
    simp [same] at apart
  refine ⟨?_, ?_, ?_⟩
  · rw [List.map_append]
    exact List.nodup_append.mpr ⟨gathered.distinct, by simp, by
      rintro n member _ last rfl
      simp only [List.map_cons, List.map_nil, List.mem_singleton] at last
      exact notMem (last ▸ member)⟩
  · intro n
    simp [gathered.names n]
  · intro g member
    rcases List.mem_append.mp member with known | last
    · have other : (name, entry).1 ≠ g.1 := by
        rintro rfl
        exact notMem (List.mem_map_of_mem known)
      rw [entriesFor_append, gathered.entries g known]
      simp [entriesFor, other]
    · cases List.mem_singleton.mp last
      have none : entriesFor name given = [] :=
        entriesFor_of_notMem fun member => notMem ((gathered.names name).mpr member)
      rw [entriesFor_append, none]
      simp [entriesFor]

/-- A further entry in the group of its sheet. -/
theorem Gathered.addMember (gathered : Gathered groups given) {name : String} {entry : SheetEntry}
    {group : SheetGroup} (known : groups.lookup name = some group) :
    Gathered (groups.map fun (n, g) =>
      if n = name then (n, { g with entries := g.entries ++ [entry] }) else (n, g))
      (given ++ [(name, entry)]) := by
  have sameNames : (groups.map fun (n, g) =>
      if n = name then (n, { g with entries := g.entries ++ [entry] }) else (n, g)).map Prod.fst =
      groups.map Prod.fst := by
    rw [List.map_map]
    refine List.map_congr_left fun g _ => ?_
    simp only [Function.comp_apply]
    split <;> rfl
  have member : name ∈ groups.map Prod.fst := by
    obtain ⟨before, after, same, _⟩ := List.lookup_eq_some_iff.mp known
    simp [same]
  refine ⟨by rw [sameNames]; exact gathered.distinct, ?_, ?_⟩
  · intro n
    rw [sameNames, gathered.names n, List.map_append, List.mem_append]
    constructor
    · exact Or.inl
    · rintro (before | last)
      · exact before
      · simp only [List.map_cons, List.map_nil, List.mem_singleton] at last
        rw [last]
        exact (gathered.names name).mp member
  · intro g inGroups
    obtain ⟨⟨n, old⟩, isGroup, rfl⟩ := List.mem_map.mp inGroups
    have before := gathered.entries _ isGroup
    simp only at before
    by_cases same : n = name
    · simp [same, before, entriesFor]
    · simp [same, before, entriesFor, Ne.symm same]

end Entries

namespace Workspace

variable {w w' : Workspace} {groups groups' : SheetGroups} {given : List NamedEntry}

theorem of_addEntry {key name : String} {entry : SheetEntry} (gathered : Gathered groups given)
    (yields : Yields (addEntry key groups name entry) w groups' w') :
    Gathered groups' (given ++ [(name, entry)]) ∧ Keeps w w' [] := by
  unfold addEntry at yields
  split at yields
  · rename_i unknown
    obtain ⟨rfl, rfl⟩ := yields_pure_iff.mp yields
    exact ⟨gathered.addGroup unknown, .refl _ []⟩
  · rename_i group known
    dsimp only at yields
    split at yields
    · obtain ⟨_, w₁, warned, last⟩ := yields_bind_iff.mp yields
      obtain ⟨rfl, rfl⟩ := yields_pure_iff.mp last
      exact ⟨gathered.addMember known, (keeps_of_onCatalog warned).2.1⟩
    · obtain ⟨rfl, rfl⟩ := yields_pure_iff.mp yields
      exact ⟨gathered.addMember known, .refl _ []⟩

/-- Entries added one after the other. -/
theorem of_addEntries {key : String} {type : RecordType} {pairs : List ((String × Sheet) × Nat)}
    (gathered : Gathered groups given)
    (yields : Yields (pairs.foldlM (fun groups ((name, sheet), stream) =>
      addEntry key groups name ⟨stream, type, sheet⟩) groups) w groups' w') :
    Gathered groups'
        (given ++ pairs.map fun ((name, sheet), stream) => (name, ⟨stream, type, sheet⟩)) ∧
      Keeps w w' [] := by
  induction pairs generalizing groups given w with
  | nil =>
    obtain ⟨rfl, rfl⟩ := yields_foldlM_nil_iff.mp yields
    rw [List.map_nil, List.append_nil]
    exact ⟨gathered, .refl w' []⟩
  | cons pair pairs ih =>
    obtain ⟨next, w₁, first, others⟩ := yields_foldlM_cons_iff.mp yields
    obtain ⟨gathered₁, keeps₁⟩ := of_addEntry gathered first
    obtain ⟨gathered', keeps'⟩ := ih gathered₁ others
    rw [List.append_assoc] at gathered'
    exact ⟨gathered', keeps₁.trans keeps'⟩

/-! ### Streams of entries -/

variable {number : Nat} {records : List Record}

/-- The entries for the sheets of a source read its streams, one each. -/
theorem streamsOf_zip {type : RecordType} {sheets : List (String × Sheet)} {numbers : List Nat}
    (short : numbers.length ≤ sheets.length) :
    streamsOf ((sheets.zip numbers).map
      fun ((name, sheet), stream) => (name, ⟨stream, type, sheet⟩)) = numbers := by
  rw [streamsOf, List.map_map]
  exact List.map_snd_zip short

/-- Copies of records in new streams. -/
theorem of_addStreams {sheets : List (String × Sheet)} {numbers : List Nat}
    (yields : Yields (sheets.mapM fun _ => addStream (.ofList records) none) w numbers w') :
    numbers.length = sheets.length ∧ numbers.Nodup ∧ (∀ n ∈ numbers, w.supplies.length ≤ n) ∧
      (∀ n ∈ numbers, w'.Holds n records) ∧ Keeps w w' [] := by
  induction sheets generalizing w numbers with
  | nil =>
    obtain ⟨rfl, rfl⟩ := yields_mapM_nil_iff.mp yields
    exact ⟨rfl, by simp, by simp, by simp, .refl w' []⟩
  | cons sheet sheets ih =>
    obtain ⟨n, w₁, rest, rfl, first, others⟩ := yields_mapM_cons_iff.mp yields
    have held := holds_of_addStream first
    obtain ⟨rfl, keeps₁, supplies⟩ := of_addStream first
    obtain ⟨length, distinct, new, holds, keeps⟩ := ih others
    have longer : w₁.supplies.length = w.supplies.length + 1 := by simp [supplies]
    refine ⟨by simp [length], List.nodup_cons.mpr ⟨?_, distinct⟩, ?_, ?_, keeps₁.trans keeps⟩
    · intro member
      have := new _ member
      omega
    · intro n member
      rcases List.mem_cons.mp member with rfl | later
      · exact Nat.le_refl _
      · have := new n later
        omega
    · intro n member
      rcases List.mem_cons.mp member with rfl | later
      · exact held.keeps keeps (by simp)
      · exact holds n later

/-- The streams for the sheets of a source: all different, each the source itself or new, and each
with all its records. -/
structure StreamsFor (w w' : Workspace) (number : Nat) (records : List Record) (count : Nat)
    (numbers : List Nat) : Prop where
  length : numbers.length = count
  distinct : numbers.Nodup
  own : ∀ n ∈ numbers, n = number ∨ w.supplies.length ≤ n
  holds : ∀ n ∈ numbers, w'.Holds n records
  undivided : count = 1 → numbers = [number]
  keeps : Keeps w w' [number]

theorem of_streamsFor {sheets : List (String × Sheet)} {numbers : List Nat}
    (holds : w.Holds number records)
    (yields : Yields (streamsFor number sheets) w numbers w') :
    StreamsFor w w' number records sheets.length numbers := by
  unfold streamsFor at yields
  split at yields
  · obtain ⟨rfl, rfl⟩ := yields_pure_iff.mp yields
    exact ⟨rfl, by simp, by simp, by simpa using holds, fun _ => rfl, .refl w' _⟩
  · rename_i several
    obtain ⟨outcome, w₁, drained, copied⟩ := yields_bind_iff.mp yields
    obtain ⟨w₂, drains, keeps₁, -⟩ := exists_yields_onStream w number Stream.drain
    obtain ⟨s', drain⟩ := holds.2.drain
    rw [drain] at drains
    obtain ⟨rfl, rfl⟩ := drained.unique drains
    obtain ⟨length, distinct, new, holds', keeps⟩ := of_addStreams copied
    refine ⟨length, distinct, fun n member => Or.inr ?_, holds', fun one => ?_,
      keeps₁.trans (keeps.mono (by simp))⟩
    · exact Nat.le_trans keeps₁.count (new n member)
    · obtain ⟨sheet, rfl⟩ := List.length_eq_one_iff.mp one
      exact absurd rfl (several sheet)

/-! ### Sources -/

/-- A part of the given entries, all of whose streams are the source's own or new and hold its
records. -/
structure Given (w w' : Workspace) (number : Nat) (records : List Record)
    (part : List NamedEntry) : Prop where
  contribution : Contribution records number part
  distinct : (streamsOf part).Nodup
  own : ∀ n ∈ streamsOf part, n = number ∨ w.supplies.length ≤ n
  holds : ∀ n ∈ streamsOf part, w'.Holds n records

theorem of_firstRecord {key : String} {first r : Record} {records : List Record}
    (holds : w.Holds number (first :: records)) (yields : Yields (firstRecord key number) w r w') :
    r = first ∧ Keeps w w' [number] ∧ w'.Holds number (first :: records) := by
  obtain ⟨w₁, peeks, keeps, holds'⟩ := holds.exists_yields Stream.peek
    fun s held => held.peek
  obtain ⟨outcome, w₂, peeked, last⟩ := yields_bind_iff.mp yields
  obtain ⟨rfl, rfl⟩ := peeked.unique peeks
  obtain ⟨rfl, rfl⟩ := yields_pure_iff.mp last
  exact ⟨rfl, keeps, holds'⟩

/-- **A source gives its part**, and no other stream is touched. -/
theorem exists_part_of_addSource {key : String} {first : Record}
    (holds : w.Holds number (first :: records)) (gathered : Gathered groups given)
    (yields : Yields (addSource groups key number) w groups' w') :
    ∃ part, Given w w' number (first :: records) part ∧ Gathered groups' (given ++ part) ∧
      Keeps w w' [number] := by
  obtain ⟨r, w₁, peeked, afterPeek⟩ := yields_bind_iff.mp yields
  obtain ⟨rfl, keeps₁, holds₁⟩ := of_firstRecord holds peeked
  obtain ⟨described, w₂, onCatalog, afterCatalog⟩ := yields_bind_iff.mp afterPeek
  obtain ⟨describes, keeps₂, supplies₂⟩ := keeps_of_onCatalog onCatalog
  have holds₂ := holds₁.keeps keeps₂ (by simp)
  obtain ⟨numbers, w₃, copied, added⟩ := yields_bind_iff.mp afterCatalog
  have streams := of_streamsFor holds₂ copied
  obtain ⟨gathered', keeps₄⟩ := of_addEntries gathered added
  have long : described.value.length ≤ numbers.length := Nat.le_of_eq streams.length.symm
  have short : numbers.length ≤ described.value.length := Nat.le_of_eq streams.length
  refine ⟨_, ⟨⟨?_, ?_, ?_⟩, ?_, ?_, ?_⟩, gathered', ?_⟩
  · intro first isFirst
    cases isFirst
    refine ⟨_, _, _, describes, ?_⟩
    rw [List.map_map]
    exact List.map_fst_zip long
  · intro first isFirst p member
    cases isFirst
    obtain ⟨_, _, rfl⟩ := List.mem_map.mp member
    rfl
  · intro one
    rw [streamsOf_zip short]
    refine streams.undivided ?_
    rwa [List.length_map, List.length_zip, streams.length, Nat.min_self] at one
  · rw [streamsOf_zip short]
    exact streams.distinct
  · rw [streamsOf_zip short]
    intro n member
    refine (streams.own n member).imp_right fun new => ?_
    rw [supplies₂] at new
    exact Nat.le_trans keeps₁.count new
  · rw [streamsOf_zip short]
    intro n member
    exact (streams.holds n member).keeps keeps₄ (by simp)
  · exact ((keeps₁.trans (keeps₂.mono (by simp))).trans streams.keeps).trans
      (keeps₄.mono (by simp))

/-- The sources are independent streams, each with the records of its number, and none without
records. -/
structure Supplied (w : Workspace) (data : Nat → List Record) (sources : List (String × Nat)) :
    Prop where
  independent : (sources.map Prod.snd).Nodup
  holds : ∀ source ∈ sources, w.Holds source.2 (data source.2)
  nonempty : ∀ source ∈ sources, data source.2 ≠ []

/-- What was given by sources: each has given its part, of streams that hold all its records now,
and all streams are different. -/
structure GivenBy (w w' : Workspace) (data : Nat → List Record) (sources : List (String × Nat))
    (parts : List (List NamedEntry)) : Prop where
  contributions : List.Forall₂ (fun source part => Contribution (data source.2) source.2 part ∧
    ∀ n ∈ streamsOf part, w'.Holds n (data source.2)) sources parts
  distinct : (streamsOf parts.flatten).Nodup
  own : ∀ n ∈ streamsOf parts.flatten, n ∈ sources.map Prod.snd ∨ w.supplies.length ≤ n

theorem streamsOf_append (given more : List NamedEntry) :
    streamsOf (given ++ more) = streamsOf given ++ streamsOf more := List.map_append

/-- **Every source gives its part, whatever was given before.** The induction is on the sources that
are left; those that gave already are not touched any more. -/
theorem exists_parts_of_addSources {data : Nat → List Record} {sources : List (String × Nat)}
    (supplied : Supplied w data sources) (gathered : Gathered groups given)
    (yields : Yields (sources.foldlM (fun groups (key, number) => addSource groups key number)
      groups) w groups' w') :
    ∃ parts, GivenBy w w' data sources parts ∧ Gathered groups' (given ++ parts.flatten) ∧
      Keeps w w' (sources.map Prod.snd) := by
  induction sources generalizing groups given w with
  | nil =>
    obtain ⟨rfl, rfl⟩ := yields_foldlM_nil_iff.mp yields
    exact ⟨[], ⟨.nil, by simp [streamsOf], by simp [streamsOf]⟩, by simpa using gathered,
      .refl _ _⟩
  | cons source sources ih =>
    obtain ⟨key, number⟩ := source
    obtain ⟨groups₁, w₁, first, others⟩ := yields_foldlM_cons_iff.mp yields
    obtain ⟨independent, holds, nonempty⟩ := supplied
    rw [List.map_cons, List.nodup_cons] at independent
    obtain ⟨r, more, records⟩ :=
      List.exists_cons_of_ne_nil (nonempty (key, number) List.mem_cons_self)
    have held := holds (key, number) List.mem_cons_self
    simp only at records held
    rw [records] at held
    obtain ⟨part, given₁, gathered₁, keeps₁⟩ := exists_part_of_addSource held gathered first
    rw [← records] at given₁
    have suppliedRest : Supplied w₁ data sources := by
      refine ⟨independent.2, fun s member => ?_, fun s member =>
        nonempty s (List.mem_cons_of_mem _ member)⟩
      refine (holds s (List.mem_cons_of_mem _ member)).keeps keeps₁ ?_
      intro same
      rw [List.mem_singleton] at same
      exact independent.1 (List.mem_map.mpr ⟨s, member, same⟩)
    obtain ⟨parts, given', gathered', keeps'⟩ := ih suppliedRest gathered₁ others
    -- A stream of the part is the source's own or new, so it is none of the sources left.
    have apart : ∀ n ∈ streamsOf part, n ∉ sources.map Prod.snd := by
      intro n member isSource
      rcases given₁.own n member with rfl | new
      · exact independent.1 isSource
      · obtain ⟨s, left, rfl⟩ := List.mem_map.mp isSource
        exact absurd (holds s (List.mem_cons_of_mem _ left)).1 (Nat.not_lt.mpr new)
    refine ⟨part :: parts, ⟨.cons ⟨given₁.contribution, fun n member => ?_⟩ given'.contributions,
      ?_, ?_⟩, ?_, ?_⟩
    · exact (given₁.holds n member).keeps keeps' (apart n member)
    · rw [List.flatten_cons, streamsOf_append, List.nodup_append]
      refine ⟨given₁.distinct, given'.distinct, ?_⟩
      rintro n inPart _ inRest rfl
      rcases given'.own n inRest with isSource | new
      · exact apart n inPart isSource
      · exact absurd (given₁.holds n inPart).1 (Nat.not_lt.mpr new)
    · intro n member
      rw [List.flatten_cons, streamsOf_append, List.mem_append] at member
      rcases member with inPart | inRest
      · exact (given₁.own n inPart).imp_left fun same => by simp [same]
      · rcases given'.own n inRest with isSource | new
        · exact Or.inl (List.mem_cons_of_mem _ isSource)
        · exact Or.inr (Nat.le_trans keeps₁.count new)
    · rw [List.flatten_cons, ← List.append_assoc]
      exact gathered'
    · exact (keeps₁.mono (by simp)).trans (keeps'.mono (by simp))

/-- **Every source gives its part**, and the groups have all that was given. -/
theorem exists_parts_of_groupSheets {data : Nat → List Record} {sources : List (String × Nat)}
    (supplied : Supplied w data sources) (yields : Yields (groupSheets sources) w groups w') :
    ∃ parts, GivenBy w w' data sources parts ∧ Gathered groups parts.flatten ∧
      Keeps w w' (sources.map Prod.snd) :=
  exists_parts_of_addSources supplied gathered_nil yields

/-! ### Streams of their own -/

section Own

variable {sources : List (String × Nat)} {key : String}

/-- The streams for the sheets of a source are the source itself or new, and all different. -/
theorem own_of_streamsFor {sheets : List (String × Sheet)} {numbers : List Nat}
    (present : number < w.supplies.length) (yields : Yields (streamsFor number sheets) w numbers w') :
    numbers.length = sheets.length ∧ numbers.Nodup ∧
      (∀ n ∈ numbers, (n = number ∨ w.supplies.length ≤ n) ∧ n < w'.supplies.length) ∧
      w.supplies.length ≤ w'.supplies.length := by
  unfold streamsFor at yields
  split at yields
  · obtain ⟨rfl, rfl⟩ := yields_pure_iff.mp yields
    refine ⟨rfl, List.nodup_singleton number, fun n member => ?_, Nat.le_refl _⟩
    rw [List.mem_singleton.mp member]
    exact ⟨Or.inl rfl, present⟩
  · obtain ⟨outcome, w₁, drained, copied⟩ := yields_bind_iff.mp yields
    obtain ⟨w₂, drains, keeps, _⟩ := exists_yields_onStream w number Stream.drain
    obtain ⟨_, rfl⟩ := drained.unique drains
    split at copied
    · exact absurd copied (not_yields_throw _)
    · obtain ⟨length, distinct, new, holds, keeps'⟩ := of_addStreams copied
      refine ⟨length, distinct, fun n member => ⟨Or.inr ?_, (holds n member).1⟩,
        Nat.le_trans keeps.count keeps'.count⟩
      exact Nat.le_trans keeps.count (new n member)

theorem count_of_firstRecord {r : Record} (yields : Yields (firstRecord key number) w r w') :
    w.supplies.length ≤ w'.supplies.length := by
  obtain ⟨outcome, w₁, peeked, last⟩ := yields_bind_iff.mp yields
  obtain ⟨w₂, peeks, keeps, _⟩ := exists_yields_onStream w number Stream.peek
  obtain ⟨_, rfl⟩ := peeked.unique peeks
  split at last
  · obtain ⟨_, rfl⟩ := yields_pure_iff.mp last
    exact keeps.count
  · exact absurd last (not_yields_throw _)
  · exact absurd last (not_yields_throw _)

/-- The entries given so far read different streams, and none that is a source still to come. -/
structure Apart (w : Workspace) (given : List NamedEntry) (sources : List (String × Nat)) :
    Prop where
  distinct : (streamsOf given).Nodup
  present : ∀ n ∈ streamsOf given, n < w.supplies.length
  notSource : ∀ n ∈ streamsOf given, n ∉ sources.map Prod.snd
  waiting : ∀ source ∈ sources, source.2 < w.supplies.length
  independent : (sources.map Prod.snd).Nodup

/-- **A source gives entries that read streams of their own.** -/
theorem exists_apart_of_addSource (gathered : Gathered groups given)
    (apart : Apart w given ((key, number) :: sources))
    (yields : Yields (addSource groups key number) w groups' w') :
    ∃ part, Gathered groups' (given ++ part) ∧ Apart w' (given ++ part) sources := by
  obtain ⟨distinct, present, notSource, waiting, independent⟩ := apart
  rw [List.map_cons, List.nodup_cons] at independent
  obtain ⟨r, w₁, peeked, afterPeek⟩ := yields_bind_iff.mp yields
  have count₁ := count_of_firstRecord peeked
  obtain ⟨described, w₂, onCatalog, afterCatalog⟩ := yields_bind_iff.mp afterPeek
  obtain ⟨_, _, supplies₂⟩ := keeps_of_onCatalog onCatalog
  obtain ⟨numbers, w₃, copied, added⟩ := yields_bind_iff.mp afterCatalog
  have isSource := waiting (key, number) List.mem_cons_self
  have count₂ : w₂.supplies.length = w₁.supplies.length := by rw [supplies₂]
  obtain ⟨length, own, new, count₃⟩ := own_of_streamsFor (by simp only at isSource; omega) copied
  obtain ⟨gathered', keeps₄⟩ := of_addEntries gathered added
  have short : numbers.length ≤ described.value.length := Nat.le_of_eq length
  have count₄ := keeps₄.count
  -- A stream for the source is the source's own or a new one, so no entry before reads it.
  have fresh : ∀ n ∈ numbers, n = number ∨ w.supplies.length ≤ n := by
    intro n member
    exact (new n member).1.imp_right fun isNew => by omega
  refine ⟨_, gathered', ?_, ?_, ?_, fun source member => ?_, independent.2⟩
  · rw [streamsOf_append, streamsOf_zip short]
    refine List.nodup_append.mpr ⟨distinct, own, ?_⟩
    rintro n before _ member rfl
    rcases fresh n member with rfl | isNew
    · exact notSource n before List.mem_cons_self
    · exact absurd (present n before) (Nat.not_lt.mpr isNew)
  · rw [streamsOf_append, streamsOf_zip short]
    intro n member
    rcases List.mem_append.mp member with before | ofSource
    · have below := present n before
      omega
    · have below := (new n ofSource).2
      omega
  · rw [streamsOf_append, streamsOf_zip short]
    intro n member further
    rcases List.mem_append.mp member with before | ofSource
    · exact notSource n before (List.mem_cons_of_mem _ further)
    · rcases fresh n ofSource with rfl | isNew
      · exact independent.1 further
      · obtain ⟨source, isLeft, rfl⟩ := List.mem_map.mp further
        exact absurd (waiting source (List.mem_cons_of_mem _ isLeft)) (Nat.not_lt.mpr isNew)
  · have below := waiting source (List.mem_cons_of_mem _ member)
    omega

theorem exists_apart_of_addSources (gathered : Gathered groups given)
    (apart : Apart w given sources)
    (yields : Yields (sources.foldlM (fun groups (key, number) => addSource groups key number)
      groups) w groups' w') :
    ∃ all, Gathered groups' all ∧ (streamsOf all).Nodup := by
  induction sources generalizing groups given w with
  | nil =>
    obtain ⟨rfl, rfl⟩ := yields_foldlM_nil_iff.mp yields
    exact ⟨given, gathered, apart.distinct⟩
  | cons source sources ih =>
    obtain ⟨groups₁, w₁, first, others⟩ := yields_foldlM_cons_iff.mp yields
    obtain ⟨part, gathered₁, apart₁⟩ := exists_apart_of_addSource gathered apart first
    exact ih gathered₁ apart₁ others

/-- **The entries of a group read streams of their own**, if the sources are different streams. -/
theorem nodup_streams_of_groupSheets (independent : (sources.map Prod.snd).Nodup)
    (present : ∀ source ∈ sources, source.2 < w.supplies.length)
    (grouped : Yields (groupSheets sources) w groups w') :
    ∀ g ∈ groups, (g.2.entries.map SheetEntry.stream).Nodup := by
  intro g isGroup
  have apart : Apart w [] sources :=
    ⟨List.nodup_nil, List.forall_mem_nil _, List.forall_mem_nil _, present, independent⟩
  obtain ⟨all, gathered, distinct⟩ := exists_apart_of_addSources gathered_nil apart grouped
  rw [gathered.entries g isGroup, entriesFor, List.map_map]
  exact distinct.sublist (List.Sublist.map _ List.filter_sublist)

end Own

end Workspace

end SheetExport
