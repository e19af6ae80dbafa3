/-
**Prepared sheets are read in turn, and sources are not read ahead.**

* `IsShareOf.reads_of_new` — the streams that a new source gives hold all its records, and come to
  its failure if it has one;
* `exists_origin_of_prepareSheets` — a prepared sheet has an entry for each source whose type has
  the sheet, each with a stream of its own, and its reading has not begun;
* `ReadRun` — such a sheet, and steps of reading it by any number of iterators;
* `inTurn_of_readRun`: the rows that they give together are the rows of the sheet from the first on.
  A source with one sheet gives no more records than there were rows, but for its first one and, if
  a source of the sheet fails, for one that was looked at just before.
-/

import SheetExport.Proofs.Organize.Gathering
import SheetExport.Proofs.Organize.InTurn
import SheetExport.Proofs.Organize.Layout
import SheetExport.Proofs.Organize.Shares

namespace SheetExport

/-! ### New sources -/

namespace Stream

variable {α : Type}

/-- A new stream has looked at its first record once that was asked for. -/
theorem exists_peek_ofItems {items : List (Item α)} {a : α}
    (first : (ofItems items).held.head? = some a) :
    ∃ rest, items = .record a :: rest ∧ (ofItems items).peek.2 = ⟨[a], rest, 1⟩ := by
  rcases items with _ | ⟨_ | fault, rest⟩
  · cases first
  · cases first
    exact ⟨rest, rfl, rfl⟩
  · cases first

/-- A source can be read to its end just when it does not fail. -/
theorem recordsOf_of_drain {items : List (Item α)} {records : List α}
    (drained : (ofItems items).drain.1 = .ok records) : recordsOf items = (records, none) := by
  unfold drain ofItems at drained
  rcases outcome : recordsOf items with ⟨all, _ | fault⟩
  · simp only [outcome, List.nil_append, Except.ok.injEq] at drained
    rw [drained]
  · simp only [outcome] at drained
    cases drained

end Stream

/-- The entry for a sheet reads one of the streams that the source gives. -/
theorem Share.stream_mem {share : Share} {name : String} {entry : SheetEntry}
    (found : share.entryFor? name = some entry) : entry.stream ∈ share.streams := by
  obtain ⟨before, after, part, _⟩ := List.lookup_eq_some_iff.mp found
  have inPart : (name, entry) ∈ share.part := part ▸ List.mem_append_right _ List.mem_cons_self
  obtain ⟨⟨sheet, number⟩, inZip, same⟩ := List.mem_map.mp inPart
  cases same
  exact (List.of_mem_zip inZip).2

namespace Workspace

variable {w w₁ w' w'' : Workspace} {data : Nat → List (Item Record)} {sources : List (String × Nat)}
  {source : String × Nat} {share : Share} {strict : Bool} {m : MergedSheet} {steps : List ReadStep}
  {pulls : List (RowView × RowPull)} {sheets : List MergedSheet}

/-- The stream of a number gives these records, and then fails or ends. -/
def Reads (w : Workspace) (number : Nat) (outcome : List Record × Option Fault) : Prop :=
  w.held number = outcome.1 ∧ (w.stream number).failure? = outcome.2

theorem Holds.reads {number : Nat} {records : List Record} (holds : w.Holds number records) :
    w.Reads number (records, none) := by
  refine ⟨holds.held_eq, ?_⟩
  obtain ⟨_, ahead, source, _⟩ := holds
  rw [Stream.failure?, source, Stream.recordsOf_map]

/-- **All streams that a new source gives read its records.** -/
theorem IsShareOf.reads_of_new (isShare : IsShareOf w w₁ source share)
    (isNew : w.stream source.2 = .ofItems (data source.2)) :
    ∀ n ∈ share.streams, w₁.Reads n (Stream.recordsOf (data source.2)) := by
  by_cases one : share.sheets.length = 1
  · obtain ⟨same, stream⟩ := isShare.undivided one
    obtain ⟨r, isFirst, _⟩ := isShare.first
    rw [held, isNew] at isFirst
    obtain ⟨rest, items, peeked⟩ := Stream.exists_peek_ofItems isFirst
    rw [isNew, peeked] at stream
    intro n member
    rw [same, List.mem_singleton] at member
    subst member
    rw [Reads, held, stream, items]
    exact ⟨rfl, rfl⟩
  · obtain ⟨records, drained, copies⟩ := isShare.divided one
    rw [isNew] at drained
    rw [Stream.recordsOf_of_drain drained]
    exact fun n member => (copies n member).2.reads

/-- A new source with one sheet was asked for its first record only. -/
theorem IsShareOf.peeked_of_new (isShare : IsShareOf w w₁ source share)
    (isNew : w.stream source.2 = .ofItems (data source.2)) (one : share.sheets.length = 1) :
    (w₁.stream source.2).taken = 1 ∧ (w₁.stream source.2).buffer.length = 1 := by
  obtain ⟨r, isFirst, _⟩ := isShare.first
  rw [held, isNew] at isFirst
  obtain ⟨rest, _, peeked⟩ := Stream.exists_peek_ofItems isFirst
  rw [(isShare.undivided one).2, isNew, peeked]
  exact ⟨rfl, rfl⟩

/-! ### Prepared sheets -/

/-- Where a prepared sheet comes from: the shares of the sources, as they were given first come
first served. -/
structure Origin (w w' : Workspace) (sources : List (String × Nat)) (m : MergedSheet)
    (groups : SheetGroups) (w₁ : Workspace) (shares : List Share) : Prop where
  grouped : Yields (groupSheets sources) w groups w₁
  firstCome : FirstCome w w₁ sources groups shares
  /-- The sheet has an entry for each source whose type has it. -/
  entries : ∃ name ∈ shares.flatMap Share.names, m.entries = shares.filterMap (·.entryFor? name)
  own : m.streams.Nodup
  unread : m.reading ∉ w'.ended
  supplies : w'.supplies = w₁.supplies

theorem exists_origin_of_prepareSheets (reachable : w.catalog.Reachable)
    (independent : (sources.map Prod.snd).Nodup)
    (present : ∀ source ∈ sources, source.2 < w.supplies.length)
    (begun : ∀ reading ∈ w.ended, reading < w.nextReading)
    (prepared : Yields (prepareSheets sources strict) w sheets w') (inSheets : m ∈ sheets) :
    ∃ groups w₁ shares, Origin w w' sources m groups w₁ shares := by
  obtain ⟨groups, w₁, grouped, others⟩ := yields_bind_iff.mp prepared
  obtain ⟨shares, areShares, adds, keeps⟩ := exists_shares_of_addSources []
    (Catalog.splitsOfSheets_of_reachable reachable) independent present grouped
  have firstCome := firstCome_of_adds areShares adds
  split at others
  · exact absurd others (not_yields_throw _)
  · rename_i ordered sorted
    have merged := merged_of_mapM others
    obtain ⟨group, inOrdered, entries, _⟩ := exists_of_mem_right merged.each inSheets
    have isGroup := (perm_of_orderSheets sorted).mem_iff.mp inOrdered
    refine ⟨groups, w₁, shares, grouped, firstCome, ⟨group.1, ?_, ?_⟩, ?_, ?_, merged.supplies⟩
    · rw [← mem_distinct, ← firstCome.names]
      exact List.mem_map_of_mem isGroup
    · rw [entries, firstCome.entries group isGroup]
    · rw [MergedSheet.streams, entries]
      exact nodup_streams_of_groupSheets independent present grouped group isGroup
    · have isReading : m.reading ∈ sheets.map MergedSheet.reading := List.mem_map_of_mem inSheets
      rw [merged.readings, List.mem_range'_1, keeps.nextReading] at isReading
      rw [merged.ended, keeps.ended]
      exact fun reached => absurd (begun _ reached) (Nat.not_lt.mpr isReading.1)

/-- A source that a sheet reads itself has no other sheet. -/
theorem Origin.exists_undivided {groups : SheetGroups} {shares : List Share} {number : Nat}
    (origin : Origin w w' sources m groups w₁ shares) (reads : number ∈ m.streams)
    (old : number < w.supplies.length) :
    ∃ p ∈ sources.zip shares, p.1.2 = number ∧ p.2.sheets.length = 1 := by
  obtain ⟨entry, isEntry, rfl⟩ := List.mem_map.mp reads
  obtain ⟨name, _, entries⟩ := origin.entries
  have given := origin.firstCome.given
  rw [entries, ← List.map_snd_zip (Nat.le_of_eq given.length_eq.symm), List.filterMap_map]
    at isEntry
  obtain ⟨p, inZip, found⟩ := List.mem_filterMap.mp isEntry
  have isShare := List.forall₂_zip given inZip
  have member := Share.stream_mem found
  by_cases one : p.2.sheets.length = 1
  · rw [(isShare.undivided one).1, List.mem_singleton] at member
    exact ⟨p, inZip, member.symm, one⟩
  · obtain ⟨_, _, copies⟩ := isShare.divided one
    exact absurd old (Nat.not_lt.mpr (copies _ member).1)

/-! ### Reading -/

/-- A sheet that is prepared from new sources, and steps of reading it in which no cell fails. -/
structure ReadRun (w w' w'' : Workspace) (data : Nat → List (Item Record))
    (sources : List (String × Nat)) (strict : Bool) (m : MergedSheet) (steps : List ReadStep)
    (pulls : List (RowView × RowPull)) : Prop where
  reachable : w.catalog.Reachable
  independent : (sources.map Prod.snd).Nodup
  /-- Nothing was taken from the sources yet. -/
  fresh : ∀ source ∈ sources,
    source.2 < w.supplies.length ∧ w.stream source.2 = .ofItems (data source.2)
  begun : ∀ reading ∈ w.ended, reading < w.nextReading
  prepared : ∃ sheets, Yields (prepareSheets sources strict) w sheets w' ∧ m ∈ sheets
  run : (readSteps m steps []).run w' = (pulls, w'')
  /-- The cells of every row that is come to can be made. -/
  extracts : ∀ i < pulls.length, i < m.rowCount w' → ∃ row, m.rowOf w'.held i = .ok row

theorem ReadRun.exists_origin (read : ReadRun w w' w'' data sources strict m steps pulls) :
    ∃ groups w₁ shares, Origin w w' sources m groups w₁ shares := by
  obtain ⟨sheets, prepared, inSheets⟩ := read.prepared
  exact exists_origin_of_prepareSheets read.reachable read.independent
    (fun source member => (read.fresh source member).1) read.begun prepared inSheets

/-- Rows in turn, and sources that are not read ahead. -/
structure InTurn (w' w'' : Workspace) (data : Nat → List (Item Record))
    (sources : List (String × Nat)) (shares : List Share) (m : MergedSheet)
    (pulls : List (RowView × RowPull)) : Prop where
  /-- Every stream that a source gives reads all records of the source. -/
  records : ∀ p ∈ sources.zip shares, ∀ n ∈ p.2.streams, w'.Reads n (Stream.recordsOf (data p.1.2))
  /-- The rows of all iterators are those of the sheet, from the first on, each once. -/
  rows : List.Forall₂ (ShowsRow m w'.held) (List.range (rowsIn pulls).length) (rowsIn pulls)
  /-- There are no others, and all were given once a pull gives none. -/
  below : (rowsIn pulls).length ≤ m.rowCount w'
  complete : (∃ p ∈ pulls, p.2.row? = none) → (rowsIn pulls).length = m.rowCount w'
  /-- What is taken from a source with one sheet. -/
  ahead : ∀ p ∈ sources.zip shares, p.2.sheets.length = 1 → (w''.stream p.1.2).taken ≤
    if pulls.any (·.2.isRaised) then (rowsIn pulls).length + 1 else max 1 (rowsIn pulls).length

/-- **Rows are read in turn and sources are not read ahead**, whatever iterators are obtained of a
sheet and in which order they are pulled. -/
theorem inTurn_of_readRun (read : ReadRun w w' w'' data sources strict m steps pulls) :
    ∃ groups w₁ shares, Origin w w' sources m groups w₁ shares ∧
      InTurn w' w'' data sources shares m pulls := by
  obtain ⟨groups, w₁, shares, origin⟩ := read.exists_origin
  have stream (n : Nat) : w'.stream n = w₁.stream n := by rw [stream, stream, origin.supplies]
  obtain ⟨rows, reached, ended⟩ := (Reached.start origin.unread).readSteps origin.own steps
    (List.forall_mem_nil _) (fun i _ before below => read.extracts i (by omega) below) read.run
  rw [Nat.zero_add, Bool.false_or] at reached
  refine ⟨groups, w₁, shares, origin, ⟨?_, ?_, reached.below, fun noRow => ?_, ?_⟩⟩
  · intro p inZip n member
    have isShare := List.forall₂_zip origin.firstCome.given inZip
    have isNew := (read.fresh p.1 (List.of_mem_zip inZip).1).2
    rw [Reads, held, stream]
    exact isShare.reads_of_new isNew n member
  · rw [List.range_eq_range']
    exact rows
  · exact reached.ends (ended (Or.inr noRow))
  · intro p inZip one
    have isShare := List.forall₂_zip origin.firstCome.given inZip
    have isNew := (read.fresh p.1 (List.of_mem_zip inZip).1).2
    obtain ⟨taken, length⟩ := isShare.peeked_of_new isNew one
    rw [← stream] at taken length
    -- A source of another sheet stays as it was.
    have atMost : (w''.stream p.1.2).taken ≤
        1 + ((rowsIn pulls).length + (pulls.any (·.2.isRaised)).toNat - 1) := by
      by_cases member : p.1.2 ∈ m.streams
      · have bound := reached.taken _ member
        rwa [taken, length] at bound
      · rw [reached.kept _ member, taken]
        omega
    split
    · rename_i raised
      rw [raised, Bool.toNat_true] at atMost
      omega
    · rename_i unraised
      rw [Bool.not_eq_true _ |>.mp unraised, Bool.toNat_false] at atMost
      omega

/-! ### A source that fails -/

/-- Two sources of one sheet; the second one fails behind its first record. -/
def brokenData : Nat → List (Item Record)
  | 0 => [.record (.object labelledType [("total", .int 1)]),
      .record (.object labelledType [("total", .int 2)])]
  | _ => [.record (.object labelledType [("total", .int 3)]), .failure (.raised "no more")]

def brokenWorkspace : Workspace :=
  { Workspace.empty with
    supplies := [⟨.ofItems (brokenData 0), none⟩, ⟨.ofItems (brokenData 1), none⟩] }

/-- Two iterators are pulled by turns. -/
def brokenSteps : List ReadStep := [.obtain .cells, .obtain .values, .pull 1, .pull 0]

/-- What the sources are prepared to. -/
def brokenPrepared : Except Failure (List MergedSheet) × Workspace :=
  (prepareSheets labelledSources false).run.run brokenWorkspace

/-- One row is given, and then the failure, when a second record of the other source was seen. -/
theorem exists_brokenRun :
    ∃ w' w'' m pulls, ReadRun brokenWorkspace w' w'' brokenData labelledSources false m brokenSteps
      pulls ∧ 0 ∈ m.streams ∧ (rowsIn pulls).length = 1 ∧ (w''.stream 0).taken = 2 := by
  have outcome : (brokenPrepared.1.toOption.bind List.head?).any (fun m =>
      (List.range (m.rowCount brokenPrepared.2)).all
          (fun i => (m.rowOf brokenPrepared.2.held i).isOk) &&
        let read := (readSteps m brokenSteps []).run brokenPrepared.2
        decide (0 ∈ m.streams ∧ (rowsIn read.1).length = 1 ∧ (read.2.stream 0).taken = 2)) =
      true := by decide +kernel
  obtain ⟨m, isHead, checked⟩ := (Option.any_eq_true _ _).mp outcome
  obtain ⟨sheets, succeeded, isFirst⟩ := Option.bind_eq_some_iff.mp isHead
  have prepared : Yields (prepareSheets labelledSources false) brokenWorkspace sheets
      brokenPrepared.2 := by
    refine Prod.ext (?_ : brokenPrepared.1 = .ok sheets) rfl
    cases result : brokenPrepared.1 with
    | error failure =>
      rw [result] at succeeded
      cases succeeded
    | ok sheets' =>
      rw [result] at succeeded
      cases succeeded
      rfl
  obtain ⟨rows, facts⟩ := Bool.and_eq_true_iff.mp checked
  refine ⟨brokenPrepared.2, _, m, _, ⟨.empty, by decide, ?_, nofun,
    ⟨sheets, prepared, List.mem_of_head? isFirst⟩, rfl, fun i _ below => ?_⟩,
    of_decide_eq_true facts⟩
  · intro source member
    rcases List.mem_pair.mp member with rfl | rfl <;> exact ⟨by decide, rfl⟩
  · have made := List.all_eq_true.mp rows i (List.mem_range.mpr below)
    cases cells : m.rowOf brokenPrepared.2.held i with
    | error fault =>
      rw [cells] at made
      cases made
    | ok row => exact ⟨row, rfl⟩

/-- The row of both sources is given once. -/
theorem inTurn_of_readRun_sample :
    ∃ w' w'' m pulls groups w₁ shares,
      Origin brokenWorkspace w' labelledSources m groups w₁ shares ∧
        InTurn w' w'' brokenData labelledSources shares m pulls ∧ (rowsIn pulls).length = 1 := by
  obtain ⟨w', w'', m, pulls, read, _, one, _⟩ := exists_brokenRun
  obtain ⟨groups, w₁, shares, origin, inTurn⟩ := inTurn_of_readRun read
  exact ⟨w', w'', m, pulls, groups, w₁, shares, origin, inTurn, one⟩

/-- **A source is read ahead where another one fails**: two of its records are taken for one row. -/
theorem exists_taken_ahead :
    ∃ w' w'' m pulls groups w₁ shares,
      ReadRun brokenWorkspace w' w'' brokenData labelledSources false m brokenSteps pulls ∧
        Origin brokenWorkspace w' labelledSources m groups w₁ shares ∧
        ∃ p ∈ labelledSources.zip shares, p.2.sheets.length = 1 ∧
          max 1 (rowsIn pulls).length < (w''.stream p.1.2).taken := by
  obtain ⟨w', w'', m, pulls, read, member, one, two⟩ := exists_brokenRun
  obtain ⟨groups, w₁, shares, origin⟩ := read.exists_origin
  obtain ⟨p, inZip, same, undivided⟩ := origin.exists_undivided member (by decide)
  refine ⟨w', w'', m, pulls, groups, w₁, shares, read, origin, p, inZip, undivided, ?_⟩
  rw [same, one, two]
  decide

end Workspace

end SheetExport
