/-
**The rows of a sheet, pulled by any number of iterators.**

* `MergedSheet.rowOf m held i`, `MergedSheet.rowCount m w` — the row of a number, and how many rows
  there are before all streams have ended or one of them fails;
* `Stream.passed^[i] s` — where a stream stands after `i` rows: what it still holds
  (`held_iterate_passed`), whether it fails next (`broken_iterate_passed_iff`), and how much it has
  taken (`taken_iterate_passed_le`);
* `Workspace.Reached m w₀ w n raised` — how a sheet stands after `n` rows from `w₀`: where its
  streams are, and how far ahead they were read;
* `Reached.nextRow`, `Reached.pullRow` — **one row**: the next one is the row of number `n`,
  whichever iterator is pulled; behind the last row the reading ends, or a stream fails;
* `Reached.readSteps` — any steps of reading give the rows in turn (`ReadOn`);
* `readSteps_replicate`: taking rows is pulling one iterator.
-/

import Mathlib.Data.List.Forall2
import Mathlib.Logic.Function.Iterate
import SheetExport.Organize.Iterator
import SheetExport.Proofs.Organize.Passing

namespace SheetExport

/-! ### Streams between rows -/

namespace Stream

variable {α : Type} {s : Stream α}

/-- The failure that the stream comes to, if it does not just end. -/
def failure? (s : Stream α) : Option Fault := (recordsOf s.source).2

theorem held_passed (s : Stream α) : s.passed.held = s.held.tail := by
  obtain ⟨_ | ⟨a, buffer⟩, source, taken⟩ := s
  · rcases source with _ | ⟨_ | fault, rest⟩ <;> rfl
  · rfl

theorem buffer_passed (s : Stream α) : s.passed.buffer = s.buffer.tail := by
  obtain ⟨_ | ⟨a, buffer⟩, source, taken⟩ := s
  · rcases source with _ | ⟨_ | fault, rest⟩ <;> rfl
  · rfl

theorem upcoming_eq_head? (s : Stream α) : s.upcoming = s.held.head? := by
  obtain ⟨_ | ⟨a, buffer⟩, source, taken⟩ := s
  · rcases source with _ | ⟨_ | fault, rest⟩ <;> rfl
  · rfl

theorem broken_iff : s.Broken ↔ s.held = [] ∧ s.failure? ≠ none := by
  obtain ⟨_ | ⟨a, buffer⟩, source, taken⟩ := s
  · rcases source with _ | ⟨a | fault, rest⟩ <;>
      simp [Broken, hasNext, peek, pull, held, failure?, recordsOf]
  · simp [Broken, hasNext, peek, held]

/-- A stream that does not fail next still comes to the same failure. -/
theorem failure?_passed (whole : ¬ s.Broken) : s.passed.failure? = s.failure? := by
  obtain ⟨_ | ⟨a, buffer⟩, source, taken⟩ := s
  · rcases source with _ | ⟨a | fault, rest⟩
    · rfl
    · rfl
    · exact absurd ⟨fault, rfl⟩ whole
  · rfl

/-- At most one item is taken for a record, and none while there are records seen before. -/
theorem taken_passed_le (s : Stream α) : s.passed.taken ≤ s.taken + (1 - s.buffer.length) := by
  obtain ⟨_ | ⟨a, buffer⟩, source, taken⟩ := s
  · rcases source with _ | ⟨_ | fault, rest⟩
    · exact Nat.le_add_right _ _
    · exact Nat.le_refl _
    · exact Nat.le_refl _
  · exact Nat.le_add_right _ _

/-- Nothing is taken by looking ahead that is not taken for the next record. -/
theorem taken_hasNext (s : Stream α) : s.hasNext.2.taken = s.passed.taken := rfl

/-- A stream at its end is not changed by looking ahead. -/
theorem hasNext_of_ended (nothing : s.held = []) (whole : ¬ s.Broken) : s.hasNext.2 = s := by
  obtain ⟨_ | ⟨a, buffer⟩, source, taken⟩ := s
  · rcases source with _ | ⟨a | fault, rest⟩
    · rfl
    · cases nothing
    · exact absurd ⟨fault, rfl⟩ whole
  · cases nothing

/-- A stream without records that has a failure meets it by looking ahead. -/
theorem hasNext_of_failure? {fault : Fault} (nothing : s.held = [])
    (fails : s.failure? = some fault) : s.hasNext.1 = .error fault := by
  obtain ⟨_ | ⟨a, buffer⟩, source, taken⟩ := s
  · rcases source with _ | ⟨a | fault', rest⟩
    · cases fails
    · cases nothing
    · cases fails
      rfl
  · cases nothing

theorem held_iterate_passed (s : Stream α) (i : Nat) : (passed^[i] s).held = s.held.drop i := by
  induction i with
  | zero => rfl
  | succ i ih => rw [Function.iterate_succ_apply', held_passed, ih, List.tail_drop]

theorem buffer_iterate_passed (s : Stream α) (i : Nat) :
    (passed^[i] s).buffer = s.buffer.drop i := by
  induction i with
  | zero => rfl
  | succ i ih => rw [Function.iterate_succ_apply', buffer_passed, ih, List.tail_drop]

theorem upcoming_iterate_passed (s : Stream α) (i : Nat) : (passed^[i] s).upcoming = s.held[i]? := by
  rw [upcoming_eq_head?, held_iterate_passed, List.head?_drop]

/-- **Reading ahead is bounded**: records that were seen at first are not taken again. -/
theorem taken_iterate_passed_le (s : Stream α) (i : Nat) :
    (passed^[i] s).taken ≤ s.taken + (i - s.buffer.length) := by
  induction i with
  | zero => exact Nat.le_add_right _ _
  | succ i ih =>
    have step := taken_passed_le (passed^[i] s)
    rw [buffer_iterate_passed, List.length_drop] at step
    rw [Function.iterate_succ_apply']
    omega

/-- The failure is still to come while there are records before it. -/
theorem failure?_iterate_passed {i : Nat} (inside : s.failure? ≠ none → i ≤ s.held.length) :
    (passed^[i] s).failure? = s.failure? := by
  induction i with
  | zero => rfl
  | succ i ih =>
    have before := ih fun fails => Nat.le_of_succ_le (inside fails)
    rw [Function.iterate_succ_apply', failure?_passed, before]
    rw [broken_iff, before, held_iterate_passed, List.drop_eq_nil_iff]
    rintro ⟨beyond, fails⟩
    have := inside fails
    omega

/-- The stream fails behind its last record. -/
theorem broken_iterate_passed_iff {i : Nat} (inside : s.failure? ≠ none → i ≤ s.held.length) :
    (passed^[i] s).Broken ↔ s.failure? ≠ none ∧ s.held.length ≤ i := by
  rw [broken_iff, failure?_iterate_passed inside, held_iterate_passed, List.drop_eq_nil_iff,
    and_comm]

end Stream

/-! ### The rows of a sheet -/

namespace MergedSheet

variable (m : MergedSheet)

/-- The row of a number, from what the streams hold. -/
def rowOf (held : Nat → List Record) (i : Nat) : Except Fault (List Cell) :=
  (m.sheet.columns.zip m.layout).mapM fun (c, entry) =>
    Workspace.cellFor (Workspace.rowRecords m held i) c entry

/-- The number of rows: there are rows while some stream holds records, and none that fails is at the
end of its own. -/
def rowCount (w : Workspace) : Nat :=
  m.entries.foldr (fun entry count =>
      if (w.stream entry.stream).failure?.isSome then min (w.held entry.stream).length count
      else count)
    (m.height w.held)

theorem lt_rowCount_iff (w : Workspace) (i : Nat) :
    i < m.rowCount w ↔ i < m.height w.held ∧ ∀ entry ∈ m.entries,
      (w.stream entry.stream).failure? ≠ none → i < (w.held entry.stream).length := by
  unfold rowCount
  induction m.entries with
  | nil => simp
  | cons entry entries ih =>
    rw [List.foldr_cons, List.forall_mem_cons]
    cases (w.stream entry.stream).failure? with
    | none => simpa using ih
    | some fault =>
      rw [Option.isSome_some, if_pos rfl, lt_min_iff, ih]
      simp only [ne_eq, reduceCtorEq, not_false_eq_true, forall_const]
      tauto

end MergedSheet

namespace Workspace

variable {m : MergedSheet} {w₀ w w' : Workspace} {n : Nat} {raised : Bool}

/-! ### One row -/

theorem any_rowRecords_iff (m : MergedSheet) (held : Nat → List Record) (i : Nat) :
    ((rowRecords m held i).map Option.isSome).any id = true ↔ i < m.height held := by
  rw [MergedSheet.lt_height_iff, rowRecords, List.map_map, List.any_map, List.any_eq_true]
  simp only [Function.comp_apply, id, isSome_getElem?]

/-- After `n` rows of a sheet from `w₀`; `raised` tells whether a stream of the sheet failed then. -/
structure Reached (m : MergedSheet) (w₀ w : Workspace) (n : Nat) (raised : Bool) : Prop where
  below : n ≤ m.rowCount w₀
  /-- While the reading goes on, every stream of the sheet stands behind its record of these rows. -/
  going : m.reading ∉ w.ended →
    raised = false ∧ ∀ k ∈ m.streams, w.stream k = Stream.passed^[n] (w₀.stream k)
  /-- It ends behind the last row only. -/
  ends : m.reading ∈ w.ended → n = m.rowCount w₀
  kept : ∀ k ∉ m.streams, w.stream k = w₀.stream k
  /-- No stream is read ahead, but for one record when another one failed. -/
  taken : ∀ k ∈ m.streams, (w.stream k).taken ≤
    (w₀.stream k).taken + (n + raised.toNat - (w₀.stream k).buffer.length)

theorem Reached.start (going : m.reading ∉ w.ended) : Reached m w w 0 false where
  below := Nat.zero_le _
  going _ := ⟨rfl, fun _ _ => rfl⟩
  ends ended := absurd ended going
  kept _ _ := rfl
  taken _ _ := Nat.le_add_right _ _

/-- What one more row does to a sheet of which `n` rows were read. -/
inductive NextRow (m : MergedSheet) (w₀ w : Workspace) (n : Nat) (raised : Bool) : Prop
  | row {row : List Cell} {w' : Workspace} (next : Yields (nextRow m) w (some row) w')
      (made : m.rowOf w₀.held n = .ok row) (going : m.reading ∉ w.ended)
      (reached : Reached m w₀ w' (n + 1) raised)
  | none {w' : Workspace} (next : Yields (nextRow m) w none w') (ended : m.reading ∈ w'.ended)
      (reached : Reached m w₀ w' n raised)
  | fails {failure : Failure} {w' : Workspace} (next : Fails (nextRow m) w failure w')
      (ended : m.reading ∈ w'.ended) (reached : Reached m w₀ w' n true)

section Going

variable (reached : Reached m w₀ w n raised) (going : m.reading ∉ w.ended)

include reached going

theorem Reached.upcomingOf_eq : upcomingOf m w = rowRecords m w₀.held n := by
  refine List.map_congr_left fun entry member => ?_
  rw [(reached.going going).2 _ (List.mem_map_of_mem member), Stream.upcoming_iterate_passed]
  rfl

/-- A stream fails next just where it has no further record, but a failure. -/
theorem Reached.broken_iff {entry : SheetEntry} (member : entry ∈ m.entries) :
    (w.stream entry.stream).Broken ↔
      (w₀.stream entry.stream).failure? ≠ none ∧ (w₀.held entry.stream).length ≤ n := by
  rw [(reached.going going).2 _ (List.mem_map_of_mem member)]
  -- No row goes beyond the records of a stream that fails.
  refine Stream.broken_iterate_passed_iff fun fails => ?_
  cases n with
  | zero => exact Nat.zero_le _
  | succ n => exact ((m.lt_rowCount_iff w₀ n).mp reached.below).2 entry member fails

/-- There is a row just when no stream fails next and some stream has a record. -/
theorem Reached.lt_rowCount_iff : n < m.rowCount w₀ ↔
    ((upcomingOf m w).map Option.isSome).any id = true ∧
      ∀ entry ∈ m.entries, ¬ (w.stream entry.stream).Broken := by
  rw [reached.upcomingOf_eq going, any_rowRecords_iff, m.lt_rowCount_iff]
  refine and_congr_right fun _ => forall₂_congr fun entry member => ?_
  rw [reached.broken_iff going member]
  simp only [not_and, Nat.not_le]

/-- The state behind a pull that only looked ahead. -/
theorem Reached.of_asked (asked : Asked w w' m.streams) (ended : m.reading ∈ w'.ended)
    (last : n = m.rowCount w₀) : Reached m w₀ w' n true where
  below := Nat.le_of_eq last
  going stillGoing := absurd ended stillGoing
  ends _ := last
  kept k other := by
    rcases asked k with same | ⟨member, _⟩
    · rw [same, reached.kept k other]
    · exact absurd member other
  taken k member := by
    have before := (reached.going going).2 k member
    have ahead := Stream.taken_iterate_passed_le (w₀.stream k) (n + 1)
    rw [Function.iterate_succ_apply'] at ahead
    rcases asked k with same | ⟨_, seen⟩
    · have here := Stream.taken_iterate_passed_le (w₀.stream k) n
      rw [same, before]
      exact Nat.le_trans here (by simp only [Bool.toNat_true]; omega)
    · rw [seen, before, Stream.taken_hasNext]
      exact ahead

/-- The state behind a row. -/
theorem Reached.of_moves (moves : Moves w w' m.streams Stream.passed)
    (below : n < m.rowCount w₀) : Reached m w₀ w' (n + 1) raised where
  below := below
  going _ := by
    refine ⟨(reached.going going).1, fun k member => ?_⟩
    rw [moves.changed k member, (reached.going going).2 k member, Function.iterate_succ_apply']
  ends ended := absurd (moves.ended ▸ ended) going
  kept k other := (moves.kept k other).trans (reached.kept k other)
  taken k member := by
    have ahead := Stream.taken_iterate_passed_le (w₀.stream k) (n + 1)
    rw [Function.iterate_succ_apply', ← (reached.going going).2 k member,
      ← moves.changed k member] at ahead
    exact Nat.le_trans ahead (by omega)

end Going

/-- At the end of all streams, looking ahead changes nothing. -/
theorem Reached.of_asked_at_end (reached : Reached m w₀ w n raised)
    (asked : Asked w w' m.streams) (ended : m.reading ∈ w'.ended)
    (whole : ∀ entry ∈ m.entries, ¬ (w.stream entry.stream).Broken) (last : n = m.rowCount w₀)
    (nothing : ¬ ((upcomingOf m w).map Option.isSome).any id = true) :
    Reached m w₀ w' n raised := by
  have same : ∀ k, w'.stream k = w.stream k := by
    intro k
    rcases asked k with same | ⟨member, seen⟩
    · exact same
    · obtain ⟨entry, isEntry, rfl⟩ := List.mem_map.mp member
      rw [seen]
      refine Stream.hasNext_of_ended (List.head?_eq_none_iff.mp ?_) (whole entry isEntry)
      rw [← Stream.upcoming_eq_head?, ← Option.not_isSome_iff_eq_none]
      intro some
      exact nothing (List.any_eq_true.mpr
        ⟨_, List.mem_map_of_mem (List.mem_map_of_mem isEntry), some⟩)
  refine ⟨reached.below, fun stillGoing => absurd ended stillGoing, fun _ => last, ?_, ?_⟩
  · intro k other
    rw [same, reached.kept k other]
  · intro k member
    rw [same]
    exact reached.taken k member

/-- **One row**: the one of the next number if there is one; else the reading ends, or a stream
fails, and no stream is more than looked ahead. -/
theorem Reached.nextRow (reached : Reached m w₀ w n raised) (own : m.streams.Nodup)
    (extracts : n < m.rowCount w₀ → ∃ row, m.rowOf w₀.held n = .ok row) :
    NextRow m w₀ w n raised := by
  by_cases ended : m.reading ∈ w.ended
  · exact .none ((yields_nextRecords_ended ended).bind (.pure _ _)) ended reached
  have below := reached.lt_rowCount_iff ended
  by_cases broken : ∃ entry ∈ m.entries, (w.stream entry.stream).Broken
  · have last : n = m.rowCount w₀ := by
      refine Nat.le_antisymm reached.below (Nat.le_of_not_lt fun further => ?_)
      obtain ⟨entry, member, isBroken⟩ := broken
      exact (below.mp further).2 entry member isBroken
    obtain ⟨failure, w', fails, atEnd, asked⟩ := exists_fails_nextRecords own ended broken
    exact .fails (fails_bind_iff.mpr (Or.inl fails)) atEnd (reached.of_asked ended asked atEnd last)
  have whole : ∀ entry ∈ m.entries, ¬ (w.stream entry.stream).Broken :=
    fun entry member isBroken => broken ⟨entry, member, isBroken⟩
  by_cases coming : ((upcomingOf m w).map Option.isSome).any id = true
  · have further := below.mpr ⟨coming, whole⟩
    obtain ⟨row, made⟩ := extracts further
    obtain ⟨w', found, moves⟩ := exists_yields_nextRecords_upcoming own ended whole coming
    rw [reached.upcomingOf_eq ended] at found
    refine .row (found.bind ?_) made ended (reached.of_moves ended moves further)
    rw [MergedSheet.rowOf] at made
    simp only [made]
    exact .pure _ _
  · have last : n = m.rowCount w₀ :=
      Nat.le_antisymm reached.below (Nat.le_of_not_lt fun further => coming (below.mp further).1)
    obtain ⟨w', found, atEnd, asked⟩ := exists_yields_nextRecords_none own ended whole coming
    exact .none (found.bind (.pure _ _)) atEnd
      (reached.of_asked_at_end asked atEnd whole last coming)

/-! ### Pulls -/

/-- What one pull of an iterator gives of a sheet of which `n` rows were read: the next row, as the
iterator shows it, or none. -/
inductive Gives (m : MergedSheet) (w₀ w w' : Workspace) (n : Nat) (raised : Bool) (view : RowView) :
    RowPull → Prop
  | row {row : List Cell} (made : m.rowOf w₀.held n = .ok row) (going : m.reading ∉ w.ended)
      (reached : Reached m w₀ w' (n + 1) raised) :
      Gives m w₀ w w' n raised view (.row (view.shown row))
  | none {given : RowPull} (noRow : given.row? = none) (ended : m.reading ∈ w'.ended)
      (reached : Reached m w₀ w' n (raised || given.isRaised)) : Gives m w₀ w w' n raised view given

/-- Iterators that came to their end did so with the reading. -/
def Current (m : MergedSheet) (w : Workspace) (iterator : RowIterator) : Prop :=
  iterator.ended = true → m.reading ∈ w.ended

theorem Gives.keeps_ended {view : RowView} {given : RowPull}
    (gives : Gives m w₀ w w' n raised view given) (ended : m.reading ∈ w.ended) :
    m.reading ∈ w'.ended := by
  cases gives with
  | row _ going => exact absurd ended going
  | none _ ended' => exact ended'

/-- What an iterator gives that has not come to its end. -/
theorem run_pullRow (m : MergedSheet) (view : RowView) (w : Workspace) :
    (pullRow m ⟨view, false⟩).run w = match (nextRow m).run.run w with
      | (.ok (some row), w') => ((.row (view.shown row), ⟨view, false⟩), w')
      | (.ok none, w') => ((.ended, ⟨view, true⟩), w')
      | (.error failure, w') => ((.raised failure, ⟨view, true⟩), w') := by
  show ((nextRow m).run >>= _).run w = _
  rw [StateT.run_bind]
  rcases (nextRow m).run.run w with ⟨_ | _ | _, w'⟩ <;> rfl

/-- **A pull of any iterator** gives the next row. -/
theorem Reached.pullRow (reached : Reached m w₀ w n raised) (own : m.streams.Nodup)
    (extracts : n < m.rowCount w₀ → ∃ row, m.rowOf w₀.held n = .ok row) {iterator : RowIterator}
    (current : Current m w iterator) :
    ∃ given behind w', (pullRow m iterator).run w = ((given, behind), w') ∧
      Gives m w₀ w w' n raised iterator.view given ∧ Current m w' behind := by
  obtain ⟨view, stale⟩ := iterator
  cases stale with
  | true =>
    have ended := current rfl
    have unraised : (raised || RowPull.ended.isRaised) = raised := Bool.or_false raised
    exact ⟨.ended, _, w, rfl, .none rfl ended (by rwa [unraised]), current⟩
  | false =>
    have run := run_pullRow m view w
    cases reached.nextRow own extracts with
    | row next made going reached' =>
      rw [show (Workspace.nextRow m).run.run w = _ from next] at run
      exact ⟨_, _, _, run, .row made going reached', nofun⟩
    | none next ended reached' =>
      rw [show (Workspace.nextRow m).run.run w = _ from next] at run
      have unraised : (raised || RowPull.ended.isRaised) = raised := Bool.or_false raised
      exact ⟨_, _, _, run, .none rfl ended (by rwa [unraised]), fun _ => ended⟩
    | fails next ended reached' =>
      rw [show (Workspace.nextRow m).run.run w = _ from next] at run
      have isRaised (failure : Failure) : (raised || (RowPull.raised failure).isRaised) = true :=
        Bool.or_true raised
      exact ⟨_, _, _, run, .none rfl ended (by rwa [isRaised]), fun _ => ended⟩

/-- The rows among pulls, each with what the iterator shows. -/
def rowsIn (pulls : List (RowView × RowPull)) : List (RowView × ShownRow) :=
  pulls.filterMap fun p => p.2.row?.map (p.1, ·)

/-- The row of a number, as it is shown. -/
def ShowsRow (m : MergedSheet) (held : Nat → List Record) (i : Nat) (p : RowView × ShownRow) :
    Prop :=
  ∃ row, m.rowOf held i = .ok row ∧ p.2 = p.1.shown row

/-- **Any steps of reading** a sheet of which `n` rows were read. -/
structure ReadOn (m : MergedSheet) (w₀ w w' : Workspace) (n : Nat) (raised : Bool)
    (pulls : List (RowView × RowPull)) : Prop where
  /-- The rows are those from the next number on, in turn. -/
  rows : List.Forall₂ (ShowsRow m w₀.held) (List.range' n (rowsIn pulls).length) (rowsIn pulls)
  reached : Reached m w₀ w' (n + (rowsIn pulls).length) (raised || pulls.any (·.2.isRaised))
  /-- A pull without a row is one behind the end. -/
  ended : (m.reading ∈ w.ended ∨ ∃ p ∈ pulls, p.2.row? = none) → m.reading ∈ w'.ended

theorem ReadOn.nil (reached : Reached m w₀ w n raised) : ReadOn m w₀ w w n raised [] where
  rows := .nil
  reached := by
    rw [List.any_nil, Bool.or_false]
    exact reached
  ended
    | .inl ended => ended
    | .inr ⟨_, member, _⟩ => nomatch member

section Cons

variable {w₁ : Workspace} {view : RowView} {given : RowPull} {pulls : List (RowView × RowPull)}

/-- A row is pulled, and then the others. -/
theorem ReadOn.cons_row {row : List Cell} (made : m.rowOf w₀.held n = .ok row)
    (going : m.reading ∉ w.ended) (others : ReadOn m w₀ w₁ w' (n + 1) raised pulls) :
    ReadOn m w₀ w w' n raised ((view, .row (view.shown row)) :: pulls) where
  rows := by
    show List.Forall₂ _ (List.range' n ((rowsIn pulls).length + 1)) ((view, view.shown row) :: _)
    rw [List.range'_succ]
    exact .cons ⟨row, made, rfl⟩ others.rows
  reached := by
    have total : n + ((rowsIn pulls).length + 1) = n + 1 + (rowsIn pulls).length := by omega
    show Reached m w₀ w' (n + ((rowsIn pulls).length + 1)) (raised || pulls.any (·.2.isRaised))
    rw [total]
    exact others.reached
  ended
    | .inl ended => absurd ended going
    | .inr ⟨p, member, noRow⟩ => by
      rcases List.mem_cons.mp member with rfl | later
      · cases noRow
      · exact others.ended (Or.inr ⟨p, later, noRow⟩)

/-- Nothing is pulled as the reading has ended, and so it stays. -/
theorem ReadOn.cons_noRow (noRow : given.row? = none) (ended : m.reading ∈ w₁.ended)
    (others : ReadOn m w₀ w₁ w' n (raised || given.isRaised) pulls) :
    ReadOn m w₀ w w' n raised ((view, given) :: pulls) := by
  have same : rowsIn ((view, given) :: pulls) = rowsIn pulls := by
    rw [rowsIn, List.filterMap_cons, noRow]
    rfl
  refine ⟨?_, ?_, fun _ => others.ended (Or.inl ended)⟩
  · rw [same]
    exact others.rows
  · rw [same, List.any_cons, ← Bool.or_assoc]
    exact others.reached

end Cons

theorem run_readSteps_pull {iterators : List RowIterator} {iterator behind : RowIterator} {i : Nat}
    {given : RowPull} {w₁ : Workspace} (steps : List ReadStep)
    (found : iterators[i]? = some iterator)
    (pulled : (Workspace.pullRow m iterator).run w = ((given, behind), w₁)) :
    (readSteps m (.pull i :: steps) iterators).run w =
      ((iterator.view, given) :: ((readSteps m steps (iterators.set i behind)).run w₁).1,
        ((readSteps m steps (iterators.set i behind)).run w₁).2) := by
  rw [readSteps, found]
  refine run_bind_eq pulled ?_
  rw [StateT.run_bind]
  rfl

/-- **Rows are pulled in turn**, whatever iterators there are and in which order they are pulled. The
induction is on the steps; all iterators that came to an end did so with the reading. -/
theorem Reached.readSteps (own : m.streams.Nodup) (steps : List ReadStep) :
    ∀ {iterators : List RowIterator} {w w' : Workspace} {n : Nat} {raised : Bool}
      {pulls : List (RowView × RowPull)}, Reached m w₀ w n raised →
      (∀ iterator ∈ iterators, Current m w iterator) →
      (∀ i, n ≤ i → i < n + pulls.length → i < m.rowCount w₀ →
        ∃ row, m.rowOf w₀.held i = .ok row) →
      (Workspace.readSteps m steps iterators).run w = (pulls, w') →
      ReadOn m w₀ w w' n raised pulls := by
  induction steps with
  | nil =>
    intro iterators w w' n raised pulls reached _ _ run
    cases run
    exact .nil reached
  | cons step steps ih =>
    intro iterators w w' n raised pulls reached current extracts run
    cases step with
    | obtain view =>
      refine ih reached (fun iterator member => ?_) extracts run
      rcases List.mem_append.mp member with before | new
      · exact current iterator before
      · cases List.mem_singleton.mp new
        exact nofun
    | pull i =>
      cases found : iterators[i]? with
      | none =>
        rw [Workspace.readSteps, found] at run
        exact ih reached current extracts run
      | some iterator =>
        rcases pulled : (Workspace.pullRow m iterator).run w with ⟨⟨given, behind⟩, w₁⟩
        rw [run_readSteps_pull steps found pulled] at run
        obtain ⟨rfl, rfl⟩ := Prod.mk.inj run
        obtain ⟨_, _, _, outcome, gives, current₁⟩ := reached.pullRow own
          (extracts n (Nat.le_refl n) (by rw [List.length_cons]; omega))
          (current iterator (List.mem_of_getElem? found))
        obtain ⟨⟨rfl, rfl⟩, rfl⟩ := (Prod.mk.inj (pulled.symm.trans outcome)).imp_left Prod.mk.inj
        -- The other iterators stay current, as the reading does not begin again.
        have currentRest : ∀ iterator ∈ iterators.set i behind, Current m w₁ iterator := by
          intro other member
          rcases List.mem_or_eq_of_mem_set member with before | rfl
          · exact fun stale => gives.keeps_ended (current other before stale)
          · exact current₁
        cases gives with
        | row made going reached₁ =>
          refine .cons_row made going (ih reached₁ currentRest (fun i within before => ?_) rfl)
          exact extracts i (by omega) (by rw [List.length_cons]; omega)
        | none noRow ended reached₁ =>
          refine .cons_noRow noRow ended (ih reached₁ currentRest (fun i within before => ?_) rfl)
          exact extracts i within (by rw [List.length_cons]; omega)

/-! ### One iterator -/

/-- An iterator that came to its end gives nothing, and changes nothing. -/
theorem readSteps_of_ended (m : MergedSheet) (view : RowView) (count : Nat) (w : Workspace) :
    rowsIn ((readSteps m (List.replicate count (.pull 0)) [⟨view, true⟩]).run w).1 = [] ∧
      ((readSteps m (List.replicate count (.pull 0)) [⟨view, true⟩]).run w).2 = w := by
  induction count with
  | zero => exact ⟨rfl, rfl⟩
  | succ count ih =>
    have pulled : (pullRow m ⟨view, true⟩).run w = ((.ended, ⟨view, true⟩), w) := rfl
    rw [List.replicate_succ, run_readSteps_pull _ rfl pulled]
    exact ih

/-- **Taking rows is pulling one iterator** so often. -/
theorem readSteps_replicate (m : MergedSheet) (view : RowView) (count : Nat) (w : Workspace) :
    rowsIn ((readSteps m (List.replicate count (.pull 0)) [⟨view, false⟩]).run w).1 =
        ((takeRows m count).run w).1.1.map (fun row => (view, view.shown row)) ∧
      ((readSteps m (List.replicate count (.pull 0)) [⟨view, false⟩]).run w).2 =
        ((takeRows m count).run w).2 := by
  induction count generalizing w with
  | zero => exact ⟨rfl, rfl⟩
  | succ count ih =>
    have pulled := run_pullRow m view w
    rw [run_takeRows_succ, List.replicate_succ]
    rcases outcome : (nextRow m).run.run w with ⟨_ | _ | row, w₁⟩ <;> rw [outcome] at pulled <;>
      rw [run_readSteps_pull _ rfl pulled]
    · exact readSteps_of_ended m view count w₁
    · exact readSteps_of_ended m view count w₁
    · exact ⟨congrArg ((view, view.shown row) :: ·) (ih w₁).1, (ih w₁).2⟩

end Workspace

end SheetExport
