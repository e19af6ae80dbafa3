/-
**What streams hold, and what operations on a workspace keep.**

* `Stream.Holds s records` — the stream gives just these records and then ends, whether they are
  still in its source or looked at already. Looking ahead keeps what a stream holds
  (`Stream.Holds.peek`, `Stream.Holds.hasNext`), taking takes its first record
  (`Stream.Holds.next`), draining takes all (`Stream.Holds.drain`).
* `Workspace.Keeps w w' numbers` — from `w` to `w'` only the streams of the given numbers changed
  among those there were, and no reading began or ended.
* `exists_yields_onStream`: an operation on one stream keeps all others.
-/

import SheetExport.Organize.Merge
import SheetExport.Proofs.Outcome

namespace SheetExport

/-! ### Streams -/

namespace Stream

variable {α : Type} {s : Stream α} {a : α} {records : List α}

/-- The stream gives these records, and then ends. -/
def Holds (s : Stream α) (records : List α) : Prop :=
  ∃ ahead, s.source = ahead.map .record ∧ s.buffer ++ ahead = records

theorem holds_ofList (records : List α) : (ofList records).Holds records :=
  ⟨records, rfl, rfl⟩

theorem Holds.peek (holds : s.Holds (a :: records)) :
    ∃ s', s.peek = (.ok a, s') ∧ s'.Holds (a :: records) := by
  obtain ⟨buffer, source, taken⟩ := s
  obtain ⟨ahead, rfl, same⟩ := holds
  cases buffer with
  | cons b buffer =>
    cases same
    exact ⟨_, rfl, ahead, rfl, rfl⟩
  | nil =>
    cases same
    exact ⟨_, rfl, records, rfl, rfl⟩

/-- Asking whether there is a next record keeps all records. -/
theorem Holds.hasNext (holds : s.Holds records) :
    ∃ s', s.hasNext = (.ok !records.isEmpty, s') ∧ s'.Holds records := by
  cases records with
  | nil =>
    obtain ⟨buffer, source, taken⟩ := s
    obtain ⟨ahead, rfl, same⟩ := holds
    obtain ⟨rfl, rfl⟩ := List.append_eq_nil_iff.mp same
    exact ⟨_, rfl, [], rfl, rfl⟩
  | cons a records =>
    obtain ⟨s', read, holds'⟩ := holds.peek
    refine ⟨s', ?_, holds'⟩
    rw [Stream.hasNext, read]
    rfl

/-- The next record is the first one held. -/
theorem Holds.next (holds : s.Holds (a :: records)) :
    ∃ s', s.next = (.ok a, s') ∧ s'.Holds records := by
  obtain ⟨buffer, source, taken⟩ := s
  obtain ⟨ahead, rfl, same⟩ := holds
  cases buffer with
  | cons b buffer =>
    cases same
    exact ⟨_, rfl, ahead, rfl, rfl⟩
  | nil =>
    cases same
    exact ⟨_, rfl, records, rfl, rfl⟩

theorem recordsOf_map (records : List α) : recordsOf (records.map .record) = (records, none) := by
  induction records with
  | nil => rfl
  | cons a records ih => rw [List.map_cons, recordsOf, ih]

/-- All records that the stream gives before it ends or fails. -/
def held (s : Stream α) : List α := s.buffer ++ (recordsOf s.source).1

theorem Holds.held_eq (holds : s.Holds records) : s.held = records := by
  obtain ⟨ahead, source, rfl⟩ := holds
  rw [held, source, recordsOf_map]

/-- Draining a stream gives all records held. -/
theorem Holds.drain (holds : s.Holds records) :
    ∃ s', s.drain = (.ok records, s') := by
  obtain ⟨ahead, source, rfl⟩ := holds
  exact ⟨_, by rw [Stream.drain, source, recordsOf_map]⟩

end Stream

/-! ### Workspaces -/

namespace Workspace

variable {w w' w'' : Workspace} {number : Nat} {numbers : List Nat} {records : List Record}
  {α : Type}

/-- The workspace has a stream of the number, and it gives these records. -/
def Holds (w : Workspace) (number : Nat) (records : List Record) : Prop :=
  number < w.supplies.length ∧ (w.stream number).Holds records

/-- The records that the stream of a number still gives. -/
def held (w : Workspace) (number : Nat) : List Record := (w.stream number).held

theorem Holds.held_eq (holds : w.Holds number records) : w.held number = records :=
  Stream.Holds.held_eq holds.2

theorem Holds.of_supplies (holds : w.Holds number records) (same : w'.supplies = w.supplies) :
    w'.Holds number records := by
  unfold Holds stream at *
  rw [same]
  exact holds

/-- Nothing but the streams of the given numbers changed, and perhaps the catalog and the counts;
streams may have been put up. -/
structure Keeps (w w' : Workspace) (numbers : List Nat) : Prop where
  streams : ∀ n ∉ numbers, n < w.supplies.length → w'.stream n = w.stream n
  count : w.supplies.length ≤ w'.supplies.length
  ended : w'.ended = w.ended
  nextReading : w'.nextReading = w.nextReading

theorem Keeps.refl (w : Workspace) (numbers : List Nat) : Keeps w w numbers :=
  ⟨fun _ _ _ => rfl, Nat.le_refl _, rfl, rfl⟩

theorem Keeps.mono {more : List Nat} (keeps : Keeps w w' numbers) (sub : numbers ⊆ more) :
    Keeps w w' more :=
  ⟨fun n notMem => keeps.streams n fun mem => notMem (sub mem), keeps.count, keeps.ended,
    keeps.nextReading⟩

theorem Keeps.trans (first : Keeps w w' numbers) (second : Keeps w' w'' numbers) :
    Keeps w w'' numbers where
  streams n notMem below :=
    (second.streams n notMem (Nat.lt_of_lt_of_le below first.count)).trans
      (first.streams n notMem below)
  count := Nat.le_trans first.count second.count
  ended := second.ended.trans first.ended
  nextReading := second.nextReading.trans first.nextReading

/-- What a stream holds is kept with the stream. -/
theorem Holds.keeps (holds : w.Holds number records) (keeps : Keeps w w' numbers)
    (notMem : number ∉ numbers) : w'.Holds number records := by
  obtain ⟨below, held⟩ := holds
  refine ⟨Nat.lt_of_lt_of_le below keeps.count, ?_⟩
  rw [keeps.streams number notMem below]
  exact held

/-- An operation on a stream has the result it has there and keeps all other streams. -/
theorem exists_yields_onStream (w : Workspace) (number : Nat)
    (operation : Stream Record → α × Stream Record) :
    ∃ w', Yields (onStream number operation) w (operation (w.stream number)).1 w' ∧
      Keeps w w' [number] ∧ (number < w.supplies.length →
        number < w'.supplies.length ∧ w'.stream number = (operation (w.stream number)).2) := by
  refine ⟨_, rfl, ⟨?_, ?_, rfl, rfl⟩, fun below => ⟨?_, ?_⟩⟩
  · intro n notMem _
    have apart : number ≠ n := fun same => notMem (List.mem_singleton.mpr same.symm)
    simp only [stream, List.getElem?_set_ne apart]
  · simp only [List.length_set, Nat.le_refl]
  · simp only [List.length_set, below]
  · simp only [stream, List.getElem?_set_self below, Option.map_some, Option.getD_some]

/-- An operation on a stream has a result, whatever that is. -/
theorem failsOnly_onStream {P : Failure → Prop} (number : Nat)
    (operation : Stream Record → α × Stream Record) :
    FailsOnly P (onStream number operation) := by
  intro w failure w' fails
  cases (Prod.mk.inj fails).1

/-- An operation that reads a stream off and leaves it holding what it left. -/
theorem Holds.exists_yields (operation : Stream Record → α × Stream Record) {a : α}
    {left : List Record} (holds : w.Holds number records)
    (operates : ∀ s : Stream Record, s.Holds records →
      ∃ s', operation s = (a, s') ∧ s'.Holds left) :
    ∃ w', Yields (onStream number operation) w a w' ∧ Keeps w w' [number] ∧
      w'.Holds number left := by
  obtain ⟨below, held⟩ := holds
  obtain ⟨s', outcome, holds'⟩ := operates _ held
  obtain ⟨w', yields, keeps, after⟩ := exists_yields_onStream w number operation
  obtain ⟨below', stream'⟩ := after below
  rw [outcome] at yields stream'
  exact ⟨w', yields, keeps, below', by rw [stream']; exact holds'⟩

/-- A computation on the catalog touches nothing else. -/
theorem keeps_of_onCatalog {x : CatalogM α} {a : α} (yields : Yields (onCatalog x) w a w') :
    Yields x w.catalog a w'.catalog ∧ Keeps w w' [] ∧ w'.supplies = w.supplies := by
  have outcome : ((x.run.run w.catalog).1, { w with catalog := (x.run.run w.catalog).2 }) =
      (.ok a, w') := yields
  obtain ⟨result, rfl⟩ := Prod.mk.inj outcome
  exact ⟨Prod.ext result rfl, ⟨fun _ _ _ => rfl, Nat.le_refl _, rfl, rfl⟩, rfl⟩

/-- A computation on the catalog fails as it does without a workspace. -/
theorem failsOnly_onCatalog {P : Failure → Prop} {x : CatalogM α} (failsOnly : FailsOnly P x) :
    FailsOnly P (onCatalog x) := by
  intro w failure w' fails
  exact failsOnly (Prod.ext (Prod.mk.inj fails).1 rfl : x.run.run w.catalog = (_, _))

/-- A stream that is put up gets the next number. -/
theorem of_addStream {s : Stream Record} {key : Option String}
    (yields : Yields (addStream s key) w number w') :
    number = w.supplies.length ∧ Keeps w w' [] ∧ w'.supplies = w.supplies ++ [⟨s, key⟩] := by
  have outcome : number = w.supplies.length ∧ w' = { w with
      supplies := w.supplies ++ [Supply.mk s key]
      pulled := key.elim w.pulled fun key => changeCount (fun _ => 0) key w.pulled } := by
    cases yields
    exact ⟨rfl, rfl⟩
  obtain ⟨rfl, rfl⟩ := outcome
  refine ⟨rfl, ⟨fun n _ below => ?_, ?_, rfl, rfl⟩, rfl⟩
  · simp only [stream, List.getElem?_append_left below]
  · simp only [List.length_append, Nat.le_add_right]

theorem holds_of_addStream {key : Option String}
    (yields : Yields (addStream (.ofList records) key) w number w') : w'.Holds number records := by
  obtain ⟨rfl, _, supplies⟩ := of_addStream yields
  refine ⟨by simp [supplies], ?_⟩
  have same : w'.stream w.supplies.length = .ofList records := by simp [stream, supplies]
  rw [same]
  exact Stream.holds_ofList records

end Workspace

end SheetExport
