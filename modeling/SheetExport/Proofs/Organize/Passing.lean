/-
**One pull from streams that may fail.**

* `Stream.Broken s` — looking ahead meets a failure; `Stream.upcoming`, `Stream.passed`: the record
  that comes next, and the stream behind it;
* `Workspace.Moves w w' numbers change` — from `w` to `w'` just the streams of these numbers changed,
  each by `change`, and no reading ended;
* `exists_moves_mapM` — operations on different streams move each of them by itself;
* `Workspace.Asked w w' numbers` — from `w` to `w'` streams of these numbers were looked ahead at
  most;
* the next records of a sheet, with a stream of its own for each entry: none once its reading has
  ended (`yields_nextRecords_ended`), a failure that ends it if some stream is broken
  (`exists_fails_nextRecords`), and else what comes next in every stream
  (`exists_yields_nextRecords_upcoming`), or the end if nothing does (`exists_yields_nextRecords_none`).
-/

import SheetExport.Proofs.Organize.Iteration
import SheetExport.Proofs.Organize.Lockstep
import SheetExport.Proofs.Upholding

namespace SheetExport

/-! ### Streams -/

namespace Stream

variable {α : Type} {s : Stream α} {a : α}

/-- Looking ahead meets a failure. -/
def Broken (s : Stream α) : Prop := ∃ fault, s.hasNext.1 = .error fault

/-- The record that comes next, if there is one. -/
def upcoming (s : Stream α) : Option α := s.hasNext.2.buffer.head?

/-- The stream without the record that was looked at first. -/
def advanced (s : Stream α) : Stream α := { s with buffer := s.buffer.tail }

/-- The stream behind the record that comes next. -/
def passed (s : Stream α) : Stream α := s.hasNext.2.advanced

theorem fst_hasNext (whole : ¬ s.Broken) : s.hasNext.1 = .ok s.upcoming.isSome := by
  obtain ⟨buffer, source, taken⟩ := s
  cases buffer with
  | cons b buffer => rfl
  | nil =>
    rcases source with _ | ⟨_ | fault, rest⟩
    · rfl
    · rfl
    · exact absurd ⟨fault, rfl⟩ whole

/-- Who looks ahead again sees no more. -/
theorem hasNext_hasNext (s : Stream α) : s.hasNext.2.hasNext.2 = s.hasNext.2 := by
  obtain ⟨_ | ⟨b, buffer⟩, source, taken⟩ := s
  · rcases source with _ | ⟨_ | fault, rest⟩ <;> rfl
  · rfl

/-- A record that was seen is taken. -/
theorem next_of_head? (seen : s.buffer.head? = some a) : s.next = (.ok a, s.advanced) := by
  obtain ⟨buffer, source, taken⟩ := s
  cases buffer with
  | nil => cases seen
  | cons b buffer =>
    cases seen
    rfl

theorem advanced_of_head? (nothing : s.buffer.head? = none) : s.advanced = s := by
  obtain ⟨buffer, source, taken⟩ := s
  cases buffer with
  | nil => rfl
  | cons b buffer => cases nothing

end Stream

namespace Workspace

variable {w w₁ w' : Workspace} {m : MergedSheet}

/-! ### Operations on different streams -/

/-- The streams of the numbers changed so, and no other, and no reading ended. -/
structure Moves (w w' : Workspace) (numbers : List Nat) (change : Stream Record → Stream Record) :
    Prop where
  changed : ∀ n ∈ numbers, w'.stream n = change (w.stream n)
  kept : ∀ n ∉ numbers, w'.stream n = w.stream n
  ended : w'.ended = w.ended

theorem Moves.trans {numbers : List Nat} {change change' : Stream Record → Stream Record}
    (first : Moves w w₁ numbers change) (second : Moves w₁ w' numbers change') :
    Moves w w' numbers (fun s => change' (change s)) where
  changed n member := (second.changed n member).trans (congrArg change' (first.changed n member))
  kept n other := (second.kept n other).trans (first.kept n other)
  ended := second.ended.trans first.ended

/-- An operation that leaves the empty stream as it is moves the stream of its number. -/
theorem exists_moves_onStream {α : Type} (w : Workspace) (number : Nat)
    (operation : Stream Record → α × Stream Record)
    (empty : (operation (.ofItems [])).2 = .ofItems []) :
    ∃ w', Yields (onStream number operation) w (operation (w.stream number)).1 w' ∧
      Moves w w' [number] fun s => (operation s).2 := by
  obtain ⟨w', yields, _⟩ := exists_yields_onStream w number operation
  have after := (stream_onStream yields).2
  have ended : w'.ended = w.ended := by
    cases yields
    rfl
  refine ⟨w', yields, fun n member => ?_, fun n other => ?_, ended⟩
  · obtain rfl := List.mem_singleton.mp member
    rw [after]
    split
    · rfl
    · -- There is no stream of the number.
      rename_i outside
      have missing : w.stream n = .ofItems [] := by
        rw [stream, List.getElem?_eq_none (Nat.le_of_not_lt fun below => outside ⟨rfl, below⟩)]
        rfl
      rw [missing, empty]
  · rw [after, if_neg fun both => other (List.mem_singleton.mpr both.1)]

/-- **Operations on different streams** move each of them, whatever the order. The induction is on
the items; the streams of those that are left are still as they were. -/
theorem exists_moves_mapM {γ β : Type} (change : Stream Record → Stream Record) (items : List γ)
    (number : γ → Nat) (operation : γ → WorkspaceM β) (value : γ → β)
    (apart : (items.map number).Nodup)
    (each : ∀ a ∈ items, ∀ w₁, w₁.stream (number a) = w.stream (number a) →
      ∃ w₂, Yields (operation a) w₁ (value a) w₂ ∧ Moves w₁ w₂ [number a] change) :
    ∃ w', Yields (items.mapM operation) w (items.map value) w' ∧
      Moves w w' (items.map number) change := by
  induction items generalizing w with
  | nil => exact ⟨w, yields_mapM_nil_iff.mpr ⟨rfl, rfl⟩, by simp, fun _ _ => rfl, rfl⟩
  | cons a items ih =>
    rw [List.map_cons, List.nodup_cons] at apart
    obtain ⟨w₁, first, moves⟩ := each a List.mem_cons_self w rfl
    have same : ∀ b ∈ items, w₁.stream (number b) = w.stream (number b) := by
      intro b member
      refine moves.kept _ fun isFirst => apart.1 ?_
      rw [← List.mem_singleton.mp isFirst]
      exact List.mem_map_of_mem member
    obtain ⟨w', others, moves'⟩ := ih apart.2 fun b member w₂ unchanged =>
      each b (List.mem_cons_of_mem _ member) w₂ (unchanged.trans (same b member))
    refine ⟨w', yields_mapM_cons_iff.mpr ⟨_, w₁, _, rfl, first, others⟩, fun n member => ?_,
      fun n other => ?_, moves'.ended.trans moves.ended⟩
    · rcases List.mem_cons.mp member with rfl | later
      · rw [moves'.kept _ apart.1, moves.changed _ List.mem_cons_self]
      · rw [moves'.changed _ later, moves.kept _ fun isFirst =>
          apart.1 (List.mem_singleton.mp isFirst ▸ later)]
    · rw [List.map_cons, List.mem_cons, not_or] at other
      rw [moves'.kept _ other.2, moves.kept _ fun isFirst => other.1 (List.mem_singleton.mp isFirst)]

/-! ### Asking and taking -/

section Entries

variable {reading : Nat} {entry : SheetEntry}

theorem exists_moves_hasNext (reading : Nat) (whole : ¬ (w.stream entry.stream).Broken) :
    ∃ w', Yields (hasNext reading entry) w (w.stream entry.stream).upcoming.isSome w' ∧
      Moves w w' [entry.stream] fun s => s.hasNext.2 := by
  obtain ⟨w', asked, moves⟩ := exists_moves_onStream w entry.stream Stream.hasNext rfl
  rw [Stream.fst_hasNext whole] at asked
  exact ⟨w', asked.bind (.pure _ _), moves⟩

/-- A broken stream ends the reading, and its failure is that of the pull. -/
theorem exists_fails_hasNext (reading : Nat) {fault : Fault}
    (fails : (w.stream entry.stream).hasNext.1 = .error fault) :
    ∃ w', Fails (hasNext reading entry) w (.fault fault) w' ∧ reading ∈ w'.ended := by
  obtain ⟨w₁, asked, _⟩ := exists_moves_onStream w entry.stream Stream.hasNext rfl
  rw [fails] at asked
  refine ⟨{ w₁ with ended := reading :: w₁.ended }, ?_, List.mem_cons_self⟩
  exact fails_bind_iff.mpr (Or.inr ⟨_, w₁, asked, fails_bind_iff.mpr
    (Or.inr ⟨(), _, yields_endReading w₁ reading, fails_throw_iff.mpr ⟨rfl, rfl⟩⟩)⟩)

/-- One broken stream is enough. -/
theorem exists_fails_mapM_hasNext (reading : Nat) {entries : List SheetEntry}
    (apart : (entries.map SheetEntry.stream).Nodup)
    (broken : ∃ entry ∈ entries, (w.stream entry.stream).Broken) :
    ∃ failure w', Fails (entries.mapM (hasNext reading)) w failure w' ∧ reading ∈ w'.ended := by
  induction entries generalizing w with
  | nil =>
    obtain ⟨_, member, _⟩ := broken
    cases member
  | cons first entries ih =>
    rw [List.map_cons, List.nodup_cons] at apart
    rw [List.mapM_cons]
    by_cases isFirst : (w.stream first.stream).Broken
    · obtain ⟨fault, found⟩ := isFirst
      obtain ⟨w', fails, ended⟩ := exists_fails_hasNext reading found
      exact ⟨.fault fault, w', fails_bind_iff.mpr (Or.inl fails), ended⟩
    · obtain ⟨w₁, asked, moves⟩ := exists_moves_hasNext reading isFirst
      have later : ∃ entry ∈ entries, (w₁.stream entry.stream).Broken := by
        obtain ⟨entry, member, isBroken⟩ := broken
        rcases List.mem_cons.mp member with rfl | later
        · exact absurd isBroken isFirst
        · refine ⟨entry, later, ?_⟩
          rw [moves.kept _ fun same => apart.1
            (List.mem_singleton.mp same ▸ List.mem_map_of_mem later)]
          exact isBroken
      obtain ⟨failure, w', fails, ended⟩ := ih apart.2 later
      exact ⟨failure, w', fails_bind_iff.mpr (Or.inr ⟨_, w₁, asked,
        fails_bind_iff.mpr (Or.inl fails)⟩), ended⟩

/-- The record that was looked at in the stream of an entry. -/
theorem exists_moves_taken (reading : Nat) {record : Option Record}
    (seen : (w.stream entry.stream).buffer.head? = record) :
    ∃ w', Yields (do
        if record.isSome then return some (← nextRecord reading entry)
        else return none : WorkspaceM (Option Record)) w record w' ∧
      Moves w w' [entry.stream] Stream.advanced := by
  cases record with
  | none =>
    refine ⟨w, .pure _ _, fun n member => ?_, fun _ _ => rfl, rfl⟩
    rw [List.mem_singleton.mp member, Stream.advanced_of_head? seen]
  | some r =>
    obtain ⟨w', took, moves⟩ := exists_moves_onStream w entry.stream Stream.next rfl
    have next := Stream.next_of_head? seen
    rw [next] at took
    have record : Yields (nextRecord reading entry) w r w' := took.bind (.pure _ _)
    refine ⟨w', record.bind (.pure _ _), fun n member => ?_, moves.kept, moves.ended⟩
    rw [moves.changed n member, List.mem_singleton.mp member, next]

end Entries

/-- Streams of these numbers were looked ahead, some of them, and no other was touched. -/
def Asked (w w' : Workspace) (numbers : List Nat) : Prop :=
  ∀ n, w'.stream n = w.stream n ∨ n ∈ numbers ∧ w'.stream n = (w.stream n).hasNext.2

theorem Asked.refl (w : Workspace) (numbers : List Nat) : Asked w w numbers := fun _ => Or.inl rfl

theorem upholds_asked (w₀ : Workspace) {numbers : List Nat} (reading : Nat) {entry : SheetEntry}
    (member : entry.stream ∈ numbers) :
    Upholds (Asked w₀ · numbers) (fun _ => True) (hasNext reading entry) := by
  refine .bind (P := fun _ => True) (fun w before => ⟨?_, fun _ _ => trivial⟩) fun outcome _ => ?_
  · obtain ⟨w', asked, moves⟩ := exists_moves_onStream w entry.stream Stream.hasNext rfl
    rw [asked]
    intro n
    by_cases same : n = entry.stream
    · subst same
      refine Or.inr ⟨member, ?_⟩
      rw [moves.changed _ List.mem_cons_self]
      rcases before entry.stream with kept | ⟨_, seen⟩
      · rw [kept]
      · rw [seen, Stream.hasNext_hasNext]
    · rw [moves.kept n fun isEntry => same (List.mem_singleton.mp isEntry)]
      exact before n
  · split
    · exact .pure trivial
    · exact .bind (.modify fun _ before => before) fun _ _ => .throw _

/-- Asking entries whether they have a further record does nothing else, even if one fails. -/
theorem asked_mapM_hasNext (w : Workspace) (reading : Nat) (entries : List SheetEntry) :
    Asked w ((entries.mapM (hasNext reading)).run.run w).2 (entries.map SheetEntry.stream) :=
  (Upholds.mapM fun _ member =>
    upholds_asked w reading (List.mem_map_of_mem member)).after (.refl w _)

/-! ### The next records of a sheet -/

/-- What comes next in the streams of a sheet's entries. -/
def upcomingOf (m : MergedSheet) (w : Workspace) : List (Option Record) :=
  m.entries.map fun entry => (w.stream entry.stream).upcoming

theorem yields_nextRecords_ended (ended : m.reading ∈ w.ended) :
    Yields (nextRecords m) w none w := by
  refine (Yields.get w).bind ?_
  rw [if_pos (List.contains_iff_mem.mpr ended)]
  exact .pure _ _

section Reading

variable (apart : m.streams.Nodup)

include apart

/-- All entries are asked, and each stream is looked ahead. -/
theorem exists_moves_asked (whole : ∀ entry ∈ m.entries, ¬ (w.stream entry.stream).Broken) :
    ∃ w', Yields (m.entries.mapM (hasNext m.reading)) w ((upcomingOf m w).map Option.isSome) w' ∧
      Moves w w' m.streams fun s => s.hasNext.2 := by
  obtain ⟨w', asked, moves⟩ := exists_moves_mapM (w := w) (fun s => s.hasNext.2) m.entries
    SheetEntry.stream (hasNext m.reading) (fun entry => (w.stream entry.stream).upcoming.isSome) apart
    (fun entry member w₁ same => by
      have whole₁ : ¬ (w₁.stream entry.stream).Broken := same ▸ whole entry member
      obtain ⟨w₂, found, moves⟩ := exists_moves_hasNext m.reading whole₁
      rw [same] at found
      exact ⟨w₂, found, moves⟩)
  refine ⟨w', ?_, moves⟩
  rw [upcomingOf, List.map_map]
  exact asked

/-- The records that were looked at are taken. -/
theorem exists_moves_records (asked : ∀ entry ∈ m.entries,
    w₁.stream entry.stream = (w.stream entry.stream).hasNext.2) :
    ∃ w', Yields ((m.entries.zip ((upcomingOf m w).map Option.isSome)).mapM
        fun (entry, found) => do
          if found then return some (← nextRecord m.reading entry) else return none)
        w₁ (upcomingOf m w) w' ∧
      Moves w₁ w' m.streams Stream.advanced := by
  let pairOf := fun entry : SheetEntry => (entry, (w.stream entry.stream).upcoming.isSome)
  have pairs : m.entries.zip ((upcomingOf m w).map Option.isSome) = m.entries.map pairOf := by
    have zipped := List.zip_map' (f := id) (l := m.entries)
      (g := fun entry => (w.stream entry.stream).upcoming.isSome)
    rw [List.map_id] at zipped
    rw [upcomingOf, List.map_map]
    exact zipped
  have numbers : (m.entries.map pairOf).map (fun p => p.1.stream) = m.streams := List.map_map ..
  have values : (m.entries.map pairOf).map (fun p => (w.stream p.1.stream).upcoming) =
      upcomingOf m w := List.map_map ..
  obtain ⟨w', took, moves⟩ := exists_moves_mapM (w := w₁) Stream.advanced
    (m.entries.map pairOf) (fun p => p.1.stream)
    (fun (entry, found) => do
      if found then return some (← nextRecord m.reading entry) else return none)
    (fun p => (w.stream p.1.stream).upcoming) (by rw [numbers]; exact apart)
    (fun p member w₂ same => by
      obtain ⟨entry, inEntries, rfl⟩ := List.mem_map.mp member
      refine exists_moves_taken m.reading ?_
      rw [same, asked entry inEntries]
      rfl)
  rw [numbers] at moves
  rw [values] at took
  rw [pairs]
  exact ⟨w', took, moves⟩

variable (going : m.reading ∉ w.ended)

include going

/-- A broken stream ends the reading of the sheet, and no record is taken for a row. -/
theorem exists_fails_nextRecords
    (broken : ∃ entry ∈ m.entries, (w.stream entry.stream).Broken) :
    ∃ failure w', Fails (nextRecords m) w failure w' ∧ m.reading ∈ w'.ended ∧
      Asked w w' m.streams := by
  obtain ⟨failure, w', fails, ended⟩ := exists_fails_mapM_hasNext m.reading apart broken
  have asked := asked_mapM_hasNext w m.reading m.entries
  rw [fails] at asked
  refine ⟨failure, w', fails_bind_iff.mpr (Or.inr ⟨w, w, .get w, ?_⟩), ended, asked⟩
  rw [if_neg (mt List.contains_iff_mem.mp going)]
  exact fails_bind_iff.mpr (Or.inl fails)

variable (whole : ∀ entry ∈ m.entries, ¬ (w.stream entry.stream).Broken)

include whole

/-- **The next records of a sheet** are what comes next in each stream. -/
theorem exists_yields_nextRecords_upcoming
    (coming : ((upcomingOf m w).map Option.isSome).any id = true) :
    ∃ w', Yields (nextRecords m) w (some (upcomingOf m w)) w' ∧
      Moves w w' m.streams Stream.passed := by
  obtain ⟨w₁, asked, moves₁⟩ := exists_moves_asked apart whole
  obtain ⟨w₂, took, moves₂⟩ := exists_moves_records apart fun entry member =>
    moves₁.changed _ (List.mem_map_of_mem member)
  refine ⟨w₂, (Yields.get w).bind ?_, moves₁.trans moves₂⟩
  rw [if_neg (mt List.contains_iff_mem.mp going)]
  refine asked.bind ?_
  rw [if_pos coming]
  exact took.bind (.pure _ _)

/-- At the end of all streams the reading ends. -/
theorem exists_yields_nextRecords_none
    (nothing : ¬ ((upcomingOf m w).map Option.isSome).any id = true) :
    ∃ w', Yields (nextRecords m) w none w' ∧ m.reading ∈ w'.ended ∧ Asked w w' m.streams := by
  obtain ⟨w₁, asked, _⟩ := exists_moves_asked apart whole
  have seen := asked_mapM_hasNext w m.reading m.entries
  rw [asked] at seen
  refine ⟨{ w₁ with ended := m.reading :: w₁.ended }, (Yields.get w).bind ?_,
    List.mem_cons_self, seen⟩
  rw [if_neg (mt List.contains_iff_mem.mp going)]
  refine asked.bind ?_
  rw [if_neg nothing]
  exact (yields_endReading w₁ m.reading).bind (.pure _ _)

end Reading

end Workspace

end SheetExport
