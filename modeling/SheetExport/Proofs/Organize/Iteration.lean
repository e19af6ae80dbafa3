/-
**All rows of a merged sheet are taken.**

Taking all rows stops after a number of pulls that the streams bound. `Pulls m w rows w'` has no
such bound: rows are pulled until there is none. Every row takes a record out of some stream
(`rowBound_lt_of_nextRow`), so the bound is never what stops the taking (`pulls_of_takeAllRows`).
-/

import SheetExport.Proofs.Organize.Supplies

namespace SheetExport

namespace Stream

variable {α : Type} {s s' : Stream α} {a : α}

/-- How many items a stream has left, looked at or not. -/
def left (s : Stream α) : Nat := s.buffer.length + s.source.length

theorem left_pull (s : Stream α) : s.pull.2.left ≤ s.left := by
  obtain ⟨buffer, source, taken⟩ := s
  rcases source with _ | ⟨_ | _, rest⟩ <;> simp [pull, left]

theorem left_hasNext (s : Stream α) : s.hasNext.2.left ≤ s.left := by
  obtain ⟨buffer, source, taken⟩ := s
  cases buffer with
  | cons b buffer => exact Nat.le_refl _
  | nil =>
    rcases source with _ | ⟨_ | _, rest⟩ <;>
      simp [hasNext, peek, pull, left, Nat.add_comm]

theorem left_next (s : Stream α) : s.next.2.left ≤ s.left := by
  obtain ⟨buffer, source, taken⟩ := s
  cases buffer with
  | cons b buffer => simp [next, left]
  | nil => exact left_pull _

/-- A record that is taken is no longer left. -/
theorem left_next_lt (took : s.next.1 = .ok a) : s.next.2.left < s.left := by
  obtain ⟨buffer, source, taken⟩ := s
  cases buffer with
  | cons b buffer => simp [next, left]
  | nil =>
    rcases source with _ | ⟨_ | _, rest⟩
    · cases took
    · simp [next, pull, left]
    · cases took

end Stream

namespace Workspace

variable {w w₁ w' : Workspace} {m : MergedSheet}

/-- No stream got longer. -/
def Shrinks (w w' : Workspace) : Prop := ∀ n, (w'.stream n).left ≤ (w.stream n).left

theorem Shrinks.refl (w : Workspace) : Shrinks w w := fun _ => Nat.le_refl _

theorem Shrinks.trans (first : Shrinks w w₁) (second : Shrinks w₁ w') : Shrinks w w' :=
  fun n => Nat.le_trans (second n) (first n)

theorem stream_onStream {α : Type} {number : Nat}
    {operation : Stream Record → α × Stream Record} {a : α}
    (yields : Yields (onStream number operation) w a w') :
    a = (operation (w.stream number)).1 ∧ ∀ n, w'.stream n =
      if n = number ∧ n < w.supplies.length then (operation (w.stream number)).2
      else w.stream n := by
  cases yields
  refine ⟨rfl, fun n => ?_⟩
  simp only [stream, List.getElem?_set]
  by_cases same : number = n
  · subst same
    by_cases below : number < w.supplies.length
    · rw [if_pos rfl, if_pos below, if_pos ⟨rfl, below⟩]
      rfl
    · rw [if_pos rfl, if_neg below, if_neg (fun both => below both.2),
        List.getElem?_eq_none (Nat.le_of_not_lt below)]
  · rw [if_neg same, if_neg fun both => same both.1.symm]

theorem shrinks_onStream {α : Type} {number : Nat}
    {operation : Stream Record → α × Stream Record} {a : α}
    (shrinks : ∀ s, (operation s).2.left ≤ s.left)
    (yields : Yields (onStream number operation) w a w') : Shrinks w w' := by
  intro n
  rw [(stream_onStream yields).2 n]
  split
  · rename_i same
    rw [same.1]
    exact shrinks _
  · exact Nat.le_refl _

theorem shrinks_hasNext {reading : Nat} {entry : SheetEntry} {found : Bool}
    (yields : Yields (hasNext reading entry) w found w') : Shrinks w w' := by
  obtain ⟨outcome, w₁, asked, rest⟩ := yields_bind_iff.mp yields
  have shrinks := shrinks_onStream Stream.left_hasNext asked
  cases outcome with
  | ok found =>
    obtain ⟨rfl, rfl⟩ := yields_pure_iff.mp rest
    exact shrinks
  | error fault =>
    obtain ⟨_, _, _, thrown⟩ := yields_bind_iff.mp rest
    exact absurd thrown (not_yields_throw _)

/-- A record that is taken leaves its stream shorter. -/
theorem shrinks_nextRecord {reading : Nat} {entry : SheetEntry} {r : Record}
    (yields : Yields (nextRecord reading entry) w r w') :
    Shrinks w w' ∧ (w'.stream entry.stream).left < (w.stream entry.stream).left := by
  obtain ⟨outcome, w₁, took, rest⟩ := yields_bind_iff.mp yields
  cases outcome with
  | ok record =>
    obtain ⟨rfl, rfl⟩ := yields_pure_iff.mp rest
    obtain ⟨same, after⟩ := stream_onStream took
    refine ⟨shrinks_onStream Stream.left_next took, ?_⟩
    rw [after]
    split
    · exact Stream.left_next_lt same.symm
    · -- There is no stream of the number, so no record can be taken.
      rename_i outside
      have missing : w.stream entry.stream = .ofItems [] := by
        have above : w.supplies.length ≤ entry.stream :=
          Nat.le_of_not_lt fun below => outside ⟨rfl, below⟩
        rw [stream, List.getElem?_eq_none above]
        rfl
      rw [missing] at same
      cases same
  | error stop =>
    obtain ⟨_, _, _, thrown⟩ := yields_bind_iff.mp rest
    cases stop <;> exact absurd thrown (not_yields_throw _)

/-- Asking all entries makes no stream longer. -/
theorem shrinks_mapM_hasNext {reading : Nat} {entries : List SheetEntry} {found : List Bool}
    (yields : Yields (entries.mapM (hasNext reading)) w found w') : Shrinks w w' := by
  induction entries generalizing w found with
  | nil =>
    obtain ⟨_, rfl⟩ := yields_mapM_nil_iff.mp yields
    exact .refl _
  | cons entry entries ih =>
    obtain ⟨_, w₁, _, _, first, others⟩ := yields_mapM_cons_iff.mp yields
    exact (shrinks_hasNext first).trans (ih others)

/-- Taking the records of a row makes no stream longer, and one shorter if there is a record. -/
theorem shrinks_mapM_nextRecord {reading : Nat} {asked : List (SheetEntry × Bool)}
    {records : List (Option Record)}
    (yields : Yields (asked.mapM fun (entry, found) => do
      if found then return some (← nextRecord reading entry) else return none) w records w') :
    Shrinks w w' ∧ ((∃ p ∈ asked, p.2 = true) →
      ∃ p ∈ asked, (w'.stream p.1.stream).left < (w.stream p.1.stream).left) := by
  induction asked generalizing w records with
  | nil =>
    obtain ⟨_, rfl⟩ := yields_mapM_nil_iff.mp yields
    exact ⟨.refl _, by simp⟩
  | cons p asked ih =>
    obtain ⟨entry, found⟩ := p
    obtain ⟨_, w₁, _, _, first, others⟩ := yields_mapM_cons_iff.mp yields
    obtain ⟨shrinks, shorter⟩ := ih others
    cases found with
    | true =>
      obtain ⟨_, _, took, last⟩ := yields_bind_iff.mp first
      obtain ⟨_, rfl⟩ := yields_pure_iff.mp last
      obtain ⟨shrinks₁, shorter₁⟩ := shrinks_nextRecord took
      refine ⟨shrinks₁.trans shrinks, fun _ => ⟨_, List.mem_cons_self, ?_⟩⟩
      exact Nat.lt_of_le_of_lt (shrinks _) shorter₁
    | false =>
      obtain ⟨_, rfl⟩ := yields_pure_iff.mp first
      refine ⟨shrinks, ?_⟩
      rintro ⟨p, member, isFound⟩
      rcases List.mem_cons.mp member with rfl | later
      · cases isFound
      · obtain ⟨q, isAsked, less⟩ := shorter ⟨p, later, isFound⟩
        exact ⟨q, List.mem_cons_of_mem _ isAsked, less⟩

theorem rowBound_le (shrinks : Shrinks w w') (m : MergedSheet) :
    rowBound m w' ≤ rowBound m w := by
  unfold rowBound
  induction m.entries with
  | nil => exact Nat.le_refl _
  | cons entry entries ih =>
    rw [List.foldr_cons, List.foldr_cons]
    exact Nat.add_le_add (shrinks entry.stream) ih

theorem rowBound_lt (shrinks : Shrinks w w')
    (shorter : ∃ entry ∈ m.entries,
      (w'.stream entry.stream).left < (w.stream entry.stream).left) :
    rowBound m w' < rowBound m w := by
  obtain ⟨entry, member, less⟩ := shorter
  unfold rowBound
  generalize m.entries = entries at member ⊢
  induction entries with
  | nil => cases member
  | cons first entries ih =>
    rw [List.foldr_cons, List.foldr_cons]
    rcases List.mem_cons.mp member with rfl | later
    · exact Nat.add_lt_add_of_lt_of_le less (rowBound_le shrinks ⟨m.sheet, entries, [], 0⟩)
    · exact Nat.add_lt_add_of_le_of_lt (shrinks first.stream) (ih later)

theorem one_le_rowBound (m : MergedSheet) (w : Workspace) : 1 ≤ rowBound m w := by
  unfold rowBound
  induction m.entries with
  | nil => exact Nat.le_refl _
  | cons entry entries ih =>
    rw [List.foldr_cons]
    exact Nat.le_trans ih (Nat.le_add_left _ _)

theorem exists_mem_zip {α : Type} {as : List α} {flags : List Bool}
    (length : flags.length = as.length) (any : flags.any id = true) :
    ∃ p ∈ as.zip flags, p.2 = true := by
  obtain ⟨flag, member, isTrue⟩ := List.any_eq_true.mp any
  rw [← List.map_snd_zip (Nat.le_of_eq length)] at member
  obtain ⟨p, inZip, rfl⟩ := List.mem_map.mp member
  exact ⟨p, inZip, isTrue⟩

/-- **A row takes a record** of some entry. -/
theorem rowBound_lt_of_nextRow {row : List Cell} (yields : Yields (nextRow m) w (some row) w') :
    rowBound m w' < rowBound m w := by
  obtain ⟨found, w₁, next, rest⟩ := yields_bind_iff.mp yields
  cases found with
  | none => cases (yields_pure_iff.mp rest).1
  | some records =>
    have unchanged : w' = w₁ := by
      simp only at rest
      split at rest
      · exact (yields_pure_iff.mp rest).2
      · exact absurd rest (not_yields_throw _)
    subst unchanged
    obtain ⟨_, _, got, rest⟩ := yields_bind_iff.mp next
    obtain ⟨rfl, rfl⟩ := (Yields.get w).unique got
    split at rest
    · cases (yields_pure_iff.mp rest).1
    · obtain ⟨available, w₂, asked, rest⟩ := yields_bind_iff.mp rest
      split at rest
      · rename_i any
        obtain ⟨_, w₃, took, last⟩ := yields_bind_iff.mp rest
        obtain ⟨_, rfl⟩ := yields_pure_iff.mp last
        obtain ⟨shrinks, shorter⟩ := shrinks_mapM_nextRecord took
        obtain ⟨p, isAsked, less⟩ := shorter (exists_mem_zip (length_of_yields_mapM asked) any)
        have shrinksBefore := shrinks_mapM_hasNext asked
        exact rowBound_lt (shrinksBefore.trans shrinks)
          ⟨p.1, (List.of_mem_zip isAsked).1, Nat.lt_of_lt_of_le less (shrinksBefore _)⟩
      · obtain ⟨_, _, _, last⟩ := yields_bind_iff.mp rest
        cases (yields_pure_iff.mp last).1

/-! ### Pulling rows -/

/-- The rows that are pulled one after the other until there is none. -/
inductive Pulls (m : MergedSheet) : Workspace → List (List Cell) → Workspace → Prop
  | done {w w' : Workspace} (last : Yields (nextRow m) w none w') : Pulls m w [] w'
  | more {w w₁ w' : Workspace} {row : List Cell} {rows : List (List Cell)}
      (next : Yields (nextRow m) w (some row) w₁) (others : Pulls m w₁ rows w') :
      Pulls m w (row :: rows) w'

/-- One row is pulled, and then the others. -/
theorem run_takeRows_succ (m : MergedSheet) (count : Nat) (w : Workspace) :
    (takeRows m (count + 1)).run w =
      match (nextRow m).run.run w with
      | (.error failure, w₁) => (([], some failure), w₁)
      | (.ok none, w₁) => (([], none), w₁)
      | (.ok (some row), w₁) =>
        (((row :: ((takeRows m count).run w₁).1.1), ((takeRows m count).run w₁).1.2),
          ((takeRows m count).run w₁).2) := by
  rw [takeRows, StateT.run_bind]
  cases outcome : (nextRow m).run.run w with
  | mk found w₁ => rcases found with _ | _ | _ <;> rfl

theorem pulls_of_takeRows {count : Nat} {rows : List (List Cell)}
    (enough : rowBound m w ≤ count)
    (taken : (takeRows m count).run w = ((rows, none), w')) : Pulls m w rows w' := by
  induction count generalizing w rows with
  | zero => exact absurd (one_le_rowBound m w) (by omega)
  | succ count ih =>
    rw [run_takeRows_succ] at taken
    cases outcome : (nextRow m).run.run w with
    | mk found w₁ =>
      rw [outcome] at taken
      rcases found with failure | _ | row
      · cases taken
      · cases taken
        exact .done outcome
      · have fewer := rowBound_lt_of_nextRow outcome
        obtain ⟨both, last⟩ := Prod.mk.inj taken
        obtain ⟨rfl, complete⟩ := Prod.mk.inj both
        exact .more outcome (ih (by omega) (Prod.ext (Prod.ext rfl complete) last))

/-- **Taking all rows** pulls until there is none. -/
theorem pulls_of_takeAllRows {rows : List (List Cell)}
    (taken : (takeAllRows m).run w = ((rows, none), w')) : Pulls m w rows w' :=
  pulls_of_takeRows (Nat.le_refl _) taken

/-- A row has a cell for each column. -/
theorem length_of_nextRow {row : List Cell} (layout : m.layout.length = m.sheet.columns.length)
    (yields : Yields (nextRow m) w (some row) w') : row.length = m.sheet.columns.length := by
  obtain ⟨found, w₁, next, rest⟩ := yields_bind_iff.mp yields
  cases found with
  | none => cases (yields_pure_iff.mp rest).1
  | some records =>
    simp only at rest
    split at rest
    · rename_i cells made
      obtain ⟨same, _⟩ := yields_pure_iff.mp rest
      cases same
      rw [length_of_mapM_eq_ok made, List.length_zip, layout, Nat.min_self]
    · exact absurd rest (not_yields_throw _)

theorem Pulls.lengths {rows : List (List Cell)} (pulls : Pulls m w rows w')
    (layout : m.layout.length = m.sheet.columns.length) :
    ∀ row ∈ rows, row.length = m.sheet.columns.length := by
  induction pulls with
  | done => simp
  | more next _ ih => exact List.forall_mem_cons.mpr ⟨length_of_nextRow layout next, ih⟩

end Workspace

end SheetExport
