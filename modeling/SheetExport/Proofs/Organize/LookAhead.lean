/-
**Looking ahead in a stream loses nothing and repeats nothing.**

* `ItemCursor` — the items that a source has left, read without a buffer: the reference for streams;
* `answer_remaining` — **one operation**: a stream gives the answer of the cursor over its remaining
  items, and has left what the cursor has;
* `answersFrom_remaining` — **a run**: so it is for every sequence of operations;
* `exists_delivered_append` — what a run delivers, what a failed draining lost and what is left are
  the records of the source, each once and in order;
* `faults_answersFrom` — a run meets the failure of the source once at most, and only when nothing is
  left before it;
* `stream_refines_cursor` puts these together for a stream over any source.
-/

import SheetExport.Stream

namespace SheetExport

/-- What can be asked of a stream. -/
inductive StreamOperation
  | hasNext
  | peek
  | next
  | drain
deriving Repr, DecidableEq

/-- The operation only looks ahead. -/
def StreamOperation.Looks : StreamOperation → Prop
  | hasNext | peek => True
  | next | drain => False

/-- What a stream answers. -/
inductive StreamAnswer (α : Type)
  | has (found : Except Fault Bool)
  | peeked (record : Except StreamEnd α)
  | gave (record : Except StreamEnd α)
  | drained (records : Except Fault (List α))

namespace StreamAnswer

variable {α : Type}

/-- The records that left the stream with the answer. -/
def delivered : StreamAnswer α → List α
  | gave (.ok a) => [a]
  | drained (.ok records) => records
  | _ => []

/-- The failure of the source that the answer tells, if it tells one. -/
def fault? : StreamAnswer α → Option Fault
  | has (.error fault) => some fault
  | peeked (.error (.failed fault)) => some fault
  | gave (.error (.failed fault)) => some fault
  | drained (.error fault) => some fault
  | _ => none

end StreamAnswer

/-- The answers to a sequence of operations, and the state behind them. -/
def answersFrom {ω σ β : Type} (answer : ω → σ → β × σ) : List ω → σ → List β × σ
  | [], s => ([], s)
  | operation :: operations, s =>
    let (first, s') := answer operation s
    let (others, last) := answersFrom answer operations s'
    (first :: others, last)

/-- The items that a source has left. -/
abbrev ItemCursor (α : Type) := List (Item α)

namespace ItemCursor

variable {α : Type}

/-- The next record, which stays; a failure is met and leaves nothing. -/
def peek : ItemCursor α → Except StreamEnd α × ItemCursor α
  | [] => (.error .exhausted, [])
  | .record a :: rest => (.ok a, .record a :: rest)
  | .failure fault :: _ => (.error (.failed fault), [])

/-- Whether there is a next record; a failure is met and leaves nothing. -/
def hasNext : ItemCursor α → Except Fault Bool × ItemCursor α
  | [] => (.ok false, [])
  | .record a :: rest => (.ok true, .record a :: rest)
  | .failure fault :: _ => (.error fault, [])

/-- The next record, which leaves. -/
def next : ItemCursor α → Except StreamEnd α × ItemCursor α
  | [] => (.error .exhausted, [])
  | .record a :: rest => (.ok a, rest)
  | .failure fault :: _ => (.error (.failed fault), [])

/-- All records up to the end, or the failure that is met on the way. -/
def drain : ItemCursor α → Except Fault (List α)
  | [] => .ok []
  | .record a :: rest => (drain rest).map (a :: ·)
  | .failure fault :: _ => .error fault

/-- The records that are left before the source ends or fails. -/
def records (c : ItemCursor α) : List α := (Stream.recordsOf c).1

/-- The failure that is left, if the source has one. -/
def failure? (c : ItemCursor α) : Option Fault := (Stream.recordsOf c).2

/-- Draining reads the records, unless there is a failure behind them. -/
theorem drain_eq (c : ItemCursor α) : c.drain = c.failure?.elim (.ok c.records) .error := by
  induction c with
  | nil => rfl
  | cons item c ih =>
    cases item with
    | failure fault => rfl
    | record a =>
      rw [drain, ih, failure?, failure?, records, records, Stream.recordsOf]
      cases (Stream.recordsOf c).2 <;> rfl

/-- What the cursor answers, and what is left then. -/
def answer : StreamOperation → ItemCursor α → StreamAnswer α × ItemCursor α
  | .hasNext, c => (.has c.hasNext.1, c.hasNext.2)
  | .peek, c => (.peeked c.peek.1, c.peek.2)
  | .next, c => (.gave c.next.1, c.next.2)
  | .drain, c => (.drained c.drain, [])

end ItemCursor

namespace Stream

variable {α : Type}

/-- What the stream answers, and the stream then. -/
def answer : StreamOperation → Stream α → StreamAnswer α × Stream α
  | .hasNext, s => (.has s.hasNext.1, s.hasNext.2)
  | .peek, s => (.peeked s.peek.1, s.peek.2)
  | .next, s => (.gave s.next.1, s.next.2)
  | .drain, s => (.drained s.drain.1, s.drain.2)

/-- The items that the stream still gives: those looked at already, and those of its source. -/
def remaining (s : Stream α) : ItemCursor α := s.buffer.map .record ++ s.source

/-! ### Against the cursor -/

theorem drain_map_append (records : List α) (c : ItemCursor α) :
    ItemCursor.drain (records.map .record ++ c) = (ItemCursor.drain c).map (records ++ ·) := by
  induction records with
  | nil =>
    show ItemCursor.drain c = _
    cases ItemCursor.drain c <;> rfl
  | cons a records ih =>
    rw [List.map_cons, List.cons_append, ItemCursor.drain, ih]
    cases ItemCursor.drain c <;> rfl

theorem drain_remaining (s : Stream α) :
    s.drain.1 = s.remaining.drain ∧ s.drain.2.remaining = [] := by
  rw [remaining, drain_map_append, ItemCursor.drain_eq, ItemCursor.failure?, ItemCursor.records,
    drain]
  rcases recordsOf s.source with ⟨records, _ | fault⟩ <;> exact ⟨rfl, rfl⟩

/-- **One operation**: the stream answers as the cursor over its remaining items does. -/
theorem answer_remaining (operation : StreamOperation) (s : Stream α) :
    ItemCursor.answer operation s.remaining =
      ((answer operation s).1, (answer operation s).2.remaining) := by
  cases operation with
  | drain =>
    obtain ⟨same, left⟩ := drain_remaining s
    rw [ItemCursor.answer, answer, same, left]
  | hasNext | peek | next =>
    -- What comes next stands in the buffer, else at the front of the source.
    obtain ⟨_ | ⟨a, buffer⟩, source, taken⟩ := s
    · rcases source with _ | ⟨_ | _, rest⟩ <;> rfl
    · rfl

/-- **A run**: the stream answers all operations as the cursor does. -/
theorem answersFrom_remaining (operations : List StreamOperation) (s : Stream α) :
    answersFrom ItemCursor.answer operations s.remaining =
      ((answersFrom answer operations s).1, (answersFrom answer operations s).2.remaining) := by
  induction operations generalizing s with
  | nil => rfl
  | cons operation operations ih => simp only [answersFrom, answer_remaining, ih]

end Stream

namespace ItemCursor

variable {α : Type} {operation : StreamOperation} {c : ItemCursor α}

/-! ### What is delivered -/

/-- **An operation splits the records** into those delivered, those that a failed draining lost, and
those left. -/
theorem exists_delivered_append_answer (operation : StreamOperation) (c : ItemCursor α) :
    ∃ lost, c.records =
        (answer operation c).1.delivered ++ lost ++ (answer operation c).2.records ∧
      (lost ≠ [] → (answer operation c).2.records = [] ∧
        ∃ fault, (answer operation c).1 = .drained (.error fault)) := by
  cases operation with
  | drain =>
    rw [answer, drain_eq]
    cases c.failure? with
    | none => exact ⟨[], (List.append_nil _).symm.trans (List.append_nil _).symm,
        fun some => absurd rfl some⟩
    | some fault => exact ⟨c.records, (List.append_nil _).symm, fun _ => ⟨rfl, fault, rfl⟩⟩
  | hasNext | peek | next =>
    rcases c with _ | ⟨a | fault, rest⟩ <;> exact ⟨[], rfl, fun some => absurd rfl some⟩

/-- **A run splits the records** in the same way. Once some are lost, nothing is left to deliver. -/
theorem exists_delivered_append (operations : List StreamOperation) (c : ItemCursor α) :
    ∃ lost, c.records = (answersFrom answer operations c).1.flatMap StreamAnswer.delivered ++ lost ++
        (answersFrom answer operations c).2.records ∧
      (lost ≠ [] → (answersFrom answer operations c).2.records = [] ∧
        ∃ fault, .drained (.error fault) ∈ (answersFrom answer operations c).1) := by
  induction operations generalizing c with
  | nil => exact ⟨[], rfl, fun some => absurd rfl some⟩
  | cons operation operations ih =>
    obtain ⟨lost, split, drained⟩ := exists_delivered_append_answer operation c
    obtain ⟨later, splitLater, drainedLater⟩ := ih (answer operation c).2
    simp only [answersFrom, List.flatMap_cons]
    by_cases none : lost = []
    · refine ⟨later, ?_, fun some => (drainedLater some).imp_right fun ⟨fault, member⟩ =>
        ⟨fault, List.mem_cons_of_mem _ member⟩⟩
      rw [split, none, List.append_nil, splitLater, List.append_assoc, List.append_assoc,
        List.append_assoc]
    · obtain ⟨nothing, fault, isDrained⟩ := drained none
      rw [nothing] at splitLater
      obtain ⟨front, ended⟩ := List.append_eq_nil_iff.mp splitLater.symm
      rw [ended, (List.append_eq_nil_iff.mp front).1, List.append_nil]
      refine ⟨lost, ?_, fun _ => ⟨rfl, fault, ?_⟩⟩
      · rw [split, nothing]
      · exact isDrained ▸ List.mem_cons_self

/-- Where no record is left, nothing is delivered any more. -/
theorem delivered_of_records_eq_nil (nothing : c.records = []) (operations : List StreamOperation) :
    (answersFrom answer operations c).1.map StreamAnswer.delivered = operations.map fun _ => [] := by
  induction operations generalizing c with
  | nil => rfl
  | cons operation operations ih =>
    obtain ⟨lost, split, _⟩ := exists_delivered_append_answer operation c
    rw [nothing] at split
    obtain ⟨front, ended⟩ := List.append_eq_nil_iff.mp split.symm
    simp only [answersFrom, List.map_cons, ih ended, (List.append_eq_nil_iff.mp front).1]

/-! ### Looking ahead -/

/-- Looking ahead leaves all items, or meets the failure that was next. -/
theorem answer_of_looks (looks : operation.Looks) (c : ItemCursor α) :
    (answer operation c).2 = c ∧ (answer operation c).1.fault? = none ∨
      c.records = [] ∧ (answer operation c).2 = [] ∧ (answer operation c).1.fault? ≠ none := by
  cases operation with
  | next | drain => exact looks.elim
  | hasNext | peek =>
    rcases c with _ | ⟨a | fault, rest⟩
    · exact Or.inl ⟨rfl, rfl⟩
    · exact Or.inl ⟨rfl, rfl⟩
    · exact Or.inr ⟨rfl, rfl, Option.some_ne_none fault⟩

/-- What later operations deliver does not depend on looking ahead. -/
theorem delivered_of_looks (looks : operation.Looks) (later : List StreamOperation)
    (c : ItemCursor α) :
    (answersFrom answer later (answer operation c).2).1.map StreamAnswer.delivered =
      (answersFrom answer later c).1.map StreamAnswer.delivered := by
  rcases answer_of_looks looks c with ⟨same, _⟩ | ⟨nothing, left, _⟩
  · rw [same]
  · rw [left, delivered_of_records_eq_nil nothing, delivered_of_records_eq_nil rfl]

/-! ### The failure -/

/-- An operation meets the failure where no record is left before it, or by draining, and then
nothing is left; an operation that does not meet it leaves it. -/
theorem failure?_answer (operation : StreamOperation) (c : ItemCursor α) :
    match (answer operation c).1.fault? with
    | some fault => c.failure? = some fault ∧ (answer operation c).2 = [] ∧
        (operation = .drain ∨ c.records = [])
    | none => (answer operation c).2.failure? = c.failure? := by
  cases operation with
  | drain =>
    rw [answer, drain_eq]
    cases failed : c.failure? with
    | none => rfl
    | some fault => exact ⟨rfl, rfl, Or.inl rfl⟩
  | hasNext | peek | next =>
    rcases c with _ | ⟨a | fault, rest⟩
    · rfl
    · rfl
    · exact ⟨rfl, rfl, Or.inr rfl⟩

/-- Nothing is left at the end, and there is no failure to meet. -/
theorem answersFrom_nil (operations : List StreamOperation) :
    (answersFrom answer operations ([] : ItemCursor α)).1.filterMap StreamAnswer.fault? = [] ∧
      (answersFrom answer operations ([] : ItemCursor α)).2 = [] := by
  induction operations with
  | nil => exact ⟨rfl, rfl⟩
  | cons operation operations ih => cases operation <;> exact ih

/-- **A run meets the failure once at most**, and leaves nothing then. -/
theorem faults_answersFrom (operations : List StreamOperation) (c : ItemCursor α) :
    (answersFrom answer operations c).1.filterMap StreamAnswer.fault? = [] ∧
        (answersFrom answer operations c).2.failure? = c.failure? ∨
      ∃ fault, c.failure? = some fault ∧
        (answersFrom answer operations c).1.filterMap StreamAnswer.fault? = [fault] ∧
        (answersFrom answer operations c).2 = [] := by
  induction operations generalizing c with
  | nil => exact Or.inl ⟨rfl, rfl⟩
  | cons operation operations ih =>
    have met := failure?_answer operation c
    cases told : (answer operation c).1.fault? with
    | none =>
      rw [told] at met
      simp only [answersFrom, List.filterMap_cons_none told]
      rw [← met]
      exact ih _
    | some fault =>
      rw [told] at met
      obtain ⟨failed, left, _⟩ := met
      simp only [answersFrom, List.filterMap_cons_some told, left]
      obtain ⟨noMore, ended⟩ := answersFrom_nil (α := α) operations
      exact Or.inr ⟨fault, failed, by rw [noMore], ended⟩

/-- Where an operation meets the failure, all records were delivered, unless it drains. -/
theorem delivered_of_fault {fault : Fault} (operations : List StreamOperation) (c : ItemCursor α)
    (met : (answer operation (answersFrom answer operations c).2).1.fault? = some fault) :
    c.failure? = some fault ∧ (operation = .drain ∨
      (answersFrom answer operations c).1.flatMap StreamAnswer.delivered = c.records) := by
  have failed := failure?_answer operation (answersFrom answer operations c).2
  rw [met] at failed
  obtain ⟨left, _, nothing⟩ := failed
  rcases faults_answersFrom operations c with ⟨noFault, same⟩ | ⟨_, _, _, ended⟩
  · refine ⟨same ▸ left, nothing.imp_right fun nothing => ?_⟩
    obtain ⟨lost, split, drained⟩ := exists_delivered_append operations c
    -- A draining that lost records would have met the failure before.
    have none : lost = [] := by
      refine Classical.not_not.mp fun some => ?_
      obtain ⟨_, fault, member⟩ := drained some
      have told := List.filterMap_eq_nil_iff.mp noFault _ member
      cases told
    rw [split, none, nothing, List.append_nil, List.append_nil]
  · rw [ended] at left
    cases left

end ItemCursor

namespace Stream

variable {α : Type}

/-! ### What is taken -/

/-- What has left the source and what is still to leave it, a failure included. -/
def extent (s : Stream α) : Nat :=
  s.taken + (recordsOf s.source).1.length + (recordsOf s.source).2.toList.length

theorem extent_answer (operation : StreamOperation) (s : Stream α) :
    (answer operation s).2.extent = s.extent := by
  cases operation with
  | drain =>
    simp only [answer, drain, extent]
    cases (recordsOf s.source).2 <;> rfl
  | hasNext | peek | next =>
    obtain ⟨_ | ⟨a, buffer⟩, source, taken⟩ := s
    · rcases source with _ | ⟨a | fault, rest⟩
      · rfl
      · simp only [answer, hasNext, peek, next, pull, extent, recordsOf, List.length_cons]
        omega
      · rfl
    · rfl

theorem extent_answersFrom (operations : List StreamOperation) (s : Stream α) :
    (answersFrom answer operations s).2.extent = s.extent := by
  induction operations generalizing s with
  | nil => rfl
  | cons operation operations ih => exact (ih _).trans (extent_answer operation s)

/-! ### The same of streams -/

/-- Looking ahead changes neither what is delivered later nor, unless it meets the failure, any answer
that is given later. -/
theorem answersFrom_of_looks {look : StreamOperation} (looks : look.Looks) (s : Stream α)
    (later : List StreamOperation) :
    (answersFrom answer later (answer look s).2).1.map StreamAnswer.delivered =
        (answersFrom answer later s).1.map StreamAnswer.delivered ∧
      ((answer look s).1.fault? = none →
        (answersFrom answer later (answer look s).2).1 = (answersFrom answer later s).1) := by
  have same := answer_remaining look s
  have ahead := answersFrom_remaining later (answer look s).2
  have straight := answersFrom_remaining later s
  refine ⟨?_, fun unmet => ?_⟩
  · have delivered := ItemCursor.delivered_of_looks looks later s.remaining
    rw [same, straight, ahead] at delivered
    exact delivered
  · rcases ItemCursor.answer_of_looks looks s.remaining with ⟨stays, _⟩ | ⟨_, _, isMet⟩
    · rw [same] at stays
      dsimp only at stays
      rw [stays, straight] at ahead
      exact (congrArg Prod.fst ahead).symm
    · rw [same] at isMet
      exact absurd unmet isMet

/-- The failure of a source is the last item to leave it. -/
theorem taken_of_fault {items : List (Item α)} {operations : List StreamOperation}
    {operation : StreamOperation} {fault : Fault} (failed : (recordsOf items).2 = some fault)
    (met : (answer operation (answersFrom answer operations (ofItems items)).2).1.fault? =
      some fault) :
    (answer operation (answersFrom answer operations (ofItems items)).2).2.taken =
      (recordsOf items).1.length + 1 := by
  have gone := ItemCursor.failure?_answer operation
    (answersFrom answer operations (ofItems items)).2.remaining
  rw [answer_remaining, met] at gone
  obtain ⟨_, nothing, _⟩ := gone
  -- Nothing is left in the source, so what has left it is all there was.
  have extent := (extent_answer operation (answersFrom answer operations (ofItems items)).2).trans
    (extent_answersFrom operations (ofItems items))
  have source := (List.append_eq_nil_iff.mp nothing).2
  have failure : (recordsOf (ofItems items).source).2 = some fault := failed
  unfold Stream.extent at extent
  rw [source, failure] at extent
  simpa [recordsOf, ofItems] using extent

/-! ### The main statement -/

/-- **A stream is a cursor that looks ahead.** Over any source, whether it ends or fails, a stream
* answers every sequence of operations as the cursor over the items does, and has left what that
  has;
* delivers the same afterwards whether it is looked ahead or not, and gives the same answers unless
  looking ahead met the failure;
* delivers the records of the source once each and in order, up to those that are left and those that
  a failed draining lost;
* tells the failure of the source in one answer at most, and only once all records were delivered or
  while draining; all items up to the failure have left the source then. -/
theorem stream_refines_cursor (items : List (Item α)) (operations : List StreamOperation) :
    let run := answersFrom answer operations (ofItems items)
    let cursor := answersFrom ItemCursor.answer operations items
    (run.1 = cursor.1 ∧ run.2.remaining = cursor.2) ∧
    (∀ look : StreamOperation, look.Looks → ∀ later,
      (answersFrom answer later (answer look run.2).2).1.map StreamAnswer.delivered =
          (answersFrom answer later run.2).1.map StreamAnswer.delivered ∧
        ((answer look run.2).1.fault? = none →
          (answersFrom answer later (answer look run.2).2).1 =
            (answersFrom answer later run.2).1)) ∧
    (∃ lost, (recordsOf items).1 =
        run.1.flatMap StreamAnswer.delivered ++ lost ++ (recordsOf run.2.remaining).1 ∧
      (lost ≠ [] → ∃ fault, .drained (.error fault) ∈ run.1)) ∧
    (run.1.filterMap StreamAnswer.fault?).length ≤ 1 ∧
    ∀ operation fault, (answer operation run.2).1.fault? = some fault →
      (recordsOf items).2 = some fault ∧
      (operation = .drain ∨ run.1.flatMap StreamAnswer.delivered = (recordsOf items).1) ∧
      (answer operation run.2).2.taken = (recordsOf items).1.length + 1 := by
  intro run cursor
  have simulated : cursor = (run.1, run.2.remaining) :=
    answersFrom_remaining operations (ofItems items)
  have answers : run.1 = cursor.1 := by rw [simulated]
  have left : run.2.remaining = cursor.2 := by rw [simulated]
  refine ⟨⟨answers, left⟩, fun look looks later => answersFrom_of_looks looks run.2 later, ?_, ?_,
    fun operation fault met => ?_⟩
  · obtain ⟨lost, split, drained⟩ := ItemCursor.exists_delivered_append operations items
    rw [answers, left]
    exact ⟨lost, split, fun some => (drained some).2⟩
  · rw [answers]
    rcases ItemCursor.faults_answersFrom operations items with ⟨none, _⟩ | ⟨fault, _, one, _⟩
    · rw [none]
      exact Nat.zero_le 1
    · rw [one]
      exact Nat.le_refl 1
  · have same := answer_remaining operation run.2
    rw [left] at same
    have metByCursor : (ItemCursor.answer operation cursor.2).1.fault? = some fault := by
      rw [same]
      exact met
    obtain ⟨failed, delivered⟩ := ItemCursor.delivered_of_fault operations items metByCursor
    rw [answers]
    exact ⟨failed, delivered, taken_of_fault failed met⟩

end Stream

end SheetExport
