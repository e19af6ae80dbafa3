/-
**A key keeps its first value until the cache is cleared.**

* `get?_publish`, `keys_publish` — publishing a value for a key touches no other key, and not the key
  either if it has a value already;
* `CacheOperation`, `CacheEvent`, `events` — what is asked of a cache, and what happens then: the
  answer, the keys that a factory was run for, and the cache before and behind;
* `Holds past c` — the cache has, for each key, the value of the first call for it that succeeded;
* `Holds.event`: **one operation** keeps to this; `settled_event`: what happens in it is `Settled` by
  the past, as it is answered from the first values, and a factory is run just if there is no usable
  value;
* `settled_of_events`: so it is for every operation of every sequence, the past being what happened
  since the last clearing.
-/

import Mathlib.Data.Finset.Card
import Mathlib.Data.List.DropRight
import SheetExport.Cache

namespace SheetExport

namespace Cache

/-! ### Publishing -/

section Publishing

variable {κ β : Type} [DecidableEq κ] {cache : Cache κ β} {key k : κ} {made b : β}

/-- What stays for a key is what it had, or else what was made. -/
theorem fst_publish : (cache.publish key made).1 = (cache.get? key).getD made := by
  unfold publish
  split
  · rename_i same
    rw [same]
    rfl
  · rename_i none
    rw [none]
    rfl

/-- No other key is touched. -/
theorem get?_publish : (cache.publish key made).2.get? k =
    if k = key then some ((cache.get? key).getD made) else cache.get? k := by
  unfold publish
  split
  · rename_i first same
    rw [same]
    split
    · rename_i isKey
      rw [isKey, same]
      rfl
    · rfl
  · rename_i none
    rw [none]
    unfold get? at none ⊢
    rw [List.lookup_append]
    by_cases isKey : k = key
    · simp [isKey, none]
    · simp [isKey, List.lookup_cons, beq_eq_false_iff_ne.mpr isKey]

/-- What a key had stays. -/
theorem get?_publish_of_some (found : cache.get? k = some b) :
    (cache.publish key made).2.get? k = some b := by
  rw [get?_publish]
  split
  · rename_i isKey
    rw [← isKey, found]
    rfl
  · exact found

/-- A key has what it had, or what was made for it. -/
theorem of_get?_publish (found : (cache.publish key made).2.get? k = some b) :
    cache.get? k = some b ∨ (k = key ∧ b = made) := by
  rw [get?_publish] at found
  split at found
  · rename_i isKey
    cases kept : cache.get? key with
    | none =>
      rw [kept] at found
      cases found
      exact Or.inr ⟨isKey, rfl⟩
    | some first =>
      rw [kept] at found
      cases found
      rw [isKey]
      exact Or.inl kept
  · exact Or.inl found

theorem mem_keys_iff : key ∈ cache.keys ↔ (cache.get? key).isSome = true := by
  unfold keys get?
  rw [List.lookup_isSome_iff, List.mem_map]
  exact exists_congr fun entry => and_congr_right fun _ => by rw [beq_iff_eq, eq_comm]

/-- A key that had no value gets one behind the others. -/
theorem keys_publish : (cache.publish key made).2.keys =
    if key ∈ cache.keys then cache.keys else cache.keys ++ [key] := by
  unfold publish
  cases found : cache.get? key with
  | some first => rw [if_pos (mem_keys_iff.mpr (found ▸ rfl))]
  | none =>
    have new : key ∉ cache.keys := fun member => by
      rw [mem_keys_iff, found] at member
      cases member
    rw [if_neg new]
    exact List.map_append

theorem nodup_keys_publish (distinct : cache.keys.Nodup) :
    (cache.publish key made).2.keys.Nodup := by
  rw [keys_publish]
  split
  · exact distinct
  · rename_i new
    refine List.nodup_append.mpr ⟨distinct, List.nodup_singleton key, fun k member _ isKey => ?_⟩
    rw [List.mem_singleton.mp isKey]
    exact fun same => new (same ▸ member)

end Publishing

/-! ### Getting or creating -/

section Creating

variable {κ β ε : Type} [DecidableEq κ] [Nullable β] {m : Type → Type} [Monad m]
  {cache : Cache κ β} {key : κ} {value : β}

/-- A key has no usable value if it has none, or one that counts as absent. -/
theorem usable?_eq_none_iff : cache.usable? key = none ↔
    cache.get? key = none ∨ ∃ v, cache.get? key = some v ∧ Nullable.isAbsent v = true := by
  unfold usable?
  cases cache.get? key <;> simp

theorem get?_of_usable (usable : cache.usable? key = some value) :
    cache.get? key = some value ∧ Nullable.isAbsent value = false := by
  simpa [usable?, Option.filter_eq_some_iff] using usable

/-- A usable value is given, and nothing is run. -/
theorem getOrCreateM_of_usable (usable : cache.usable? key = some value)
    (factory : κ → m (Except ε β)) : cache.getOrCreateM key factory = pure (.ok value, cache) := by
  rw [getOrCreateM, usable]

/-- Without a usable value the factory is run, and what it makes is published. -/
theorem getOrCreateM_of_unusable (unusable : cache.usable? key = none)
    (factory : κ → m (Except ε β)) :
    cache.getOrCreateM key factory = factory key >>= fun made => pure (match made with
      | .error e => (.error e, cache)
      | .ok value => (.ok (cache.publish key value).1, (cache.publish key value).2)) := by
  rw [getOrCreateM, unusable]
  refine bind_congr fun made => ?_
  cases made <;> rfl

end Creating

end Cache

/-! ### Operations and events -/

/-- What can be asked of a cache. -/
inductive CacheOperation (ε κ β : Type)
  | getOrCreate (key : κ) (factory : κ → Except ε β)
  | get (key : κ)
  | contains (key : κ)
  | size
  | clear

/-- What a cache answers. -/
inductive CacheAnswer (ε β : Type)
  | gave (value : Except ε β)
  | found (value : Option β)
  | told (present : Bool)
  | counted (n : Nat)
  | cleared

/-- An operation on a cache. -/
structure CacheEvent (ε κ β : Type) where
  operation : CacheOperation ε κ β
  before : Cache κ β
  answer : CacheAnswer ε β
  /-- The keys that a factory was run for. -/
  ran : List κ
  behind : Cache κ β

namespace CacheEvent

variable {ε κ β : Type}

/-- The key and the value of a call that succeeded. -/
def success? (e : CacheEvent ε κ β) : Option (κ × β) :=
  match e.operation, e.answer with
  | .getOrCreate key _, .gave (.ok value) => some (key, value)
  | _, _ => none

theorem success?_eq_some_iff {e : CacheEvent ε κ β} {key : κ} {value : β} :
    e.success? = some (key, value) ↔
      (∃ factory, e.operation = .getOrCreate key factory) ∧ e.answer = .gave (.ok value) := by
  unfold success?
  split
  · rename_i called gave
    rw [called, gave]
    simp
  · rename_i other
    refine ⟨nofun, ?_⟩
    rintro ⟨⟨factory, called⟩, gave⟩
    exact (other _ _ _ called gave).elim

/-- The cache was cleared. -/
def isClearing (e : CacheEvent ε κ β) : Bool :=
  match e.operation with
  | .clear => true
  | _ => false

/-- What happened since the last clearing. -/
def sinceClearing (past : List (CacheEvent ε κ β)) : List (CacheEvent ε κ β) :=
  past.rtakeWhile (!·.isClearing)

/-- The keys and values of the calls that succeeded. -/
def successes (past : List (CacheEvent ε κ β)) : List (κ × β) := past.filterMap success?

/-- The value of the first call for a key that succeeded. -/
def firstValue? [DecidableEq κ] (past : List (CacheEvent ε κ β)) (key : κ) : Option β :=
  (successes past).lookup key

/-- The keys for which a call succeeded. -/
def createdKeys [DecidableEq κ] (past : List (CacheEvent ε κ β)) : Finset κ :=
  ((successes past).map Prod.fst).toFinset

end CacheEvent

namespace Cache

variable {ε κ β : Type} [DecidableEq κ]

section Asking

variable [Nullable β]

/-- The answer of a cache and the cache behind it; the keys that a factory is run for are noted. -/
def answer (c : Cache κ β) :
    CacheOperation ε κ β → StateM (List κ) (CacheAnswer ε β × Cache κ β)
  | .getOrCreate key factory => do
    let (value, behind) ← c.getOrCreateM key fun k => do
      modify (· ++ [k])
      return factory k
    return (.gave value, behind)
  | .get key => return (.found (c.get? key), c)
  | .contains key => return (.told (c.contains key), c)
  | .size => return (.counted c.size, c)
  | .clear => return (.cleared, empty)

/-- What happens in an operation. -/
def event (c : Cache κ β) (operation : CacheOperation ε κ β) : CacheEvent ε κ β :=
  let ((answer, behind), ran) := (c.answer operation).run []
  ⟨operation, c, answer, ran, behind⟩

/-- What happens in one operation after the other. -/
def events (c : Cache κ β) : List (CacheOperation ε κ β) → List (CacheEvent ε κ β)
  | [] => []
  | operation :: later => c.event operation :: (c.event operation).behind.events later

theorem map_operation_events (operations : List (CacheOperation ε κ β)) (c : Cache κ β) :
    (c.events operations).map CacheEvent.operation = operations := by
  induction operations generalizing c with
  | nil => rfl
  | cons operation later ih =>
    rw [events, List.map_cons, ih]
    rfl

end Asking

/-! ### First values -/

open CacheEvent (successes firstValue? createdKeys sinceClearing)

section FirstValues

variable {past : List (CacheEvent ε κ β)} {e : CacheEvent ε κ β} {c : Cache κ β} {key : κ}
  {value made : β}

/-- The cache has for each key the value of the first call that succeeded, and each key once. -/
structure Holds (past : List (CacheEvent ε κ β)) (c : Cache κ β) : Prop where
  first : ∀ key, c.get? key = firstValue? past key
  distinct : c.keys.Nodup

theorem holds_nil : Holds ([] : List (CacheEvent ε κ β)) (empty : Cache κ β) :=
  ⟨fun _ => rfl, List.nodup_nil⟩

/-- The number of keys is that of the keys for which a call succeeded. -/
theorem Holds.size_eq (holds : Holds past c) : c.size = (createdKeys past).card := by
  have created (key : κ) : key ∈ (successes past).map Prod.fst ↔
      (firstValue? past key).isSome = true :=
    @mem_keys_iff κ β _ ⟨successes past⟩ key
  have same : c.keys.toFinset = createdKeys past := by
    ext key
    rw [List.mem_toFinset, createdKeys, List.mem_toFinset, mem_keys_iff, created, holds.first]
  rw [← same, List.toFinset_card_of_nodup holds.distinct, keys, List.length_map, size]

/-- What is no call that succeeds leaves the first values as they are. -/
theorem firstValue?_concat_of_none (none : e.success? = none) (k : κ) :
    firstValue? (past ++ [e]) k = firstValue? past k := by
  rw [firstValue?, successes, List.filterMap_append, List.filterMap_cons_none none]
  exact congrArg (List.lookup k) (List.append_nil _)

/-- A call that succeeds sets the first value of its key if there was none. -/
theorem firstValue?_concat_of_some (success : e.success? = some (key, value)) (k : κ) :
    firstValue? (past ++ [e]) k =
      if k = key then some ((firstValue? past key).getD value) else firstValue? past k := by
  rw [firstValue?, successes, List.filterMap_append, List.filterMap_cons_some success,
    List.lookup_append]
  show (firstValue? past k).or (List.lookup k [(key, value)]) = _
  by_cases isKey : k = key
  · rw [if_pos isKey, isKey]
    cases firstValue? past key <;> simp
  · rw [if_neg isKey, List.lookup_cons, beq_eq_false_iff_ne.mpr isKey]
    exact Option.or_none

theorem Holds.unchanged (holds : Holds past c) (none : e.success? = none) :
    Holds (past ++ [e]) c :=
  ⟨fun k => by rw [firstValue?_concat_of_none none, holds.first], holds.distinct⟩

/-- A call that gives what its key has leaves the first values as they are. -/
theorem Holds.again (holds : Holds past c) (success : e.success? = some (key, value))
    (stored : c.get? key = some value) : Holds (past ++ [e]) c := by
  refine ⟨fun k => ?_, holds.distinct⟩
  rw [firstValue?_concat_of_some success, ← holds.first, ← holds.first]
  split
  · rename_i isKey
    rw [isKey, stored]
    rfl
  · rfl

/-- A call that gives what stays of what was made publishes that. -/
theorem Holds.published (holds : Holds past c)
    (success : e.success? = some (key, (c.get? key).getD made)) :
    Holds (past ++ [e]) (c.publish key made).2 := by
  refine ⟨fun k => ?_, nodup_keys_publish holds.distinct⟩
  rw [firstValue?_concat_of_some success, get?_publish, ← holds.first, ← holds.first]
  cases c.get? key <;> rfl

end FirstValues

/-! ### One operation -/

section Operations

variable [Nullable β] {c : Cache κ β} {key : κ} {value first made : β} {failure : ε}
  {factory : κ → Except ε β} {past : List (CacheEvent ε κ β)}

theorem event_of_usable (usable : c.usable? key = some value) (factory : κ → Except ε β) :
    c.event (.getOrCreate key factory) =
      ⟨.getOrCreate key factory, c, .gave (.ok value), [], c⟩ := by
  rw [event, answer, getOrCreateM_of_usable usable]
  rfl

theorem event_of_error (unusable : c.usable? key = none) (fails : factory key = .error failure) :
    c.event (.getOrCreate key factory) =
      ⟨.getOrCreate key factory, c, .gave (.error failure), [key], c⟩ := by
  rw [event, answer, getOrCreateM_of_unusable unusable, fails]
  rfl

theorem event_of_ok (unusable : c.usable? key = none) (makes : factory key = .ok made) :
    c.event (.getOrCreate key factory) =
      ⟨.getOrCreate key factory, c, .gave (.ok ((c.get? key).getD made)), [key],
        (c.publish key made).2⟩ := by
  rw [event, answer, getOrCreateM_of_unusable unusable, makes, ← fst_publish]
  rfl

/-- What a call gives for a key with this first value, if there is one, and this made for it: a
factory that is run although there is a first value can do no more than fail. -/
def given (first : Option β) (made : Except ε β) : Except ε β :=
  match first with
  | none => made
  | some first => if Nullable.isAbsent first then made.map fun _ => first else .ok first

/-- Where there is a first value, a call that succeeds gives that. -/
theorem eq_of_given {made : Except ε β} (gives : given (some first) made = .ok value) :
    value = first := by
  unfold given at gives
  dsimp only at gives
  split at gives
  · cases made <;> cases gives
    rfl
  · cases gives
    rfl

/-- A call gives what its key has, or what its factory makes. -/
theorem answer_event (c : Cache κ β) (key : κ) (factory : κ → Except ε β) :
    (c.event (.getOrCreate key factory)).answer = .gave (given (c.get? key) (factory key)) := by
  cases usable : c.usable? key with
  | some value =>
    obtain ⟨stored, present⟩ := get?_of_usable usable
    rw [event_of_usable usable, stored, given, present]
    rfl
  | none =>
    have lacking := usable?_eq_none_iff.mp usable
    cases makes : factory key with
    | error failure =>
      rw [event_of_error usable makes]
      rcases lacking with missing | ⟨first, stored, absent⟩
      · rw [missing]
        rfl
      · rw [stored, given, absent]
        rfl
    | ok made =>
      rw [event_of_ok usable makes]
      rcases lacking with missing | ⟨first, stored, absent⟩
      · rw [missing]
        rfl
      · rw [stored, given, absent]
        rfl

/-- The factory is run once if the key has no usable value, and else not at all. -/
theorem ran_event (c : Cache κ β) (key : κ) (factory : κ → Except ε β) :
    (c.event (.getOrCreate key factory)).ran = if (c.usable? key).isSome then [] else [key] := by
  cases usable : c.usable? key with
  | some value => rw [event_of_usable usable]; rfl
  | none =>
    cases makes : factory key with
    | error failure => rw [event_of_error usable makes]; rfl
    | ok made => rw [event_of_ok usable makes]; rfl

/-- A call whose factory fails leaves the cache as it is. -/
theorem behind_event_of_error (fails : factory key = .error failure) :
    (c.event (.getOrCreate key factory)).behind = c := by
  cases usable : c.usable? key with
  | some value => rw [event_of_usable usable]
  | none => rw [event_of_error usable fails]

/-- **An operation keeps to the first values**: behind it they are those since the last clearing. -/
theorem Holds.event (holds : Holds (sinceClearing past) c) (operation : CacheOperation ε κ β) :
    Holds (sinceClearing (past ++ [c.event operation])) (c.event operation).behind := by
  have grows : (c.event operation).isClearing = false →
      sinceClearing (past ++ [c.event operation]) = sinceClearing past ++ [c.event operation] := by
    intro keeps
    rw [sinceClearing, List.rtakeWhile_concat, keeps]
    rfl
  cases operation with
  | getOrCreate key factory =>
    rw [grows rfl]
    cases usable : c.usable? key with
    | some value =>
      rw [event_of_usable usable]
      exact holds.again rfl (get?_of_usable usable).1
    | none =>
      cases makes : factory key with
      | error failure =>
        rw [event_of_error usable makes]
        exact holds.unchanged rfl
      | ok made =>
        rw [event_of_ok usable makes]
        exact holds.published rfl
  | get | contains | size =>
    rw [grows rfl]
    exact holds.unchanged rfl
  | clear =>
    rw [sinceClearing, List.rtakeWhile_concat]
    exact holds_nil

/-- What happens is settled by the past. -/
structure Settled (past : List (CacheEvent ε κ β)) (e : CacheEvent ε κ β) : Prop where
  holds : Holds past e.before
  /-- A call that succeeds gives the value of the first one for the key. -/
  agrees : ∀ key value first, e.success? = some (key, value) → firstValue? past key = some first →
    value = first
  gives : ∀ key factory, e.operation = .getOrCreate key factory →
    e.answer = .gave (given (firstValue? past key) (factory key))
  finds : ∀ key, e.operation = .get key → e.answer = .found (firstValue? past key)
  tells : ∀ key, e.operation = .contains key → e.answer = .told (firstValue? past key).isSome
  counts : e.operation = .size → e.answer = .counted (createdKeys past).card
  /-- A factory that fails leaves the cache as it is. -/
  raises : ∀ key factory failure, e.operation = .getOrCreate key factory →
    factory key = .error failure → e.behind = e.before
  /-- The factory is run once or not at all, and it is just if the key has no value or one that
  counts as absent. -/
  runs : ∀ key factory, e.operation = .getOrCreate key factory →
    (e.ran = [key] ∨ e.ran = []) ∧
    (e.ran = [key] ↔ e.before.get? key = none ∨
      ∃ v, e.before.get? key = some v ∧ Nullable.isAbsent v = true)

/-- **What happens in one operation is settled** by the first values that the cache has. -/
theorem settled_event (holds : Holds past c) (operation : CacheOperation ε κ β) :
    Settled past (c.event operation) := by
  cases operation with
  | getOrCreate key factory =>
    have gives := answer_event c key factory
    rw [holds.first] at gives
    refine ⟨holds, ?_, ?_, nofun, nofun, nofun, ?_, ?_⟩
    · intro key' value first success isFirst
      obtain ⟨⟨_, ⟨⟩⟩, gave⟩ := CacheEvent.success?_eq_some_iff.mp success
      rw [gives, isFirst] at gave
      exact eq_of_given (CacheAnswer.gave.inj gave)
    · rintro _ _ ⟨⟩
      exact gives
    · rintro _ _ failure ⟨⟩ fails
      exact behind_event_of_error fails
    · rintro _ _ ⟨⟩
      show _ ∧ (_ ↔ c.get? key = none ∨ ∃ v, c.get? key = some v ∧ Nullable.isAbsent v = true)
      rw [ran_event, ← usable?_eq_none_iff]
      cases c.usable? key <;> simp
  | get key =>
    refine ⟨holds, nofun, nofun, ?_, nofun, nofun, nofun, nofun⟩
    rintro _ ⟨⟩
    exact congrArg _ (holds.first key)
  | contains key =>
    refine ⟨holds, nofun, nofun, nofun, ?_, nofun, nofun, nofun⟩
    rintro _ ⟨⟩
    exact congrArg (fun found : Option β => CacheAnswer.told found.isSome) (holds.first key)
  | size =>
    exact ⟨holds, nofun, nofun, nofun, nofun, fun _ => congrArg _ holds.size_eq, nofun, nofun⟩
  | clear => exact ⟨holds, nofun, nofun, nofun, nofun, nofun, nofun, nofun⟩

/-! ### All operations -/

/-- Each operation from a cache on is settled by the first values that it has then. -/
theorem settled_of_holds (operations : List (CacheOperation ε κ β)) {c : Cache κ β}
    {past : List (CacheEvent ε κ β)} (holds : Holds (sinceClearing past) c) {i : Nat}
    {e : CacheEvent ε κ β} (happens : (c.events operations)[i]? = some e) :
    Settled (sinceClearing (past ++ (c.events operations).take i)) e := by
  induction operations generalizing c past i with
  | nil => cases happens
  | cons operation later ih =>
    cases i with
    | zero =>
      cases happens
      rw [List.take_zero, List.append_nil]
      exact settled_event holds operation
    | succ i =>
      have behind := ih (holds.event operation) happens
      rwa [List.append_assoc] at behind

/-- **A key keeps its first value until the cache is cleared.** Of every sequence of operations each
one happens, and it is settled by what happened since the last clearing: calls for a key that succeed
give the value of the first one, which is also found; the keys are counted once each; a factory that
fails changes nothing; and a factory is run just if its key has no value or one that counts as
absent. -/
theorem settled_of_events (operations : List (CacheOperation ε κ β)) :
    ((empty : Cache κ β).events operations).map CacheEvent.operation = operations ∧
    ∀ i e, ((empty : Cache κ β).events operations)[i]? = some e →
      Settled (sinceClearing (((empty : Cache κ β).events operations).take i)) e := by
  refine ⟨map_operation_events operations empty, fun i e happens => ?_⟩
  have start : Holds (sinceClearing ([] : List (CacheEvent ε κ β))) (empty : Cache κ β) := holds_nil
  exact settled_of_holds operations start happens

/-- A key is given no value, then a value, then a failure. -/
def absentFirst : List (CacheOperation String String (Option Nat)) :=
  [.getOrCreate "a" fun _ => .ok none, .getOrCreate "a" fun _ => .ok (some 5),
    .getOrCreate "a" fun _ => .error "boom", .size]

/-- The second call runs its factory, but gives what the first one gave. -/
theorem settled_of_events_sample :
    ∃ e, (empty.events absentFirst)[1]? = some e ∧
      e.ran = ["a"] ∧ e.answer = .gave (.ok none) ∧
      Settled (sinceClearing ((empty.events absentFirst).take 1)) e :=
  ⟨_, rfl, rfl, rfl, (settled_of_events absentFirst).2 1 _ rfl⟩

end Operations

end Cache

end SheetExport
