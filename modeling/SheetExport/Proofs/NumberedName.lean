/-
**Names told apart by numbers.**

* `buildUp f xs` — the list built up from the left, each element by `f` from those before it and the
  one of `xs` at its place;
* `exists_find?_free`: of names with numbers from two on, one more than there are in use, the first
  free one is found;
* `IsNamed taken header name` — a header is its own name if it is not taken, and else its name has
  the first number from two on that gives one not taken;
* `distinctNames_numbered`: the columns of a frame are named so, each behind those before it; the
  names are distinct, and names that are distinct already stay.
-/

import Mathlib.Data.List.Induction
import Mathlib.Data.List.Nodup
import Mathlib.Data.List.Perm.Subperm
import Mathlib.Order.Bounds.Basic
import SheetExport.Frame
import SheetExport.Proofs.Number.Numeral

namespace SheetExport

/-! ### Lists built up from the left -/

section BuildUp

variable {α β γ : Type} {f : List β → α → β} {xs : List α} {i : Nat} {a : α}

/-- The elements in turn, each made from those before it. -/
def buildUp (f : List β → α → β) (xs : List α) : List β :=
  xs.foldl (fun before a => before ++ [f before a]) []

theorem buildUp_concat (f : List β → α → β) (xs : List α) (a : α) :
    buildUp f (xs ++ [a]) = buildUp f xs ++ [f (buildUp f xs) a] := by
  rw [buildUp, List.foldl_append]
  rfl

theorem length_buildUp (f : List β → α → β) (xs : List α) :
    (buildUp f xs).length = xs.length := by
  induction xs using List.reverseRecOn with
  | nil => rfl
  | append_singleton xs a ih =>
    rw [buildUp_concat, List.length_append, List.length_append, ih]
    rfl

/-- Each place has what is made from the elements before it. -/
theorem getElem?_buildUp (given : xs[i]? = some a) :
    (buildUp f xs)[i]? = some (f ((buildUp f xs).take i) a) := by
  induction xs using List.reverseRecOn with
  | nil => cases given
  | append_singleton xs last ih =>
    have length := length_buildUp f xs
    rw [buildUp_concat]
    rcases Nat.lt_trichotomy i xs.length with before | here | behind
    · rw [List.getElem?_append_left before] at given
      rw [List.getElem?_append_left (by omega), List.take_append_of_le_length (by omega), ih given]
    · rw [here, List.getElem?_concat_length] at given
      cases given
      rw [here, ← length, List.getElem?_concat_length, List.take_left]
    · rw [List.getElem?_eq_none (by simp; omega)] at given
      cases given

/-- What is always made with a new key has different keys. -/
theorem nodup_map_buildUp {key : β → γ} (new : ∀ before a, key (f before a) ∉ before.map key)
    (xs : List α) : ((buildUp f xs).map key).Nodup := by
  induction xs using List.reverseRecOn with
  | nil => exact List.nodup_nil
  | append_singleton xs a ih =>
    rw [buildUp_concat, List.map_append, List.map_singleton]
    refine List.nodup_append.mpr ⟨ih, List.nodup_singleton _, fun other inUse _ isLast same => ?_⟩
    rw [List.mem_singleton] at isLast
    rw [same, isLast] at inUse
    exact new _ a inUse

end BuildUp

/-! ### The first free number -/

theorem toList_toString (k : Nat) : (toString k).toList = Nat.toDigits 10 k := Nat.toList_repr

section FirstFree

variable {α β : Type} [BEq α] [LawfulBEq α] {candidate : Nat → α}

/-- One candidate more than there are things in use cannot all be in use. -/
theorem exists_notMem_of_injective (injective : Function.Injective candidate) (used : List α) :
    ∃ k ≤ used.length, candidate k ∉ used := by
  by_contra none
  have inUse : ∀ k ∈ List.range (used.length + 1), candidate k ∈ used := by
    intro k member
    by_contra free
    exact none ⟨k, Nat.le_of_lt_succ (List.mem_range.mp member), free⟩
  have distinct : ((List.range (used.length + 1)).map candidate).Nodup :=
    List.nodup_range.map injective
  have many := (distinct.subperm (List.forall_mem_map.mpr inUse)).length_le
  rw [List.length_map, List.length_range] at many
  omega

/-- **The first free number from two on is found** among one more than there are keys in use, if
different numbers give names with different keys. -/
theorem exists_find?_free {numbered : Nat → β} {key : β → α}
    (injective : Function.Injective fun k => key (numbered (k + 2))) (used : List α) :
    ∃ k ≤ used.length + 2, 2 ≤ k ∧ key (numbered k) ∉ used ∧
      (∀ j, 2 ≤ j → j < k → key (numbered j) ∈ used) ∧
      ((List.range (used.length + 1)).map fun k => numbered (k + 2)).find?
        (fun name => !used.contains (key name)) = some (numbered k) := by
  obtain ⟨l, inRange, free⟩ := exists_notMem_of_injective injective used
  have found : ((List.range (used.length + 1)).find? fun k =>
      !used.contains (key (numbered (k + 2)))).isSome = true := by
    rw [List.find?_isSome]
    exact ⟨l, List.mem_range.mpr (Nat.lt_succ_of_le inRange), by simpa using free⟩
  obtain ⟨k, first⟩ := Option.isSome_iff_exists.mp found
  obtain ⟨isFree, among, before⟩ := List.find?_range_eq_some.mp first
  refine ⟨k + 2, Nat.add_le_add_right (Nat.le_of_lt_succ (List.mem_range.mp among)) 2,
    Nat.le_add_left 2 k, by simpa using isFree, fun j two less => ?_, ?_⟩
  · have inUse := before (j - 2) (by omega)
    rw [Nat.sub_add_cancel two] at inUse
    simpa using inUse
  · rw [List.find?_map]
    exact congrArg (Option.map fun k => numbered (k + 2)) first

end FirstFree

/-! ### Names of columns -/

section Columns

variable {taken headers : List String} {header name : String} {k l : Nat}

theorem toList_numberedName (header : String) (k : Nat) :
    (numberedName header k).toList = header.toList ++ "__".toList ++ Nat.toDigits 10 k := by
  rw [numberedName, String.toList_append, String.toList_append, toList_toString]

/-- Two numbers give two names. -/
theorem numberedName_injective (header : String) :
    Function.Injective (numberedName header) := by
  intro k l same
  have lists := congrArg String.toList same
  rw [toList_numberedName, toList_numberedName] at lists
  have digits := congrArg Text.digitsValue (List.append_cancel_left lists)
  rwa [digitsValue_toDigits, digitsValue_toDigits] at digits

/-- The name of a header behind the names that are taken. -/
structure IsNamed (taken : List String) (header name : String) : Prop where
  /-- A header that is not taken is its own name. -/
  unchanged : header ∉ taken → name = header
  /-- Otherwise the search for a number ends, and the first one from two on whose name is not taken
  is the header's. -/
  numbered : header ∈ taken → ∃ k ≤ taken.length + 2,
    IsLeast {l | 2 ≤ l ∧ numberedName header l ∉ taken} k ∧ name = numberedName header k

theorem freshName_of_notMem (free : header ∉ taken) : freshName taken header = header := by
  rw [freshName, if_neg (mt List.contains_iff_mem.mp free)]

/-- **The search for a number ends** with the first one whose name is not taken. -/
theorem exists_freshName (inUse : header ∈ taken) :
    ∃ k ≤ taken.length + 2, IsLeast {l | 2 ≤ l ∧ numberedName header l ∉ taken} k ∧
      freshName taken header = numberedName header k := by
  have injective : Function.Injective fun k => id (numberedName header (k + 2)) := fun k l same =>
    Nat.add_right_cancel (numberedName_injective header same)
  obtain ⟨k, inRange, two, free, before, found⟩ := exists_find?_free injective taken
  refine ⟨k, inRange, ⟨⟨two, free⟩, ?_⟩, ?_⟩
  · rintro l ⟨two', isFree⟩
    exact Nat.le_of_not_lt fun less => isFree (before l two' less)
  · rw [freshName, if_pos (List.contains_iff_mem.mpr inUse)]
    exact congrArg (·.getD header) found

theorem isNamed_freshName (taken : List String) (header : String) :
    IsNamed taken header (freshName taken header) :=
  ⟨freshName_of_notMem, exists_freshName⟩

/-- The name that is found is not taken. -/
theorem IsNamed.notMem (named : IsNamed taken header name) : name ∉ taken := by
  by_cases inUse : header ∈ taken
  · obtain ⟨k, _, first, rfl⟩ := named.numbered inUse
    exact first.1.2
  · rwa [named.unchanged inUse]

theorem distinctNames_eq_buildUp (headers : List String) :
    distinctNames headers = buildUp freshName headers := rfl

theorem nodup_distinctNames (headers : List String) : (distinctNames headers).Nodup := by
  have new : ∀ taken header, id (freshName taken header) ∉ taken.map id := fun taken header => by
    rw [List.map_id]
    exact (isNamed_freshName taken header).notMem
  have distinct := nodup_map_buildUp new headers
  rwa [List.map_id] at distinct

/-- Headers that are distinct already are the names. -/
theorem distinctNames_eq_self (distinct : headers.Nodup) : distinctNames headers = headers := by
  induction headers using List.reverseRecOn with
  | nil => rfl
  | append_singleton headers header ih =>
    obtain ⟨before, _, apart⟩ := List.nodup_append.mp distinct
    have free : header ∉ headers := fun member =>
      apart header member header (List.mem_singleton_self header) rfl
    have same := ih before
    rw [distinctNames_eq_buildUp] at same ⊢
    rw [buildUp_concat, same, freshName_of_notMem free]

/-- **The columns of a frame have distinct names**, one for each header: the header itself if no name
before it is the same, and else the header with the first number from two on that gives a name not
there yet. Headers that are distinct stay, so names are not named anew. -/
theorem distinctNames_numbered (headers : List String) :
    (distinctNames headers).length = headers.length ∧
    (distinctNames headers).Nodup ∧
    (∀ i header name, headers[i]? = some header → (distinctNames headers)[i]? = some name →
      IsNamed ((distinctNames headers).take i) header name) ∧
    (headers.Nodup → distinctNames headers = headers) ∧
    distinctNames (distinctNames headers) = distinctNames headers := by
  have distinct := nodup_distinctNames headers
  refine ⟨length_buildUp freshName headers, distinct, ?_, distinctNames_eq_self,
    distinctNames_eq_self distinct⟩
  intro i header name given isName
  rw [distinctNames_eq_buildUp, getElem?_buildUp given, Option.some.injEq] at isName
  rw [← isName]
  exact isNamed_freshName _ header

/-- A header that is the same as a numbered name gets a number itself. -/
theorem distinctNames_numbered_sample :
    distinctNames ["A", "A", "A__2", "A"] = ["A", "A__2", "A__2__2", "A__3"] ∧
      IsNamed ["A", "A__2"] "A__2" "A__2__2" ∧
      distinctNames ["A", "A__2", "A__2__2", "A__3"] = ["A", "A__2", "A__2__2", "A__3"] := by
  have names : distinctNames ["A", "A", "A__2", "A"] = ["A", "A__2", "A__2__2", "A__3"] := by
    decide +kernel
  have third := (distinctNames_numbered ["A", "A", "A__2", "A"]).2.2.1 2 "A__2" "A__2__2" rfl
    (by rw [names]; rfl)
  rw [names] at third
  exact ⟨names, third, (distinctNames_numbered ["A", "A__2", "A__2__2", "A__3"]).2.2.2.1 (by decide)⟩

end Columns

end SheetExport
