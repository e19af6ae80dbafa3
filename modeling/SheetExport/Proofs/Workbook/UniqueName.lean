/-
**Names of worksheets that differ in more than case.**

* `foldCase_numberedSheetName_inj` — two numbers give two names, also where case does not count;
* `FirstFree used name k` — the name with the number `k` is free, and from two on no smaller number
  gives a free one: this is where a search for a free number ends;
* `exists_firstFree`: for every name in use the search ends, after one number more than there are
  names in use at the latest;
* `Answers before name unique` — a name is answered with itself just if no name before is the same
  but for case, and else with its first free number;
* `uniqueSheetNames_replicate`: one name given again and again is numbered through;
* `uniqueSheetNames_distinct`: names in turn are answered so, and their answers differ in more than
  case.
-/

import SheetExport.Proofs.NumberedName
import SheetExport.Workbook.SheetName

namespace SheetExport

open Text (foldChar foldCase)

/-! ### Names with numbers -/

theorem foldCase_append (cs ds : List Char) : foldCase (cs ++ ds) = foldCase cs ++ foldCase ds :=
  List.flatMap_append

theorem foldCase_eq_self {cs : List Char} (plain : ∀ c ∈ cs, foldChar c = [c]) :
    foldCase cs = cs := by
  rw [foldCase, List.flatMap_congr plain, List.flatMap_singleton']

/-- A digit has no case. -/
theorem foldChar_of_isDigit {c : Char} (digit : c.isDigit = true) : foldChar c = [c] := by
  have plain : ∀ n : Fin 58, 48 ≤ n.val → foldChar (Char.ofNat n.val) = [Char.ofNat n.val] := by
    decide +kernel
  obtain ⟨above, below⟩ := toNat_of_isDigit digit
  have same := plain ⟨c.toNat, Nat.lt_succ_of_le below⟩ above
  rwa [Char.ofNat_toNat] at same

/-- Folding the case of a numbered name leaves the number. -/
theorem foldCase_numberedSheetName (name : List Char) (k : Nat) :
    foldCase (numberedSheetName name k) =
      foldCase (name.take (maxSheetNameLength - 4)) ++ "__".toList ++ Nat.toDigits 10 k := by
  have lines : foldCase "__".toList = "__".toList := by decide +kernel
  have number : foldCase (Nat.toDigits 10 k) = Nat.toDigits 10 k :=
    foldCase_eq_self fun c member => foldChar_of_isDigit (isDigit_of_mem_toDigits c member)
  rw [numberedSheetName, toList_toString, foldCase_append, foldCase_append, lines, number]

/-- **Two numbers give two names**, also where case does not count. -/
theorem foldCase_numberedSheetName_inj {name : List Char} {k l : Nat} :
    foldCase (numberedSheetName name k) = foldCase (numberedSheetName name l) ↔ k = l := by
  constructor
  · intro same
    rw [foldCase_numberedSheetName, foldCase_numberedSheetName] at same
    have digits := congrArg Text.digitsValue (List.append_cancel_left same)
    rwa [digitsValue_toDigits, digitsValue_toDigits] at digits
  · intro same
    rw [same]

/-! ### The search for a free number -/

section Search

variable {used used' : List (List Char)} {name : List Char} {k l : Nat}

/-- The number `k` is the first one from two on that gives a name with no like in use. -/
structure FirstFree (used : List (List Char)) (name : List Char) (k : Nat) : Prop where
  two_le : 2 ≤ k
  free : foldCase (numberedSheetName name k) ∉ used
  taken : ∀ j, 2 ≤ j → j < k → foldCase (numberedSheetName name j) ∈ used

theorem FirstFree.unique (first : FirstFree used name k) (first' : FirstFree used name l) :
    k = l := by
  rcases Nat.lt_trichotomy k l with less | same | more
  · exact absurd (first'.taken k first.two_le less) first.free
  · exact same
  · exact absurd (first.taken l first'.two_le more) first'.free

theorem FirstFree.congr (first : FirstFree used name k) (same : ∀ n, n ∈ used ↔ n ∈ used') :
    FirstFree used' name k :=
  ⟨first.two_le, mt (same _).mpr first.free, fun j two less => (same _).mp (first.taken j two less)⟩

/-- The numbers from two on give different names. -/
theorem injective_foldCase_numbered (name : List Char) :
    Function.Injective fun k => foldCase (numberedSheetName name (k + 2)) :=
  fun _ _ same => Nat.add_right_cancel (foldCase_numberedSheetName_inj.mp same)

/-- One more number than names in use cannot all give names in use. -/
theorem exists_free (used : List (List Char)) (name : List Char) :
    ∃ k ≤ used.length, foldCase (numberedSheetName name (k + 2)) ∉ used :=
  exists_notMem_of_injective (injective_foldCase_numbered name) used

/-- **The search for a free number ends**, and the name is the one with the number found. -/
theorem exists_firstFree (inUse : foldCase name ∈ used) :
    ∃ k ≤ used.length + 2, FirstFree used name k ∧
      uniqueSheetName used name = numberedSheetName name k := by
  obtain ⟨k, inRange, two, free, taken, found⟩ :=
    exists_find?_free (injective_foldCase_numbered name) used
  refine ⟨k, inRange, ⟨two, free, taken⟩, ?_⟩
  rw [uniqueSheetName, if_pos (List.contains_iff_mem.mpr inUse)]
  exact congrArg (·.getD name) found

theorem FirstFree.uniqueSheetName_eq (first : FirstFree used name k)
    (inUse : foldCase name ∈ used) : uniqueSheetName used name = numberedSheetName name k := by
  obtain ⟨l, _, first', same⟩ := exists_firstFree inUse
  rw [same, first.unique first']

theorem uniqueSheetName_of_free (free : foldCase name ∉ used) :
    uniqueSheetName used name = name := by
  rw [uniqueSheetName, if_neg (mt List.contains_iff_mem.mp free)]

/-- The name that is found is free. -/
theorem foldCase_uniqueSheetName_notMem (used : List (List Char)) (name : List Char) :
    foldCase (uniqueSheetName used name) ∉ used := by
  by_cases inUse : foldCase name ∈ used
  · obtain ⟨k, _, first, same⟩ := exists_firstFree inUse
    rw [same]
    exact first.free
  · rw [uniqueSheetName_of_free inUse]
    exact inUse

/-- What is found depends on which names are in use only. -/
theorem uniqueSheetName_congr (name : List Char) (same : ∀ n, n ∈ used ↔ n ∈ used') :
    uniqueSheetName used name = uniqueSheetName used' name := by
  by_cases inUse : foldCase name ∈ used
  · obtain ⟨k, _, first, isName⟩ := exists_firstFree inUse
    rw [isName, (first.congr same).uniqueSheetName_eq ((same _).mp inUse)]
  · rw [uniqueSheetName_of_free inUse, uniqueSheetName_of_free (mt (same _).mpr inUse)]

end Search

/-! ### Names in turn -/

/-- One more name is answered behind the others. -/
theorem uniqueSheetNames_concat (names : List (List Char)) (name : List Char) :
    uniqueSheetNames (names ++ [name]) = uniqueSheetNames names ++
      [uniqueSheetName ((uniqueSheetNames names).map foldCase) name] := by
  let step := fun (p : List (List Char) × List (List Char)) name =>
    (foldCase (uniqueSheetName p.1 name) :: p.1, uniqueSheetName p.1 name :: p.2)
  have inUse : ∀ (names : List (List Char)) p, p.1 = p.2.map foldCase →
      (names.foldl step p).1 = (names.foldl step p).2.map foldCase := by
    intro names
    induction names with
    | nil => exact fun p same => same
    | cons name names ih =>
      intro p same
      refine ih _ ?_
      rw [List.map_cons, ← same]
  have used := inUse names ([], []) rfl
  show ((names ++ [name]).foldl step ([], [])).2.reverse = (names.foldl step ([], [])).2.reverse ++
    [uniqueSheetName ((names.foldl step ([], [])).2.reverse.map foldCase) name]
  rw [List.foldl_append, List.foldl_cons, List.foldl_nil, List.reverse_cons, List.map_reverse,
    ← used]
  refine congrArg (fun unique => _ ++ [unique]) (uniqueSheetName_congr name fun n => ?_)
  exact List.mem_reverse.symm

/-- The answers are built up from the left. -/
theorem uniqueSheetNames_eq_buildUp (names : List (List Char)) :
    uniqueSheetNames names =
      buildUp (fun before name => uniqueSheetName (before.map foldCase) name) names := by
  induction names using List.reverseRecOn with
  | nil => rfl
  | append_singleton names name ih => rw [uniqueSheetNames_concat, buildUp_concat, ih]

theorem length_uniqueSheetNames (names : List (List Char)) :
    (uniqueSheetNames names).length = names.length := by
  rw [uniqueSheetNames_eq_buildUp, length_buildUp]

/-- The answer to a name behind the names `before`, as they are compared. -/
structure Answers (before : List (List Char)) (name unique : List Char) : Prop where
  /-- The name stays just if there is none before it that is the same but for case. -/
  unchanged : unique = name ↔ foldCase name ∉ before
  /-- Otherwise the search for a free number ends, and the answer is the name with it. -/
  numbered : foldCase name ∈ before → ∃ k ≤ before.length + 2, FirstFree before name k ∧
    unique = numberedSheetName name k

theorem answers_uniqueSheetName (before : List (List Char)) (name : List Char) :
    Answers before name (uniqueSheetName before name) := by
  refine ⟨⟨fun same => ?_, uniqueSheetName_of_free⟩, exists_firstFree⟩
  have free := foldCase_uniqueSheetName_notMem before name
  rwa [same] at free

/-- The answer to the name of each position is that behind the answers before it. -/
theorem getElem?_uniqueSheetNames {names : List (List Char)} {i : Nat} {name : List Char}
    (given : names[i]? = some name) :
    (uniqueSheetNames names)[i]? =
      some (uniqueSheetName (((uniqueSheetNames names).take i).map foldCase) name) := by
  rw [uniqueSheetNames_eq_buildUp]
  exact getElem?_buildUp given

/-- **One name given again and again is numbered through**, unless it looks like its own numbers. -/
theorem uniqueSheetNames_replicate {name : List Char}
    (apart : ∀ k, foldCase (numberedSheetName name k) ≠ foldCase name) (n : Nat) :
    uniqueSheetNames (List.replicate (n + 1) name) =
      name :: (List.range n).map fun k => numberedSheetName name (k + 2) := by
  induction n with
  | zero => rfl
  | succ n ih =>
    let given := name :: (List.range n).map fun k => numberedSheetName name (k + 2)
    have inUse : ∀ k, 2 ≤ k → (foldCase (numberedSheetName name k) ∈ given.map foldCase ↔
        k < n + 2) := by
      intro k two
      rw [List.map_cons, List.mem_cons, List.map_map, List.mem_map]
      constructor
      · rintro (same | ⟨l, inRange, same⟩)
        · exact absurd same (apart k)
        · rw [← foldCase_numberedSheetName_inj.mp same]
          exact Nat.add_lt_add_right (List.mem_range.mp inRange) 2
      · intro less
        refine Or.inr ⟨k - 2, List.mem_range.mpr (by omega), ?_⟩
        rw [Function.comp_apply, Nat.sub_add_cancel two]
    have next : FirstFree (given.map foldCase) name (n + 2) :=
      ⟨Nat.le_add_left 2 n, mt (inUse _ (Nat.le_add_left 2 n)).mp (Nat.lt_irrefl _),
        fun j two less => (inUse j two).mpr less⟩
    have answer : uniqueSheetName (given.map foldCase) name = numberedSheetName name (n + 2) :=
      next.uniqueSheetName_eq List.mem_cons_self
    rw [List.replicate_succ', uniqueSheetNames_concat, ih, answer, List.range_succ,
      List.map_append]
    rfl

/-- **The answers to names in turn differ in more than case.** Each name is answered with itself
just if none of the answers before is the same but for case, and else the search for a number
ends. -/
theorem uniqueSheetNames_distinct (names : List (List Char)) :
    (uniqueSheetNames names).length = names.length ∧
    ((uniqueSheetNames names).map foldCase).Nodup ∧
    ∀ i name unique, names[i]? = some name → (uniqueSheetNames names)[i]? = some unique →
      Answers (((uniqueSheetNames names).take i).map foldCase) name unique := by
  refine ⟨length_uniqueSheetNames names, ?_, fun i name unique given answer => ?_⟩
  · induction names using List.reverseRecOn with
    | nil => exact List.nodup_nil
    | append_singleton names name ih =>
      rw [uniqueSheetNames_concat, List.map_append, List.map_singleton]
      refine List.nodup_append.mpr ⟨ih, List.nodup_singleton _, fun other inUse _ isLast same => ?_⟩
      rw [List.mem_singleton] at isLast
      rw [same, isLast] at inUse
      exact foldCase_uniqueSheetName_notMem _ name inUse
  · rw [getElem?_uniqueSheetNames given, Option.some.injEq] at answer
    rw [← answer]
    exact answers_uniqueSheetName _ name

/-- A name that differs from an earlier one in case only is answered with a number. -/
theorem uniqueSheetNames_distinct_sample :
    uniqueSheetNames ["Data".toList, "data".toList] = ["Data".toList, "data__2".toList] ∧
      Answers [foldCase "Data".toList] "data".toList "data__2".toList := by
  have answers : uniqueSheetNames ["Data".toList, "data".toList] =
      ["Data".toList, "data__2".toList] := by decide +kernel
  have behind := (uniqueSheetNames_distinct ["Data".toList, "data".toList]).2.2 1 "data".toList
    "data__2".toList rfl (by rw [answers]; rfl)
  rw [answers] at behind
  exact ⟨answers, behind⟩

end SheetExport
