/-
**How the worksheets of a workbook are called.**

* `LegalSheetName name` — a name that is not empty and has no character that a worksheet's name may
  not contain; `of_cleanSheetName`: what is left of a declared name is one, of the length allowed;
* `NumberFits used name` — the name is free, or so is one with a number short enough;
  `length_uniqueSheetName_le_iff`: just then the unique name is of the length allowed;
* `Workbook.NamedFrom P w` — the worksheets have the unique names for names of a kind, in turn, and
  these are the names in use; `keeps_writeRows`: writing the rows of a sheet keeps to it;
* `Workbook.Reachable` — the workbook of one writer, whatever was written and refused so far;
  `Workbook.Reachable.holds`: what writing rows keeps to holds of it;
* `Workbook.names_of_reachable`: names of worksheets are legal, and of the length allowed just if a
  number fits; `Workbook.names_of_few`: up to 98 worksheets it does;
* `Workbook.exists_reachable_long`: a hundred sheets of one long name have names that are too long.
-/

import SheetExport.Proofs.Workbook.Refusal
import SheetExport.Proofs.Workbook.UniqueName

namespace SheetExport

open Text (foldCase)

/-! ### Legal names -/

/-- A name that a worksheet may have, but for its length. -/
structure LegalSheetName (name : List Char) : Prop where
  ne_nil : name ≠ []
  legal : ∀ c ∈ name, c ∉ illegalInSheetName
  noControl : ∀ c ∈ name, isControl c = false

theorem trimBy_sublist (drop : Char → Bool) (cs : List Char) :
    (Text.trimBy drop cs).Sublist cs := by
  rw [Text.trimBy, ← List.reverse_sublist, List.reverse_reverse]
  exact (List.dropWhile_sublist _).trans (List.reverse_sublist.mpr (List.dropWhile_sublist _))

/-- **What is left of a declared name** is legal and of the length allowed. -/
theorem of_cleanSheetName {declared name : List Char}
    (clean : cleanSheetName declared = some name) :
    LegalSheetName name ∧ name.length ≤ maxSheetNameLength := by
  unfold cleanSheetName at clean
  simp only at clean
  split at clean
  · cases clean
  rename_i remains
  obtain rfl := Option.some.inj clean
  have left := (List.take_sublist maxSheetNameLength _).trans
    (trimBy_sublist Text.isBlank (((dropPointPairs (Text.strip declared)).filter
      (!illegalInSheetName.contains ·)).filter (!isControl ·)))
  refine ⟨⟨fun nothing => ?_, fun c member => ?_, fun c member => ?_⟩, List.length_take_le _ _⟩
  · rcases List.take_eq_nil_iff.mp nothing with none | empty
    · cases none
    · exact remains (List.isEmpty_iff.mpr empty)
  · have legal := (List.mem_filter.mp (List.mem_filter.mp (left.subset member)).1).2
    simpa using legal
  · have control := (List.mem_filter.mp (left.subset member)).2
    simpa using control

/-- A digit may stand in a name. -/
theorem legal_of_isDigit {c : Char} (digit : c.isDigit = true) :
    c ∉ illegalInSheetName ∧ isControl c = false := by
  obtain ⟨above, below⟩ := toNat_of_isDigit digit
  constructor
  · intro illegal
    have far : illegalInSheetName.all (fun c => decide (c.toNat < 48 ∨ 57 < c.toNat)) = true := by
      decide
    rcases of_decide_eq_true (List.all_eq_true.mp far c illegal) with less | more <;> omega
  · simp only [isControl, Bool.or_eq_false_iff, decide_eq_false_iff_not]
    omega

section Numbered

variable {used : List (List Char)} {name : List Char} {k : Nat}

theorem LegalSheetName.numbered (legal : LegalSheetName name) (k : Nat) :
    LegalSheetName (numberedSheetName name k) := by
  have each : ∀ c ∈ numberedSheetName name k, c ∉ illegalInSheetName ∧ isControl c = false := by
    intro c member
    rw [numberedSheetName, toList_toString, List.mem_append, List.mem_append] at member
    rcases member with (ofName | line) | digit
    · have inName := List.mem_of_mem_take ofName
      exact ⟨legal.legal c inName, legal.noControl c inName⟩
    · have lines : "__".toList.all
          (fun c => decide (c ∉ illegalInSheetName ∧ isControl c = false)) = true := by decide
      exact of_decide_eq_true (List.all_eq_true.mp lines c line)
    · exact legal_of_isDigit (isDigit_of_mem_toDigits c digit)
  refine ⟨?_, fun c member => (each c member).1, fun c member => (each c member).2⟩
  simp [numberedSheetName]

/-- The unique name for a legal name is legal. -/
theorem LegalSheetName.unique (legal : LegalSheetName name) (used : List (List Char)) :
    LegalSheetName (uniqueSheetName used name) := by
  by_cases inUse : foldCase name ∈ used
  · obtain ⟨k, _, _, same⟩ := exists_firstFree inUse
    rw [same]
    exact legal.numbered k
  · rw [uniqueSheetName_of_free inUse]
    exact legal

/-! ### Lengths -/

/-- How many digits fit behind a name that is cut to 27 characters, and two lines. -/
def digitRoom (name : List Char) : Nat :=
  maxSheetNameLength - 2 - min (maxSheetNameLength - 4) name.length

theorem two_le_digitRoom (name : List Char) : 2 ≤ digitRoom name := by
  unfold digitRoom maxSheetNameLength
  omega

/-- A name with a number is of the length allowed just if its digits fit. -/
theorem length_numberedSheetName_le_iff :
    (numberedSheetName name k).length ≤ maxSheetNameLength ↔ k < 10 ^ digitRoom name := by
  have room := two_le_digitRoom name
  rw [← Nat.length_toDigits_le_iff (by decide) (by omega), numberedSheetName, toList_toString,
    List.length_append, List.length_append, List.length_take]
  unfold digitRoom maxSheetNameLength
  show _ + 2 + _ ≤ 31 ↔ _
  omega

/-- The name is free, or it is with one of the numbers whose digits fit. -/
def NumberFits (used : List (List Char)) (name : List Char) : Prop :=
  foldCase name ∉ used ∨
    ∃ k, 2 ≤ k ∧ k < 10 ^ digitRoom name ∧ foldCase (numberedSheetName name k) ∉ used

/-- **The unique name is of the length allowed just if a number fits.** -/
theorem length_uniqueSheetName_le_iff (short : name.length ≤ maxSheetNameLength) :
    (uniqueSheetName used name).length ≤ maxSheetNameLength ↔ NumberFits used name := by
  by_cases inUse : foldCase name ∈ used
  · obtain ⟨k, _, first, same⟩ := exists_firstFree inUse
    rw [same, length_numberedSheetName_le_iff]
    constructor
    · exact fun fits => Or.inr ⟨k, first.two_le, fits, first.free⟩
    · rintro (free | ⟨l, two', fits, free⟩)
      · exact absurd inUse free
      · by_contra more
        exact free (first.taken l two' (by omega))
  · rw [uniqueSheetName_of_free inUse]
    exact ⟨fun _ => Or.inl inUse, fun _ => short⟩

/-- **While there are less than 98 names, a number fits.** -/
theorem numberFits_of_few (few : used.length < 98) : NumberFits used name := by
  obtain ⟨k, below, free⟩ := exists_free used name
  have room : 10 ^ 2 ≤ 10 ^ digitRoom name :=
    Nat.pow_le_pow_right (by decide) (two_le_digitRoom name)
  exact Or.inr ⟨k + 2, by omega, by omega, free⟩

end Numbered

/-! ### The worksheets of a workbook -/

namespace Workbook

/-- The worksheets have the unique names for the given ones, and these are in use. -/
structure NamedBy (given : List (List Char)) (w : Workbook) : Prop where
  worksheets : w.worksheets.toList.map (·.name.toList) = uniqueSheetNames given
  names : w.names = ((uniqueSheetNames given).map foldCase).reverse

/-- The worksheets have the unique names for some names of a kind. -/
def NamedFrom (P : List Char → Prop) (w : Workbook) : Prop :=
  ∃ given, (∀ name ∈ given, P name) ∧ NamedBy given w

section Named

variable {P : List Char → Prop} {given : List (List Char)} {name : List Char} {w w' : Workbook}

theorem NamedBy.draws {number : Nat} {marks : List Mark} (draws : Draws number marks w w')
    (named : NamedBy given w) : NamedBy given w' := by
  obtain ⟨calls, _, worksheets⟩ := draws.worksheets
  refine ⟨?_, draws.names.trans named.names⟩
  rw [worksheets, ← named.worksheets]
  apply List.ext_getElem?
  intro i
  rw [List.getElem?_map, List.getElem?_map, List.getElem?_modify]
  cases w.worksheets.toList[i]? with
  | none => rfl
  | some ws =>
    show some (if number = i then ws.extend calls else ws).name.toList = _
    split <;> rfl

theorem NamedBy.opened (named : NamedBy given w) (name : List Char) :
    NamedBy (given ++ [name]) (opened name w) := by
  have used : uniqueSheetName w.names name =
      uniqueSheetName ((uniqueSheetNames given).map foldCase) name := by
    rw [named.names]
    exact uniqueSheetName_congr name fun _ => List.mem_reverse
  rw [Workbook.opened, used]
  constructor
  · rw [Array.toList_push, List.map_append, named.worksheets, uniqueSheetNames_concat]
    exact congrArg (fun n => _ ++ [n]) String.toList_ofList
  · rw [uniqueSheetNames_concat, List.map_append, List.reverse_append, named.names]
    rfl

theorem lasting_namedFrom (P : List Char → Prop) : Lasting (NamedFrom P) := by
  constructor
  · rintro number marks w w' draws ⟨given, kind, named⟩
    exact ⟨given, kind, named.draws draws⟩
  · rintro w reports ⟨given, kind, named⟩
    exact ⟨given, kind, named.worksheets, named.names⟩

/-- A further worksheet is named from a further name. -/
theorem keeps_addPart (kind : P name) (options : WriteOptions) (sheet : Sheet)
    (header : Option HeaderPlan) : Keeps (NamedFrom P) (addPart options sheet header name) := by
  rintro w ⟨given, kinds, named⟩
  obtain ⟨w', run, draws⟩ := exists_draws_addPart options sheet header name w
  rw [run]
  refine ⟨given ++ [name], fun other member => ?_, (named.opened name).draws draws⟩
  rcases List.mem_append.mp member with before | last
  · exact kinds other before
  · rw [List.mem_singleton.mp last]
    exact kind

/-- The rows of a sheet go on worksheets that are named from its name. -/
theorem keeps_writeRows (kind : P name) (options : WriteOptions) (sheet : Sheet)
    (header : Option HeaderPlan) (rows : List (List Cell)) (complete : Bool) :
    Keeps (NamedFrom P) (writeRows options sheet header name rows complete) := by
  intro w named
  have adds := keeps_addPart kind options sheet header
  exact (lasting_namedFrom P).writeRows adds rows complete (adds named)

end Named

end Workbook

namespace Desk

variable {P : List Char → Prop} {I : Workbook → Prop} {α : Type}

theorem upholds_onWorkspace (x : WorkspaceM α) :
    Upholds (fun d => I d.workbook) (fun _ => True) (onWorkspace x) :=
  fun _ before => ⟨before, fun _ _ => trivial⟩

theorem upholds_onWorkbook {x : WorkbookM α} (keeps : Keeps I x) :
    Upholds (fun d => I d.workbook) (fun _ => True) (onWorkbook x) :=
  fun _ before => ⟨keeps before, fun _ _ => trivial⟩

theorem upholds_sheetName (declared : String) :
    Upholds (fun d => I d.workbook) (fun name => cleanSheetName declared.toList = some name)
      (sheetName declared) := by
  unfold sheetName
  split
  · exact .throw _
  · rename_i name clean
    split
    · exact .bind (upholds_onWorkspace _) fun _ _ => .pure clean
    · exact .pure clean

/-- A sheet that is narrow enough, of a usable name and with rows that do not fail is written. -/
theorem exists_yields_writeSheet (options : WriteOptions) {m : MergedSheet} {workspace : Workspace}
    (narrow : checkWidth options m = .ok ())
    (clean : cleanSheetName m.sheet.name.toList = some m.sheet.name.toList)
    (complete : ((Workspace.takeAllRows m).run workspace).1.2 = none) (w : Workbook) :
    ∃ d', Yields (writeSheet options m) ⟨workspace, w⟩ () d' := by
  let taken := (Workspace.takeAllRows m).run workspace
  have named : Yields (sheetName m.sheet.name) ⟨workspace, w⟩ m.sheet.name.toList
      ⟨workspace, w⟩ := by
    unfold sheetName
    rw [clean]
    simp only [ne_eq, not_true_eq_false, if_false]
    rfl
  have pulled : Yields (onWorkspace (Workspace.takeAllRows m : StateM Workspace _)) ⟨workspace, w⟩
      taken.1 ⟨taken.2, w⟩ := rfl
  obtain ⟨d', drawn⟩ : ∃ d', Yields (onWorkbook (Workbook.writeRows options m.sheet m.header?
      m.sheet.name.toList taken.1.1 taken.1.2.isNone)) ⟨taken.2, w⟩ () d' := ⟨_, rfl⟩
  refine ⟨d', ?_⟩
  unfold writeSheet
  rw [narrow]
  refine named.bind (pulled.bind (drawn.bind ?_))
  split
  · rename_i failure failed
    cases complete.symm.trans failed
  · exact .pure () d'

/-- **Writing a sheet** upholds what writing its rows keeps to, also where a row fails. -/
theorem upholds_writeSheet {options : WriteOptions} {m : MergedSheet}
    (keeps : ∀ name rows complete, cleanSheetName m.sheet.name.toList = some name →
      Keeps I (Workbook.writeRows options m.sheet m.header? name rows complete)) :
    Upholds (fun d => I d.workbook) (fun _ => True) (writeSheet options m) := by
  unfold writeSheet
  split
  · exact .throw _
  refine .bind (upholds_sheetName _) fun name clean => ?_
  refine .bind (upholds_onWorkspace _) fun taken _ => ?_
  refine .bind (upholds_onWorkbook (keeps name _ _ clean)) fun _ _ => ?_
  split
  · exact .throw _
  · exact .pure trivial

theorem upholds_writeSheets {options : WriteOptions}
    (keeps : ∀ sheet header declared name rows complete, cleanSheetName declared = some name →
      Keeps I (Workbook.writeRows options sheet header name rows complete))
    (sources : List (String × Nat)) (strict : Bool) :
    Upholds (fun d => I d.workbook) (fun _ => True) (writeSheets options sources strict) := by
  unfold writeSheets
  refine .bind (upholds_onWorkspace _) fun sheets _ => ?_
  split
  · exact .throw _
  · exact .forM fun m _ => upholds_writeSheet fun name rows complete clean =>
      keeps m.sheet m.header? _ name rows complete clean

end Desk

/-! ### The workbook of one writer -/

namespace Workbook

/-- A workbook that sheets were written to, or some of their rows before a failure. -/
inductive Reachable : Workbook → Prop
  | empty : Reachable .empty
  | writeSheet {w : Workbook} (before : Reachable w) (workspace : Workspace)
      (options : WriteOptions) (m : MergedSheet) :
      Reachable ((Desk.writeSheet options m).run.run ⟨workspace, w⟩).2.workbook
  | writeSheets {w : Workbook} (before : Reachable w) (workspace : Workspace)
      (options : WriteOptions) (sources : List (String × Nat)) (strict : Bool) :
      Reachable ((Desk.writeSheets options sources strict).run.run ⟨workspace, w⟩).2.workbook

/-- The name is what is left of a declared one. -/
def IsClean (name : List Char) : Prop := ∃ declared, cleanSheetName declared = some name

variable {w : Workbook}

theorem namedBy_empty : NamedBy [] empty := ⟨rfl, rfl⟩

/-- **What writing rows keeps to** holds of the workbook of a writer. -/
theorem Reachable.holds {I : Workbook → Prop} (empty : I .empty)
    (keeps : ∀ options sheet header name rows complete, IsClean name →
      Keeps I (writeRows options sheet header name rows complete))
    (reachable : Reachable w) : I w := by
  induction reachable with
  | empty => exact empty
  | writeSheet before workspace options m ih =>
    have upholds : Upholds (fun d => I d.workbook) (fun _ => True) (Desk.writeSheet options m) :=
      Desk.upholds_writeSheet fun _ _ _ clean => keeps _ _ _ _ _ _ ⟨_, clean⟩
    exact upholds.after (s := ⟨workspace, _⟩) ih
  | writeSheets before workspace options sources strict ih =>
    have upholds : Upholds (fun d => I d.workbook) (fun _ => True)
        (Desk.writeSheets options sources strict) :=
      Desk.upholds_writeSheets (fun _ _ _ _ _ _ clean => keeps _ _ _ _ _ _ ⟨_, clean⟩) sources
        strict
    exact upholds.after (s := ⟨workspace, _⟩) ih

theorem namedFrom_of_reachable (reachable : Reachable w) : NamedFrom IsClean w :=
  reachable.holds ⟨[], List.forall_mem_nil _, namedBy_empty⟩
    fun options sheet header _ rows complete clean =>
      keeps_writeRows clean options sheet header rows complete

/-- Unique names for what is left of declared ones are legal, and of the length allowed just if a
number fits. -/
theorem of_uniqueSheetNames {given : List (List Char)} (clean : ∀ name ∈ given, IsClean name)
    {i : Nat} {name unique : List Char} (isGiven : given[i]? = some name)
    (answer : (uniqueSheetNames given)[i]? = some unique) :
    LegalSheetName unique ∧
      (unique.length ≤ maxSheetNameLength ↔
        NumberFits (((uniqueSheetNames given).take i).map foldCase) name) := by
  obtain ⟨declared, isLeft⟩ := clean name (List.mem_of_getElem? isGiven)
  obtain ⟨legal, short⟩ := of_cleanSheetName isLeft
  rw [getElem?_uniqueSheetNames isGiven, Option.some.injEq] at answer
  rw [← answer]
  exact ⟨legal.unique _, length_uniqueSheetName_le_iff short⟩

/-- **The worksheets of a writer** have the unique names for what is left of declared names, in
turn. They are legal, and of the length allowed just if a number fits behind the names before. -/
theorem names_of_reachable (reachable : Reachable w) :
    ∃ given, (∀ name ∈ given, IsClean name) ∧
      w.worksheets.toList.map (·.name.toList) = uniqueSheetNames given ∧
      ∀ i name unique, given[i]? = some name → (uniqueSheetNames given)[i]? = some unique →
        LegalSheetName unique ∧
        (unique.length ≤ maxSheetNameLength ↔
          NumberFits (((uniqueSheetNames given).take i).map foldCase) name) := by
  obtain ⟨given, clean, named⟩ := namedFrom_of_reachable reachable
  exact ⟨given, clean, named.worksheets, fun _ _ _ => of_uniqueSheetNames clean⟩

/-- A writer that writes one sheet twice. -/
theorem names_of_reachable_sample :
    ∃ w, Reachable w ∧ w.worksheets.toList.map (·.name) = ["left", "left__2"] ∧
      ∃ given, (∀ name ∈ given, IsClean name) ∧
        w.worksheets.toList.map (·.name.toList) = uniqueSheetNames given ∧
        ∀ i name unique, given[i]? = some name → (uniqueSheetNames given)[i]? = some unique →
          LegalSheetName unique ∧
          (unique.length ≤ maxSheetNameLength ↔
            NumberFits (((uniqueSheetNames given).take i).map foldCase) name) := by
  have once := Reachable.empty.writeSheet Desk.sampleDesk.workspace {} Desk.sampleMerged
  have twice := once.writeSheet Desk.sampleDesk.workspace {} Desk.sampleMerged
  exact ⟨_, twice, by decide +kernel, names_of_reachable twice⟩

/-- **The names of up to 98 worksheets** are legal and of the length allowed. -/
theorem names_of_few (reachable : Reachable w) (few : w.worksheets.size ≤ 98) :
    ∀ worksheet ∈ w.worksheets.toList, LegalSheetName worksheet.name.toList ∧
      worksheet.name.toList.length ≤ maxSheetNameLength := by
  intro worksheet member
  obtain ⟨given, clean, named⟩ := namedFrom_of_reachable reachable
  have isAnswer : worksheet.name.toList ∈ uniqueSheetNames given := by
    rw [← named.worksheets]
    exact List.mem_map_of_mem member
  have count : (uniqueSheetNames given).length = w.worksheets.size := by
    rw [← named.worksheets, List.length_map, Array.length_toList]
  obtain ⟨i, below, answer⟩ := List.mem_iff_getElem.mp isAnswer
  have isGiven := List.getElem?_eq_getElem (length_uniqueSheetNames given ▸ below)
  obtain ⟨legal, short⟩ := of_uniqueSheetNames clean isGiven
    (List.getElem?_eq_some_iff.mpr ⟨below, answer⟩)
  refine ⟨legal, short.mpr (numberFits_of_few ?_)⟩
  rw [List.length_map, List.length_take]
  omega

/-! ### Many sheets of one name -/

/-- As many worksheets as one likes have their names from one name, if a sheet of it is written
again and again. -/
theorem exists_reachable_many {P : List Char → Prop} {m : MergedSheet} {workspace : Workspace}
    {options : WriteOptions}
    (kind : ∀ name, cleanSheetName m.sheet.name.toList = some name → P name)
    (writes : ∀ w, ∃ d', Yields (Desk.writeSheet options m) ⟨workspace, w⟩ () d') (count : Nat) :
    ∃ w, Reachable w ∧ count ≤ w.worksheets.size ∧ NamedFrom P w := by
  induction count with
  | zero => exact ⟨.empty, .empty, Nat.le_refl _, [], List.forall_mem_nil _, namedBy_empty⟩
  | succ count ih =>
    obtain ⟨w, reachable, many, named⟩ := ih
    obtain ⟨d', written⟩ := writes w
    have further := reachable.writeSheet workspace options m
    rw [show (Desk.writeSheet options m).run.run ⟨workspace, w⟩ = _ from written] at further
    have more := Desk.lt_size_of_writeSheet written
    have upholds := (Desk.upholds_writeSheet fun name rows complete clean =>
      keeps_writeRows (kind name clean) options m.sheet m.header? rows complete).of_yields
        (s := ⟨workspace, w⟩) named written
    exact ⟨d'.workbook, further, Nat.le_trans (Nat.succ_le_succ many) more, upholds.1⟩

/-- A name of the greatest length. -/
def longName : List Char := List.replicate 31 'x'

/-- The sheet of one column under that name. -/
def longMerged : MergedSheet :=
  { Desk.sampleMerged with
    sheet := { Desk.sampleMerged.sheet with name := String.ofList longName } }

theorem foldCase_numbered_longName (k : Nat) :
    foldCase (numberedSheetName longName k) ≠ foldCase longName := by
  have cut : foldCase (longName.take (maxSheetNameLength - 4)) = List.replicate 27 'x' := by
    decide +kernel
  have whole : foldCase longName = List.replicate 27 'x' ++ List.replicate 4 'x' := by
    decide +kernel
  rw [foldCase_numberedSheetName, cut, whole, List.append_assoc]
  intro same
  have ends := List.append_cancel_left same
  exact absurd (List.cons.inj ends).1 (by decide)

/-- **Names of worksheets may be too long**: the hundredth sheet of one name of the greatest length
has a number of three digits. -/
theorem exists_reachable_long :
    ∃ w, Reachable w ∧
      ∃ worksheet ∈ w.worksheets.toList, maxSheetNameLength < worksheet.name.toList.length := by
  have clean : cleanSheetName longMerged.sheet.name.toList = some longName := by decide +kernel
  have complete : ((Workspace.takeAllRows longMerged).run Desk.sampleDesk.workspace).1.2 = none :=
    Option.isNone_iff_eq_none.mp (by decide +kernel)
  obtain ⟨w, reachable, many, given, kind, named⟩ := exists_reachable_many
    (P := (· = longName)) (fun name left => Option.some.inj (left.symm.trans clean))
    (Desk.exists_yields_writeSheet {} rfl clean complete) 100
  have count : given.length = w.worksheets.size := by
    rw [← length_uniqueSheetNames, ← named.worksheets, List.length_map, Array.length_toList]
  have same : given = List.replicate (given.length - 1 + 1) longName := by
    rw [Nat.sub_add_cancel (by omega)]
    exact List.eq_replicate_of_mem kind
  have names := named.worksheets
  rw [same, uniqueSheetNames_replicate foldCase_numbered_longName] at names
  have hundredth : numberedSheetName longName 100 ∈
      w.worksheets.toList.map (·.name.toList) := by
    rw [names]
    refine List.mem_cons_of_mem _ (List.mem_map.mpr ⟨98, List.mem_range.mpr ?_, rfl⟩)
    omega
  obtain ⟨worksheet, isOne, isName⟩ := List.mem_map.mp hundredth
  refine ⟨w, reachable, worksheet, isOne, ?_⟩
  rw [isName]
  decide +kernel

end Workbook

end SheetExport
