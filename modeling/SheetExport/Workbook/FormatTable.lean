/-
**The formats of a workbook.**

Formats that are equal are added once. What was found for a cell is kept besides, under the style
and the number format of the cell, so that its format need not be made again. A `FormatTable` holds
both; no two of its formats are equal, and what is kept for a cell is a format equal to its own.
-/

import SheetExport.Style.Basic
import SheetExport.Value.Cell

namespace SheetExport

/-- What the format of a body cell is kept under: the instance of its style, and the number format
that it gets instead of the style's, empty for none. -/
structure CellFormatKey where
  style : Style
  numFormat : String
deriving DecidableEq

namespace CellFormatKey

/-- The key of a cell: the column's data format comes first, then the style's own number format,
then the default of a temporal value. -/
def ofCell (style : Style) (dataFormat : String) (v : CellValue) : CellFormatKey :=
  ⟨style, if dataFormat = "" ∧ style.spec.format.value? .numFormat = none then
    v.toValue.temporalFormat?.getD "" else dataFormat⟩

/-- The format that the key stands for. -/
def format (k : CellFormatKey) : Format :=
  if k.numFormat = "" then k.style.spec.format
  else k.style.spec.format.set .numFormat (some (.text k.numFormat))

end CellFormatKey

/-- Formats with one more, unless an equal one is among them. -/
def addFormat (formats : List Format) (f : Format) : List Format :=
  if formats.any (·.same f) then formats else formats ++ [f]

/-- The formats that were added, and the numbers that are kept for cells. -/
structure FormatTable where
  added : List Format
  cells : List (CellFormatKey × Nat)
  /-- No two formats are equal. -/
  distinct : added.Pairwise fun f g => f.same g = false
  /-- The format that is kept for a cell is equal to its own. -/
  kept : ∀ entry ∈ cells, ∃ f, added[entry.2]? = some f ∧ f.same entry.1.format = true

namespace FormatTable

/-- The table without formats. -/
def empty : FormatTable := ⟨[], [], .nil, nofun⟩

/-- The table with a format that no other is equal to. -/
def add (t : FormatTable) (f : Format) (new : ∀ g ∈ t.added, g.same f = false) : FormatTable where
  added := t.added ++ [f]
  cells := t.cells
  distinct := List.pairwise_append.mpr
    ⟨t.distinct, List.pairwise_singleton _ _, fun g member f' isNew => by
      rw [List.mem_singleton.mp isNew]
      exact new g member⟩
  kept entry member := by
    obtain ⟨g, found, same⟩ := t.kept entry member
    have below := (List.getElem?_eq_some_iff.mp found).1
    exact ⟨g, by rw [List.getElem?_append_left below, found], same⟩

/-- The number of a format, which is added unless an equal one was. -/
def use (t : FormatTable) (f : Format) : Nat × FormatTable :=
  match found : t.added.findIdx? (·.same f) with
  | some number => (number, t)
  | none => (t.added.length, t.add f (List.findIdx?_eq_none_iff.mp found))

/-- The table after a format was used has one equal to it under the number. -/
theorem getElem?_use (t : FormatTable) (f : Format) :
    ∃ g, (t.use f).2.added[(t.use f).1]? = some g ∧ g.same f = true := by
  unfold use
  split
  · rename_i number found
    obtain ⟨below, same, _⟩ := List.findIdx?_eq_some_iff_getElem.mp found
    exact ⟨t.added[number], List.getElem?_eq_getElem below, same⟩
  · exact ⟨f, List.getElem?_concat_length, f.same_refl⟩

theorem added_use (t : FormatTable) (f : Format) : (t.use f).2.added = addFormat t.added f := by
  unfold use addFormat
  split
  · rename_i number found
    obtain ⟨below, same, _⟩ := List.findIdx?_eq_some_iff_getElem.mp found
    rw [if_pos (List.any_eq_true.mpr ⟨_, List.getElem_mem below, same⟩)]
  · rename_i found
    have new := List.findIdx?_eq_none_iff.mp found
    rw [if_neg (by simpa using new)]
    rfl

/-- The table with a number that is kept for a cell. -/
def keep (t : FormatTable) (k : CellFormatKey) (number : Nat)
    (found : ∃ f, t.added[number]? = some f ∧ f.same k.format = true) : FormatTable :=
  { t with
    cells := (k, number) :: t.cells
    kept := List.forall_mem_cons.mpr ⟨found, t.kept⟩ }

/-- The number of a cell's format: the one that is kept, or else that of its format, which is kept
from then on. -/
def useCell (t : FormatTable) (k : CellFormatKey) : Nat × FormatTable :=
  match t.cells.lookup k with
  | some number => (number, t)
  | none => ((t.use k.format).1, (t.use k.format).2.keep k _ (t.getElem?_use k.format))

/-- The number that is kept for a cell is that of a format equal to its own. -/
theorem getElem?_of_lookup {t : FormatTable} {k : CellFormatKey} {number : Nat}
    (found : t.cells.lookup k = some number) :
    ∃ f, t.added[number]? = some f ∧ f.same k.format = true := by
  obtain ⟨before, after, cells, _⟩ := List.lookup_eq_some_iff.mp found
  exact t.kept (k, number) (cells ▸ List.mem_append_right _ List.mem_cons_self)

/-- The table after a cell's format was used has one equal to it under the number, whether the
number was kept or not. -/
theorem getElem?_useCell (t : FormatTable) (k : CellFormatKey) :
    ∃ f, (t.useCell k).2.added[(t.useCell k).1]? = some f ∧ f.same k.format = true := by
  unfold useCell
  split
  · rename_i number found
    exact getElem?_of_lookup found
  · exact t.getElem?_use k.format

/-- **Keeping numbers for cells is not seen** in the formats: they are those that there are when the
cell's own format is used. -/
theorem added_useCell (t : FormatTable) (k : CellFormatKey) :
    (t.useCell k).2.added = addFormat t.added k.format := by
  unfold useCell
  split
  · rename_i number found
    obtain ⟨f, isAdded, same⟩ := getElem?_of_lookup found
    rw [addFormat, if_pos (List.any_eq_true.mpr ⟨f, List.mem_of_getElem? isAdded, same⟩)]
  · exact t.added_use k.format

end FormatTable

end SheetExport
