/-
**What becomes of a value in a cell.**

A value is converted, masked and written, and each of the three tells kinds of values apart in an
order of its own. They agree on the values that cells hold:

* `Value.Storable` — null, truth values, integers, finite floats, texts and temporal values;
* `toCell_eq_error_iff` — the conversion fails where an object has no text, also under enumerations;
* `storable_of_toCell`, `toCell_toValue` — what is converted can be stored, and converting it once
  more changes nothing;
* `Workbook.anyCall` — the call by which any value would be written, kind by kind and else as a
  text; `writtenOnce`: for a cell's value it is the call of its kind.
-/

import SheetExport.Proofs.Outcome
import SheetExport.Proofs.Workbook.Drawing

namespace SheetExport

/-! ### Conversion -/

namespace Value

/-- What a value stands for that may be a member of an enumeration, of one whose values are members
of another, and so on. -/
def innermost : Value → Value
  | member _ value => value.innermost
  | intMember _ n => .int n
  | textMember _ s => .text s
  | v => v

/-- An object of which only its text is known, if it has one. -/
def isOpaque : Value → Bool
  | object _ | code .. => true
  | _ => false

/-- A value that a cell holds as it is. -/
inductive Storable : Value → Prop
  | null : Storable null
  | bool (b : Bool) : Storable (bool b)
  | int (n : Int) : Storable (int n)
  | float {x : Float} (finite : x.isFinite = true) : Storable (float x)
  | text (s : String) : Storable (text s)
  | date (d : Date) : Storable (date d)
  | dateTime (d : DateTime) : Storable (dateTime d)
  | time (t : TimeOfDay) : Storable (time t)

end Value

variable {v : Value} {c : CellValue} {fault : Fault} {m : Masking}

/-- Only an object without a text is not converted, be it the value itself or what a member of an
enumeration stands for. -/
theorem toCell_eq_error_iff :
    v.toCell = .error fault ↔
      v.innermost.isOpaque = true ∧ v.innermost.display = .error fault := by
  induction v with
  | member label value ih => exact ih
  | object shown => exact map_eq_error_iff.trans (and_iff_right rfl).symm
  | code typeName shown => exact map_eq_error_iff.trans (and_iff_right rfl).symm
  | _ => simp [Value.toCell, Value.innermost, Value.isOpaque]

theorem CellValue.storable_ofFloat? (x : Option Float) :
    (CellValue.ofFloat? x).toValue.Storable := by
  unfold CellValue.ofFloat?
  split
  · rename_i kept
    exact .float (Option.filter_eq_some_iff.mp kept).2
  · exact .null

theorem storable_of_map_text {shown : Except Fault String}
    (converted : shown.map CellValue.text = .ok c) : c.toValue.Storable := by
  obtain ⟨s, _, rfl⟩ := map_eq_ok_iff.mp converted
  exact .text s

/-- What a value is converted into can be stored. -/
theorem storable_of_toCell (converted : v.toCell = .ok c) : c.toValue.Storable := by
  induction v with
  | member label value ih => exact ih converted
  | object shown => exact storable_of_map_text converted
  | code typeName shown => exact storable_of_map_text converted
  | null => cases converted; exact .null
  | bool b => cases converted; exact .bool b
  | int n => cases converted; exact .int n
  | intMember label n => cases converted; exact .int n
  | text s => cases converted; exact .text s
  | textMember label s => cases converted; exact .text s
  | date d => cases converted; exact .date d
  | dateTime d => cases converted; exact .dateTime d
  | time t => cases converted; exact .time t
  | duration d => cases converted; exact .text d.text
  | complex z => cases converted; exact .text z.text
  | float x => cases converted; exact CellValue.storable_ofFloat? _
  | decimal d => cases converted; exact CellValue.storable_ofFloat? _
  | ratio q => cases converted; exact CellValue.storable_ofFloat? _
  | quantity shown magnitude => cases converted; exact CellValue.storable_ofFloat? _

/-- A stored value is converted into itself. -/
theorem toCell_toValue (storable : c.toValue.Storable) : c.toValue.toCell = .ok c := by
  cases c with
  | float x =>
    cases storable with
    | float finite =>
      rw [CellValue.toValue, Value.toCell, CellValue.ofFloat?, Option.filter_some, if_pos finite]
  | _ => rfl

/-! ### Masking -/

theorem Masking.ofLabel?_label (m : Masking) : ofLabel? m.label = some m := by
  cases m <;> decide

/-- Masking by name does to a stored value what masking does to the cell. -/
theorem maskNamed?_label (m : Masking) (c : CellValue) :
    Masking.maskNamed? m.label c.toValue = some (m.maskCell c).toValue := by
  cases c with
  | text s =>
    rw [CellValue.toValue, Masking.maskNamed?, Masking.ofLabel?_label]
    rfl
  | _ => rfl

/-- A masked value can be stored. -/
theorem storable_maskCell (storable : c.toValue.Storable) : (m.maskCell c).toValue.Storable := by
  cases c with
  | text s => exact .text _
  | _ => exact storable

/-! ### Writing -/

namespace Workbook

/-- The call for a value of a kind that has a call of its own, integers of an enumeration
included. -/
def kindCall? (row column format : Nat) : Value → Option SheetCall
  | .null => some (.blank row column format)
  | .bool b => some (.boolean row column b format)
  | .int n | .intMember _ n => some (.number row column (.int n) format)
  | .float x => some (.number row column (.float x) format)
  | .date d => some (.dateTime row column (.date d) format)
  | .dateTime d => some (.dateTime row column (.dateTime d) format)
  | .time t => some (.dateTime row column (.time t) format)
  | _ => none

/-- The call by which any value would be written: the one of its kind, or else its text. -/
def anyCall (row column format : Nat) (v : Value) : Except Fault SheetCall :=
  match kindCall? row column format v with
  | some call => .ok call
  | none => v.display.map (.text row column · format)

/-- A cell's value is written by a single call on the cell's place, which is the one of its kind;
only texts are left to be written as what they display. -/
structure WrittenOnce (c : CellValue) (row column format : Nat) : Prop where
  call : anyCall row column format c.toValue = .ok (valueCall row column c format)
  fallback : kindCall? row column format c.toValue = none ↔ ∃ s, c = .text s
  place : (valueCall row column c format).cells = [(row, column)]
  single : ∀ number w,
    ((callOn number (valueCall row column c format)).run w).2.worksheets.toList =
      w.worksheets.toList.modify number (·.extend [valueCall row column c format])

theorem writtenOnce (c : CellValue) (row column format : Nat) :
    WrittenOnce c row column format where
  call := by cases c <;> rfl
  fallback := by cases c <;> simp [CellValue.toValue, kindCall?]
  place := by cases c <;> rfl
  single number w := toList_callOn number _ w

end Workbook

/-! ### The way of a value -/

/-- **A value is converted unless it is an object without a text, and stays what it then is**: what
comes out can be stored, is converted into itself, is masked by every strategy into a value of this
kind again, and either way it is written by one call, the one of its kind; only texts are written by
falling back on what a value displays. -/
theorem toCell_stored (v : Value) :
    (∀ fault, v.toCell = .error fault ↔
      v.innermost.isOpaque = true ∧ v.innermost.display = .error fault) ∧
    ∀ c, v.toCell = .ok c →
      c.toValue.Storable ∧ c.toValue.toCell = .ok c ∧
      (∀ m : Masking, Masking.maskNamed? m.label c.toValue = some (m.maskCell c).toValue ∧
        (m.maskCell c).toValue.Storable) ∧
      ∀ row column format, Workbook.WrittenOnce c row column format ∧
        ∀ m : Masking, Workbook.WrittenOnce (m.maskCell c) row column format := by
  refine ⟨fun fault => toCell_eq_error_iff, fun c converted => ?_⟩
  have storable : c.toValue.Storable := storable_of_toCell converted
  exact ⟨storable, toCell_toValue storable,
    fun m => ⟨maskNamed?_label m c, storable_maskCell storable⟩,
    fun row column format => ⟨Workbook.writtenOnce c row column format,
      fun m => Workbook.writtenOnce _ row column format⟩⟩

/-- A member that stands for another one, which stands for a text. -/
theorem toCell_stored_sample :
    (Value.member "Outer.A" (.textMember "Inner.B" "12345678")).toCell = .ok (.text "12345678") ∧
    Masking.maskNamed? "partial_left" (.text "12345678") = some (.text "****5678") ∧
    Workbook.anyCall 3 1 0 (.text "****5678") = .ok (.text 3 1 "****5678" 0) := by
  have converted : (Value.member "Outer.A" (.textMember "Inner.B" "12345678")).toCell =
      .ok (.text "12345678") := rfl
  have masked : Masking.partialLeft.maskCell (.text "12345678") = .text "****5678" :=
    congrArg CellValue.text (by decide +kernel)
  have stored := (toCell_stored _).2 _ converted
  refine ⟨converted, ?_, ?_⟩
  · have named := (stored.2.2.1 .partialLeft).1
    rwa [masked] at named
  · have written := ((stored.2.2.2 3 1 0).2 .partialLeft).call
    rwa [masked] at written

end SheetExport
