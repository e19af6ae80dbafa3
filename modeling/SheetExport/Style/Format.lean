/-
**Cell formats.**

A format gives values to some of seventeen properties. Formats are equal if they give equal values
to the same properties, where a truth value equals the number it counts as and an integral float
equals the integer. What a value counts as there is its `FormatValue.Key`, so that equality is one
of keys.
-/

import SheetExport.Number.Binary

namespace SheetExport

/-- The properties of a cell format. -/
inductive FormatProperty
  | fontName | fontSize | fontColor | bold | italic | underline | align | valign | textWrap
  | border | top | bottom | left | right | numFormat | bgColor | pattern
deriving Repr, DecidableEq

/-- A float as the value of a property. What is no number equals itself only, so the objects of such
values are told from each other. -/
structure FormatFloat where
  value : Float
  object : Nat
deriving DecidableEq

instance : Coe Float FormatFloat := ⟨fun x => ⟨x, 0⟩⟩

instance : Coe FormatFloat Float := ⟨FormatFloat.value⟩

/-- The value of a property. -/
inductive FormatValue
  | bool (b : Bool)
  | int (n : Int)
  | float (x : FormatFloat)
  | text (s : String)
deriving DecidableEq

namespace FormatProperty

/-- All properties, in the order in which they are listed. -/
def all : List FormatProperty :=
  [fontName, fontSize, fontColor, bold, italic, underline, align, valign, textWrap, border, top,
    bottom, left, right, numFormat, bgColor, pattern]

/-- The name of a property. -/
def name : FormatProperty → String
  | fontName => "font_name"
  | fontSize => "font_size"
  | fontColor => "font_color"
  | bold => "bold"
  | italic => "italic"
  | underline => "underline"
  | align => "align"
  | valign => "valign"
  | textWrap => "text_wrap"
  | border => "border"
  | top => "top"
  | bottom => "bottom"
  | left => "left"
  | right => "right"
  | numFormat => "num_format"
  | bgColor => "bg_color"
  | pattern => "pattern"

/-- The property of a name. -/
def ofName? (s : String) : Option FormatProperty := all.find? (·.name = s)

theorem mem_all (p : FormatProperty) : p ∈ all := by cases p <;> decide

end FormatProperty

namespace FormatValue

/-- What a value counts as where values are compared. -/
inductive Key
  | integer (n : Int)
  /-- A float that is no integer, but a number or infinite. -/
  | float (x : Float)
  | notANumber (object : Nat)
  | text (s : String)
deriving DecidableEq

/-- The key of a value. -/
def key : FormatValue → Key
  | bool b => .integer (if b then 1 else 0)
  | int n => .integer n
  | float x =>
    match floatInteger? x with
    | some n => .integer n
    | none => if x.value.isNaN then .notANumber x.object else .float x
  | text s => .text s

end FormatValue

/-- A cell format: the value of each property that has one. -/
structure Format where
  value? : FormatProperty → Option FormatValue

namespace Format

/-- The format without properties. -/
def empty : Format := ⟨fun _ => none⟩

/-- The format with another value for a property, or with none. -/
def set (f : Format) (property : FormatProperty) (value : Option FormatValue) : Format :=
  ⟨fun p => if p = property then value else f.value? p⟩

/-- The format after several changes. -/
def change (f : Format) (changes : List (FormatProperty × Option FormatValue)) : Format :=
  changes.foldl (fun g (property, value) => g.set property value) f

/-- The properties that have a value, with it. -/
def entries (f : Format) : List (FormatProperty × FormatValue) :=
  FormatProperty.all.filterMap fun p => (f.value? p).map (p, ·)

/-- What the value of a property counts as, if it has one. -/
def key? (f : Format) (property : FormatProperty) : Option FormatValue.Key :=
  (f.value? property).map FormatValue.key

/-- Equality of formats. -/
def same (f g : Format) : Bool := FormatProperty.all.all fun p => f.key? p = g.key? p

theorem same_iff {f g : Format} : f.same g = true ↔ f.key? = g.key? := by
  rw [same, List.all_eq_true, funext_iff]
  simp only [decide_eq_true_eq, FormatProperty.mem_all, forall_const]

@[simp] theorem same_refl (f : Format) : f.same f = true := same_iff.mpr rfl

theorem same_comm (f g : Format) : f.same g = g.same f := by
  rw [Bool.eq_iff_iff, same_iff, same_iff, eq_comm]

theorem same_trans {f g h : Format} (first : f.same g = true) (second : g.same h = true) :
    f.same h = true :=
  same_iff.mpr ((same_iff.mp first).trans (same_iff.mp second))

/-- Formats are one where all properties are. -/
instance : DecidableEq Format := fun f g =>
  decidable_of_iff (∀ p ∈ FormatProperty.all, f.value? p = g.value? p) <| by
    cases f
    cases g
    simp only [FormatProperty.mem_all, forall_const, mk.injEq, funext_iff]

end Format

end SheetExport
