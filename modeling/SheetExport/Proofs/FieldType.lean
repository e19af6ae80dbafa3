/-
**Wrapped types make the same kind of column.**

* `Built t` — the type is made of classes, references and lists by notes and unions, which is how
  declarations make types;
* `Regular t` — every union in it is flat, has two members at least and none twice; built types are
  regular (`Built.regular`);
* `unwrap_unwrap`: unwrapping ends with what is not unwrapped any further;
* `Wrapper`, `wrapAll` — the absent value admitted, or notes added, any number of times;
* `kind_wrapAll`: a type makes the kind of column that it makes in any wrappers, and that is numeric
  or temporal just if unwrapping it ends with a class of that kind.
-/

import Mathlib.Data.List.Basic
import Mathlib.Data.List.Induction
import Mathlib.Data.List.Pairwise
import SheetExport.FieldType.Basic

namespace SheetExport.FieldType

variable {t other : FieldType} {types members : List FieldType}

/-! ### Types without those equal to an earlier one -/

theorem distinct_concat (types : List FieldType) (t : FieldType) :
    distinct (types ++ [t]) =
      if (distinct types).any (same · t) then distinct types else distinct types ++ [t] := by
  rw [distinct, List.foldl_append]
  rfl

theorem mem_of_mem_distinct (member : t ∈ distinct types) : t ∈ types := by
  induction types using List.reverseRecOn with
  | nil => exact absurd member List.not_mem_nil
  | append_singleton types last ih =>
    rw [distinct_concat] at member
    split at member
    · exact List.mem_append_left _ (ih member)
    · obtain before | isLast := List.mem_append.mp member
      · exact List.mem_append_left _ (ih before)
      · exact List.mem_append_right _ isLast

/-- No two types are equal. -/
def Apart (types : List FieldType) : Prop := types.Pairwise fun a b => same a b = false

theorem apart_concat_iff {types : List FieldType} {t : FieldType} :
    Apart (types ++ [t]) ↔ Apart types ∧ types.any (same · t) = false := by
  simp [Apart, List.pairwise_append]

theorem apart_distinct (types : List FieldType) : Apart (distinct types) := by
  induction types using List.reverseRecOn with
  | nil => exact .nil
  | append_singleton types last ih =>
    rw [distinct_concat]
    split
    · exact ih
    · rename_i new
      exact apart_concat_iff.mpr ⟨ih, eq_false_of_ne_true new⟩

theorem distinct_eq_self (apart : Apart types) : distinct types = types := by
  induction types using List.reverseRecOn with
  | nil => rfl
  | append_singleton types last ih =>
    obtain ⟨before, new⟩ := apart_concat_iff.mp apart
    rw [distinct_concat, ih before, new]
    rfl

theorem distinct_ne_nil (some : types ≠ []) : distinct types ≠ [] := by
  induction types using List.reverseRecOn with
  | nil => exact absurd rfl some
  | append_singleton types last ih =>
    rw [distinct_concat]
    split
    · rename_i found
      intro empty
      rw [empty] at found
      cases found
    · exact List.append_ne_nil_of_right_ne_nil _ (List.cons_ne_nil _ _)

/-! ### Types as declarations make them -/

/-- A type made of classes, references and lists by notes and unions. -/
inductive Built : FieldType → Prop
  | named (name : String) (kind : FieldKind) : Built (named name kind)
  | object (shown : String) (kind : FieldKind) : Built (object shown kind)
  | unresolved (text : String) : Built (unresolved text)
  | list {item : FieldType} : Built item → Built (list item)
  | annotated {t : FieldType} (notes : List String) : Built t → Built (t.annotatedWith notes)
  | union {types : List FieldType} :
    types ≠ [] → (∀ t ∈ types, Built t) → Built (unionOf types)

/-- Is a union. -/
def isUnion : FieldType → Bool
  | union _ => true
  | _ => false

/-- A type whose unions are flat, have two members at least and none twice. -/
inductive Regular : FieldType → Prop
  | named (name : String) (kind : FieldKind) : Regular (named name kind)
  | object (shown : String) (kind : FieldKind) : Regular (object shown kind)
  | unresolved (text : String) : Regular (unresolved text)
  | list {item : FieldType} : Regular item → Regular (list item)
  | annotated {inner : FieldType} {notes : List String} :
    Regular inner → Regular (annotated inner notes)
  | union {members : List FieldType} : (∀ m ∈ members, Regular m) →
    (∀ m ∈ members, m.isUnion = false) → Apart members → 2 ≤ members.length →
    Regular (union members)

theorem alternatives_of_not_isUnion (single : t.isUnion = false) : t.alternatives = [t] := by
  cases t with
  | union members => cases single
  | named | annotated | list | unresolved | object => rfl

theorem Regular.alternatives_ne_nil (regular : Regular t) : t.alternatives ≠ [] := by
  cases regular with
  | union _ _ _ two =>
    rintro rfl
    cases two
  | named | annotated | list | unresolved | object => exact List.cons_ne_nil _ _

theorem Regular.apart_alternatives (regular : Regular t) : Apart t.alternatives := by
  cases regular with
  | union _ _ apart => exact apart
  | named | annotated | list | unresolved | object => exact List.pairwise_singleton _ _

/-- The alternatives of a regular type are regular and no unions. -/
theorem Regular.of_mem_alternatives (regular : Regular t) (member : other ∈ t.alternatives) :
    Regular other ∧ other.isUnion = false := by
  by_cases single : t.isUnion = false
  · rw [alternatives_of_not_isUnion single, List.mem_singleton] at member
    rw [member]
    exact ⟨regular, single⟩
  · cases regular with
    | union parts flat => exact ⟨parts other member, flat other member⟩
    | named | annotated | list | unresolved | object => exact absurd rfl single

theorem unionOf_eq_only (one : distinct (types.flatMap alternatives) = [t]) :
    unionOf types = t := by
  rw [unionOf, one]

theorem unionOf_eq_union (several : distinct (types.flatMap alternatives) = members)
    (two : 2 ≤ members.length) : unionOf types = union members := by
  unfold unionOf
  split
  · rename_i only isOnly
    rw [← several, isOnly] at two
    cases two
    contradiction
  · rw [several]

/-- The union of regular types is regular. -/
theorem regular_unionOf (some : types ≠ []) (parts : ∀ t ∈ types, Regular t) :
    Regular (unionOf types) := by
  have regular : ∀ m ∈ distinct (types.flatMap alternatives), Regular m ∧ m.isUnion = false := by
    intro m member
    obtain ⟨t, isPart, isMember⟩ := List.mem_flatMap.mp (mem_of_mem_distinct member)
    exact (parts t isPart).of_mem_alternatives isMember
  have someLeft : distinct (types.flatMap alternatives) ≠ [] := by
    obtain ⟨t, isPart⟩ := List.exists_mem_of_ne_nil types some
    refine distinct_ne_nil fun none => (parts t isPart).alternatives_ne_nil ?_
    exact List.flatMap_eq_nil_iff.mp none t isPart
  have apart := apart_distinct (types.flatMap alternatives)
  unfold unionOf
  split
  · rename_i only isOnly
    rw [isOnly] at regular
    exact (regular only (List.mem_singleton_self only)).1
  · rename_i several
    refine .union (fun m member => (regular m member).1) (fun m member => (regular m member).2)
      apart ?_
    match found : distinct (types.flatMap alternatives) with
    | [] => exact absurd found someLeft
    | [only] => exact absurd found (several only)
    | _ :: _ :: _ => exact Nat.le_add_left 2 _

theorem Regular.annotatedWith (regular : Regular t) (notes : List String) :
    Regular (t.annotatedWith notes) := by
  cases regular with
  | annotated inner => exact .annotated inner
  | named name kind => exact .annotated (.named name kind)
  | object shown kind => exact .annotated (.object shown kind)
  | unresolved text => exact .annotated (.unresolved text)
  | list item => exact .annotated (.list item)
  | union parts flat apart two => exact .annotated (.union parts flat apart two)

/-- Built types are regular. -/
theorem Built.regular (built : Built t) : Regular t := by
  induction built with
  | named name kind => exact .named name kind
  | object shown kind => exact .object shown kind
  | unresolved text => exact .unresolved text
  | list _ item => exact .list item
  | annotated notes _ inner => exact inner.annotatedWith notes
  | union some _ parts => exact regular_unionOf some parts

/-! ### Unwrapping -/

@[simp] theorem unwrap_annotated (inner : FieldType) (notes : List String) :
    unwrap (annotated inner notes) = unwrap inner := by
  rw [unwrap]

theorem unwrap_union_of_some (found : onlyProper? members = some t) :
    unwrap (union members) = unwrap t := by
  rw [unwrap]
  split
  · rename_i only same
    rw [same] at found
    cases found
    rfl
  · rename_i none
    rw [none] at found
    cases found

theorem unwrap_union_of_none (none : onlyProper? members = Option.none) :
    unwrap (union members) = union members := by
  rw [unwrap]
  split
  · rename_i only found
    rw [none] at found
    cases found
  · rfl

theorem unwrap_eq_self (notAnnotated : ∀ inner notes, t ≠ annotated inner notes)
    (notUnion : ∀ members, t ≠ union members) : t.unwrap = t := by
  rw [unwrap]
  · exact notAnnotated
  · exact notUnion

/-- Unwrapping ends here. -/
def Unwrapped : FieldType → Prop
  | annotated _ _ => False
  | union members => onlyProper? members = Option.none
  | _ => True

theorem Unwrapped.unwrap_eq (unwrapped : Unwrapped t) : t.unwrap = t := by
  cases t with
  | annotated => exact unwrapped.elim
  | union members => exact unwrap_union_of_none unwrapped
  | named | list | unresolved | object => simp [unwrap]

theorem unwrapped_unwrap (t : FieldType) : Unwrapped t.unwrap := by
  induction t using unwrap.induct with
  | case1 inner notes ih =>
    rw [unwrap_annotated]
    exact ih
  | case2 members only found ih =>
    rw [unwrap_union_of_some found]
    exact ih
  | case3 members none =>
    rw [unwrap_union_of_none none]
    exact none
  | case4 t notAnnotated notUnion =>
    cases t with
    | annotated inner notes => exact absurd rfl (notAnnotated inner notes)
    | union members => exact absurd rfl (notUnion members)
    | named | list | unresolved | object =>
      rw [unwrap_eq_self notAnnotated notUnion]
      trivial

/-- **Unwrapping twice is unwrapping once.** -/
theorem unwrap_unwrap (t : FieldType) : t.unwrap.unwrap = t.unwrap := (unwrapped_unwrap t).unwrap_eq

theorem onlyProper?_eq_some_iff :
    onlyProper? members = some t ↔ members.filter (!·.isNone) = [t] := by
  unfold onlyProper?
  split
  · rename_i only proper
    rw [proper, Option.some.injEq, List.cons.injEq, and_iff_left rfl]
  · rename_i several
    exact ⟨fun found => (nomatch found), fun proper => absurd proper (several t)⟩

theorem mem_of_onlyProper? (found : onlyProper? members = some t) : t ∈ members := by
  have proper := onlyProper?_eq_some_iff.mp found
  exact (List.mem_filter.mp (proper ▸ List.mem_singleton_self t)).1

theorem onlyProper?_eq_none_iff :
    onlyProper? members = Option.none ↔ (members.filter (!·.isNone)).length ≠ 1 := by
  rw [Option.eq_none_iff_forall_ne_some, Ne, List.length_eq_one_iff, not_exists]
  exact forall_congr' fun t => not_congr onlyProper?_eq_some_iff

theorem onlyProper?_eq_none (proper : members.filter (!·.isNone) = types)
    (two : 2 ≤ types.length) : onlyProper? members = Option.none :=
  onlyProper?_eq_none_iff.mpr (proper ▸ Nat.ne_of_gt two)

/-- Unwrapping a regular type ends with a regular one. -/
theorem Regular.unwrap (regular : Regular t) : Regular t.unwrap := by
  induction t using unwrap.induct with
  | case1 inner notes ih =>
    rw [unwrap_annotated]
    cases regular with
    | annotated inner => exact ih inner
  | case2 members only found ih =>
    rw [unwrap_union_of_some found]
    cases regular with
    | union parts => exact ih (parts only (mem_of_onlyProper? found))
  | case3 members none =>
    rw [unwrap_union_of_none none]
    exact regular
  | case4 t notAnnotated notUnion =>
    rw [unwrap_eq_self notAnnotated notUnion]
    exact regular

/-! ### The absent value in unions -/

/-- Only the type of the absent value equals it. -/
theorem same_none (t : FieldType) : same t none = t.isNone := by
  cases t <;> simp [same, none, isNone]

theorem same_of_isNone (first : t.isNone = true) (second : other.isNone = true) :
    same t other = true := by
  cases t <;> cases other <;> simp_all [same, isNone]

/-- Of types no two of which are equal, all but one at most are proper. -/
theorem length_le_of_apart (apart : Apart members) :
    members.length ≤ (members.filter (!·.isNone)).length + 1 := by
  have absent : (members.filter isNone).length ≤ 1 := by
    have apartNones : Apart (members.filter isNone) := List.Pairwise.filter _ apart
    have areNone : ∀ m ∈ members.filter isNone, m.isNone = true :=
      fun m member => (List.mem_filter.mp member).2
    match found : members.filter isNone with
    | [] => exact Nat.zero_le 1
    | [_] => exact Nat.le_refl 1
    | first :: second :: rest =>
      rw [found] at apartNones areNone
      have same := same_of_isNone (areNone first List.mem_cons_self)
        (areNone second (List.mem_cons_of_mem _ List.mem_cons_self))
      rw [(List.pairwise_cons.mp apartNones).1 second List.mem_cons_self] at same
      cases same
  have lengths := List.length_eq_length_filter_add (l := members) isNone
  omega

/-- A regular type with the absent value admitted. -/
theorem Regular.optional_eq (regular : Regular t) :
    t.optional = if t.alternatives.any isNone then t else .union (t.alternatives ++ [none]) := by
  have left : distinct ([t, none].flatMap alternatives) =
      if t.alternatives.any isNone then t.alternatives else t.alternatives ++ [none] := by
    show distinct (t.alternatives ++ [none]) = _
    rw [distinct_concat, distinct_eq_self regular.apart_alternatives]
    simp only [same_none]
  split at left
  · rename_i admitted
    rw [if_pos admitted]
    cases regular with
    | union _ _ _ two => exact unionOf_eq_union left two
    | named | annotated | list | unresolved | object => exact unionOf_eq_only left
  · rename_i lacking
    rw [if_neg lacking]
    refine unionOf_eq_union left ?_
    have some := List.length_pos_iff.mpr regular.alternatives_ne_nil
    rw [List.length_append]
    exact Nat.add_le_add_right some 1

/-! ### Kinds -/

theorem kind_eq (t : FieldType) : t.kind = t.unwrap.classKind := by
  unfold kind isNumeric isTemporal
  cases t.unwrap.classKind <;> rfl

theorem kind_annotatedWith (notes : List String) (t : FieldType) :
    (t.annotatedWith notes).kind = t.kind := by
  rw [kind_eq, kind_eq]
  cases t <;> simp [annotatedWith]

/-- Admitting the absent value does not change the kind. -/
theorem kind_optional (regular : Regular t) : t.optional.kind = t.kind := by
  rw [regular.optional_eq]
  split
  · rfl
  · rename_i lacking
    have proper : t.alternatives.filter (!·.isNone) = t.alternatives :=
      List.filter_eq_self.mpr (by simpa using lacking)
    have still : (t.alternatives ++ [none]).filter (!·.isNone) = t.alternatives := by
      rw [List.filter_append, proper]
      exact List.append_nil _
    rw [kind_eq, kind_eq]
    cases regular with
    | @union members _ _ _ two =>
      -- Two members and no absent value among them: nothing is unwrapped, with or without it.
      have bare : (union members).unwrap = union members :=
        unwrap_union_of_none (onlyProper?_eq_none proper two)
      rw [unwrap_union_of_none (onlyProper?_eq_none still two), bare]
      rfl
    | named | annotated | list | unresolved | object =>
      rw [unwrap_union_of_some (onlyProper?_eq_some_iff.mpr still)]

/-- A class whose instances are of a kind; what is shown by its text is one if they are. -/
def IsClassOf (kind : FieldKind) : FieldType → Prop
  | named _ own | object _ own => own = kind
  | _ => False

/-- Only classes are numeric or temporal. -/
theorem classKind_eq_iff {kind : FieldKind} (proper : kind ≠ .other) :
    t.classKind = kind ↔ t.IsClassOf kind := by
  cases t with
  | named | object => exact Iff.rfl
  | union | annotated | list | unresolved => exact iff_of_false proper.symm id

/-! ### Wrappers -/

/-- What a type is wrapped in. -/
inductive Wrapper
  /-- The absent value is admitted as well. -/
  | optional
  | annotated (notes : List String)

/-- The type in a wrapper. -/
def Wrapper.wrap : Wrapper → FieldType → FieldType
  | optional, t => t.optional
  | annotated notes, t => t.annotatedWith notes

/-- The type in all the wrappers, the first one outermost. -/
def wrapAll (wrappers : List Wrapper) (t : FieldType) : FieldType := wrappers.foldr Wrapper.wrap t

theorem Regular.wrap (regular : Regular t) (w : Wrapper) : Regular (w.wrap t) := by
  cases w with
  | optional =>
    refine regular_unionOf (List.cons_ne_nil _ _) fun part member => ?_
    obtain rfl | isNone := List.mem_cons.mp member
    · exact regular
    · rw [List.mem_singleton.mp isNone]
      exact .named "None" .other
  | annotated notes => exact regular.annotatedWith notes

theorem Regular.wrapAll (regular : Regular t) (wrappers : List Wrapper) :
    Regular (wrapAll wrappers t) := by
  induction wrappers with
  | nil => exact regular
  | cons w wrappers ih => exact ih.wrap w

theorem kind_wrap (regular : Regular t) (w : Wrapper) : (w.wrap t).kind = t.kind := by
  cases w with
  | optional => exact kind_optional regular
  | annotated notes => exact kind_annotatedWith notes t

/-- Two members at least of a regular union that is not unwrapped are not the absent value. -/
theorem Regular.two_le_proper (regular : Regular (.union members))
    (unwrapped : Unwrapped (.union members)) : 2 ≤ (members.filter (!·.isNone)).length := by
  cases regular with
  | union _ _ apart two =>
    have most := length_le_of_apart apart
    have several := onlyProper?_eq_none_iff.mp unwrapped
    omega

/-- **A type in wrappers makes the kind of column that it makes without them.** Unwrapping twice is
unwrapping once; a type is numeric or temporal just if it is a class of that kind once unwrapped, and
a union that is left then has two members other than the absent value and is neither. -/
theorem kind_wrapAll (built : Built t) (wrappers : List Wrapper) :
    (wrapAll wrappers t).kind = t.kind ∧
    t.unwrap.unwrap = t.unwrap ∧
    (∀ kind, kind ≠ .other → (t.kind = kind ↔ t.unwrap.IsClassOf kind)) ∧
    ∀ members, t.unwrap = union members →
      2 ≤ (members.filter (!·.isNone)).length ∧ t.kind = .other := by
  refine ⟨?_, unwrap_unwrap t, fun kind proper => ?_, ?_⟩
  · induction wrappers with
    | nil => rfl
    | cons w wrappers ih =>
      rw [← ih]
      exact kind_wrap (built.regular.wrapAll wrappers) w
  · rw [kind_eq]
    exact classKind_eq_iff proper
  · intro members left
    have regular := built.regular.unwrap
    have unwrapped := unwrapped_unwrap t
    rw [left] at regular unwrapped
    refine ⟨regular.two_le_proper unwrapped, ?_⟩
    rw [kind_eq, left]
    rfl

/-- An integer with notes, or nothing, is numeric in further wrappers; a union with two members
besides the absent value is not. -/
theorem kind_wrapAll_sample :
    (wrapAll [.optional, .annotated ["meta"], .optional]
      (((named "int" .numeric).annotatedWith ["meta"]).optional)).kind = .numeric ∧
    (wrapAll [.annotated ["meta"], .optional]
      (unionOf [named "int" .numeric, named "str" .other])).kind = .other := by
  have int : Built (named "int" .numeric) := .named _ _
  have str : Built (named "str" .other) := .named _ _
  have none : Built none := .named _ _
  have optional : Built ((named "int" .numeric).annotatedWith ["meta"]).optional :=
    .union (List.cons_ne_nil _ _) (by simpa using ⟨int.annotated ["meta"], none⟩)
  have both : Built (unionOf [named "int" .numeric, named "str" .other]) :=
    .union (List.cons_ne_nil _ _) (by simpa using ⟨int, str⟩)
  refine ⟨(kind_wrapAll optional _).1.trans ?_, (kind_wrapAll both _).1.trans ?_⟩
  · decide +kernel
  · decide +kernel

end SheetExport.FieldType
