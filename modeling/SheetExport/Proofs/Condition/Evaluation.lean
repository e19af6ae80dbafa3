/-
**What a condition says of a value.**

A value is asked for three things: whether it is absent, the number and the text that it can be read
as (`Reading`). Asking for the number or the text may go wrong.

* `Tree.evaluate` — the evaluation with all that may go wrong in it: a conversion to a number
  handles the errors of conversions alone, a conversion to a text handles every error, and the
  second operand of a connective is not asked when the first decides;
* `Tree.evaluate_eq` — nothing goes wrong, and the answer is that of `Tree.holds`;
* `LawfulTruth` — what is asked of a truth that depends on the reading of a value alone;
* `Tree.truth`, `LawfulTruth.eq_truth` — there is such a truth, and it is the only one on complete
  conditions;
* `evaluate_of_parse`: a condition that was parsed evaluates to the lawful truth of the reading.
-/

import SheetExport.Proofs.Condition.RoundTrip
import SheetExport.Value.Numeric

namespace SheetExport

/-! ### Conversions that may go wrong -/

/-- Errors that a conversion of a number handles: overflows, and errors of values, which those of
texts are as well. -/
def ErrorKind.isConversion : ErrorKind → Bool
  | overflow | value | byteText | encoding => true
  | _ => false

namespace Value

/-- The conversion to a float of a value that counts as a number. A number of a type of its own
that has no float ends in an error of its own. -/
def asFloat? (own : Fault) : Value → Option (Except Fault Float)
  | int n | intMember _ n =>
    let x := Float.ofInt n
    some (if x.isFinite then .ok x else .error .beyondFloats)
  | float x => some (.ok x)
  | decimal d => (Numeric.decimal d).toFloat?
  | ratio q => (Numeric.ratio q).toFloat?
  | quantity _ magnitude => some (magnitude.elim (.error own) .ok)
  | _ => none

/-- The finite number that a value can be read as, unless an error is not handled. -/
def coerceNumber (own : Fault) (v : Value) : Except Fault (Option Float) :=
  match v.textual?, v.asFloat? own with
  | some s, _ => .ok ((readNumber? (numeralOf s)).filter Float.isFinite)
  | none, none => .ok none
  | none, some converted =>
    (converted.map fun x => (some x).filter Float.isFinite).tryCatch fun fault =>
      if fault.kind.isConversion then .ok none else .error fault

/-- The text that a value can be read as. Every error is handled. -/
def coerceText (v : Value) : Except Fault (Option String) :=
  match v with
  | null => .ok none
  | v => (v.display.map some).tryCatch fun _ => .ok none

section Conversions

variable {own : Fault}

/-- A conversion agrees with the float that there is: it ends in an error that is handled where
there is no finite one. -/
def Agrees (x : Option Float) : Option (Except Fault Float) → Prop
  | none => x = none
  | some (.ok y) => x = some y
  | some (.error fault) => fault.kind.isConversion = true ∧ x.filter Float.isFinite = none

/-- Infinite floats stand for an overflow. -/
theorem agrees_of_overflow {x : Float} {fault : Fault}
    (overflow : fault.kind.isConversion = true) :
    Agrees (some x) (some (if x.isFinite then .ok x else .error fault)) := by
  split
  · rfl
  · rename_i infinite
    exact ⟨overflow, if_neg infinite⟩

/-- A missing float stands for an error. -/
theorem agrees_of_missing {x : Option Float} {fault : Fault}
    (handled : fault.kind.isConversion = true) :
    Agrees x (some (x.elim (.error fault) .ok)) := by
  cases x with
  | none => exact ⟨handled, rfl⟩
  | some x => rfl

theorem agrees_asFloat? (handled : own.kind.isConversion = true) (v : Value) :
    Agrees v.toFloat? (v.asFloat? own) := by
  cases v with
  | int n | intMember _ n => exact agrees_of_overflow rfl
  | ratio q => exact agrees_of_overflow rfl
  | decimal d => exact agrees_of_missing rfl
  | quantity shown magnitude => exact agrees_of_missing handled
  | _ => rfl

/-- **Reading a value as a number does not fail** when all that its own conversion may end in is
handled. -/
theorem coerceNumber_eq (handled : own.kind.isConversion = true) (v : Value) :
    v.coerceNumber own = .ok v.number? := by
  have agrees := agrees_asFloat? handled v
  cases textual : v.textual? with
  | some s =>
    rw [coerceNumber, textual]
    cases v <;> cases textual <;> rfl
  | none =>
    have number : v.number? = v.toFloat?.filter Float.isFinite := by
      cases v <;> first | rfl | cases textual
    rw [coerceNumber, textual, number]
    cases converted : v.asFloat? own with
    | none =>
      rw [converted] at agrees
      rw [show v.toFloat? = none from agrees]
      rfl
    | some result =>
      rw [converted] at agrees
      cases result with
      | ok x =>
        rw [show v.toFloat? = some x from agrees]
        rfl
      | error fault =>
        rw [agrees.2]
        exact if_pos agrees.1

/-- **Reading a value as a text does not fail**, whatever goes wrong with the text. -/
theorem coerceText_eq (v : Value) : v.coerceText = .ok v.text? := by
  have shown : (v.display.map some).tryCatch (fun _ => .ok none) =
      (.ok v.display.toOption : Except Fault (Option String)) := by
    cases v.display <;> rfl
  cases v with
  | null => rfl
  | _ => exact shown

end Conversions

end Value

namespace Condition

/-! ### Evaluation -/

section Evaluation

variable (own : Fault) (v : Value)

/-- A numeric test: what is no number fails it. -/
def evaluateNumber (accepts : Float → Bool) : Except Fault Bool := do
  match ← v.coerceNumber own with
  | some x => return accepts x
  | none => return false

/-- Whether a value shows nothing. -/
def evaluateEmpty : Except Fault Bool := do
  if v.isNull then return true
  match ← v.coerceText with
  | some shown => return Text.isAllBlank shown.toList
  | none => return true

/-- A property of a value. -/
def Property.evaluate (property : Property) : Except Fault Bool :=
  match property with
  | isNegative => evaluateNumber own v (· < 0)
  | isPositive => evaluateNumber own v (· > 0)
  | isZero => evaluateNumber own v (fun x => x.abs < tolerance)
  | isNull => return v.isNull
  | isNotNull => return !v.isNull
  | isEmpty => evaluateEmpty v
  | isNotEmpty => return !(← evaluateEmpty v)

/-- A test of a value. -/
def Test.evaluate (t : Test) : Except Fault Bool :=
  match t with
  | compare .ne operand =>
    return !(← evaluateNumber own v (Comparator.eq.holds · (operand.getD 0.0)))
  | compare comparator operand => evaluateNumber own v (comparator.holds · (operand.getD 0.0))
  | between lower upper =>
    evaluateNumber own v fun x => lower.getD 0.0 <= x && x <= upper.getD 0.0
  | matchText how operand => do
    match ← v.coerceText, operand with
    | some shown, some expected => return how.holds shown.toList expected.toList
    | _, _ => return false
  | has property => property.evaluate own v

/-- A condition on a value, its operands from the left to the right. -/
def Tree.evaluate (tree : Tree) : Except Fault Bool :=
  match tree with
  | test t => t.evaluate own v
  | join .and left right => do
    if ← left.evaluate then right.evaluate else return false
  | join .or left right => do
    if ← left.evaluate then return true else right.evaluate
  | join .xor left right => return (← left.evaluate) != (← right.evaluate)
  | join .not _ _ => return false
  | negate operand => return !(← operand.evaluate)

end Evaluation

section Answers

variable {own : Fault} {v : Value}

theorem evaluateNumber_eq (handled : own.kind.isConversion = true) (accepts : Float → Bool) :
    evaluateNumber own v accepts = .ok (holdsOfNumber v accepts) := by
  rw [evaluateNumber, Value.coerceNumber_eq handled, holdsOfNumber]
  cases v.number? <;> rfl

theorem evaluateEmpty_eq (v : Value) : evaluateEmpty v = .ok v.isEmpty := by
  by_cases null : v = .null
  · rw [null]
    rfl
  · have present : v.isNull = false := by
      cases v with
      | null => exact absurd rfl null
      | _ => rfl
    rw [evaluateEmpty, Value.coerceText_eq, Value.isEmpty, present]
    cases v.text? <;> rfl

theorem Property.evaluate_eq (handled : own.kind.isConversion = true) (property : Property) :
    property.evaluate own v = .ok (property.holds v) := by
  cases property with
  | isNegative | isPositive | isZero => exact evaluateNumber_eq handled _
  | isNull | isNotNull => rfl
  | isEmpty => exact evaluateEmpty_eq v
  | isNotEmpty =>
    rw [evaluate, evaluateEmpty_eq]
    rfl

theorem Test.evaluate_eq (handled : own.kind.isConversion = true) (t : Test) :
    t.evaluate own v = .ok (t.holds v) := by
  cases t with
  | compare comparator operand =>
    cases comparator with
    | ne =>
      rw [evaluate, evaluateNumber_eq handled]
      rfl
    | _ => exact evaluateNumber_eq handled _
  | between lower upper => exact evaluateNumber_eq handled _
  | matchText how operand =>
    simp only [evaluate, Value.coerceText_eq, holds]
    cases v.text? <;> cases operand <;> rfl
  | has property => exact property.evaluate_eq handled

/-- **Evaluating a condition does not fail**, and answers whether the condition holds. -/
theorem Tree.evaluate_eq (handled : own.kind.isConversion = true) (tree : Tree) :
    tree.evaluate own v = .ok (tree.holds v) := by
  induction tree with
  | test t => exact t.evaluate_eq handled
  | join connective left right onLeft onRight =>
    cases connective with
    | and | or =>
      rw [evaluate, onLeft, onRight, holds]
      cases left.holds v <;> rfl
    | xor =>
      rw [evaluate, onLeft, onRight]
      rfl
    | not => rfl
  | negate operand ih =>
    rw [evaluate, ih]
    rfl

end Answers

/-- An error that is no error of a conversion is not handled. -/
example : (Tree.test (.has .isZero)).evaluate (.noProduct "Meters") (.quantity "Meters(?)" none) =
    .error (.noProduct "Meters") := rfl

/-! ### Truth of readings -/

/-- What a condition sees of a value. -/
structure Reading where
  /-- The value is the absent one. -/
  absent : Bool
  number : Option Float
  shown : Option String

/-- The reading of a value. -/
def Reading.of (v : Value) : Reading := ⟨v.isNull, v.number?, v.text?⟩

/-- The relation between two numbers that a comparator stands for. -/
def Comparator.Relates : Comparator → Float → Float → Prop
  | lt, x, operand => x < operand
  | le, x, operand => x ≤ operand
  | gt, x, operand => operand < x
  | ge, x, operand => operand ≤ x
  | eq, x, operand => (x - operand).abs < tolerance
  | ne, x, operand => ¬ (x - operand).abs < tolerance

/-- The relation between a text and the text it is matched with. -/
def TextMatch.Relates : TextMatch → List Char → List Char → Prop
  | equals, shown, operand => shown = operand
  | equalsIgnoreCase, shown, operand => Text.foldCase shown = Text.foldCase operand
  | contains, shown, operand => operand <:+: shown
  | startsWith, shown, operand => operand <+: shown
  | endsWith, shown, operand => operand <:+ shown

/-- **The truth of conditions on readings.** -/
structure LawfulTruth (truth : Reading → Tree → Bool) : Prop where
  /-- A missing number fails every comparison but that for difference. -/
  compare (r : Reading) {comparator : Comparator} (operand : Float) (notNe : comparator ≠ .ne) :
    truth r (.test (.compare comparator (some operand))) = true ↔
      ∃ x, r.number = some x ∧ comparator.Relates x operand
  differs (r : Reading) (operand : Float) :
    truth r (.test (.compare .ne (some operand))) =
      !truth r (.test (.compare .eq (some operand)))
  between (r : Reading) (lower upper : Float) :
    truth r (.test (.between (some lower) (some upper))) =
      (truth r (.test (.compare .ge (some lower))) && truth r (.test (.compare .le (some upper))))
  isNegative (r : Reading) :
    truth r (.test (.has .isNegative)) = truth r (.test (.compare .lt (some 0)))
  isPositive (r : Reading) :
    truth r (.test (.has .isPositive)) = truth r (.test (.compare .gt (some 0)))
  isZero (r : Reading) :
    truth r (.test (.has .isZero)) = truth r (.test (.compare .eq (some 0)))
  isNull (r : Reading) : truth r (.test (.has .isNull)) = r.absent
  isNotNull (r : Reading) :
    truth r (.test (.has .isNotNull)) = !truth r (.test (.has .isNull))
  /-- A missing text fails every match. -/
  matchText (r : Reading) (how : TextMatch) (operand : String) :
    truth r (.test (.matchText how (some operand))) = true ↔
      ∃ shown, r.shown = some shown ∧ how.Relates shown.toList operand.toList
  /-- A missing text is empty. -/
  isEmpty (r : Reading) :
    truth r (.test (.has .isEmpty)) = true ↔
      ∀ shown, r.shown = some shown → ∀ c ∈ shown.toList, Text.isBlank c = true
  isNotEmpty (r : Reading) :
    truth r (.test (.has .isNotEmpty)) = !truth r (.test (.has .isEmpty))
  and (r : Reading) (left right : Tree) :
    truth r (.join .and left right) = (truth r left && truth r right)
  or (r : Reading) (left right : Tree) :
    truth r (.join .or left right) = (truth r left || truth r right)
  xor (r : Reading) (left right : Tree) :
    truth r (.join .xor left right) = (truth r left ^^ truth r right)
  not (r : Reading) (operand : Tree) : truth r (.negate operand) = !truth r operand

namespace Reading

variable (r : Reading)

/-- The number of a reading compared with an operand. -/
def compares (comparator : Comparator) (operand : Option Float) : Bool :=
  r.number.any (comparator.holds · (operand.getD 0.0))

/-- No text, or a blank one. -/
def isBlank : Bool := r.shown.all fun shown => Text.isAllBlank shown.toList

end Reading

/-- The truth of a test. -/
def Test.truth (r : Reading) : Test → Bool
  | compare .ne operand => !r.compares .eq operand
  | compare comparator operand => r.compares comparator operand
  | between lower upper => r.compares .ge lower && r.compares .le upper
  | matchText how operand =>
    r.shown.any fun shown => operand.any fun expected => how.holds shown.toList expected.toList
  | has .isNegative => r.compares .lt (some 0)
  | has .isPositive => r.compares .gt (some 0)
  | has .isZero => r.compares .eq (some 0)
  | has .isNull => r.absent
  | has .isNotNull => !r.absent
  | has .isEmpty => r.isBlank
  | has .isNotEmpty => !r.isBlank

/-- The truth of a condition. -/
def Tree.truth (r : Reading) : Tree → Bool
  | test t => t.truth r
  | join .and left right => left.truth r && right.truth r
  | join .or left right => left.truth r || right.truth r
  | join .xor left right => left.truth r ^^ right.truth r
  | join .not _ _ => false
  | negate operand => !operand.truth r

theorem Comparator.holds_iff (comparator : Comparator) (x operand : Float) :
    comparator.holds x operand = true ↔ comparator.Relates x operand := by
  cases comparator with
  | ne => simp [holds, isClose, Relates]
  | _ => exact decide_eq_true_iff

theorem occursIn_iff (part cs : List Char) : occursIn part cs = true ↔ part <:+: cs := by
  induction cs with
  | nil => simp [occursIn]
  | cons c cs ih =>
    rw [occursIn, Bool.or_eq_true, ih, List.isPrefixOf_iff_prefix, List.infix_cons_iff]

theorem TextMatch.holds_iff (how : TextMatch) (shown operand : List Char) :
    how.holds shown operand = true ↔ how.Relates shown operand := by
  cases how with
  | equals | equalsIgnoreCase => exact decide_eq_true_iff
  | contains => exact occursIn_iff operand shown
  | startsWith => exact List.isPrefixOf_iff_prefix
  | endsWith => exact List.isSuffixOf_iff_suffix

theorem compares_iff (r : Reading) (comparator : Comparator) (operand : Float) :
    r.compares comparator (some operand) = true ↔
      ∃ x, r.number = some x ∧ comparator.Relates x operand := by
  simp only [Reading.compares, Option.any_eq_true, Option.getD_some, Comparator.holds_iff]

theorem lawfulTruth_truth : LawfulTruth Tree.truth where
  compare r comparator operand notNe := by
    rw [← compares_iff]
    cases comparator with
    | ne => exact absurd rfl notNe
    | _ => rfl
  matchText r how operand := by
    show (r.shown.any fun shown => how.holds shown.toList operand.toList) = true ↔ _
    simp only [Option.any_eq_true, TextMatch.holds_iff]
  isEmpty r := by
    show (r.shown.all fun shown => Text.isAllBlank shown.toList) = true ↔ _
    simp only [Option.all_eq_true, Text.isAllBlank, List.all_eq_true]
  differs _ _ := rfl
  between _ _ _ := rfl
  isNegative _ := rfl
  isPositive _ := rfl
  isZero _ := rfl
  isNull _ := rfl
  isNotNull _ := rfl
  isNotEmpty _ := rfl
  and _ _ _ := rfl
  or _ _ _ := rfl
  xor _ _ _ := rfl
  not _ _ := rfl

/-! ### The truth of what was parsed -/

section Unique

variable {truth : Reading → Tree → Bool}

theorem LawfulTruth.test_eq_truth (lawful : LawfulTruth truth) {t : Test} (complete : t.Complete)
    (r : Reading) : truth r (.test t) = t.truth r := by
  have compares {comparator : Comparator} (operand : Float) (notNe : comparator ≠ .ne) :
      truth r (.test (.compare comparator (some operand))) = r.compares comparator (some operand) :=
    Bool.eq_iff_iff.mpr ((lawful.compare r operand notNe).trans
      (compares_iff r comparator operand).symm)
  have blank : truth r (.test (.has .isEmpty)) = r.isBlank :=
    Bool.eq_iff_iff.mpr ((lawful.isEmpty r).trans (lawfulTruth_truth.isEmpty r).symm)
  cases t with
  | compare comparator operand =>
    obtain ⟨x, rfl⟩ := Option.isSome_iff_exists.mp complete
    by_cases isNe : comparator = .ne
    · rw [isNe, lawful.differs, compares x (by decide)]
      rfl
    · rw [compares x isNe]
      cases comparator with
      | ne => exact absurd rfl isNe
      | _ => rfl
  | between lower upper =>
    obtain ⟨x, rfl⟩ := Option.isSome_iff_exists.mp complete.1
    obtain ⟨y, rfl⟩ := Option.isSome_iff_exists.mp complete.2
    rw [lawful.between, compares x (by decide), compares y (by decide)]
    rfl
  | matchText how operand =>
    obtain ⟨expected, rfl, -⟩ := complete
    exact Bool.eq_iff_iff.mpr ((lawful.matchText r how expected).trans
      (lawfulTruth_truth.matchText r how expected).symm)
  | has property =>
    cases property with
    | isNegative => rw [lawful.isNegative, compares 0 (by decide)]; rfl
    | isPositive => rw [lawful.isPositive, compares 0 (by decide)]; rfl
    | isZero => rw [lawful.isZero, compares 0 (by decide)]; rfl
    | isNull => exact lawful.isNull r
    | isNotNull => rw [lawful.isNotNull, lawful.isNull]; rfl
    | isEmpty => exact blank
    | isNotEmpty => rw [lawful.isNotEmpty, blank]; rfl

/-- There is only one lawful truth of complete conditions. -/
theorem LawfulTruth.eq_truth (lawful : LawfulTruth truth) {tree : Tree} (complete : tree.Complete)
    (r : Reading) : truth r tree = tree.truth r := by
  induction tree with
  | test t => exact lawful.test_eq_truth complete r
  | join connective left right onLeft onRight =>
    obtain ⟨notNot, leftComplete, rightComplete⟩ := complete
    cases connective with
    | and => rw [lawful.and, onLeft leftComplete, onRight rightComplete]; rfl
    | or => rw [lawful.or, onLeft leftComplete, onRight rightComplete]; rfl
    | xor => rw [lawful.xor, onLeft leftComplete, onRight rightComplete]; rfl
    | not => exact absurd rfl notNot
  | negate operand ih => rw [lawful.not, ih complete]; rfl

end Unique

section Parsed

variable (v : Value)

theorem holdsOfNumber_eq (accepts : Float → Bool) :
    holdsOfNumber v accepts = (Reading.of v).number.any accepts := by
  show holdsOfNumber v accepts = v.number?.any accepts
  rw [holdsOfNumber]
  cases v.number? <;> rfl

theorem Test.holds_eq_truth (t : Test) : t.holds v = t.truth (.of v) := by
  cases t with
  | compare comparator operand =>
    cases comparator with
    | ne => exact congrArg (!·) (holdsOfNumber_eq v _)
    | _ => exact holdsOfNumber_eq v _
  | between lower upper =>
    rw [holds, holdsOfNumber_eq, truth, Reading.compares, Reading.compares]
    cases (Reading.of v).number <;> rfl
  | matchText how operand =>
    show _ = v.text?.any fun shown => operand.any fun expected =>
      how.holds shown.toList expected.toList
    simp only [holds]
    cases v.text? <;> cases operand <;> rfl
  | has property =>
    have blank : v.isEmpty = (Reading.of v).isBlank := by
      show v.isEmpty = v.text?.all fun shown => Text.isAllBlank shown.toList
      rw [Value.isEmpty]
      cases v.text? <;> rfl
    cases property with
    | isNegative | isPositive => exact holdsOfNumber_eq v _
    | isZero =>
      refine (holdsOfNumber_eq v _).trans (congrArg (Option.any · _) (funext fun x => ?_))
      show decide (x.abs < tolerance) = decide ((x - 0).abs < tolerance)
      rw [Binary64.abs_sub_zero]
    | isNull | isNotNull => rfl
    | isEmpty => exact blank
    | isNotEmpty => exact congrArg (!·) blank

/-- A condition holds of a value just when it is true of the value's reading. -/
theorem Tree.holds_eq_truth (tree : Tree) : tree.holds v = tree.truth (.of v) := by
  induction tree with
  | test t => exact t.holds_eq_truth v
  | join connective left right onLeft onRight =>
    cases connective with
    | and | or => rw [holds, truth, onLeft, onRight]
    | xor => rw [holds, truth, onLeft, onRight]
    | not => rfl
  | negate operand ih => rw [holds, truth, ih]

/-- **A parsed condition evaluates to the lawful truth of what it sees of a value.** No conversion
of the value makes the evaluation fail. -/
theorem evaluate_of_parse {expression : String} {condition : Condition}
    (parsed : Condition.parse expression = .ok condition) {own : Fault}
    (handled : own.kind.isConversion = true) :
    (∃ truth, LawfulTruth truth) ∧
      ∃ number shown, v.coerceNumber own = .ok number ∧ v.coerceText = .ok shown ∧
        ∀ truth, LawfulTruth truth →
          condition.root.evaluate own v = .ok (truth ⟨v.isNull, number, shown⟩ condition.root) ∧
            condition.holds v = truth ⟨v.isNull, number, shown⟩ condition.root := by
  refine ⟨⟨_, lawfulTruth_truth⟩, v.number?, v.text?, Value.coerceNumber_eq handled v,
    Value.coerceText_eq v, fun truth lawful => ?_⟩
  have holds : condition.holds v = truth (.of v) condition.root := by
    rw [lawful.eq_truth (complete_of_parse parsed)]
    exact condition.root.holds_eq_truth v
  refine ⟨?_, holds⟩
  rw [Tree.evaluate_eq handled]
  exact congrArg Except.ok holds

end Parsed

/-- `(value is_zero || !value starts_with 'Met')` -/
def guardedTree : Tree :=
  .join .or (.test (.has .isZero)) (.negate (.test (.matchText .startsWith (some "Met"))))

/-- A quantity that no float can hold is asked. -/
theorem evaluate_of_parse_sample :
    Condition.parse guardedTree.text = .ok ⟨guardedTree.text, guardedTree⟩ ∧
      Fault.beyondFloats.kind.isConversion = true ∧
      guardedTree.evaluate .beyondFloats (.quantity "Meters(?)" none) = .ok false := by
  have complete : guardedTree.Complete := ⟨by decide, trivial, "Met", rfl, by decide⟩
  have parsed := parse_text_of_noNumbers complete rfl
  have handled : Fault.beyondFloats.kind.isConversion = true := rfl
  refine ⟨parsed, handled, ?_⟩
  obtain ⟨-, number, shown, asNumber, asText, answers⟩ :=
    evaluate_of_parse (.quantity "Meters(?)" none) parsed handled
  cases asNumber
  cases asText
  exact (answers _ lawfulTruth_truth).1

end Condition

end SheetExport
