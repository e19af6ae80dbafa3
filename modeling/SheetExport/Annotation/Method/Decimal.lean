/-
**Functions of decimals.**

A decimal is asked for its digits and its class, compared with others, rounded in one of several
ways, and calculated with. `callDecimal?` has the functions of decimals, applied to the arguments at
the places of their parameters; an operand that is an integer is taken as a decimal.
-/

import SheetExport.Annotation.Making
import SheetExport.Number.Decimal.Arithmetic
import SheetExport.Number.Decimal.Power

namespace SheetExport.Annotation

/-! ### Arguments -/

/-- A decimal, or what a signal says that there is none. -/
def ofSignal {α : Type} (x : Except Decimal.Signal α) : Result α :=
  ofValues (x.mapError Fault.signalled)

/-- The decimal as a meaning. -/
def decimalMeaning (d : Decimal) : Meaning := .value (.decimal d)

/-- A decimal that is worked out, as a meaning. -/
def worked (x : Except Decimal.Signal Decimal) : Result Meaning := (ofSignal x).map decimalMeaning

/-- The decimal that an operand is. -/
def operandOf (m : Meaning) : Result Decimal :=
  match m.number? with
  | some (.decimal d) => .ok d
  | some (.whole n) => .ok (.ofInt n)
  | _ => refuse ("conversion from " ++ m.typeName ++ " to Decimal is not supported")

/-- No context can be given but the usual one. -/
def checkContext (m : Option Meaning) : Result Unit :=
  match m with
  | none | some .absent => .ok ()
  | some _ => refuse "optional argument must be a context"

/-- Ways to round by their names. -/
def roundings : List (String × Decimal.Rounding) := [
  ("ROUND_CEILING", .ceiling), ("ROUND_FLOOR", .floor), ("ROUND_UP", .up), ("ROUND_DOWN", .down),
  ("ROUND_HALF_UP", .halfUp), ("ROUND_HALF_DOWN", .halfDown), ("ROUND_HALF_EVEN", .halfEven),
  ("ROUND_05UP", .upFromZeroOrFive)]

/-- The way to round that an argument names. -/
def roundingOf (m : Option Meaning) : Result Decimal.Rounding :=
  match m with
  | none | some .absent => .ok .halfEven
  | some m =>
    match m.text?.bind fun s => roundings.lookup s with
    | some r => .ok r
    | none =>
      refuse ("valid values for rounding are:\n  [ROUND_CEILING, ROUND_FLOOR, ROUND_UP, " ++
        "ROUND_DOWN,\n   ROUND_HALF_UP, ROUND_HALF_DOWN, ROUND_HALF_EVEN,\n   ROUND_05UP]")

/-! ### Functions -/

/-- What a decimal says of itself. -/
def decimalTests : List (String × (Decimal → Bool)) :=
  let isFinite := fun d : Decimal => match d with
    | .finite .. => true
    | _ => false
  let isInfinite := fun d : Decimal => match d with
    | .infinite _ => true
    | _ => false
  let signals := fun (wanted : Bool) (d : Decimal) => match d with
    | .undefined _ signalling _ => signalling = wanted
    | _ => false
  [("is_canonical", fun _ => true), ("is_finite", isFinite), ("is_infinite", isInfinite),
    ("is_nan", Decimal.isUndefined),
    ("is_normal", fun d => isFinite d && !d.isZero && !d.isSubnormal),
    ("is_qnan", signals false), ("is_signed", Decimal.isNegative), ("is_snan", signals true),
    ("is_subnormal", Decimal.isSubnormal), ("is_zero", Decimal.isZero)]

/-- What is worked out from a decimal. -/
def decimalForms : List (String × (Decimal → Except Decimal.Signal Decimal)) := [
  ("exp", Decimal.exp), ("ln", Decimal.ln), ("log10", Decimal.log10), ("logb", Decimal.logb),
  ("logical_invert", Decimal.inverted), ("next_minus", Decimal.next false),
  ("next_plus", Decimal.next true), ("normalize", Decimal.normalize), ("sqrt", Decimal.sqrt)]

/-- A decimal with its sign changed, which is not rounded. -/
def resigned : List (String × (Decimal → Decimal)) := [
  ("canonical", id), ("conjugate", id), ("copy_abs", fun d => d.withSign false),
  ("copy_negate", fun d => d.withSign !d.isNegative)]

/-- The neighbour of a decimal on the way to another one. -/
def nextToward (a b : Decimal) : Except Decimal.Signal Decimal :=
  match Decimal.undefinedOf? a b, Decimal.compare? a b with
  | some result, _ => result
  | none, some .lt => a.next true
  | none, some .gt => a.next false
  | none, _ => .ok (a.withSign b.isNegative)

/-- What is worked out from two decimals. -/
def decimalPairs : List (String × (Decimal → Decimal → Except Decimal.Signal Decimal)) := [
  ("compare", Decimal.compared), ("compare_signal", Decimal.comparedStrictly),
  ("compare_total", fun a b => .ok (.ofOrdering (a.compareTotal b))),
  ("compare_total_mag", fun a b => .ok (.ofOrdering (a.unsigned.compareTotal b.unsigned))),
  ("copy_sign", fun a b => .ok (a.withSign b.isNegative)),
  ("logical_and", Decimal.combined and), ("logical_or", Decimal.combined or),
  ("logical_xor", Decimal.combined xor), ("max", Decimal.greater), ("min", Decimal.less),
  ("max_mag", Decimal.chosen true true), ("min_mag", Decimal.chosen true false),
  ("next_toward", nextToward), ("remainder_near", Decimal.nearRem), ("rotate", Decimal.rotated),
  ("scaleb", Decimal.timesPowerOfTen), ("shift", Decimal.shifted)]

/-- The ratio that a decimal is. -/
def decimalRatio (d : Decimal) : Result Meaning :=
  match d.value? with
  | some q => .ok (.tuple [.integer q.num, .natural q.den])
  | none =>
    if d.isUndefined then .error (.invalid "cannot convert NaN to integer ratio")
    else .error (.issue .overflow "cannot convert Infinity to integer ratio")

/-- A decimal as a tuple of its parts. -/
def decimalParts (d : Decimal) : Meaning :=
  let (negative, digits, power) := d.digitsOf
  let exponent := match power with
    | .inl n => Meaning.integer n
    | .inr letter => .text letter
  .labelled "DecimalTuple" ["sign", "digits", "exponent"]
    [.natural negative.toNat, .tuple (digits.map .natural), exponent]

/-- The result of a function of a decimal. -/
def callDecimal? (d : Decimal) (name : String) (found : List (Option Meaning)) :
    Option (Result Meaning) :=
  let contextAfter := fun (place : Nat) => checkContext (found.getD place none)
  let alone := fun result : Result Meaning =>
    some ((contextAfter 0).bind fun _ => result)
  match decimalTests.lookup name, decimalForms.lookup name, resigned.lookup name,
      decimalPairs.lookup name with
  | some holds, _, _, _ => alone (.ok (.truth (holds d)))
  | _, some form, _, _ => alone (worked (form d))
  | _, _, some change, _ => some (.ok (decimalMeaning (change d)))
  | _, _, _, some combine =>
    some ((contextAfter 1).bind fun _ =>
      (operandOf ((found.head?.join).getD .absent)).bind fun b => worked (combine d b))
  | none, none, none, none =>
    match name, found with
    | "adjusted", _ => some (.ok (.integer d.adjusted))
    | "as_integer_ratio", _ => some (decimalRatio d)
    | "as_tuple", _ => some (.ok (decimalParts d))
    | "number_class", _ => alone (.ok (.text d.className))
    | "radix", _ => some (.ok (decimalMeaning (.ofInt 10)))
    | "to_eng_string", _ => alone (.ok (.text d.engineeringText))
    | "same_quantum", [some m, context] =>
      some ((checkContext context).bind fun _ =>
        (operandOf m).map fun b => .truth (d.hasSameExponent b))
    | "fma", [some m, some n, context] =>
      some ((checkContext context).bind fun _ =>
        (operandOf m).bind fun b => (operandOf n).bind fun c => worked (d.mulAdd b c))
    | "quantize", [some m, rounding, context] =>
      some ((checkContext context).bind fun _ => (roundingOf rounding).bind fun r =>
        (operandOf m).bind fun b => worked (Decimal.quantize r d b))
    | _, [rounding, context] =>
      if isOneOf "to_integral to_integral_exact to_integral_value" name then
        some ((checkContext context).bind fun _ =>
          (roundingOf rounding).bind fun r => worked (Decimal.integral r d))
      else none
    | _, _ => none

/-- A decimal, made of a float or of an integer. -/
def decimalFrom (m : Meaning) : Result Meaning :=
  match m.number? with
  | some (.whole n) => .ok (decimalMeaning (.ofInt n))
  | some (.float x) => .ok (decimalMeaning (decimalOfFloat x))
  | _ => refuse "argument must be int or float"

end SheetExport.Annotation
