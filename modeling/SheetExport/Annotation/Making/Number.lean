/-
**Numbers made of other values.**

An integer is read off digits of a base, a float off a numeral, a decimal off a text or the parts of
one, and a ratio off a quotient or off two integers. `makeInteger`, `makeFloat`, `makeComplex`,
`makeDecimal` and `makeRatio` take the arguments of a call, and refuse what makes no number.
-/

import SheetExport.Annotation.Items
import SheetExport.Annotation.Parameters
import SheetExport.Number.Decimal.Form
import SheetExport.Number.Written
import SheetExport.Value.Encoding
import SheetExport.Value.Temporal

namespace SheetExport.Annotation

/-! ### Integers -/

/-- The integer that a meaning counts as. -/
def indexOf (m : Meaning) : Result Int :=
  match m.integer? with
  | some n => .ok n
  | none => refuse ("'" ++ m.typeName ++ "' object cannot be interpreted as an integer")

/-- A count that fits among the sizes of things. -/
def countFrom (m : Meaning) : Result Int :=
  (indexOf m).bind fun n =>
    if twoPow 63 ≤ n.natAbs then
      .error (.issue .overflow "Python int too large to convert to C ssize_t")
    else .ok n

/-- A count that may not be given. -/
def countOr (default : Int) (m : Option Meaning) : Result Int := m.elim (.ok default) countFrom

/-- The most characters of a text that a refusal shows. -/
def shownCharacters : Nat := 200

/-- The value of a digit, which may be a letter. -/
def digitOf? (c : Char) : Option Nat :=
  match Text.digitValue? c with
  | some n => some n
  | none => if c.isAlpha then some (c.toLower.toNat - 'a'.toNat + 10) else none

/-- The natural number that digits of a base write. -/
def readInBase? (base : Nat) (cs : List Char) : Option Nat :=
  if cs.isEmpty then none
  else cs.foldlM (fun n c => (digitOf? c).bind fun d =>
    if d < base then some (n * base + d) else none) 0

/-- The base that the letter in front of digits stands for. -/
def baseOf? (c : Char) : Option Nat :=
  match c.toLower with
  | 'x' => some 16
  | 'o' => some 8
  | 'b' => some 2
  | _ => none

/-- The base of digits, and the digits without what names their base; base zero is the one they name
themselves. -/
def splitBase (base : Nat) (cs : List Char) : Nat × Bool × List Char :=
  match cs with
  | '0' :: letter :: rest =>
    match baseOf? letter with
    | some named => if base = 0 ∨ base = named then (named, true, rest) else (base, false, cs)
    | none => (if base = 0 then 10 else base, false, cs)
  | _ => (if base = 0 then 10 else base, false, cs)

/-- Bases of which the digits are not counted. -/
def isBinaryBase (base : Nat) : Bool := [2, 4, 8, 16, 32].contains base

/-- Digits that are too many for an integer. -/
def tooManyDigits (count : Nat) : Defect :=
  .invalid ("Exceeds the limit (4300 digits) for integer string conversion: value has " ++
    toString count ++ " digits; use sys.set_int_max_str_digits() to increase the limit")

/-- The integer that a text writes in a base; the text is shown where it writes none. -/
def integerOfText (shown s : String) (base : Nat) : Result Meaning :=
  let refusal := Except.error (Defect.invalid ("invalid literal for int() with base " ++
    toString base ++ ": " ++ String.ofList (shown.toList.take shownCharacters)))
  let (negative, body) := Decimal.splitSign (Written.trim s.toList)
  let (actual, isNamed, digits) := splitBase base body
  let isDigit := fun c => (digitOf? c).any (· < actual)
  match withoutLowLines isDigit isNamed digits with
  | none => refusal
  | some digits =>
    let hasZero := base = 0 && !isNamed && digits.head? == some '0' && !digits.all (· = '0')
    if !isBinaryBase actual && Value.maxDigits < digits.length && digits.all isDigit then
      .error (tooManyDigits digits.length)
    else
      match if hasZero then none else readInBase? actual digits with
      | some n => .ok (.integer (if negative then -(n : Int) else n))
      | none => refusal

/-- The text that a meaning writes a number by, and how the meaning is shown. -/
def numeralOf? (m : Meaning) : Option (String × String) :=
  match m, m.text? with
  | _, some s => some (s, Text.quoted s)
  | .bytes content, _ =>
    some (String.ofList (content.map fun b => Char.ofNat b.toNat), Meaning.bytesText content)
  | _, none => none

/-- The integer that a value is made into. -/
def toInteger (m : Meaning) : Result Meaning :=
  let refusal := refuse ("int() argument must be a string, a bytes-like object or a real number, " ++
    "not '" ++ m.typeName ++ "'")
  match m, m.number?, numeralOf? m with
  | .value (.quantity _ (some x)), _, _ => (ofValues (Numeric.float x).truncated).map .integer
  | _, some (.complex _), _ => refusal
  | _, some n, _ => (ofValues n.truncated).map .integer
  | _, none, some (s, shown) => integerOfText shown s 10
  | _, none, none => refusal

/-- An integer, made of the arguments of a call. -/
def makeInteger (a : Arguments) : Result Meaning :=
  (Signature.settle (.parameters ["", "base"] 0 2) "int" "int" a).bind fun found =>
    match found with
    | [none, none] => .ok (.integer 0)
    | [some m, none] => toInteger m
    | [none, some _] => refuse "int() missing string argument"
    | [some m, some base] =>
      (indexOf base).bind fun n =>
        if n ≠ 0 && (n < 2 ∨ 36 < n) then
          .error (.invalid "int() base must be >= 2 and <= 36, or 0")
        else
          match numeralOf? m with
          | some (s, shown) => integerOfText shown s n.toNat
          | none => refuse "int() can't convert non-string with explicit base"
    | _ => .ok .absent

/-! ### Floats -/

/-- The float that a value is made into. -/
def toFloat (m : Meaning) : Result Meaning :=
  let refusal :=
    refuse ("float() argument must be a string or a real number, not '" ++ m.typeName ++ "'")
  match m, m.number?, numeralOf? m with
  | .value (.quantity _ (some x)), _, _ => .ok (.float x)
  | _, some n, _ => n.toFloat?.elim refusal fun x => (ofValues x).map .float
  | _, none, some (s, shown) =>
    match Written.float? s.toList with
    | some x => .ok (.float x)
    | none => .error (.invalid ("could not convert string to float: " ++ shown))
  | _, none, none => refusal

/-- A float, made of the arguments of a call. -/
def makeFloat (a : Arguments) : Result Meaning :=
  (Signature.settle (.between 0 1) "float" "float" a).bind fun found =>
    match found with
    | [some m] => toFloat m
    | _ => .ok (.float 0.0)

/-! ### Complex numbers -/

/-- The float at the front of a text, with its sign or with none, and the rest. -/
def takeFloat? (cs : List Char) : Option (Float × List Char) :=
  match scanNumber cs with
  | some (numeral, mark :: rest) =>
    let (signs, more) := (rest.takeWhile isSign, rest.dropWhile isSign)
    let digits := more.takeWhile Char.isDigit
    if (mark = 'e' ∨ mark = 'E') ∧ signs.length < 2 ∧ !digits.isEmpty then
      let power := (readExponent? (signs ++ digits)).getD 0
      some (numeralValue numeral power, more.dropWhile Char.isDigit)
    else some (numeralValue numeral 0, mark :: rest)
  | some (numeral, []) => some (numeralValue numeral 0, [])
  | none =>
    let (negative, body) := Decimal.splitSign cs
    let special := [("infinity", 1.0 / 0.0), ("inf", 1.0 / 0.0), ("nan", 0.0 / 0.0)].find?
      fun (name, _) => name.toList.isPrefixOf (body.map Char.toLower)
    special.map fun (name, x) => (signedFloat negative x, body.drop name.length)

/-- The complex number that a text writes. -/
def readComplex? (s : String) : Option Complex :=
  let trimmed := Text.strip s.toList
  let isUnit := fun c : Char => c = 'j' || c = 'J'
  let inner := match trimmed with
    | '(' :: rest =>
      if rest.getLast? == some ')' then some (Text.strip rest.dropLast) else none
    | cs => some cs
  inner.bind fun cs =>
    (withoutLowLines Char.isDigit false cs).bind fun cs =>
      let unitSign := fun cs : List Char => match cs with
        | [c] => if isUnit c then some 1.0 else none
        | ['+', c] => if isUnit c then some 1.0 else none
        | ['-', c] => if isUnit c then some (-1.0) else none
        | _ => none
      match unitSign cs, takeFloat? cs with
      | some y, _ => some ⟨0.0, y⟩
      | none, some (x, []) => some (.ofFloat x)
      | none, some (x, rest) =>
        match rest, unitSign rest, takeFloat? rest with
        | [_], some _, _ => some ⟨0.0, x⟩
        | c :: _, some y, _ => if isSign c then some ⟨x, y⟩ else none
        | c :: _, none, some (y, [unit]) =>
          if isSign c && isUnit unit then some ⟨x, y⟩ else none
        | _, _, _ => none
      | none, none => none

/-- The complex number that a number is. -/
def complexOf? (m : Meaning) : Option (Result Complex) :=
  match m, m.number? with
  | .value (.quantity _ (some x)), _ => some (.ok (.ofFloat x))
  | _, some (.complex z) => some (.ok z)
  | _, some n => n.toFloat?.map fun x => (ofValues x).map Complex.ofFloat
  | _, none => none

/-- A complex number, made of the arguments of a call. -/
def makeComplex (a : Arguments) : Result Meaning :=
  let part := fun (which asked : String) (m : Meaning) =>
    (complexOf? m).getD (refuse ("complex() " ++ which ++ " argument must be a " ++ asked ++
      ", not '" ++ m.typeName ++ "'"))
  (Signature.settle (.parameters ["real", "imag"] 0 2) "complex" "complex" a).bind fun found =>
    match found with
    | [some re, im] =>
      match re.text?, im, im.bind Meaning.text? with
      | some _, some _, _ => refuse "complex() can't take second arg if first is a string"
      | _, _, some _ => refuse "complex() second arg can't be a string"
      | some s, none, _ =>
        match readComplex? s with
        | some z => .ok (.value (.complex z))
        | none => .error (.invalid "complex() arg is a malformed string")
      | none, none, _ => (part "first" "string or a number" re).map fun z => .value (.complex z)
      | none, some im, none =>
        (part "first" "string or a number" re).bind fun z => (part "second" "number" im).map
          fun w => .value (.complex ⟨z.re - w.im, if (re.number? matches some (.complex _)) then
            z.im + w.re else w.re⟩)
    | [none, some im] =>
      if im.text?.isSome then refuse "complex() second arg can't be a string"
      else (part "second" "number" im).map fun w => .value (.complex ⟨-w.im, w.re⟩)
    | _ => .ok (.value (.complex ⟨0.0, 0.0⟩))

/-! ### Decimals -/

/-- A text that writes no decimal. -/
def noDecimal {α : Type} : Result α :=
  .error (.issue .decimalOperation "[<class 'decimal.ConversionSyntax'>]")

/-- The decimal that is equal to a float. -/
def decimalOfFloat (x : Float) : Decimal :=
  match exactValue? x with
  | some q =>
    let places := q.den.log2
    .finite (!Complex.isUnsigned x) (q.num.natAbs * Nat.pow 5 places) (-(places : Int))
  | none => if x.isNaN then .undefined false false 0 else .infinite (x < 0.0)

/-- The decimal of a sign, digits and an exponent. -/
def decimalOfParts (items : List Meaning) : Result Meaning :=
  match items with
  | [sign, digits, exponent] =>
    match sign.integer?, itemsOf? digits, exponent.integer?, exponent.text? with
    | some s, some digits, power, special =>
      let values := digits.mapM Meaning.integer?
      if s ≠ 0 ∧ s ≠ 1 then
        .error (.invalid "sign must be an integer with the value 0 or 1")
      else
        match values, power, special with
        | some values, some power, _ =>
          if values.any fun d => d < 0 ∨ 9 < d then
            .error (.invalid "coefficient must be a tuple of digits")
          else
            .ok (.value (.decimal (.finite (s = 1)
              (values.foldl (fun n d => n * 10 + d.toNat) 0) power)))
        | some _, none, some "F" => .ok (.value (.decimal (.infinite (s = 1))))
        | some values, none, some "n" | some values, none, some "N" =>
          .ok (.value (.decimal (.undefined (s = 1) (special == some "N")
            (values.foldl (fun n d => n * 10 + d.toNat) 0))))
        | none, _, _ => .error (.invalid "coefficient must be a tuple of digits")
        | _, none, _ =>
          .error (.invalid "string argument in the third position must be 'F', 'n' or 'N'")
    | some _, none, _, _ => .error (.invalid "coefficient must be a tuple of digits")
    | none, _, _, _ => .error (.invalid "sign must be an integer with the value 0 or 1")
  | _ => .error (.invalid "argument must be a sequence of length 3")

/-- The decimal that a value is made into. -/
def toDecimal (m : Meaning) : Result Meaning :=
  let refusal := refuse ("conversion from " ++ m.typeName ++ " to Decimal is not supported")
  match m, m.number?, m.text? with
  | _, some (.decimal d), _ => .ok (.value (.decimal d))
  | _, some (.whole n), _ => .ok (.value (.decimal (.ofInt n)))
  | _, some (.float x), _ => .ok (.value (.decimal (decimalOfFloat x)))
  | _, none, some s => (Decimal.ofText? s).elim noDecimal fun d => .ok (.value (.decimal d))
  | .tuple items, _, _ | .collection .list _ items, _, _ | .labelled _ _ items, _, _ =>
    decimalOfParts items
  | _, _, _ => refusal

/-- A decimal, made of the arguments of a call. -/
def makeDecimal (a : Arguments) : Result Meaning :=
  (Signature.settle (.unnamedParameters ["value", "context"] 0) "Decimal" "Decimal" a).bind
    fun found =>
      match found with
      | [_, some context] =>
        if context.value? matches some .null then toDecimal ((found.head?.join).getD (.text "0"))
        else refuse "optional argument must be a context"
      | [some m, none] => toDecimal m
      | _ => .ok (.value (.decimal (.ofInt 0)))

/-! ### Ratios -/

/-- The ratio that a text writes: a quotient of integers, or a decimal. -/
def readRatio? (s : String) : Option (Result Rat) :=
  let isSpaced := fun c => Text.isBlank c
  let trimmed := Text.trimBy isSpaced s.toList
  let (negative, body) := Decimal.splitSign trimmed
  let natural := fun cs : List Char =>
    (withoutLowLines Text.isDecimalDigit false cs).bind fun cs =>
      if !cs.isEmpty && cs.all Text.isDecimalDigit then some (Text.digitsValue cs) else none
  let signed := fun q : Rat => if negative then -q else q
  match body.takeWhile (· ≠ '/'), body.dropWhile (· ≠ '/') with
  | num, _ :: den =>
    match natural num, natural den with
    | some n, some 0 =>
      some (ofValues (Numeric.noDenominator (if negative then -(n : Int) else n)))
    | some n, some d => some (.ok (signed (n / d)))
    | _, _ => none
  | _, [] =>
    (withoutLowLines Text.isDecimalDigit false body).bind fun cs =>
      match scanMagnitude cs with
      | none => none
      | some (numeral, rest) =>
        let whole := numeral.takeWhile Text.isDecimalDigit
        let fraction := (numeral.dropWhile Text.isDecimalDigit).drop 1
        let power : Option Int := match rest with
          | [] => some 0
          | mark :: more => if mark = 'e' ∨ mark = 'E' then readExponent? more else none
        power.map fun (power : Int) =>
          let shift : Int := power - (fraction.length : Int)
          let n : Rat := Text.digitsValue (whole ++ fraction)
          .ok (signed (n * tenPow shift.toNat / tenPow (-shift).toNat))

/-- The ratio that a number is. -/
def toRatio (m : Meaning) : Result Rat :=
  match m.number?, m.text? with
  | some (.whole n), _ => .ok n
  | some (.ratio q), _ => .ok q
  | some (.float x), _ => ofValues (Value.factorOf x)
  | some (.decimal d), _ =>
    match d.value? with
    | some q => .ok q
    | none =>
      if d.isUndefined then .error (.invalid "cannot convert NaN to integer ratio")
      else .error (.issue .overflow "cannot convert Infinity to integer ratio")
  | _, some s =>
    (readRatio? s).getD
      (.error (.invalid ("Invalid literal for Fraction: " ++ Text.quoted s)))
  | _, _ => refuse "argument should be a string or a Rational instance"

/-- The integers of a number that is a quotient of them. -/
def rational? (m : Meaning) : Option Rat :=
  match m.number? with
  | some (.whole n) => some n
  | some (.ratio q) => some q
  | _ => none

/-- A ratio, made of the arguments of a call. -/
def makeRatio (a : Arguments) : Result Meaning :=
  let names := ["cls", "numerator", "denominator"]
  let whole := { a with plain := .named (classOfName "Fraction") :: a.plain }
  (bindNames "Fraction.__new__" names [.integer 0, .absent] whole).bind fun found =>
    match found with
    | [_, m, .absent] => (toRatio m).map fun q => .value (.ratio q)
    | [_, m, n] =>
      match rational? m, rational? n with
      | some q, some r =>
        if r.num = 0 then ofValues (Numeric.noDenominator (q.num * r.den))
        else .ok (.value (.ratio (q / r)))
      | _, _ => refuse "both arguments should be Rational instances"
    | _ => .ok .absent

end SheetExport.Annotation
