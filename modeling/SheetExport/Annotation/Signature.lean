/-
**How functions of values take their arguments.**

A `Signature` says how many arguments a function takes, and whether it takes some of them by names.
`Signature.settle` puts the arguments of a call at the places of the parameters, or says in the words
of the function why they do not fit. `signatureOf` has the signatures of the functions of values.
-/

import SheetExport.Annotation.Typing
import SheetExport.Annotation.Vocabulary

namespace SheetExport.Annotation

/-- The arguments of a call: those without a name, and those with one. -/
structure Arguments where
  plain : List Meaning
  named : List (String × Meaning)

/-- Refuses arguments in the given words. -/
def refuse {α : Type} (text : String) : Result α := misused (.refused text)

/-- A count of things with the word for one or for several of them. -/
def counted (count : Nat) (one several : String) : String :=
  toString count ++ " " ++ (if count = 1 then one else several)

/-- A count of arguments. -/
def argumentCount (count : Nat) : String := counted count "argument" "arguments"

/-- Refuses a count of arguments that is not between two bounds. -/
def checkCount (name : String) (least most count : Nat) : Result Unit :=
  if least ≤ count && count ≤ most then .ok ()
  else
    let bound := if count < least then least else most
    let side := if least = most then "" else if count < least then "at least " else "at most "
    refuse (name ++ " expected " ++ side ++ argumentCount bound ++ ", got " ++ toString count)

/-- How a function takes its arguments. -/
inductive Signature
  | nothing
  | single
  /-- A count between two bounds. -/
  | between (least most : Nat)
  /-- A count between two bounds, in other words. -/
  | within (least most : Nat)
  /-- Parameters that have names, of which the first ones are required, and of which so many can be
  given without their names. -/
  | parameters (names : List String) (required plain : Nat)
  /-- The same of a function that does not tell its name. -/
  | unnamedParameters (names : List String) (required : Nat)
  /-- The count that an operator takes. -/
  | operator (least most : Nat)
  | anything

namespace Signature

/-- Arguments at the places of parameters, the first ones by their order. -/
def atPlaces (names : List String) (a : Arguments) : List (Option Meaning) :=
  names.zipIdx.map fun (name, place) => (a.plain[place]?).or (a.named.lookup name)

/-- Arguments for parameters that have names. The function is called by the first name where it says
what it takes, and by the second one where it says what it does not know. -/
def settleNamed (called known : String) (names : List String) (required plain : Nat)
    (a : Arguments) : Result (List (Option Meaning)) :=
  let count := a.plain.length
  let total := count + a.named.length
  let found := atPlaces names a
  let given := " (" ++ toString count ++ " given)"
  let missing := (names.zip found).zipIdx.find? fun ((_, m), place) =>
    m.isNone && place < required
  let twice := names.zipIdx.find? fun (name, place) =>
    place < count && (a.named.lookup name).isSome
  let unknown := a.named.find? fun (name, _) => !names.contains name
  if names.length < total then
    refuse (called ++ " takes at most " ++ toString names.length ++
      (if count = 0 then " keyword" else "") ++
      (if names.length = 1 then " argument (" else " arguments (") ++ toString total ++ " given)")
  else if plain < count then
    if plain = 0 then refuse (called ++ " takes no positional arguments")
    else
      refuse (called ++ " takes " ++ (if plain = required then "exactly " else "at most ") ++
        counted plain "positional argument" "positional arguments" ++ given)
  else
    match missing, twice, unknown with
    | some ((name, _), place), _, _ =>
      if name.isEmpty then
        refuse (called ++ " takes at least " ++
          counted required "positional argument" "positional arguments" ++ given)
      else
        refuse (called ++ " missing required argument '" ++ name ++ "' (pos " ++
          toString (place + 1) ++ ")")
    | none, some (name, place), _ =>
      refuse ("argument for " ++ called ++ " given by name ('" ++ name ++ "') and position (" ++
        toString (place + 1) ++ ")")
    | none, none, some (name, _) =>
      refuse ("'" ++ name ++ "' is an invalid keyword argument for " ++ known)
    | none, none, none => .ok found

/-- Arguments without names, up to the greatest count. -/
def padded (most : Nat) (plain : List Meaning) : List (Option Meaning) :=
  (List.range most).map fun place => plain[place]?

/-- The arguments of a call at the places of the parameters. The function has a name, and a title
that begins with its class. -/
def settle (s : Signature) (title name : String) (a : Arguments) :
    Result (List (Option Meaning)) :=
  let count := a.plain.length
  let called := name ++ "()"
  let unnamed := fun (checked : Result (List (Option Meaning))) =>
    if a.named.isEmpty then checked else refuse (title ++ "() takes no keyword arguments")
  match s with
  | nothing =>
    unnamed (if count = 0 then .ok []
      else refuse (title ++ "() takes no arguments (" ++ toString count ++ " given)"))
  | single =>
    unnamed (if count = 1 then .ok (padded 1 a.plain)
      else refuse (title ++ "() takes exactly one argument (" ++ toString count ++ " given)"))
  | between least most =>
    unnamed ((checkCount name least most count).map fun _ => padded most a.plain)
  | within least most =>
    let bound := if count < least then least else most
    let side := if least = most then "exactly " else if count < least then "at least "
      else "at most "
    unnamed (if least ≤ count && count ≤ most then .ok (padded most a.plain)
      else refuse (called ++ " takes " ++ side ++ argumentCount bound ++ " (" ++ toString count ++
        " given)"))
  | parameters names required plain => settleNamed called called names required plain a
  | unnamedParameters names required =>
    settleNamed "function" "this function" names required names.length a
  | operator least most =>
    if !a.named.isEmpty then refuse ("wrapper " ++ called ++ " takes no keyword arguments")
    else if least = most && least < 2 then
      if count = least then .ok (padded most a.plain)
      else refuse ("expected " ++ argumentCount least ++ ", got " ++ toString count)
    else (checkCount "" least most count).map fun _ => padded most a.plain
  | anything => .ok (a.plain.map some)

end Signature

/-! ### Signatures of the functions of values -/

/-- Looks a name up among names with blanks between. -/
def isOneOf (names name : String) : Bool := (words names).contains name

/-- Functions of texts and bytes. -/
def textSignature? (name : String) : Option Signature :=
  if isOneOf ("capitalize casefold isalnum isalpha isascii isdecimal isdigit isidentifier " ++
      "islower isnumeric isprintable isspace istitle isupper lower swapcase title upper") name then
    some .nothing
  else if isOneOf ("format_map join partition removeprefix removesuffix rpartition translate " ++
      "zfill fromhex") name then some .single
  else if isOneOf "center ljust rjust" name then some (.between 1 2)
  else if isOneOf "lstrip rstrip strip" name then some (.between 0 1)
  else if isOneOf "count endswith find index rfind rindex startswith" name then some (.within 1 3)
  else
    match name with
    | "replace" => some (.between 2 3)
    | "maketrans" => some (.between 1 3)
    | "encode" | "decode" => some (.parameters ["encoding", "errors"] 0 2)
    | "expandtabs" => some (.parameters ["tabsize"] 0 1)
    | "split" | "rsplit" => some (.parameters ["sep", "maxsplit"] 0 2)
    | "splitlines" => some (.parameters ["keepends"] 0 1)
    | "hex" => some (.parameters ["sep", "bytes_per_sep"] 0 2)
    | _ => none

/-- Functions of decimals. -/
def decimalSignature? (name : String) : Option Signature :=
  if isOneOf ("adjusted as_integer_ratio as_tuple canonical conjugate copy_abs copy_negate " ++
      "is_canonical is_finite is_infinite is_nan is_qnan is_signed is_snan is_zero radix") name then
    some .nothing
  else if isOneOf ("exp is_normal is_subnormal ln log10 logb logical_invert next_minus " ++
      "next_plus normalize number_class sqrt to_eng_string") name then
    some (.unnamedParameters ["context"] 0)
  else if isOneOf "to_integral to_integral_exact to_integral_value" name then
    some (.unnamedParameters ["rounding", "context"] 0)
  else
    match name with
    | "from_float" => some .single
    | "fma" => some (.unnamedParameters ["other", "third", "context"] 2)
    | "quantize" => some (.unnamedParameters ["exp", "rounding", "context"] 1)
    | _ => if decimalNames.contains name then some (.unnamedParameters ["other", "context"] 1)
      else none

/-- The names of the fields of a time of day, and of the rest that a time can have. -/
def clockFields : List String := words "hour minute second microsecond tzinfo fold"

/-- Functions of temporal values. -/
def temporalSignature? (type name : String) : Option Signature :=
  if isOneOf ("ctime isocalendar isoweekday timetuple today toordinal weekday dst tzname " ++
      "utcoffset date time timetz timestamp utcnow utctimetuple total_seconds") name then some .nothing
  else
    match name, type with
    | "fromisocalendar", _ => some (.parameters ["year", "week", "day"] 3 3)
    | "fromisoformat", _ => some .single
    | "fromordinal", _ | "utcfromtimestamp", _ => some (.within 1 1)
    | "fromtimestamp", "date" => some .single
    | "fromtimestamp", _ => some (.parameters ["timestamp", "tz"] 1 2)
    | "strftime", _ => some (.parameters ["format"] 1 1)
    | "strptime", _ => some (.within 2 2)
    | "combine", _ => some (.parameters ["date", "time", "tzinfo"] 2 3)
    | "astimezone", _ | "now", _ => some (.parameters ["tz"] 0 1)
    | "isoformat", "date" => some .nothing
    | "isoformat", "time" => some (.parameters ["timespec"] 0 1)
    | "isoformat", _ => some (.parameters ["sep", "timespec"] 0 2)
    | "replace", "date" => some (.parameters ["year", "month", "day"] 0 3)
    | "replace", "time" => some (.parameters clockFields 0 5)
    | "replace", _ => some (.parameters (words "year month day" ++ clockFields) 0 8)
    | _, _ => none

/-- Functions of collections. -/
def collectionSignature? (type name : String) : Option Signature :=
  match type, name with
  | "list", "sort" => some (.parameters ["key", "reverse"] 0 0)
  | "list", "insert" => some (.between 2 2)
  | "list", "pop" => some (.between 0 1)
  | "list", "index" | "tuple", "index" => some (.between 1 3)
  | "dict", "get" | "dict", "pop" | "dict", "setdefault" | "dict", "fromkeys" =>
    some (.between 1 2)
  | "dict", "popitem" | "dict", "keys" | "dict", "values" | "dict", "items" => some .nothing
  | "dict", "update" => some .anything
  | "set", "pop" => some .nothing
  | _, _ =>
    if isOneOf "append count extend remove isdisjoint issubset issuperset index add discard" name ||
        name = "symmetric_difference" || name = "symmetric_difference_update" ||
        (type = "slice" && name = "indices") then some .single
    else if isOneOf "clear copy reverse" name then some .nothing
    else if isOneOf ("union intersection difference update intersection_update " ++
      "difference_update") name then some .anything
    else none

/-- Functions of numbers other than decimals. -/
def numberSignature? (name : String) : Option Signature :=
  match name with
  | "as_integer_ratio" | "bit_count" | "bit_length" | "conjugate" | "is_integer" => some .nothing
  | "from_bytes" => some (.parameters ["bytes", "byteorder", "signed"] 1 2)
  | "to_bytes" => some (.parameters ["length", "byteorder", "signed"] 0 2)
  | "fromhex" => some .single
  | _ => none

/-- Functions between low lines. -/
def specialSignature? (type name : String) : Option Signature :=
  if isOneOf ("__neg__ __pos__ __abs__ __invert__ __bool__ __int__ __float__ __index__ __len__ " ++
      "__iter__ __repr__ __str__ __hash__ __next__") name then some (.operator 0 0)
  else if isOneOf "__pow__ __rpow__ __get__" name then some (.operator 1 2)
  else if isOneOf "__setattr__ __setitem__" name then some (.operator 2 2)
  else if isOneOf ("__reduce__ __sizeof__ __dir__ __getstate__ __getnewargs__ __reversed__ " ++
      "__trunc__ __floor__ __ceil__ __subclasses__ __length_hint__ __init_subclass__ " ++
      "__complex__ __bytes__ __copy__") name then some .nothing
  else if isOneOf ("__format__ __reduce_ex__ __class_getitem__ __instancecheck__ " ++
      "__subclasscheck__ __getformat__ __deepcopy__") name then some .single
  else if name = "__round__" then some (.between 0 1)
  else if isOneOf "__new__ __call__ __init__ __subclasshook__ __prepare__" name then some .anything
  else if name.startsWith "__" then
    some (if Meaning.isOperator type name then .operator 1 1 else .single)
  else none

/-- How a function of the values of a type takes its arguments. -/
def signatureOf (type name : String) : Signature :=
  let special := specialSignature? type name
  let plain := match type with
    | "str" | "bytes" | "bytearray" => if type = "bytes" && name = "maketrans" then
        some (.between 2 2) else if type = "bytes" && name = "translate" then
        some (.parameters ["", "delete"] 1 2) else textSignature? name
    | "Decimal" => decimalSignature? name
    | "date" | "time" | "datetime" | "timedelta" => temporalSignature? type name
    | "float" => if name = "hex" then some .nothing else numberSignature? name
    | "int" | "complex" => numberSignature? name
    | "type" => if name = "mro" then some .nothing else none
    | _ => collectionSignature? type name
  (special.or plain).getD .anything

end SheetExport.Annotation
