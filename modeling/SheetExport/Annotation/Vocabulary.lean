/-
**What values of a class can be asked for.**

Every class has names that its values can be asked for: plain ones (`plainNames`) and special ones
between low lines (`specialNames`), besides those that everything has (`objectNames`). Some of them
are functions of the class itself (`classFunctions`).
-/

import SheetExport.Annotation.Classes

namespace SheetExport.Annotation

/-! ### Plain names -/

/-- Plain names of texts and of bytes alike. -/
def textNames : List String :=
  words ("capitalize center count endswith expandtabs find index isalnum isalpha isascii isdigit " ++
    "islower isspace istitle isupper join ljust lower lstrip maketrans partition removeprefix " ++
    "removesuffix replace rfind rindex rjust rpartition rsplit rstrip split splitlines " ++
    "startswith strip swapcase title translate upper zfill")

/-- Plain names of sets that do not change. -/
def frozenNames : List String :=
  words "copy difference intersection isdisjoint issubset issuperset symmetric_difference union"

/-- Plain names of dates. -/
def dateNames : List String :=
  words ("ctime day fromisocalendar fromisoformat fromordinal fromtimestamp isocalendar " ++
    "isoformat isoweekday max min month replace resolution strftime timetuple today toordinal " ++
    "weekday year")

/-- Plain names of times of day. -/
def timeNames : List String :=
  words ("dst fold fromisoformat hour isoformat max microsecond min minute replace resolution " ++
    "second strftime tzinfo tzname utcoffset")

/-- Plain names of decimals. -/
def decimalNames : List String :=
  words ("adjusted as_integer_ratio as_tuple canonical compare compare_signal compare_total " ++
    "compare_total_mag conjugate copy_abs copy_negate copy_sign exp fma from_float imag " ++
    "is_canonical is_finite is_infinite is_nan is_normal is_qnan is_signed is_snan " ++
    "is_subnormal is_zero ln log10 logb logical_and logical_invert logical_or logical_xor max " ++
    "max_mag min min_mag next_minus next_plus next_toward normalize number_class quantize radix " ++
    "real remainder_near rotate same_quantum scaleb shift sqrt to_eng_string to_integral " ++
    "to_integral_exact to_integral_value")

/-- What values of a class can be asked for by plain names. -/
def plainNames (type : String) : List String :=
  match type with
  | "int" | "bool" => words ("as_integer_ratio bit_count bit_length conjugate denominator " ++
      "from_bytes imag numerator real to_bytes")
  | "float" => words "as_integer_ratio conjugate fromhex hex imag is_integer real"
  | "complex" | "Real" => words "conjugate imag real"
  | "Integral" | "Rational" => words "conjugate denominator imag numerator real"
  | "Fraction" => words ("as_integer_ratio conjugate denominator from_decimal from_float imag " ++
      "limit_denominator numerator real")
  | "Decimal" => decimalNames
  | "str" => textNames ++
      words "casefold encode format format_map isdecimal isidentifier isnumeric isprintable"
  | "bytes" => textNames ++ words "decode fromhex hex"
  | "bytearray" => textNames ++
      words "decode fromhex hex append clear copy extend insert pop remove reverse"
  | "date" => dateNames
  | "time" => timeNames
  | "datetime" => dateNames ++ timeNames ++ words ("astimezone combine date now strptime time " ++
      "timestamp timetz utcfromtimestamp utcnow utctimetuple")
  | "timedelta" => words "days max microseconds min resolution seconds total_seconds"
  | "tuple" => words "count index"
  | "DecimalTuple" => words "count index sign digits exponent"
  | "list" => words "append clear copy count extend index insert pop remove reverse sort"
  | "dict" => words "clear copy fromkeys get items keys pop popitem setdefault update values"
  | "set" => frozenNames ++ words ("add clear difference_update discard intersection_update " ++
      "pop remove symmetric_difference_update update")
  | "frozenset" => frozenNames
  | "range" => words "count index start step stop"
  | "slice" => words "indices start step stop"
  | "dict_keys" | "dict_items" => words "isdisjoint mapping"
  | "dict_values" => ["mapping"]
  | "generator" => words "close send throw gi_code gi_frame gi_running gi_suspended gi_yieldfrom"
  | "type" => ["mro"]
  | _ => []

/-! ### Special names -/

/-- The special names that everything has. -/
def objectNames : List String :=
  words ("__class__ __delattr__ __dir__ __doc__ __eq__ __format__ __ge__ __getattribute__ " ++
    "__getstate__ __gt__ __hash__ __init__ __init_subclass__ __le__ __lt__ __ne__ __new__ " ++
    "__reduce__ __reduce_ex__ __repr__ __setattr__ __sizeof__ __str__ __subclasshook__")

/-- The special names that classes have besides. -/
def classSpecialNames : List String :=
  words ("__abstractmethods__ __base__ __bases__ __basicsize__ __call__ __dict__ " ++
    "__dictoffset__ __flags__ __instancecheck__ __itemsize__ __module__ __mro__ __name__ " ++
    "__or__ __prepare__ __qualname__ __ror__ __subclasscheck__ __subclasses__ " ++
    "__text_signature__ __weakrefoffset__")

/-- The special names of everything that is calculated with. -/
def numberNames : List String :=
  words ("__abs__ __add__ __bool__ __mul__ __neg__ __pos__ __pow__ __radd__ __rmul__ __rpow__ " ++
    "__rsub__ __rtruediv__ __sub__ __truediv__")

/-- The special names of numbers that have an order. -/
def realNames : List String :=
  numberNames ++ words ("__ceil__ __divmod__ __float__ __floor__ __floordiv__ __int__ __mod__ " ++
    "__rdivmod__ __rfloordiv__ __rmod__ __round__ __trunc__")

/-- The special names of integers. -/
def wholeNames : List String :=
  realNames ++ words ("__and__ __getnewargs__ __index__ __invert__ __lshift__ __or__ __rand__ " ++
    "__rlshift__ __ror__ __rrshift__ __rshift__ __rxor__ __xor__")

/-- The special names of sequences. -/
def sequenceNames : List String :=
  words "__add__ __contains__ __getitem__ __iter__ __len__ __mul__ __rmul__"

/-- The special names of sets. -/
def setNames : List String :=
  words ("__and__ __contains__ __iter__ __len__ __or__ __rand__ __ror__ __rsub__ __rxor__ " ++
    "__sub__ __xor__")

/-- Types of items that are taken one after the other. -/
def streamTypes : List String :=
  words ("generator zip map filter enumerate reversed list_iterator tuple_iterator " ++
    "str_ascii_iterator str_iterator bytes_iterator range_iterator set_iterator " ++
    "dict_keyiterator dict_valueiterator dict_itemiterator list_reverseiterator " ++
    "dict_reversekeyiterator callable_iterator")

/-- The special names that values of a class have besides those of everything. -/
def specialNames (type : String) : List String :=
  match type with
  | "int" | "bool" => wholeNames
  | "Integral" => wholeNames.filter (· ≠ "__getnewargs__") ++
      words "__complex__ __module__ __slots__ __abstractmethods__"
  | "float" => realNames ++ words "__getformat__ __getnewargs__"
  | "Real" => (realNames.filter fun n => n ≠ "__int__") ++
      words "__complex__ __module__ __slots__ __abstractmethods__"
  | "Number" => words "__abstractmethods__ __module__ __slots__"
  | "complex" => numberNames ++ words "__complex__ __getnewargs__"
  | "Decimal" => realNames ++ words "__complex__ __copy__ __deepcopy__ __module__"
  | "Fraction" =>
    realNames ++ words "__complex__ __copy__ __deepcopy__ __module__ __abstractmethods__ __slots__"
  | "str" => sequenceNames ++ words "__getnewargs__ __mod__ __rmod__"
  | "bytes" => sequenceNames ++ words "__bytes__ __getnewargs__ __mod__ __rmod__"
  | "bytearray" => sequenceNames ++ words ("__mod__ __rmod__ __alloc__ __delitem__ __iadd__ " ++
      "__imul__ __setitem__")
  | "tuple" | "DecimalTuple" => sequenceNames ++ words "__class_getitem__ __getnewargs__"
  | "list" => sequenceNames ++ words ("__class_getitem__ __delitem__ __iadd__ __imul__ " ++
      "__reversed__ __setitem__")
  | "dict" => words ("__class_getitem__ __contains__ __delitem__ __getitem__ __ior__ __iter__ " ++
      "__len__ __or__ __reversed__ __ror__ __setitem__")
  | "set" => setNames ++ words "__class_getitem__ __iand__ __ior__ __isub__ __ixor__"
  | "frozenset" => setNames ++ ["__class_getitem__"]
  | "range" => words "__bool__ __contains__ __getitem__ __iter__ __len__ __reversed__"
  | "dict_keys" | "dict_items" => setNames ++ ["__reversed__"]
  | "dict_values" => words "__iter__ __len__ __reversed__"
  | "date" | "datetime" => words "__add__ __radd__ __rsub__ __sub__"
  | "timedelta" => (numberNames.filter fun n => n ≠ "__pow__" && n ≠ "__rpow__") ++
      words "__divmod__ __floordiv__ __mod__ __rdivmod__ __rfloordiv__ __rmod__"
  | "NoneType" => ["__bool__"]
  | "function" => words ("__annotations__ __builtins__ __call__ __closure__ __code__ " ++
      "__defaults__ __dict__ __get__ __globals__ __kwdefaults__ __module__ __name__ __qualname__")
  | "builtin_function_or_method" =>
    words "__call__ __module__ __name__ __qualname__ __self__ __text_signature__"
  | "method-wrapper" => words "__call__ __name__ __objclass__ __qualname__ __self__ " ++
      ["__text_signature__"]
  | "method_descriptor" | "wrapper_descriptor" =>
    words "__call__ __get__ __name__ __objclass__ __qualname__ __text_signature__"
  | "types.UnionType" => words "__args__ __getitem__ __or__ __parameters__ __ror__"
  | "_SpecialForm" => words "__getitem__ __or__ __ror__ __call__ __mro_entries__ __name__ " ++
      words "__qualname__ __module__ __instancecheck__ __subclasscheck__ __getattr__ __slots__"
  | _ =>
    if type = "generator" then words "__del__ __iter__ __name__ __next__ __qualname__"
    else if streamTypes.contains type then words "__iter__ __next__"
    else []

/-- What values of a class can be asked for, apart from what everything can. -/
def namesOfType (type : String) : List String := plainNames type ++ specialNames type

/-! ### Functions of classes -/

/-- Functions that belong to a class and not to its values. -/
def classFunctions (type : String) : List String :=
  match type with
  | "int" | "bool" => ["from_bytes"]
  | "float" => words "fromhex __getformat__"
  | "str" => ["maketrans"]
  | "bytes" | "bytearray" => words "fromhex maketrans"
  | "Decimal" => ["from_float"]
  | "Fraction" => words "from_float from_decimal"
  | "date" => words "fromisocalendar fromisoformat fromordinal fromtimestamp today"
  | "time" => ["fromisoformat"]
  | "datetime" => words ("fromisocalendar fromisoformat fromordinal fromtimestamp today combine " ++
      "now strptime utcfromtimestamp utcnow")
  | "dict" => ["fromkeys"]
  | _ => []

/-- Special functions that belong to every class. -/
def specialClassFunctions : List String :=
  words "__new__ __init_subclass__ __subclasshook__ __class_getitem__"

/-- What values of a class have under a name and that is no function. -/
def dataNames (type : String) : List String :=
  match type with
  | "int" | "bool" | "Integral" | "Rational" => words "real imag numerator denominator"
  | "Fraction" => words "real imag numerator denominator"
  | "float" | "complex" | "Real" | "Decimal" => words "real imag"
  | "date" => words "year month day"
  | "time" => words "hour minute second microsecond tzinfo fold"
  | "datetime" => words "year month day hour minute second microsecond tzinfo fold"
  | "timedelta" => words "days seconds microseconds"
  | "range" | "slice" => words "start stop step"
  | "dict_keys" | "dict_values" | "dict_items" => ["mapping"]
  | _ => []

end SheetExport.Annotation
