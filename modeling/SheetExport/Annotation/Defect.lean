/-
**What can be wrong with an annotation.**

The text of an annotation may be no expression; it may name or look up what there is not, or ask for
a value that there is not; or it may combine what does not combine, which is a `Misuse`. Names that
are not known and misuses are expected where annotations are resolved, since types may be declared
later than they are named.
-/

import SheetExport.Value.Basic

namespace SheetExport.Annotation

/-- What does not combine in an expression. -/
inductive Misuse
  | noOperation (operator left right : String)
  | noSign (sign type : String)
  /-- Only sequences of one type are joined. -/
  | noJoining (sequence type : String)
  | noComparison (operator left right : String)
  /-- Nothing is contained in values of the type. -/
  | noContainer (type : String)
  /-- Only texts are contained in texts. -/
  | noPart (type : String)
  /-- A sequence is repeated a count of times. -/
  | noRepetition (type : String)
  /-- A value without items is spread among others. -/
  | noItems (type : String)
  | notIterable (type : String)
  /-- A value without keys is spread among pairs. -/
  | noKeys (type : String)
  /-- A value without items has parts with names of their own. -/
  | noParts (type : String)
  /-- A class that is not applied to others. -/
  | notApplicable (type : String)
  | notIndexable (type : String)
  /-- A type that was applied already. -/
  | applied (shown : String)
  | textIndex (type : String)
  | sequenceIndex (sequence type : String)
  | noBound
  /-- A form that takes types stands where a type has to. -/
  | plainForm (shown : String)
  | emptyUnion
  | notAType (rule shown : String)
  | noNotes
  | unhashable (type : String)
  | notCallable (type : String)
  | notInstantiable (shown : String)
  /-- Something that is called refuses its arguments, in its own words. -/
  | refused (text : String)
deriving Repr, DecidableEq

/-- What is wrong with an annotation. -/
inductive Defect
  | malformed (text : String)
  | unknownName (name : String)
  | misuse (m : Misuse)
  /-- An index that a sequence does not have. -/
  | noIndex (sequence : String)
  /-- A key that an enumeration has no member for. -/
  | noKey (shown : String)
  | noAttribute (type name : String)
  | noClassAttribute (type name : String)
  /-- A name that something without attributes of its own is asked for. -/
  | noSuchName (name : String)
  /-- A value that does not fit, in the words of what refuses it. -/
  | invalid (text : String)
  /-- Nothing is left to take an item from, in the words of what has none. -/
  | emptied (text : String)
  /-- No item follows. -/
  | exhausted
  /-- Functions call each other without end. -/
  | endless
  /-- Another error, in the words of what raises it. -/
  | issue (kind : ErrorKind) (text : String)
deriving Repr, DecidableEq

/-- The wording of a misuse. -/
def Misuse.message : Misuse → String
  | noOperation operator left right =>
    "unsupported operand type(s) for " ++ operator ++ ": " ++ pair left right
  | noSign sign type => "bad operand type for unary " ++ sign ++ ": '" ++ type ++ "'"
  | noJoining sequence type =>
    "can only concatenate " ++ sequence ++ " (not \"" ++ type ++ "\") to " ++ sequence
  | noComparison operator left right =>
    "'" ++ operator ++ "' not supported between instances of " ++ pair left right
  | noContainer type => "argument of type '" ++ type ++ "' is not iterable"
  | noPart type => "'in <string>' requires string as left operand, not " ++ type
  | noRepetition type => "can't multiply sequence by non-int of type '" ++ type ++ "'"
  | noItems type => "Value after * must be an iterable, not " ++ type
  | notIterable type => "'" ++ type ++ "' object is not iterable"
  | noKeys type => "'" ++ type ++ "' object is not a mapping"
  | noParts type => "cannot unpack non-iterable " ++ type ++ " object"
  | notApplicable type => "type '" ++ type ++ "' is not subscriptable"
  | notIndexable type => "'" ++ type ++ "' object is not subscriptable"
  | applied shown => shown ++ " is not a generic class"
  | textIndex type => "string indices must be integers, not '" ++ type ++ "'"
  | sequenceIndex sequence type =>
    sequence ++ " indices must be integers or slices, not " ++ type
  | noBound => "slice indices must be integers or None or have an __index__ method"
  | plainForm shown => "Plain " ++ shown ++ " is not valid as type argument"
  | emptyUnion => "Cannot take a Union of no types."
  | notAType rule shown => rule ++ " Got " ++ String.ofList (shown.toList.take 100) ++ "."
  | noNotes =>
    "Annotated[...] should be used with at least two arguments (a type and an annotation)."
  | unhashable type => "unhashable type: '" ++ type ++ "'"
  | notCallable type => "'" ++ type ++ "' object is not callable"
  | notInstantiable shown => "Cannot instantiate " ++ shown
  | refused text => text
where
  pair (left right : String) : String := "'" ++ left ++ "' and '" ++ right ++ "'"

/-- The wording of a defect. -/
def Defect.message : Defect → String
  | malformed text => "Forward reference must be an expression -- got " ++ Text.quoted text
  | unknownName name => "name '" ++ name ++ "' is not defined"
  | misuse m => m.message
  | noIndex sequence =>
    if sequence = "bytes" then "index out of range" else sequence ++ " index out of range"
  | noKey shown => shown
  | noAttribute type name =>
    "'" ++ Text.cut 50 type ++ "' object has no attribute '" ++ name ++ "'"
  | noClassAttribute type name =>
    "type object '" ++ Text.cut 50 type ++ "' has no attribute '" ++ name ++ "'"
  | noSuchName name => name
  | invalid text => text
  | emptied text => text
  | exhausted => ""
  | endless => "maximum recursion depth exceeded"
  | issue _ text => text

/-- The class of errors that a defect belongs to. -/
def Defect.kind : Defect → ErrorKind
  | malformed _ => .malformed
  | unknownName _ => .unknownName
  | misuse _ => .type
  | noKey _ => .key
  | noIndex _ | emptied _ => .index
  | invalid _ => .value
  | exhausted => .stopped
  | endless => .recursion
  | noAttribute .. | noClassAttribute .. | noSuchName _ => .member
  | issue kind _ => kind

/-- A fault of a value as what is wrong with an annotation. -/
def Defect.ofFault (f : Fault) : Defect := .issue f.kind f.message

end SheetExport.Annotation
