/-
**The command line's arguments.**

The first argument that is no option names the command and takes all that follow as its own. A
command takes one text; `expr` also takes any number of values, by `-v`, by `--value` or by an
unambiguous beginning of it, with the value as the next argument, after an equals sign, or right
after the letter. Negative numbers and texts with a space are no options. Help ends the reading at
once; anything else that does not fit is a misuse.
-/

import SheetExport.Text.Ranges

namespace SheetExport.Cli

/-- How the reading of arguments ends without a command. -/
inductive Exit
  | help | misuse
deriving Repr, DecidableEq

/-- The options. -/
inductive OptionName
  | help | value
deriving Repr, DecidableEq

/-- An option as it was given. -/
structure GivenOption where
  /-- None if there is no such option. -/
  name : Option OptionName
  /-- Was given by its letter, so that further letters may follow. -/
  short : Bool
  /-- What was given with the option in one argument. -/
  attached : Option (List Char)
deriving Repr, DecidableEq

/-- What an argument is. -/
inductive Argument
  | operand (s : String)
  /-- Two dashes: everything after them is an operand. -/
  | separator
  | given (o : GivenOption)
deriving Repr, DecidableEq

/-- The letters and words of the options that are allowed. -/
def optionWords (allowed : List OptionName) : List (OptionName × Char × List Char) :=
  [(.help, 'h', "help".toList), (.value, 'v', "value".toList)].filter (allowed.contains ·.1)

/-- A dash, then digits with at most one point before the last ones, and perhaps a line feed. -/
def isNegativeNumber : List Char → Bool
  | '-' :: cs =>
    let body := if cs.getLast? = some '\n' then cs.dropLast else cs
    let whole := body.takeWhile Text.isDecimalDigit
    match body.dropWhile Text.isDecimalDigit with
    | [] => !whole.isEmpty
    | '.' :: places => !places.isEmpty && places.all Text.isDecimalDigit
    | _ => false
  | _ => false

/-- A text before its first equals sign, and what is after it if there is one. -/
def splitEquals (cs : List Char) : List Char × Option (List Char) :=
  match cs.dropWhile (· ≠ '=') with
  | [] => (cs, none)
  | _ :: rest => (cs.takeWhile (· ≠ '='), some rest)

/-- An argument that begins with a dash, if it does not name an option exactly. -/
def abbreviation (allowed : List OptionName) (s : String) (cs : List Char) :
    Except Exit Argument :=
  let candidates : List GivenOption := match cs with
    | '-' :: '-' :: rest =>
      let (beginning, attached) := splitEquals rest
      ((optionWords allowed).filter fun w => beginning.isPrefixOf w.2.2).map
        fun w => ⟨some w.1, false, attached⟩
    | _ :: letter :: rest =>
      ((optionWords allowed).filter fun w => w.2.1 = letter).map
        fun w => ⟨some w.1, true, some rest⟩
    | _ => []
  match candidates with
  | [only] => .ok (.given only)
  | _ :: _ :: _ => .error .misuse
  | [] =>
    if isNegativeNumber cs || cs.contains ' ' then .ok (.operand s)
    else .ok (.given ⟨none, false, none⟩)

/-- What one argument is. -/
def classify (allowed : List OptionName) (s : String) : Except Exit Argument :=
  let exact := fun (cs : List Char) => (optionWords allowed).findSome? fun (name, letter, word) =>
    if cs = ['-', letter] then some (name, true)
    else if cs = '-' :: '-' :: word then some (name, false)
    else none
  match s.toList with
  | '-' :: '-' :: [] => .ok .separator
  | '-' :: c :: cs =>
    let whole := '-' :: c :: cs
    match exact whole, splitEquals whole with
    | some (name, short), _ => .ok (.given ⟨some name, short, none⟩)
    | none, (beginning, some attached) =>
      match exact beginning with
      | some (name, short) => .ok (.given ⟨some name, short, some attached⟩)
      | none => abbreviation allowed s whole
    | none, (_, none) => abbreviation allowed s whole
  | _ => .ok (.operand s)

/-- What the arguments are; after a separator all are operands. -/
def classifyAll (allowed : List OptionName) : List String → Except Exit (List Argument)
  | [] => .ok []
  | s :: rest =>
    match classify allowed s with
    | .error exit => .error exit
    | .ok .separator => .ok (.separator :: rest.map .operand)
    | .ok argument => (classifyAll allowed rest).map (argument :: ·)

/-! ### Commands -/

/-- The next argument is an operand. -/
def startsOperand : List Argument → Bool
  | .operand _ :: _ => true
  | _ => false

/-- How the letters after that of help end, when `rest` are the further arguments. Each letter has
to be an option, up to one that takes a text. -/
def afterHelp (allowed : List OptionName) (rest : List Argument) : List Char → Exit
  | [] => .help
  | letter :: more =>
    match (optionWords allowed).find? (·.2.1 = letter) with
    | none => .misuse
    | some (.value, _) => if more.isEmpty && !startsOperand rest then .misuse else .help
    | some (.help, _) => afterHelp allowed rest more

/-- How the option of help ends the reading. -/
def helpExit (allowed : List OptionName) (rest : List Argument) (o : GivenOption) : Exit :=
  match o.attached with
  | none => .help
  | some letters =>
    if o.short && !letters.isEmpty then afterHelp allowed rest letters else .misuse

/-- A value that is attached to its option. Two dashes are left out, so that there is no text. -/
def attachedValue (cs : List Char) : Option String :=
  if cs = ['-', '-'] then none else some (String.ofList cs)

/-- What a command was given. -/
structure Given where
  operand : Option String
  /-- The values; one may have been given without a text. -/
  values : List (Option String)
  /-- Something was given that the command does not take. -/
  surplus : Bool

/-- Takes an operand; a command has one. -/
def Given.take (g : Given) (s : String) : Given :=
  match g.operand with
  | none => { g with operand := some s }
  | some _ => { g with surplus := true }

/-- Reads the arguments of a command after those read so far. A separator next to the operand that
is taken belongs to it. -/
def readGiven (allowed : List OptionName) (g : Given) : List Argument → Except Exit Given
  | [] => .ok g
  | .separator :: .operand s :: rest => readGiven allowed (g.take s) rest
  | .separator :: rest => readGiven allowed { g with surplus := true } rest
  | .operand s :: .separator :: rest => readGiven allowed (g.take s) rest
  | .operand s :: rest => readGiven allowed (g.take s) rest
  | .given ⟨none, _, _⟩ :: rest => readGiven allowed { g with surplus := true } rest
  | .given ⟨some .help, short, attached⟩ :: rest =>
    .error (helpExit allowed rest ⟨some .help, short, attached⟩)
  | .given ⟨some .value, _, some cs⟩ :: rest =>
    readGiven allowed { g with values := g.values ++ [attachedValue cs] } rest
  | .given ⟨some .value, _, none⟩ :: .operand s :: rest =>
    readGiven allowed { g with values := g.values ++ [some s] } rest
  | .given ⟨some .value, _, none⟩ :: _ => .error .misuse

/-- A command with what it was given. -/
inductive Command
  | expr (expression : String) (values : List (Option String))
  | describe (reference : String)
deriving Repr, DecidableEq

/-- Reads the arguments of a command with the given options. -/
def readOperand (allowed : List OptionName) (arguments : List String) :
    Except Exit (String × List (Option String)) :=
  match classifyAll allowed arguments with
  | .error exit => .error exit
  | .ok classified =>
    match readGiven allowed ⟨none, [], false⟩ classified with
    | .error exit => .error exit
    | .ok ⟨some operand, values, false⟩ => .ok (operand, values)
    | .ok _ => .error .misuse

/-- Reads a command by its name. -/
def readNamed (name : String) (arguments : List String) : Except Exit Command :=
  if name = "expr" then
    (readOperand [.help, .value] arguments).map fun (expression, values) =>
      .expr expression values
  else if name = "describe" then
    (readOperand [.help] arguments).map fun (reference, _) => .describe reference
  else .error .misuse

/-- Reads the command line; options before the command that are not known make it a misuse. -/
def readFrom (surplus : Bool) : List String → Except Exit Command
  | [] => .error .misuse
  | s :: rest =>
    match classify [.help] s with
    | .error exit => .error exit
    | .ok .separator => .error .misuse
    | .ok (.operand name) =>
      match readNamed name rest with
      | .error exit => .error exit
      | .ok command => if surplus then .error .misuse else .ok command
    | .ok (.given o) =>
      match o.name with
      | some _ => .error (helpExit [.help] [] o)
      | none => readFrom true rest

/-- The command of a command line. -/
def read (arguments : List String) : Except Exit Command := readFrom false arguments

end SheetExport.Cli
