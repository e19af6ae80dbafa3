/-
**Hints on installing optional dependencies.**

A feature may need modules that come with an extra of the distribution. When importing one of them
fails, the failure becomes a hint that names the extra; other failed imports stay as they are.
-/

import SheetExport.Grouping

namespace SheetExport

/-- The name of the distribution. -/
def distribution : String := "recordsheet"

/-- A module counts as a required one if its path begins or ends with it. -/
def isPartOf (required missing : String) : Bool :=
  missing = required || (required ++ ".").toList.isPrefixOf missing.toList ||
    ("." ++ required).toList.isSuffixOf missing.toList

/-- The missing module is what the feature needs; a feature that lists no modules needs any. -/
def isRequired (required : List String) (missing : Option String) : Bool :=
  required.isEmpty || required.any (isPartOf · (missing.getD ""))

/-- The hint that names the extras to install. -/
def installHint (feature : String) (extras : List String) (missing : Option String) : String :=
  let module := match missing with
    | some name => if name = "" then "" else " Missing optional dependency \x60" ++ name ++ "\x60."
    | none => ""
  feature ++ " is unavailable." ++ module ++ " Install it with \x60pip install \"" ++
    distribution ++ "[" ++ ",".intercalate (distinct extras) ++ "]\"\x60."

/-- The message of an import that failed with the given text. -/
def importMessage (feature : String) (extras required : List String) (missing : Option String)
    (text : String) : String :=
  if isRequired required missing then installHint feature extras missing else text

end SheetExport
