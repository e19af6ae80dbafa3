/-
**The command line program.**

Runs the command line without any modules to load record types from, and prints what it shows. The
exit code is zero for success and for help, one for a failure and two for a misuse.
-/

import SheetExport.Cli.Run

open SheetExport Cli

/-- Prints one call on the console. -/
def printCall : ConsoleCall → IO Unit
  | .rule text characters => IO.println (characters ++ " " ++ text ++ " " ++ characters)
  | .print text => IO.println text
  | .failure text => IO.eprintln text
  | .table titles rows => do
    IO.println (" | ".intercalate titles)
    rows.forM fun row => IO.println (" | ".intercalate row)

/-- Runs the program. -/
def main (arguments : List String) : IO UInt32 := do
  match (run [] arguments Catalog.empty).1 with
  | .exit .help => return 0
  | .exit .misuse => return 2
  | .broke interruption =>
    IO.eprintln interruption.message
    return 1
  | .ran failed calls =>
    calls.forM printCall
    return if failed then 1 else 0
