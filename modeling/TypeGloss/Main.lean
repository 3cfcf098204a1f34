/-
# TypeGloss.Main — the program

Reads the files that the command line names and prints the outcome. Beside every source
file stands the tree that a parser stored for it, under the same name with
`.tree.json` behind it. A misused command line ends with code 2, everything else that
does not succeed with code 1.
-/
import TypeGloss.CommandLine
import TypeGloss.Tree.Stored

namespace TypeGloss.Program

set_option autoImplicit false

/-- What is shown when help is asked for or the command line is misused. -/
def usage : String :=
  "Usage: resolve [--extra FILE]... [--expand-node-modules] [--debug] SOURCE NAME"

/-- The file that a path leads to on this machine, with its stored tree. -/
def readSource (path : String) : IO (Option SourceText) := do
  try
    let text ← IO.FS.readFile path
    let stored ← IO.FS.readFile (path ++ ".tree.json")
    let place ← IO.FS.realPath path
    return (Outline.ofText? stored).map fun outline =>
      ⟨Path.components place.toString, text, outline⟩
  catch _ => return none

def namedPaths (args : List String) : List String :=
  match CommandLine.parse false args with
  | .request request => request.source :: request.extras
  | _ => []

def readSources (paths : List String) : IO (Entries SourceText) := do
  let found ← paths.mapM fun path => do
    return (← readSource path).map fun file => (path, file)
  return found.filterMap id

end TypeGloss.Program

open TypeGloss in
/-- Run the program. -/
def main (args : List String) : IO UInt32 := do
  let files ← Program.readSources (Program.namedPaths args)
  match CommandLine.run (fun path => Entries.find? path files) args with
  | .printed text =>
      IO.print text
      return 0
  | .help =>
      IO.println Program.usage
      return 0
  | .misused =>
      IO.eprintln Program.usage
      return 2
  | .failed message =>
      IO.eprintln ("Error: " ++ message)
      return 1
  | .broken fault =>
      IO.eprintln ("Error: " ++ fault.message)
      return 1
