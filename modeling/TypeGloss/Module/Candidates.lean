/-
# TypeGloss.Module.Candidates — the files an import may mean

An import names a module by a specifier. `candidates` lists, in the order in which
they are tried, the paths at which the module may be:

* a specifier that starts with a dot is looked for below the importing file's
  directory;
* any other is a package, looked for in every package directory of the importing
  file's directory and of all directories above it up to the project root, the
  plain package before its `@types` companion.

At each place come the path itself, then the spellings of the language for a
compiled extension, then the suffixes appended, then the index files of a
directory of that name.
-/
import TypeGloss.Path

namespace TypeGloss.Module

set_option autoImplicit false

/-- Extensions of compiled files, whose sources have another extension. -/
def compiledExtensions : List String := [".js", ".jsx", ".mjs", ".cjs"]

/-- The paths at which a module of a given base path may be. -/
def filesAt (suffixes : List String) (base : String) : List String :=
  let (stem, extension) := Path.splitExtension base.toList
  let sources :=
    if compiledExtensions.contains (String.ofList extension) then
      suffixes.map (String.ofList stem ++ ·)
    else []
  base :: sources ++ suffixes.map (base ++ ·) ++
    suffixes.map fun suffix => Path.join base ("index" ++ suffix)

/-- A directory and all directories above it, ending with the project root. A
directory that is its own parent is followed by the project root. -/
def directoriesFrom (directory : List Char) : List (List Char) :=
  if directory = [] then [[]]
  else if _shorter : (Path.dirnameChars directory).length < directory.length then
    directory :: directoriesFrom (Path.dirnameChars directory)
  else [directory, []]
termination_by directory.length

def packageFiles (suffixes packageDirs : List String) (specifier directory : String) :
    List String :=
  packageDirs.flatMap fun name =>
    let root := if directory = "" then name else Path.join directory name
    filesAt suffixes (Path.normalize (Path.join root specifier)) ++
      filesAt suffixes (Path.normalize (Path.join (Path.join root "@types") specifier))

/-- The paths at which the module of a specifier may be, in the order they are
tried. -/
def candidates (importer specifier : String) (suffixes packageDirs : List String) :
    List String :=
  let directory := Path.dirname importer
  if Text.startsWith "." specifier then
    filesAt suffixes (Path.normalize (Path.join directory specifier))
  else
    (directoriesFrom directory.toList).flatMap fun above =>
      packageFiles suffixes packageDirs specifier (String.ofList above)

end TypeGloss.Module
