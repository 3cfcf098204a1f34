/-
# TypeGloss.Directory — files below a working directory

A directory is the list of the files below it. A path leads to a file when every
component but the last leads to a directory that is there, where a dot stays and two
dots go up; a path that goes above the working directory leads nowhere, and so does an
absolute one.
-/
import TypeGloss.Path
import TypeGloss.Tree.Basic

namespace TypeGloss

set_option autoImplicit false

/-- A file: its path from some root, its text as it is stored, and what a parser says
about its lines. -/
structure SourceText where
  path : List String
  text : String
  outline : Outline

namespace SourceText

/-- The tree of a file, whose lines all end with a line feed. -/
def tree (file : SourceText) : Tree :=
  Tree.ofOutline (Text.onChars Text.unifyLineEnds file.text) file.outline

def parent (file : SourceText) : List String := file.path.dropLast

end SourceText

namespace Directory

/-- Is there a directory of that path? The working directory itself always is. -/
def isDirectory (files : List SourceText) (path : List String) : Bool :=
  path.isEmpty || files.any fun file => path.isPrefixOf file.parent

/-- The directory that a component leads to. -/
def enter? (files : List SourceText) (path : List String) (component : String) :
    Option (List String) :=
  if component = "" || component = "." then some path
  else if component = ".." then
    match path with
    | [] => none
    | _ => some path.dropLast
  else
    let inner := path ++ [component]
    if isDirectory files inner then some inner else none

/-- The file that the components of a path lead to, from a directory. -/
def walk? (files : List SourceText) : List String → List String → Option SourceText
  | _, [] => none
  | path, [name] => files.find? (·.path == path ++ [name])
  | path, component :: rest => (enter? files path component).bind fun inner => walk? files inner rest

def file? (files : List SourceText) (path : String) : Option SourceText :=
  if Text.startsWith "/" path then none else walk? files [] (Text.pieces '/' path)

end Directory

end TypeGloss
