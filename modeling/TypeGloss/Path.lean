/-
# TypeGloss.Path — slash-separated paths

Paths are compared and joined by their text alone; nothing is looked up on a disk.

A path is a root, which is nothing, one slash or exactly two slashes, and the
stack of components that is left after walking it: an empty component and `.`
stay where they are, `..` leaves the directory on top of the stack. Above an
absolute root there is nothing to leave; in front of a relative path a `..` is
kept. `normalize` writes that pair again, with a dot for the empty path, and
treats a backslash as a slash.
-/
import TypeGloss.Text.Blank

namespace TypeGloss.Path

set_option autoImplicit false

/-- What a path starts from. -/
inductive Root where
  | relative
  | slash
  | doubleSlash
  deriving Repr, DecidableEq

/-- The root of a path: three slashes and more count as one. -/
def rootOf : List Char → Root
  | '/' :: '/' :: '/' :: _ => .slash
  | '/' :: '/' :: _ => .doubleSlash
  | '/' :: _ => .slash
  | _ => .relative

def Root.text : Root → List Char
  | .relative => []
  | .slash => ['/']
  | .doubleSlash => ['/', '/']

/-- The component that names the directory above. -/
def up : List Char := ['.', '.']

/-- One step of a walk; the stack has the innermost component first. -/
def walkStep (root : Root) (stack : List (List Char)) (component : List Char) :
    List (List Char) :=
  if component = [] || component = ['.'] then stack
  else if component = up then
    match stack with
    | [] => if root = .relative then [up] else []
    | top :: rest => if top = up then up :: stack else rest
  else component :: stack

/-- The components left after a walk, the outermost first. -/
def walk (root : Root) (components : List (List Char)) : List (List Char) :=
  (components.foldl (walkStep root) []).reverse

def joinComponents : List (List Char) → List Char
  | [] => []
  | [component] => component
  | component :: rest => component ++ '/' :: joinComponents rest

/-- Backslashes count as slashes. -/
def forward (cs : List Char) : List Char :=
  cs.map fun c => if c = '\\' then '/' else c

/-- The canonical form of a path without backslashes. -/
def normalizeChars (cs : List Char) : List Char :=
  let root := rootOf cs
  match root.text ++ joinComponents (walk root (Text.splitAt '/' cs)) with
  | [] => ['.']
  | text => text

/-- The canonical form of a path. -/
def normalize (path : String) : String :=
  Text.onChars (fun cs => normalizeChars (forward cs)) path

/-! ## Joining and taking apart -/

/-- A path below a directory; an absolute path replaces it. -/
def joinChars (directory path : List Char) : List Char :=
  if path.head? = some '/' then path
  else if directory.isEmpty || directory.getLast? = some '/' then directory ++ path
  else directory ++ '/' :: path

/-- A path below a directory; an absolute path replaces it. -/
def join (directory path : String) : String :=
  String.ofList (joinChars directory.toList path.toList)

/-- The directory part of a path: what stands before the last slash, without the
slashes at its end unless it consists of slashes. -/
def dirnameChars (cs : List Char) : List Char :=
  let head := (cs.reverse.dropWhile (· != '/')).reverse
  if head.all (· == '/') then head else Text.dropTail (· == '/') head

def dirname (path : String) : String :=
  Text.onChars dirnameChars path

/-- The file name of a path: what stands after the last slash. -/
def basenameChars (cs : List Char) : List Char :=
  (cs.reverse.takeWhile (· != '/')).reverse

/-- A path without its extension, and the extension with its dot. Dots at the
start of a file name begin no extension. -/
def splitExtension (cs : List Char) : List Char × List Char :=
  let name := basenameChars cs
  let leading := name.takeWhile (· == '.')
  let rest := name.dropWhile (· == '.')
  let extension := (rest.reverse.takeWhile (· != '.')).reverse
  if extension.length = rest.length then (cs, [])
  else
    let kept := (cs.length - name.length) + leading.length + (rest.length - extension.length - 1)
    (cs.take kept, '.' :: extension)

def isInNodeModules (path : String) : Bool :=
  (Text.splitAt '/' (forward path.toList)).contains "node_modules".toList

/-! ## Common directories -/

def components (path : String) : List String :=
  (Text.pieces '/' path).filter (· != "")

def commonStart : List String → List String → List String
  | a :: rest, b :: more => if a = b then a :: commonStart rest more else []
  | _, _ => []

/-- The deepest directory above all the given absolute directories, as components. -/
def commonDirectory : List (List String) → List String
  | [] => []
  | directory :: rest => rest.foldl commonStart directory

/-- A path as seen from a directory, both as components of absolute paths. -/
def relativeTo (directory path : List String) : String :=
  let shared := (commonStart directory path).length
  let steps := List.replicate (directory.length - shared) ".." ++ path.drop shared
  if steps.isEmpty then "." else Text.joinWith "/" steps

end TypeGloss.Path
