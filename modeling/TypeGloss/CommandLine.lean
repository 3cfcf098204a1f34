/-
# TypeGloss.CommandLine — the command line

There is one command, `resolve SOURCE NAME`, which prints the documentation tree of the
declaration of that name in a source file. `--extra FILE` adds a file that the
declaration depends on and may be repeated; `--expand-node-modules` expands the types of
packages, and its opposite does not; `--debug` and its opposite are accepted. Options
may stand anywhere up to two dashes, behind which everything is an argument.

Files are known by their paths from the deepest directory that all of them are below.
-/
import TypeGloss.Directory
import TypeGloss.Documentation.Document
import TypeGloss.Resolution

namespace TypeGloss.CommandLine

set_option autoImplicit false

/-! ## Arguments -/

/-- What was given so far. -/
structure Arguments where
  positional : List String := []
  extras : List String := []
  expandNodeModules : Bool := false
  wantsHelp : Bool := false
  deriving Repr, DecidableEq

/-- What is asked for. -/
structure Request where
  source : String
  name : String
  extras : List String
  expandNodeModules : Bool
  deriving Repr, DecidableEq

/-- What the arguments come to. -/
inductive Parsed where
  | request (request : Request)
  | help
  | refused
  deriving Repr, DecidableEq

/-- Is an argument an option rather than a value? A single dash is a value. -/
def isOption (arg : String) : Bool :=
  Text.startsWith "-" arg && arg != "-"

/-- Is an option one or more of the letters that ask for help, behind one dash? -/
def isShortHelp (arg : String) : Bool :=
  let letters := arg.toList.drop 1
  !letters.isEmpty && letters.all (· = 'h')

/-- What an option without a value gives, if there is such an option. -/
def plainOption? (given : Arguments) (arg : String) : Option Arguments :=
  match arg with
  | "--expand-node-modules" => some { given with expandNodeModules := true }
  | "--no-expand-node-modules" => some { given with expandNodeModules := false }
  | "--debug" => some given
  | "--no-debug" => some given
  | "--help" => some { given with wantsHelp := true }
  | _ => if isShortHelp arg then some { given with wantsHelp := true } else none

/-- The value that is written with the option for extra files. -/
def attachedExtra? (arg : String) : Option String :=
  let lead := "--extra="
  if Text.startsWith lead arg then some (String.ofList (arg.toList.drop lead.length)) else none

def readArguments (given : Arguments) : List String → Option Arguments
  | [] => some given
  | "--" :: rest => some { given with positional := given.positional ++ rest }
  | ["--extra"] => none
  | "--extra" :: value :: rest =>
      readArguments { given with extras := given.extras ++ [value] } rest
  | arg :: rest =>
      if isOption arg then
        match attachedExtra? arg with
        | some value => readArguments { given with extras := given.extras ++ [value] } rest
        | none => (plainOption? given arg).bind fun after => readArguments after rest
      else readArguments { given with positional := given.positional ++ [arg] } rest

def Arguments.toParsed (given : Arguments) : Parsed :=
  if given.wantsHelp then .help
  else
    match given.positional with
    | [source, name] => .request ⟨source, name, given.extras, given.expandNodeModules⟩
    | _ => .refused

def readCommand : List String → Parsed
  | "resolve" :: rest => ((readArguments {} rest).map Arguments.toParsed).getD .refused
  | _ => .refused

/-- Read a command line. Before the command only help can be asked for. -/
def parse (wantsHelp : Bool) : List String → Parsed
  | [] => if wantsHelp then .help else .refused
  | "--" :: rest => if wantsHelp then .help else readCommand rest
  | arg :: rest =>
      if isOption arg then
        if arg = "--help" || isShortHelp arg then parse true rest else .refused
      else if wantsHelp then .help
      else readCommand (arg :: rest)

/-! ## Outcome -/

/-- How a run of the command ends. -/
inductive Outcome where
  | printed (text : String)
  /-- The sources are at fault. -/
  | failed (message : String)
  /-- The command line is at fault. -/
  | misused
  | help
  /-- The command has no rule for its input. -/
  | broken (fault : Fault)

def Outcome.ofFault (fault : Fault) : Outcome :=
  match fault with
  | .malformed .. => .failed fault.message
  | .undeclared .. => .failed fault.message
  | _ => .broken fault

/-- A documentation tree as it is printed. -/
def printed (node : Option Node) : String :=
  (node.map fun n => (Document.ofNode n).render (some 2)).getD "null" ++ "\n"

/-- A checker with files that are known by their paths from a directory. -/
def checkerOf (root : List String) (files : List SourceText) : State :=
  files.foldl
    (fun state file => (Checker.addSource (Path.relativeTo root file.path) file.tree state).2)
    { settings := { rootPath := some ("/" ++ Text.joinWith "/" root) } }

def answer (request : Request) (source : SourceText) (extras : List SourceText) : Outcome :=
  let files := source :: extras
  let root := Path.commonDirectory (files.map SourceText.parent)
  let plan := Resolution.planOf { expandNodeModules := request.expandNodeModules } none
  let question :=
    Resolution.resolveDeclaration plan (Path.relativeTo root source.path) request.name
  match (question.run.run (checkerOf root files)).1 with
  | .ok node => .printed (printed node)
  | .error fault => .ofFault fault

/-- Run the command, given the file that each path leads to. -/
def run (file? : String → Option SourceText) (args : List String) : Outcome :=
  match parse false args with
  | .refused => .misused
  | .help => .help
  | .request request =>
      match file? request.source, request.extras.mapM file? with
      | some source, some extras => answer request source extras
      | _, _ => .misused

end TypeGloss.CommandLine
