/-
# TypeGloss.Settings — what can be set

Two groups of settings: how a documentation tree is laid out, and how modules are
found. Every setting has a default. A setting may be given by its name, or by an
environment variable that is the name behind a lead of the caller's choice, in any
case of letters; what is given by name wins. In the environment a list is written
as JSON, a truth value as one of the usual words and a number in decimal.

A value of the wrong shape is a fault, and so is a list that is no JSON. A name
that is no setting is ignored.
-/
import TypeGloss.Json
import TypeGloss.Lenient

namespace TypeGloss

set_option autoImplicit false

/-- How the constituents of an intersection are laid out. -/
inductive IntersectionPolicy where
  /-- Anonymous objects contribute their properties directly, others are nested. -/
  | flattenAnonymous
  /-- Every constituent is nested. -/
  | nestAll
  deriving Repr, DecidableEq, Inhabited

namespace IntersectionPolicy

def text : IntersectionPolicy → String
  | flattenAnonymous => "flatten-anonymous"
  | nestAll => "nest-all"

def ofText? (word : String) : Option IntersectionPolicy :=
  [flattenAnonymous, nestAll].find? (·.text == word)

end IntersectionPolicy

/-- How a documentation tree is laid out. -/
structure TreeSettings where
  /-- The filter used when none is given expands types of packages too. -/
  expandNodeModules : Bool := false
  /-- Only functions with a capitalized name are components. -/
  componentRequiresCapital : Bool := false
  intersectionPolicy : IntersectionPolicy := .flattenAnonymous
  /-- Private members of classes are documented. -/
  includePrivateMembers : Bool := true
  /-- The greatest nesting of expanded types. -/
  maxDepth : Int := 24
  deriving Repr, DecidableEq, Inhabited

/-- How modules are found. -/
structure SourceSettings where
  /-- Names of the directories that hold packages. -/
  packageDirs : List String := ["node_modules"]
  /-- Suffixes tried for an import, in order. -/
  moduleSuffixes : List String := [".ts", ".tsx", ".d.ts"]
  /-- Suffixes of files with embedded markup. -/
  tsxSuffixes : List String := [".tsx"]
  /-- The directory to which the paths of files are relative. -/
  rootPath : Option String := none
  deriving Repr, DecidableEq, Inhabited

namespace Settings

/-! ## Where a setting comes from -/

/-- Given names and environment of one group of settings. -/
structure Origin where
  arguments : Entries Value
  environment : Entries String
  lead : String

/-- A word in lower case. -/
def lower (word : String) : String := word.map Char.toLower

/-- The environment variable of a setting; of two spellings the later wins. -/
def Origin.word? (given : Origin) (name : String) : Option String :=
  (given.environment.filter fun entry => lower entry.1 == lower (given.lead ++ name)).getLast?.map
    Prod.snd

def read {α : Type} (decode : Value → Option α) (v : Value) : Result α :=
  (decode v).elim (.error .invalidField) .ok

/-- A setting that is one word in the environment. -/
def plain {α : Type} (given : Origin) (name : String) (absent : α)
    (decode : Value → Option α) : Result α :=
  match Entries.find? name given.arguments with
  | some argument => read decode argument
  | none =>
      match given.word? name with
      | some word => read decode (.text word)
      | none => .ok absent

/-- A setting that is a list of texts, which is JSON in the environment. A null there
is no setting. -/
def list (given : Origin) (name : String) (absent : List String) : Result (List String) :=
  match Entries.find? name given.arguments with
  | some argument => read Lenient.texts? argument
  | none =>
      match given.word? name with
      | some word =>
          match Json.parse? word with
          | some .null => .ok absent
          | some content => read Lenient.texts? content
          | none => .error .unreadableSetting
      | none => .ok absent

def policy? (v : Value) : Option IntersectionPolicy :=
  (Lenient.text? v).bind IntersectionPolicy.ofText?

/-! ## The two groups -/

/-- The settings of a documentation tree. -/
def tree (given : Origin) : Result TreeSettings := do
  let base : TreeSettings := {}
  return {
    expandNodeModules := ← plain given "expand_node_modules" base.expandNodeModules Lenient.flag?
    componentRequiresCapital :=
      ← plain given "component_requires_capitalized_name" base.componentRequiresCapital
        Lenient.flag?
    intersectionPolicy := ← plain given "intersection_policy" base.intersectionPolicy policy?
    includePrivateMembers :=
      ← plain given "include_private_members" base.includePrivateMembers Lenient.flag?
    maxDepth := ← plain given "max_depth" base.maxDepth Lenient.integer? }

def source (given : Origin) : Result SourceSettings := do
  let base : SourceSettings := {}
  return {
    packageDirs := ← list given "node_modules_dirs" base.packageDirs
    moduleSuffixes := ← list given "module_suffixes" base.moduleSuffixes
    tsxSuffixes := ← list given "tsx_suffixes" base.tsxSuffixes
    rootPath := ← plain given "root_path" base.rootPath Lenient.textOrNull? }

end Settings

end TypeGloss
