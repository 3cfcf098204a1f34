/-
# TypeGloss.Checker.Conditional — conditional types

A conditional type chooses a branch by whether a type matches a pattern. Without a
variable in it, a pattern is a type that the candidate must be assignable to. With
variables, the pattern is matched by its form, and what the variables were found to
stand for is in view in the branch, whichever it is.

Where the checked type is a type parameter that stands for a union, every member is
checked by itself and the results are united.
-/
import TypeGloss.Checker.Computed

namespace TypeGloss.Conditional

set_option autoImplicit false

def hasVariables (pattern : Cursor) : Bool :=
  pattern.focus.containsKind "infer_type"

/-- Candidates against patterns, one by one, until one does not match. -/
def fitsAll (ask : Ask) (place : Place) :
    List (TypeId × Cursor) → Inferred → CheckM (Bool × Inferred)
  | [], inferred => return (true, inferred)
  | (candidate, pattern) :: rest, inferred => do
      match ← ask.fits (some candidate) pattern place inferred with
      | (true, after) => fitsAll ask place rest after
      | (false, after) => return (false, after)

/-- A candidate against a library or declared type with patterns as arguments. -/
def fitsGeneric (ask : Ask) (candidate : TypeId) (pattern : Cursor) (place : Place)
    (inferred : Inferred) : CheckM (Bool × Inferred) := do
  let name := textOf (pattern.fieldOr? "name" ["type_identifier"])
  let argNodes :=
    ((pattern.fieldOr? "type_arguments" ["type_arguments"]).map Cursor.parts).getD []
  let r ← Check.facts candidate
  let byArguments : CheckM (Bool × Inferred) :=
    if r.name == some name && r.args.length == argNodes.length then
      fitsAll ask place (r.args.zip argNodes) inferred
    else return (false, inferred)
  match Library.arrayTypes.contains name && r.category = .array, argNodes with
  | true, elementNode :: _ => ask.fits (← ask.element? candidate) elementNode place inferred
  | _, _ => byArguments

/-- Does a candidate match a pattern, and what do the pattern's variables stand for? The
candidate is nothing if it is an element that is still being found. A variable takes it as
it is, and a pattern of no form below matches nothing; every other one asks what it is. -/
def fits (ask : Ask) (candidate : Option TypeId) (pattern : Cursor) (place : Place)
    (inferred : Inferred) : CheckM (Bool × Inferred) := do
  if !hasVariables pattern then
    match ← ask.simplified (← ask.typeAt pattern place) with
    | none => return (false, inferred)
    | some target => return (← ask.assignable (← Check.need candidate) target, inferred)
  else
    match pattern.kind with
    | "infer_type" =>
        return (true, Entries.put (textOf (pattern.first? ["type_identifier"])) candidate inferred)
    | "parenthesized_type" =>
        ask.fits candidate (← Check.needFirst pattern.parts) place inferred
    | "array_type" =>
        let t ← Check.need candidate
        if (← Check.category t) ≠ .array then return (false, inferred)
        else
          let element ← ask.element? t
          ask.fits element (← Check.needFirst pattern.parts) place inferred
    | "generic_type" => fitsGeneric ask (← Check.need candidate) pattern place inferred
    | "function_type" =>
        match ← Inference.callable ask (← Check.need candidate) with
        | [] => return (false, inferred)
        | signature :: _ =>
            match pattern.field? "return_type" with
            | none => return (true, inferred)
            | some result => ask.fits (some signature.returnType) result place inferred
    | _ => return (false, inferred)

/-- The branches of a conditional type and what chooses between them. -/
structure Choice where
  checked : Cursor
  pattern : Cursor
  whenTrue : Cursor
  whenFalse : Cursor

/-- The parts of a conditional type, if none is missing. -/
def choice? (node : Cursor) : Option Choice := do
  return ⟨← node.field? "left", ← node.field? "right", ← node.field? "consequence",
    ← node.field? "alternative"⟩

/-- A place inside a branch, where what the match has found is in view. -/
def branchPlace (source : Source) (bound : Env) (inferred : Inferred) : CheckM Place := do
  let inside ← Check.newPlace source (inferred.above bound)
  return { inside with blanks := inferred.blanks }

/-- The types of the branches for candidates, one by one; nothing if a candidate is
only a name. With a parameter given, it stands for the candidate in the branch. -/
def branches? (ask : Ask) (place : Place) (choice : Choice) (parameter : Option String) :
    List TypeId → CheckM (Option (List TypeId))
  | [] => return some []
  | candidate :: rest => do
      if (← Check.category candidate) = .named then return none
      else
        let (matched, inferred) ← ask.fits (some candidate) choice.pattern place []
        let bound := match parameter with
          | some name => Entries.put name candidate place.env
          | none => place.env
        let branch := if matched then choice.whenTrue else choice.whenFalse
        let t ← ask.typeAt branch (← branchPlace place.source bound inferred)
        return (← branches? ask place choice parameter rest).map (t :: ·)

/-- The type parameter over whose union a conditional type is distributed. -/
def distributed? (choice : Choice) (env : Env) (category : Category) : Option String :=
  let bare := choice.checked.unwrapParens
  if bare.kind == "type_identifier" && Entries.has bare.text env && category = .union then
    some bare.text
  else none

/-- The union of the types of the branches for candidates; the text of the type as a
name if a candidate is only a name. -/
def united (ask : Ask) (t : TypeId) (place : Place) (choice : Choice)
    (parameter : Option String) (candidates : List TypeId) : CheckM TypeId := do
  match ← branches? ask place choice parameter candidates with
  | none => Structure.stuck ask t
  | some results => ask.unionOfTypes results

def conditional (ask : Ask) (t : TypeId) (node : Cursor) (place : Place) :
    CheckM (Option TypeId) := do
  match choice? node with
  | none => return none
  | some choice =>
      match ← ask.simplified (← ask.typeAt choice.checked place) with
      | none => return none
      | some checked =>
          let parameter := distributed? choice place.env (← Check.category checked)
          if parameter.isSome then
            some <$> united ask t place choice parameter (← ask.members checked)
          else some <$> united ask t place choice parameter [checked]

end TypeGloss.Conditional
