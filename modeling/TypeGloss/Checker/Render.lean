/-
# TypeGloss.Checker.Render — the texts of types

The text of a type written in a source is that source's text in a canonical form:
comments are dropped, runs of blanks are one space, strings have double quotes,
arrays are written as `Array<…>`, members of an object type end with semicolons,
and a type parameter that stands for a type is replaced by that type's text.

A function with one signature is written as an arrow, one with several as an object
of call signatures; the type of an object literal is written from its properties.
-/
import TypeGloss.Checker.Query

namespace TypeGloss.Render

set_option autoImplicit false

def sliceBytes (text : String) (start stop : Nat) : String :=
  (String.fromUTF8? (text.toUTF8.extract start stop)).getD ""

def dropSeparators (text : String) : String :=
  Text.onChars (Text.dropTail fun c => c = ';' || c = ',') text

def braced (members : List String) : String :=
  if members.isEmpty then "\x7b\x7d"
  else "\x7b " ++ Text.joinWith "; " members ++ "; \x7d"

/-- The text of a node, before blanks are made one. -/
def node (ask : Ask) (place : Place) (at_ : Cursor) : CheckM String := do
  let kind := at_.kind
  if kind == "comment" then return ""
  else if kind == "string" && at_.mark.named then
    return Text.quote (← Check.ofResult (Literal.stringValue at_.focus))
  else if kind == "type_identifier" then
    match Entries.find? at_.text place.env with
    | some bound => ask.text bound
    | none => return at_.text
  else if kind == "array_type" then
    match _inside : at_.parts with
    | [] => throw .emptySequence
    | element :: _ =>
        return "Array<" ++ (← node ask place element.unwrapParens) ++ ">"
  else if kind == "object_type" then
    let members ← at_.parts.attach.mapM fun ⟨member, _isPart⟩ => do
      let text ← node ask place member
      return dropSeparators (Text.onChars Text.strip text)
    return braced members
  else if at_.focus.children.isEmpty then return at_.text
  else
    let start := at_.mark.start
    let (written, position) ← at_.children.attach.foldlM
      (fun (written, position) ⟨child, _isChild⟩ => do
        let gap := sliceBytes at_.text (position - start) (child.mark.start - start)
        return (written ++ gap ++ (← node ask place child), child.mark.stop))
      ("", start)
    return written ++ sliceBytes at_.text (position - start) (at_.mark.stop - start)
termination_by sizeOf at_.focus
decreasing_by
  · have inner := Cursor.sizeOf_unwrapParens_le element
    have part := Cursor.sizeOf_lt_of_mem_parts
      (show element ∈ at_.parts by rw [_inside]; exact List.mem_cons_self)
    omega
  · exact Cursor.sizeOf_lt_of_mem_parts _isPart
  · exact Cursor.sizeOf_lt_of_mem_children _isChild

def render (ask : Ask) (at_ : Cursor) (place : Place) : CheckM String := do
  return Text.onChars (fun cs => Text.strip (Text.collapse cs)) (← node ask place at_)

/-! ## Signatures and objects -/

/-- The name of a parameter in a signature; a destructured one is its pattern. -/
def parameterLabel (parameter : Symbol) : String :=
  let node := parameter.declaration.bind (·.node)
  let label :=
    match parameter.name, node with
    | none, some node =>
        Text.onChars Text.collapse ((node.field? "pattern").getD node).text
    | name, _ => (if parameter.isRest then "..." else "") ++ name.getD ""
  if parameter.isOptional && !parameter.isRest then label ++ "?" else label

/-- The parameters of a signature, with a comma between two. -/
def parameters (ask : Ask) (symbols : List Symbol) : CheckM String := do
  let parts ← symbols.mapM fun parameter => do
    return parameterLabel parameter ++ ": " ++ (← ask.text (← ask.ofSymbol parameter))
  return Text.joinWith ", " parts

def arrow (ask : Ask) (symbols : List Symbol) (returnType : TypeId) : CheckM String := do
  let before ← parameters ask symbols
  return "(" ++ before ++ ") => " ++ (← ask.text returnType)

def function (ask : Ask) (t : TypeId) : CheckM String := do
  match ← ask.calls t with
  | [] => return "() => void"
  | [signature] => return signature.text
  | signatures =>
      let calls ← signatures.mapM fun signature => do
        let before ← parameters ask signature.parameters
        return "(" ++ before ++ "): " ++ (← ask.text signature.returnType)
      return braced calls

def objectLiteral (ask : Ask) (t : TypeId) : CheckM String := do
  let properties := (← ask.load? t .properties).getD []
  let parts ← properties.mapM fun property => do
    let label := (if property.isReadonly then "readonly " else "") ++ property.name.getD "" ++
      (if property.isOptional then "?" else "")
    return label ++ ": " ++ (← ask.text (← ask.ofSymbol property))
  return braced parts

end TypeGloss.Render
