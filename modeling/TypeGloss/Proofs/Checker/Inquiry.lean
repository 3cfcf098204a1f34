/-
# TypeGloss.Proofs.Checker.Inquiry — what a reader of types can ask

A reader of types knows the checker by its questions alone. An `Inquiry` is a
computation that asks them one after the other, each after it has seen the answers to
those before, and may give up in between. Documentation trees are made by inquiries, so
what holds of every inquiry holds of all that the trees are made of.
-/
import TypeGloss.Resolution.Metadata

namespace TypeGloss

set_option autoImplicit false

/-- A computation that does nothing but ask the checker. -/
inductive Inquiry : {α : Type} → CheckM α → Prop where
  | own (handle : Checker.Handle) : Inquiry (Checker.own handle)
  | source (path : String) : Inquiry (Checker.source path)
  | category (t : TypeId) : Inquiry (Checker.category t)
  | text (t : TypeId) : Inquiry (Checker.text t)
  | simplified (t : TypeId) : Inquiry (Checker.simplified t)
  | symbol (t : TypeId) : Inquiry (Checker.symbol? t)
  | name (t : TypeId) : Inquiry (Checker.name? t)
  | arguments (t : TypeId) : Inquiry (Checker.arguments t)
  | literalValue (t : TypeId) : Inquiry (Checker.literalValue t)
  | primitive (t : TypeId) : Inquiry (Checker.primitive t)
  | unionMembers (t : TypeId) : Inquiry (Checker.unionMembers t)
  | intersectionMembers (t : TypeId) : Inquiry (Checker.intersectionMembers t)
  | element (t : TypeId) : Inquiry (Checker.element? t)
  | tupleItems (t : TypeId) : Inquiry (Checker.tupleItems t)
  | enumMembers (t : TypeId) : Inquiry (Checker.enumMembers t)
  | classMembers (t : TypeId) : Inquiry (Checker.classMembers t)
  | properties (t : TypeId) : Inquiry (Checker.properties t)
  | indexes (t : TypeId) : Inquiry (Checker.indexes t)
  | calls (t : TypeId) : Inquiry (Checker.calls t)
  | constructs (t : TypeId) : Inquiry (Checker.constructs t)
  | isAnonymousObject (t : TypeId) : Inquiry (Checker.isAnonymousObject t)
  | typeOfSymbol (symbol : Symbol) : Inquiry (Checker.typeOfSymbol symbol)
  | typeOfDeclaration (declaration : Declaration) :
      Inquiry (Checker.typeOfDeclaration declaration)
  | declarationByName (path name : String) : Inquiry (Checker.declarationByName path name)
  | isExported (declaration : Declaration) : Inquiry (Checker.isExported declaration)
  | typeLocation (t : TypeId) : Inquiry (Checker.typeLocation? t)
  | libraryLocation (t : TypeId) : Inquiry (Checker.libraryLocation t)
  | constantAt (declaration : Declaration) (name : String) :
      Inquiry (Checker.constantAt? declaration name)
  | defaultOf (declaration : Declaration) (initializer : Option Cursor)
      (patterns : List Cursor) : Inquiry (Checker.defaultOf declaration initializer patterns)
  | done {α : Type} (a : α) : Inquiry (pure a)
  | failed {α : Type} (fault : Fault) : Inquiry (throw fault : CheckM α)
  | andThen {α β : Type} {question : CheckM α} {next : α → CheckM β}
      (first : Inquiry question) (rest : ∀ a, Inquiry (next a)) : Inquiry (question >>= next)

namespace Inquiry

/-- What is known about a symbol is found by asking whether it is exported. -/
theorem ofSymbol (symbol : Symbol) (enclosing : Option Declaration) :
    Inquiry (Metadata.ofSymbol symbol enclosing) := by
  unfold Metadata.ofSymbol
  dsimp only
  split
  · split
    · exact .andThen (.done _) fun _ => .done _
    · exact .andThen (.isExported _) fun _ => .done _
  · exact .andThen (.done _) fun _ => .done _

end Inquiry

end TypeGloss
