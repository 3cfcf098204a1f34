/-
# TypeGloss.Proofs.Checker.Instantiation — instances of declarations, part by part

What is inside a node is compared with what is inside the renamed node, at two places where the
names stand for the same: the members of a body, the parameters and the result of a signature,
index signatures and the elements of a tuple. They are found in the same order, have the same
names and flags, and their types are twins.

A signature brings type parameters of its own into view. They are other parameters on both
sides, but each stands for itself, so the two places inside are again places where the names
stand for the same (`withTypeParameters_alongside`). A type parameter of the signature hides one
of the same name outside.
-/
import TypeGloss.Proofs.Checker.Substitution

namespace TypeGloss

set_option autoImplicit false

open Answer (answer)

/-! ## Own type parameters -/

section Parameters

variable {s : State} {names : Naming} {p p' : Place} {a b x : String} {t t' : TypeId} {limit : Nat}

/-- A place at which one more name stands for a type. -/
def Place.put (p : Place) (name : String) (t : TypeId) : Place :=
  { p with env := Entries.put name t p.env }

/-- What other names stand for does not change. -/
theorem State.Stands.put (stands : s.Stands p p' a b) (other : a ≠ x) (other' : b ≠ x) :
    s.Stands (p.put x t) (p'.put x t') a b := by
  have here : Entries.find? a (p.put x t).env = Entries.find? a p.env :=
    Entries.find?_put_of_ne other t p.env
  have there : Entries.find? b (p'.put x t').env = Entries.find? b p'.env :=
    Entries.find?_put_of_ne other' t' p'.env
  cases stands with
  | bound known known' both => exact .bound (here.trans known) (there.trans known') both
  | free known known' => exact .free (here.trans known) (there.trans known')
  | meant known known' means => exact .meant (here.trans known) (there.trans known') means

/-- Places are compared by their sources and by what is in view there. -/
theorem Place.Alongside.congr {q q' : Place} (along : p.Alongside s names p')
    (source : q.source = p.source) (env : q.env = p.env) (source' : q'.source = p'.source)
    (env' : q'.env = p'.env) : q.Alongside s names q' where
  source := by rw [source', along.source, source]
  stands allowed := by
    cases along.stands allowed with
    | bound here there both => exact .bound (env ▸ here) (env' ▸ there) both
    | free here there => exact .free (env ▸ here) (env' ▸ there)
    | meant here there means => exact .meant (env ▸ here) (env' ▸ there) (source' ▸ means)

/-- One more type parameter comes into view on both sides. -/
theorem Place.Alongside.put {own : List String} (along : p.Alongside s (names.under own) p')
    (both : s.Twin t t') :
    (p.put x t).Alongside s (names.under (own ++ [x])) (p'.put x t') where
  source := along.source
  stands {a b} allowed := by
    by_cases same : a = x
    · subst same
      obtain ⟨-, rfl⟩ | ⟨outside, -⟩ := allowed
      · exact .bound (Entries.find?_put_self _ t p.env) (Entries.find?_put_self _ t' p'.env) both
      · exact absurd (List.mem_append_right own List.mem_cons_self) outside
    · obtain ⟨listed, rfl⟩ | ⟨outside, outside', stands⟩ := allowed
      · have earlier : b ∈ own := by simpa [same] using listed
        exact (along.stands (.inl ⟨earlier, rfl⟩)).put same same
      · rw [List.mem_append, not_or] at outside outside'
        have other' : b ≠ x := fun equal => outside'.2 (equal ▸ List.mem_cons_self)
        exact (along.stands (.inr ⟨outside.1, outside'.1, stands⟩)).put same other'

end Parameters

/-! ## Types inside a node -/

section Inside

variable {s : State} {names : Naming} {n n' : Cursor} {p p' : Place} {limit : Nat}

/-- The type that is written at a node if there is one. -/
def written (ask : Ask) (place : Place) : Option Cursor → CheckM TypeId
  | some node => ask.typeAt node place
  | none => Check.any

end Inside

/-! ### Symbols -/

/-- Two members that are declared in the same way. -/
structure Symbol.Similar (symbol symbol' : Symbol) : Prop where
  name : symbol'.name = symbol.name
  isOptional : symbol'.isOptional = symbol.isOptional
  isReadonly : symbol'.isReadonly = symbol.isReadonly
  isRest : symbol'.isRest = symbol.isRest
  kind : symbol'.kind = symbol.kind

/-- Two members that are declared in the same way and have twins for types. -/
structure Symbol.Twin (s : State) (symbol symbol' : Symbol) : Prop
    extends symbol.Similar symbol' where
  types : ∃ member member' : Member, symbol.member = some member ∧ symbol'.member = some member' ∧
    ∀ limit : Nat, s.Agree s.Twin
      (Inference.memberAt (answer limit) symbol member.place member.nodes)
      (Inference.memberAt (answer limit) symbol' member'.place member'.nodes)

/-- Two members as they are declared, at nodes and at renamed ones. -/
structure Members.Draft.Renamed (names : Naming) (draft draft' : Members.Draft) : Prop where
  similar : draft.symbol.Similar draft'.symbol
  isStatic : draft'.symbol.isStatic = draft.symbol.isStatic
  nodes : List.Forall₂ (Cursor.Renamed names) draft.nodes draft'.nodes

section Symbols

variable {s : State} {names : Naming} {n n' : Cursor} {p p' : Place} {limit : Nat}

end Symbols

/-! ## Signatures -/

/-- Two signatures with twins for the types of their parameters and their results. -/
structure CallSignature.Twin (s : State) (signature signature' : CallSignature) : Prop where
  parameters : List.Forall₂ (Symbol.Twin s) signature.parameters signature'.parameters
  returnType : s.Twin signature.returnType signature'.returnType
  modifier : signature'.modifier = signature.modifier

section Signatures

variable {s : State} {names : Naming} {n n' : Cursor} {p p' : Place} {limit : Nat}

end Signatures

/-! ## Index signatures and tuples -/

/-- Two index signatures with twins for the types of keys and values. -/
structure IndexEntry.Twin (s : State) (entry entry' : IndexEntry) : Prop where
  keyName : entry'.keyName = entry.keyName
  keyType : s.Twin entry.keyType entry'.keyType
  valueType : s.Twin entry.valueType entry'.valueType
  isReadonly : entry'.isReadonly = entry.isReadonly

/-- Two elements of tuples with twins for types. -/
structure TupleItem.Twin (s : State) (item item' : TupleItem) : Prop where
  type : s.Twin item.type item'.type
  name : item'.name = item.name
  isOptional : item'.isOptional = item.isOptional
  isRest : item'.isRest = item.isRest

section Entries

variable {s : State} {names : Naming} {n n' : Cursor} {p p' : Place} {limit : Nat}

/-- The index signature that a member of a body is. -/
def Members.indexAt? (ask : Ask) (place : Place) (member : Cursor) : CheckM (Option IndexEntry) := do
  match member.field? "name", member.field? "index_type" with
  | some nameNode, some keyNode =>
      let keyType ← ask.typeAt keyNode place
      let valueType ← written ask place (member.fieldOr? "type" Grammar.annotations)
      let text ← Render.render ask member place
      return some
        { keyName := nameNode.text, keyType, valueType, text := Render.dropSeparators text,
          isReadonly := member.hasToken ["readonly"] : IndexEntry }
  | _, _ => return none

theorem Members.indexesOfBody_eq (ask : Ask) (place : Place) (body : Cursor) :
    indexesOfBody ask place body = (do
      let found ← (body.ofKinds ["index_signature"]).mapM (indexAt? ask place)
      return found.filterMap id) := by
  unfold indexesOfBody
  congr 2
  funext member
  unfold indexAt?
  cases member.field? "name" with
  | none => rfl
  | some nameNode =>
      cases member.field? "index_type" with
      | none => rfl
      | some keyNode => cases member.fieldOr? "type" Grammar.annotations <;> rfl

/-- The type of the last part of a node, which must be there. -/
def lastType (ask : Ask) (place : Place) (node : Cursor) : CheckM TypeId := do
  ask.typeAt (← Check.need node.lastPart?) place

end Entries

end TypeGloss
