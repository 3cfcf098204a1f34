/-
# TypeGloss.Proofs.Checker.Computing — computed types of twins

A key query, an indexed access and a mapped type are computed from the types of their
operands. Where these are the same type at two places, the two computed types come to twins:
to the same type, or to a name on both sides where the computation is stuck.

A mapped type comes to an object of its own at each of the two places. These have the same
properties, in the same order and with the same modifiers, and twins for their types
(`State.Reduced`). The type of a property is read where the key's parameter stands for the key,
so that this parameter may not be among the names that are replaced, nor be the name of a
replacement.
-/
import TypeGloss.Proofs.Checker.Instantiation

namespace TypeGloss

set_option autoImplicit false

open Answer (answer)

/-! ## Structure of one type -/

section Computed

variable {ask : Ask} (reliable : Reliable ask)

include reliable

end Computed

/-- Two computations agree, and neither forgets anything. -/
structure State.Matches {α β : Type} (s : State) (R : α → β → Prop) (x : CheckM α)
    (y : CheckM β) : Prop where
  first : Conservative x
  second : Conservative y
  agree : s.Agree R x y

namespace State.Matches

variable {α β γ δ : Type} {s : State} {R : α → β → Prop} {Q : γ → δ → Prop}

theorem pure {a : α} {b : β} (related : R a b) : s.Matches R (Pure.pure a) (Pure.pure b) :=
  ⟨.pure a, .pure b, .pure related⟩

theorem map {x : CheckM α} {y : CheckM β} {f : α → γ} {g : β → δ} (first : s.Matches R x y)
    (related : ∀ {a b}, R a b → Q (f a) (g b)) : s.Matches Q (f <$> x) (g <$> y) :=
  ⟨first.first.map f, first.second.map g, first.agree.map related⟩

theorem same {x : CheckM α} (steady : Steady x x) : s.Matches Eq x x :=
  ⟨steady.first, steady.first, .same steady⟩

theorem twins {x : CheckM TypeId} (steady : Steady x x) : s.Matches s.Twin x x :=
  ⟨steady.first, steady.first, .twins steady⟩

/-- What follows is the same on both sides. -/
theorem bind {x y : CheckM α} {f : α → CheckM γ} {g : α → CheckM δ} (first : s.Matches Eq x y)
    (rest : ∀ a, s.Matches Q (f a) (g a)) : s.Matches Q (x >>= f) (y >>= g) where
  first := first.first.bind fun a => (rest a).first
  second := first.second.bind fun a => (rest a).second
  agree := by
    refine first.agree.bind (fun a => (rest a).first) (fun a => (rest a).second) ?_
    rintro a _ rfl
    exact (rest a).agree

end State.Matches

section ComputedTwins

variable {s : State} {names : Naming} {n n' : Cursor} {p p' : Place} {limit : Nat} {t t' : TypeId}

/-- The keys of a type that is known. -/
def Computed.keysOf (ask : Ask) (t target : TypeId) : CheckM (Option TypeId) := do
  match ← Structure.objectProperties? ask target with
  | none => some <$> Structure.stuck ask t
  | some properties =>
      some <$> ask.unionOf (fun p => Check.literal (.text (p.name.getD "")) .string) properties

end ComputedTwins

/-! ## Mapped types -/

/-- Two properties of mapped types, with twins for the types that were found. -/
structure Symbol.Mapped (s : State) (symbol symbol' : Symbol) : Prop
    extends symbol.Similar symbol' where
  types : ∃ (member member' : Member) (t t' : TypeId), symbol.member = some member ∧
    symbol'.member = some member' ∧ s.slots[member.slot]? = some (some t) ∧
    s.slots[member'.slot]? = some (some t') ∧ s.Twin t t'

/-- What computed types come to: twins, or objects with properties that have twins for
types. -/
inductive State.Reduced (s : State) : TypeId → TypeId → Prop where
  | twins {t t' : TypeId} (both : s.Twin t t') : Reduced s t t'
  | objects {computed computed' t t' : TypeId} {properties properties' : List Symbol}
      {text text' : String} (same : List.Forall₂ (Symbol.Mapped s) properties properties')
      (made : s.Recalls (Check.syntheticObject computed properties text) t)
      (made' : s.Recalls (Check.syntheticObject computed' properties' text') t') :
      Reduced s t t'

/-- The parts of a mapped type, at a node and at a renamed one. -/
structure Computed.MappedClause.Renamed (names : Naming) (clause clause' : MappedClause) :
    Prop where
  parameter : clause'.parameter = clause.parameter
  constraint : clause.constraint.Renamed names clause'.constraint
  remap : clause'.remap.isSome = clause.remap.isSome
  value : clause.value.Renamed names clause'.value
  isOptional : clause'.isOptional = clause.isOptional
  isReadonly : clause'.isReadonly = clause.isReadonly

section Mapped

variable {s : State} {names : Naming} {n n' : Cursor} {p p' : Place} {limit : Nat} {t t' : TypeId}

/-- The type that the keys of a mapped type are taken from. -/
def Computed.keySource (ask : Ask) (place : Place) (constraint : Cursor) : CheckM TypeId :=
  let inner := constraint.unwrapParens
  if inner.kind == "index_type_query" then lastType ask place inner else ask.typeAt inner place

/-- The parameter of a mapped type comes into view on both sides. -/
theorem Place.Alongside.enter {x : String} (along : p.Alongside s names p')
    (fresh : ∀ {a b}, names a b → (a = x ↔ b = x)) (both : s.Twin t t') :
    (p.put x t).Alongside s names (p'.put x t') where
  source := along.source
  stands {a b} allowed := by
    by_cases same : a = x
    · obtain rfl := (fresh allowed).1 same
      subst same
      exact .bound (Entries.find?_put_self _ t p.env) (Entries.find?_put_self _ t' p'.env) both
    · exact (along.stands allowed).put same (mt (fresh allowed).2 same)

end Mapped

end TypeGloss
