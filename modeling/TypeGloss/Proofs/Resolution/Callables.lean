/-
# TypeGloss.Proofs.Resolution.Callables — what signatures document

A type that can be called is documented with one signature for each way to call it, as a function or
as a component. The signature of a function documents all parameters, in their order, but for those
whose types come to nothing (`Made.Documented`). The signature of a component has room for one
parameter and documents the first.

The first way to call a type decides which of the two it is, and a component takes at most one
parameter in this way. Nothing is said of the others. So those that take more lose all parameters
but the first (`Made.documented_toList_iff`), unless the types of the rest come to nothing.
-/
import TypeGloss.Proofs.Resolution.Layout

namespace TypeGloss

set_option autoImplicit false

namespace Made

variable {plan : Plan} {s : State} {cuts : Prop} {levels : Nat} {below : Below} {t : TypeId}
  {enclosing : Option Declaration} {symbol first : Symbol} {symbols rest : List Symbol}
  {node : Node} {nodes : List Node} {result : Option Node} {results : List (Option Node)}

/-! ## Parameters -/

/-- The type of a parameter comes to nothing. -/
def Vanishes (s : State) (symbol : Symbol) : Prop :=
  ∃ t, s.Finds (Checker.typeOfSymbol symbol) t ∧ s.Finds (Checker.simplified t) none

/-- A type is resolved to nothing exactly if it comes to nothing. -/
theorem Resolved.eq_none_iff (resolved : Resolved plan s cuts levels t enclosing result) :
    result = none ↔ s.Finds (Checker.simplified t) none := by
  have visited {descends : TypeId → Category → Context → Node → Prop}
      (visited : Visited plan s descends t enclosing result) :
      result = none ↔ s.Finds (Checker.simplified t) none := by
    have never {u : TypeId} (simple : s.Finds (Checker.simplified t) (some u)) :
        ¬s.Finds (Checker.simplified t) none := fun gone => by
      cases simple.symm.trans gone
    cases visited with
    | gone simple => exact iff_of_true rfl simple
    | leaf simple => exact iff_of_false (Option.some_ne_none _) (never simple)
    | rejected simple => exact iff_of_false (Option.some_ne_none _) (never simple)
    | expanded simple => exact iff_of_false (Option.some_ne_none _) (never simple)
  cases levels with
  | zero => exact visited resolved
  | succ fewer => exact visited resolved

theorem Parameter.eq_none_iff
    (made : Parameter s (Resolved plan s cuts levels) symbol result) :
    result = none ↔ Vanishes s symbol := by
  cases made with
  | gone typed nothing => exact iff_of_true rfl ⟨_, typed, nothing.eq_none_iff.1 rfl⟩
  | shown typed inside =>
      refine iff_of_false (Option.some_ne_none _) ?_
      rintro ⟨t, typed', gone⟩
      cases typed.symm.trans typed'
      exact Option.some_ne_none _ (inside.eq_none_iff.2 gone)

/-- A node documents a parameter under its name. -/
theorem Parameter.name (made : Parameter s below symbol (some node)) :
    node.header.name = symbol.name := by
  cases made with
  | @shown _ inner value _ _ given =>
      cases value with
      | none => exact congrArg Header.name (Node.header_mapHeader _ inner)
      | some value =>
          refine (congrArg Header.name (Node.header_assignDefault value _)).trans ?_
          exact congrArg Header.name (Node.header_mapHeader _ inner)

/-- Nodes document parameters, in their order: all but those whose types come to nothing. -/
inductive Documented (s : State) (below : Below) : List Symbol → List Node → Prop where
  | nil : Documented s below [] []
  | gone {symbol : Symbol} {rest : List Symbol} {nodes : List Node}
      (vanishes : Vanishes s symbol) (others : Documented s below rest nodes) :
      Documented s below (symbol :: rest) nodes
  | shown {symbol : Symbol} {node : Node} {rest : List Symbol} {nodes : List Node}
      (made : Parameter s below symbol (some node)) (others : Documented s below rest nodes) :
      Documented s below (symbol :: rest) (node :: nodes)

namespace Documented

/-- What parameters are made into documents them. -/
theorem of_made (each : List.Forall₂ (Parameter s (Resolved plan s cuts levels)) symbols results) :
    Documented s (Resolved plan s cuts levels) symbols (results.filterMap id) := by
  induction each with
  | nil => exact .nil
  | @cons _ result _ _ made _ ih =>
      cases result with
      | none => exact .gone (made.eq_none_iff.1 rfl) ih
      | some node => exact .shown made ih

/-- If no type comes to nothing, nodes stand under the names of the parameters. -/
theorem names (documented : Documented s below symbols nodes)
    (some : ∀ symbol ∈ symbols, ¬Vanishes s symbol) :
    nodes.map (·.header.name) = symbols.map Symbol.name := by
  induction documented with
  | nil => rfl
  | gone vanishes => exact absurd vanishes (some _ List.mem_cons_self)
  | shown made _ ih =>
      rw [List.map_cons, List.map_cons, made.name,
        ih fun symbol among => some symbol (List.mem_cons_of_mem _ among)]

/-- Parameters are documented by no node exactly if the types of all come to nothing. -/
theorem nil_iff : Documented s below symbols [] ↔ ∀ symbol ∈ symbols, Vanishes s symbol := by
  induction symbols with
  | nil => exact iff_of_true .nil fun _ => nofun
  | cons symbol rest ih =>
      rw [List.forall_mem_cons, ← ih]
      refine ⟨fun documented => ?_, fun ⟨vanishes, others⟩ => .gone vanishes others⟩
      cases documented with
      | gone vanishes others => exact ⟨vanishes, others⟩

end Documented

/-- What the first of several parameters is made into documents all of them exactly if the types of
the others come to nothing. -/
theorem documented_toList_iff
    (made : Parameter s (Resolved plan s cuts levels) first result) :
    Documented s (Resolved plan s cuts levels) (first :: rest) result.toList ↔
      ∀ symbol ∈ rest, Vanishes s symbol := by
  have others : Documented s (Resolved plan s cuts levels) rest [] ↔
      ∀ symbol ∈ rest, Vanishes s symbol := Documented.nil_iff
  rw [← others]
  cases result with
  | none =>
      rw [Option.toList_none]
      refine ⟨fun documented => ?_, .gone (made.eq_none_iff.1 rfl)⟩
      cases documented with
      | gone _ others => exact others
  | some node =>
      rw [Option.toList_some]
      refine ⟨fun documented => ?_, .shown made⟩
      cases documented with
      | gone vanishes _ => exact absurd (made.eq_none_iff.2 vanishes) (Option.some_ne_none _)
      | shown _ others => exact others

/-! ## Callables -/

/-- A node of a type that can be called. -/
inductive IsCallable : Node → Prop where
  | function (header : Header) (signatures : List TypeGloss.Signature) :
      IsCallable (.function header signatures)
  | component (header : Header) (signatures : List TypeGloss.ComponentSignature) :
      IsCallable (.component header signatures)

/-- What is expanded into a function or a component can be called. -/
theorem Expanded.callable {context : Context} {category : Category}
    (made : Expanded plan s below t context category node) (called : IsCallable node) :
    Callable plan s below t context node := by
  cases category with
  | object =>
      cases made with
      | object _ _ made => cases made; cases called
      | callable _ _ _ made => exact made
  | function => exact made
  | union => cases made; cases called
  | intersection => cases made; cases called
  | array => cases made <;> cases called
  | tuple => cases made; cases called
  | classType => cases made; cases called
  | enum => cases made; cases called
  | generic => cases made; cases called
  | primitive => cases made; cases called
  | literal => cases made; cases called
  | named => cases made; cases called
  | computed => cases made; cases called

/-- A node that is neither a leaf nor a reference was expanded. -/
theorem Resolved.expanded (resolved : Resolved plan s cuts levels t enclosing (some node))
    (opened : node.isExpanded = true) :
    ∃ fewer u category context, levels = fewer + 1 ∧
      s.Finds (Checker.simplified t) (some u) ∧
      Expanded plan s (Resolved plan s cuts fewer) u context category node := by
  cases levels with
  | zero =>
      cases resolved with
      | leaf _ _ _ _ made => cases made <;> cases opened
      | rejected => cases opened
      | expanded _ _ _ _ _ made => obtain ⟨-, rfl⟩ := made; cases opened
  | succ fewer =>
      cases resolved with
      | leaf _ _ _ _ made => cases made <;> cases opened
      | rejected => cases opened
      | expanded simple _ _ _ _ made =>
          cases made with
          | cut => cases opened
          | expanded made => exact ⟨fewer, _, _, _, rfl, simple, made⟩

/-- What is resolved to a function or a component comes to a type that can be called. -/
theorem Resolved.callable (resolved : Resolved plan s cuts levels t enclosing (some node))
    (called : IsCallable node) :
    ∃ fewer u context, levels = fewer + 1 ∧ s.Finds (Checker.simplified t) (some u) ∧
      Callable plan s (Resolved plan s cuts fewer) u context node := by
  obtain ⟨fewer, u, category, context, rfl, simple, made⟩ :=
    resolved.expanded (by cases called <;> rfl)
  exact ⟨fewer, u, context, rfl, simple, made.callable called⟩

/-- A component takes at most one parameter in the first way to call it. -/
theorem length_le_one_of_isComponent {context : Context} {categories : List Category}
    (fits : isComponent plan context categories = true) : categories.length ≤ 1 := by
  match categories with
  | [] => exact Nat.zero_le 1
  | [_] => exact Nat.le_refl 1
  | _ :: _ :: _ => simp [isComponent, ComponentPolicy.isComponent] at fits

end Made

/-- Let a type be resolved to a function or a component, from any lawful state and at any depth.
There is one signature for each way to call the type, in their order. The signature of a function
documents all parameters, in their order, but for those whose types come to nothing. A component
takes at most one parameter in the first way to call it. Its signatures document the first parameter
and no other, so that those that take more lose the rest: such a signature documents all parameters
exactly if the types of all but the first come to nothing. -/
theorem documented_parameters {plan : Plan} {remaining : Nat} {t : TypeId}
    {enclosing : Option Declaration} {resolution : Resolution} {later : State} {node : Node}
    (lawful : resolution.checker.Lawful .free)
    (returned : outcome (Resolution.resolve plan remaining t enclosing) resolution =
      .ok (some node))
    (extended : (after (Resolution.resolve plan remaining t enclosing) resolution).checker.Extends
      later) :
    (∀ {header : Header} {signatures : List Signature}, node = .function header signatures →
      ∃ fewer u calls, remaining = fewer + 1 ∧ later.Finds (Checker.simplified t) (some u) ∧
        later.Finds (Checker.calls u) calls ∧
        List.Forall₂ (fun call signature => ∃ parameters returnType,
          signature = .mk .functionSignature call.text parameters returnType call.modifier ∧
          later.Finds (Checker.text call.returnType) returnType ∧
          Made.Documented later (Made.Resolved plan later True fewer) call.parameters parameters ∧
          ((∀ symbol ∈ call.parameters, ¬Made.Vanishes later symbol) →
            parameters.map (·.header.name) = call.parameters.map Symbol.name)) calls signatures) ∧
    ∀ {header : Header} {signatures : List ComponentSignature},
      node = .component header signatures →
      ∃ fewer u calls, remaining = fewer + 1 ∧ later.Finds (Checker.simplified t) (some u) ∧
        later.Finds (Checker.calls u) calls ∧ (Made.firstParameters calls).length ≤ 1 ∧
        List.Forall₂ (fun call signature => ∃ props returnType,
          signature = .mk .componentSignature call.text props returnType call.modifier ∧
          later.Finds (Checker.text call.returnType) returnType ∧
          Made.Documented later (Made.Resolved plan later True fewer) (call.parameters.take 1)
            props.toList ∧
          (Made.Documented later (Made.Resolved plan later True fewer) call.parameters
              props.toList ↔
            ∀ symbol ∈ call.parameters.tail, Made.Vanishes later symbol)) calls signatures := by
  have resolved := (Resolution.resolve_made plan remaining t enclosing).holds resolution lawful
    returned extended
  refine ⟨fun {header signatures} same => ?_, fun {header signatures} same => ?_⟩
  · subst same
    obtain ⟨fewer, u, context, rfl, simple, made⟩ := resolved.callable (.function _ _)
    cases made with
    | @function calls _ _ called _ _ each =>
        refine ⟨fewer, u, calls, rfl, simple, called, each.imp fun call signature made => ?_⟩
        obtain ⟨each, returns⟩ := made
        have documented := Made.Documented.of_made each
        exact ⟨_, _, rfl, returns, documented, documented.names⟩
  · subst same
    obtain ⟨fewer, u, context, rfl, simple, made⟩ := resolved.callable (.component _ _)
    cases made with
    | @component calls _ _ called categorized fits each =>
        have few := categorized.length_eq ▸ Made.length_le_one_of_isComponent fits
        refine ⟨fewer, u, calls, rfl, simple, called, few, each.imp fun call signature made => ?_⟩
        cases made with
        | props takes made returns =>
            rw [takes]
            exact ⟨_, _, rfl, returns, (Made.documented_toList_iff made).2 fun _ => nofun,
              Made.documented_toList_iff made⟩
        | bare takes returns =>
            rw [takes]
            exact ⟨_, _, rfl, returns, .nil, iff_of_true .nil fun _ => nofun⟩

/-! ### A component with an overload

`{ (props: {}): void; (a: string, b: number): void }` -/

namespace OverloadedComponent

open LostIndex (path piece keyword standard keyword_lawful)

def props : Tree := piece "required_parameter" "props: {}" 12 21 []

def first : Tree := piece "call_signature" "(props: {}): void" 11 28 [props]

def a : Tree := piece "required_parameter" "a: string" 31 40 []

def b : Tree := piece "required_parameter" "b: number" 42 51 []

def second : Tree := piece "call_signature" "(a: string, b: number): void" 30 58 [a, b]

def both : Tree :=
  piece "object_type" "\x7b (props: \x7b\x7d): void; (a: string, b: number): void \x7d" 9 60
    [first, second]

def source : Source := ⟨path, both, .ok {}⟩

/-- A parameter whose type has a slot. -/
def parameter (name : String) (slot : Nat) (node : Tree) : Symbol :=
  { name := some name, declaration := some ⟨.parameter, some name, path, some (.ofTree node)⟩,
    kind := some .parameter, member := some ⟨slot, .top source, [.ofTree node]⟩ }

def calls : List CallSignature :=
  [⟨[parameter "props" 0 props], 4, "(props: \x7b\x7d) => void", none, none⟩,
    ⟨[parameter "a" 1 a, parameter "b" 2 b], 4, "(a: string, b: number) => void", none, none⟩]

/-- An object type, of which all parts have been found. -/
def object (node : Tree) (calls : List CallSignature) : TypeRecord :=
  { category := .object, node := some (.ofTree node), place := some (.top source),
    symbol := some (.ofType none (.ofTree node) path), shape := .written, label := some node.text,
    cache := { properties := some [], indexes := some [], calls := some calls } }

def state : State :=
  { sources := [(path, source)]
    records := #[object both calls, object props [], keyword .string "string",
      keyword .number "number", keyword .void "void"]
    slots := #[some 1, some 2, some 3] }

theorem object_lawful (node : Tree) {calls : List CallSignature}
    (declared : ∀ call ∈ calls, call.IsDeclared .free) : (object node calls).Lawful .free := by
  have cache : Cache.Lawful .free
      { properties := some [], indexes := some [], calls := some calls } :=
    ((Cache.lawful_empty.set .properties fun _ among => absurd among List.not_mem_nil).set
      .indexes trivial).set .calls declared
  refine .of_written rfl ?_ rfl cache
  rintro known ⟨⟩
  rfl

theorem state_lawful : state.Lawful .free where
  sources {path source} _ := source.obeys_free
  records {t r} known := by
    have declared : ∀ call ∈ calls, ∀ p ∈ call.parameters, p.declaration.isSome = true := by
      decide +kernel
    have among : r ∈ state.records := Array.mem_of_getElem? known
    simp only [state, List.mem_toArray, List.mem_cons, List.not_mem_nil, or_false] at among
    rcases among with rfl | rfl | rfl | rfl | rfl
    · exact object_lawful _ fun call among p takes =>
        ⟨p.obeys_free, declared call among p takes⟩
    · exact object_lawful _ fun _ among => absurd among List.not_mem_nil
    · exact keyword_lawful _ _
    · exact keyword_lawful _ _
    · exact keyword_lawful _ _

/-- The state in which the type has been resolved. -/
def resolved : State := (after (Resolution.resolve standard 3 0 none) ⟨state, {}⟩).checker

/-- What can be told before is told afterwards. -/
theorem finds_resolved {α : Type} {question : CheckM α} {answer : α} (inquiry : Inquiry question)
    (has : state.Has question answer) : resolved.Finds question answer :=
  ((Resolution.resolve_made standard 3 0 none).recalls state_lawful has).finds inquiry

theorem extends_resolved :
    (after (Resolution.resolve standard 3 0 none) ⟨state, {}⟩).checker.Extends resolved :=
  .refl _

/-- A node of a component. -/
def isComponent : Node → Bool
  | .component _ _ => true
  | _ => false

theorem exists_component : ∃ header signatures,
    outcome (Resolution.resolve standard 3 0 none) ⟨state, {}⟩ =
      .ok (some (.component header signatures)) := by
  obtain ⟨node, returned, component⟩ :
      ∃ node, outcome (Resolution.resolve standard 3 0 none) ⟨state, {}⟩ = .ok (some node) ∧
        isComponent node = true := LostIndex.exists_tree (by decide +kernel)
  cases node with
  | component header signatures => exact ⟨header, signatures, returned⟩
  | _ => cases component

end OverloadedComponent

open OverloadedComponent in
/-- The type is documented as a component, and the signature that takes `a` and `b` documents `a`
alone. -/
theorem documented_parameters_overloads :
    ∃ header first second, outcome (Resolution.resolve LostIndex.standard 3 0 none) ⟨state, {}⟩ =
        .ok (some (.component header [first, second])) ∧
      ∃ props returnType, second = .mk .componentSignature "(a: string, b: number) => void" props
          returnType none ∧
        Made.Documented resolved (Made.Resolved LostIndex.standard resolved True 2)
          [parameter "a" 1 a] props.toList ∧
        ¬Made.Documented resolved (Made.Resolved LostIndex.standard resolved True 2)
          [parameter "a" 1 a, parameter "b" 2 b] props.toList := by
  obtain ⟨header, signatures, returned⟩ := exists_component
  obtain ⟨fewer, u, ways, same, simple, called, -, each⟩ :=
    (documented_parameters state_lawful returned extends_resolved).2 rfl
  obtain rfl : 2 = fewer := Nat.succ.inj same
  have simple' : resolved.Finds (Checker.simplified 0) (some 0) :=
    finds_resolved (.simplified 0) (by with_unfolding_all rfl)
  cases simple'.unique simple
  have called' : resolved.Finds (Checker.calls 0) calls :=
    finds_resolved (.calls 0) (by with_unfolding_all rfl)
  cases called'.unique called
  rw [calls] at each
  cases each with
  | @cons _ first _ _ _ others =>
      cases others with
      | @cons _ second _ _ one rest =>
          cases rest
          obtain ⟨props, returnType, made, -, documented, iff⟩ := one
          refine ⟨header, first, second, returned, props, returnType, made, documented,
            fun all => ?_⟩
          -- The type of `b` is that of a keyword.
          obtain ⟨t, typed, gone⟩ := iff.1 all (parameter "b" 2 b) List.mem_cons_self
          have typed' : resolved.Finds (Checker.typeOfSymbol (parameter "b" 2 b)) 3 :=
            finds_resolved (.typeOfSymbol _) (by with_unfolding_all rfl)
          cases typed'.unique typed
          have kept : resolved.Finds (Checker.simplified 3) (some 3) :=
            finds_resolved (.simplified 3) (by with_unfolding_all rfl)
          cases kept.unique gone

end TypeGloss
