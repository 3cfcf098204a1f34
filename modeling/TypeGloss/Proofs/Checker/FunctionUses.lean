/-
# TypeGloss.Proofs.Checker.FunctionUses — the type of a function where it is used

The type of a function has a signature at each of the nodes that it was made with
(`State.IsFunction`), and it is known by where the first node begins and by the type parameters in
view (`Signature.keyAt`). A module makes it with all declarations of the function, so that its
overloads are the signatures (`State.DeclaresFunction.ensures_ofDeclaration`), and so does a name
that is looked up in the tables of modules (`State.ensures_foundUse`).

But a name is looked for in the text first, outward to the statements at the top of its own module
(`Lookup.Uses.localDeclaration?_eq`). There the statement that is found makes the type alone
(`State.ensures_declaredUse`). `function_uses` says when the two types are the same.
-/
import TypeGloss.Proofs.Checker.Inheritance
import TypeGloss.Proofs.Module.Declared

namespace TypeGloss

set_option autoImplicit false

open Answer (answer)

/-! ## Names where they are used -/

namespace Lookup

variable {name : String} {root : Tree} {use : Cursor}

/-- A node declares a name, or is a module, so that the name is not looked for around it. -/
def Stops (name : String) (node : Cursor) : Prop :=
  node.kind = "program" ∨ (isFunction node.kind = true ∧ (parameter? node name).isSome = true) ∨
    (node.kind = "statement_block" ∧ (scopeDeclaration? node name).isSome = true)

instance (name : String) (node : Cursor) : Decidable (Stops name node) :=
  inferInstanceAs (Decidable (_ ∨ _))

/-- A name is used in a module, and nothing between the use and the module declares it. -/
structure Uses (name : String) (root : Tree) (use : Cursor) : Prop where
  isName : use.kind = "identifier"
  text : use.text = name
  isModule : root.kind = "program"
  outward : ∃ inner, use.ancestors = inner ++ [.ofTree root] ∧ ∀ node ∈ inner, ¬Stops name node

/-- A name that nothing inside stops is looked for further out. -/
theorem localAmong?_append {inner : List Cursor} (through : ∀ node ∈ inner, ¬Stops name node)
    (outer : List Cursor) : localAmong? name (inner ++ outer) = localAmong? name outer := by
  induction inner with
  | nil => rfl
  | cons node rest ih =>
      obtain ⟨passes, others⟩ := List.forall_mem_cons.1 through
      obtain ⟨inside, passes⟩ := not_or.1 passes
      obtain ⟨noParameter, noStatement⟩ := not_or.1 passes
      have parameter : (if isFunction node.kind then parameter? node name else none) = none := by
        split
        · next function => simpa [function] using noParameter
        · rfl
      rw [List.cons_append, localAmong?, parameter]
      simp only [beq_eq_false_iff_ne.2 inside, Bool.false_eq_true, if_false]
      split
      · next block =>
          have none : scopeDeclaration? node name = none := by
            simpa [beq_iff_eq.1 block] using noStatement
          rw [none]
          exact ih others
      · exact ih others

/-- A name that is declared nowhere between its use and the module is looked for among the
statements at the top. -/
theorem Uses.localDeclaration?_eq (uses : Uses name root use) :
    localDeclaration? use name = scopeDeclaration? (.ofTree root) name := by
  obtain ⟨inner, outward, through⟩ := uses.outward
  have isModule : (Cursor.ofTree root).kind = "program" := uses.isModule
  rw [localDeclaration?, outward, localAmong?_append through, localAmong?]
  simp [isModule, isFunction, Grammar.functionExpressions, Grammar.functionDeclarations]

end Lookup

/-- A name that stands for nothing of its own, without dots. -/
structure Inference.IsPlain (name : String) : Prop where
  nonempty : name ≠ ""
  other : name ∉ ["undefined", "NaN", "Infinity"]
  whole : Text.pieces '.' name = [name]

/-- The questions about the type of a name where it is used: as an expression, and behind
`typeof`. -/
inductive Inference.Reads (use : Cursor) (place : Place) : (Ask → CheckM TypeId) → Prop where
  | expression (literal frozen : Bool) :
      Reads use place fun ask => ask.ofExpression use place literal frozen
  | query {node : Cursor} (isQuery : node.kind = "type_query")
      (target : node.lastPart? = some use) : Reads use place fun ask => ask.typeAt node place

namespace Inference

variable {name : String} {root : Tree} {use : Cursor} {place : Place} {rule : Ask → CheckM TypeId}

theorem expression_of_identifier (isName : use.kind = "identifier") (ask : Ask)
    (literal frozen : Bool) :
    expression ask use place literal frozen =
      identifier ask use.text use place (literal || frozen) := by
  unfold expression
  simp only [isName]
  rfl

/-- A type query is read as the value path of its target. -/
theorem ofNode_of_query {node : Cursor} (isQuery : node.kind = "type_query")
    (target : node.lastPart? = some use) (ask : Ask) :
    TypeSyntax.ofNode ask node place none = valuePath ask use place := by
  unfold TypeSyntax.ofNode
  simp only [isQuery, target]
  rfl

theorem valuePath_of_plain (text : use.text = name) (plain : IsPlain name) (ask : Ask) :
    valuePath ask use place = identifier ask name use place true := by
  simp only [valuePath, text, plain.whole, List.foldlM_nil, bind_pure]

/-- However the type of a name is asked for, it is found by the rule for names. -/
theorem Reads.ensures (reads : Reads use place rule) (uses : Lookup.Uses name root use)
    (plain : IsPlain name) {pre : State → Prop} {post : TypeId → State → Prop}
    (each : ∀ keep, Ensures pre (fun ask => identifier ask name use place keep) post) :
    Ensures pre rule post := by
  cases reads with
  | expression literal frozen =>
      refine Ensures.asked ?_
      simp only [Answer.step, expression_of_identifier uses.isName, uses.text]
      exact each _
  | query isQuery target =>
      refine Ensures.asked ?_
      simp only [Answer.step, ofNode_of_query isQuery target, valuePath_of_plain uses.text plain]
      exact each true

theorem IsPlain.ne_undefined (plain : IsPlain name) : name ≠ "undefined" :=
  fun same => plain.other (same ▸ List.mem_cons_self)

theorem IsPlain.not_number (plain : IsPlain name) :
    ¬(decide (name = "NaN") || decide (name = "Infinity")) = true := by
  simpa using (not_or.1 (mt List.mem_cons.2 plain.other)).2

section Plain

variable {declaration : Cursor} (plain : IsPlain name)

include plain

/-- A plain name that is declared in the text around it has the type of the declaration. -/
theorem identifier_of_declared (there : Lookup.localDeclaration? use name = some declaration)
    (ask : Ask) (keep : Bool) :
    identifier ask name use place keep =
      localValue ask name declaration place >>= fun t => Check.keepLiteral t keep := by
  rw [identifier, if_neg plain.ne_undefined, if_neg plain.not_number, there]

/-- Another plain name has the type of what it means in the module. -/
theorem ensures_identifier {s : State} {found : Lookup.Found} {keep : Bool}
    {post : TypeId → State → Prop} (nowhere : Lookup.localDeclaration? use name = none)
    (finds : Lookup.find? s.toProgram place.source name .values = .ok (some found))
    (ensures : Ensures (· = s) (fun ask => binding ask found >>= fun t => Check.keepLiteral t keep)
      post) :
    Ensures (· = s) (fun ask => identifier ask name use place keep) post := by
  simp only [identifier, if_neg plain.ne_undefined, if_neg plain.not_number, nowhere]
  exact Ensures.bind_run (Lookup.run_lookup finds) ensures

end Plain

end Inference

/-! ## Functions and their signatures -/

/-- The node that a signature is read at. -/
def CallSignature.node? (call : CallSignature) : Option Cursor :=
  call.declaration.bind Declaration.node

/-- What makes the type of a function: where the first of its nodes begins, and what the type
parameters stand for that are in view. -/
def Signature.keyAt (node : Cursor) (place : Place) : Key :=
  .function place.source.path node.mark.start (Env.key place.env)

/-- A type is a function that has a signature at each of some nodes. -/
def State.IsFunction (s : State) (t : TypeId) (nodes : List Cursor) : Prop :=
  ∃ r, s.records[t]? = some r ∧ r.category = .function ∧ r.shape = .function nodes ∧
    ∀ calls, r.cache.calls = some calls → calls.map CallSignature.node? = nodes.map some

/-- The type of a key, if there is one, is a function that has a signature at each of some nodes. -/
def State.Reserves (s : State) (key : Key) (nodes : List Cursor) : Prop :=
  ∀ t, s.interned[key]? = some t → s.IsFunction t nodes

/-- A rule comes to the type of a key, which is a function that has a signature at each of some
nodes. -/
def State.GivesFunction (s : State) (rule : Ask → CheckM TypeId) (key : Key) (nodes : List Cursor) :
    Prop :=
  Ensures (· = s) rule fun t left =>
    s.Extends left ∧ left.interned[key]? = some t ∧ left.IsFunction t nodes

/-- A part of a type is not being found. -/
def State.Idle (s : State) (t : TypeId) (part : Part) : Prop :=
  ∀ r, s.records[t]? = some r → part ∉ r.loading

namespace Signature

@[simp] theorem overloads_singleton (node : Cursor) : overloads [node] = [node] := by
  simp [overloads, List.filter_cons]

/-- A node with a body has the signatures of a function for itself only if it is the only node. -/
theorem overloads_eq_singleton_iff {nodes : List Cursor} {node : Cursor}
    (body : (node.field? "body").isSome = true) : overloads nodes = [node] ↔ nodes = [node] := by
  refine ⟨fun alone => ?_, fun alone => alone ▸ overloads_singleton node⟩
  unfold overloads at alone
  dsimp only at alone
  split at alone
  · exact alone
  · have among : node ∈ nodes.filter fun node => (node.field? "body").isNone :=
      alone ▸ List.mem_singleton_self node
    have none := (List.mem_filter.1 among).2
    simp [Option.isNone_iff_eq_none.1 none] at body

theorem node?_of_ofNode {ask : Ask} {place : Place} {node : Cursor} {s : State}
    {call : CallSignature} (returned : outcome (ofNode ask place none node) s = .ok call) :
    call.node? = some node := by
  obtain ⟨inside, -, returned⟩ := outcome_bind_eq_ok returned
  obtain ⟨listed, -, returned⟩ := outcome_bind_eq_ok returned
  obtain ⟨result, -, returned⟩ := outcome_bind_eq_ok returned
  obtain ⟨text, -, returned⟩ := outcome_bind_eq_ok returned
  cases returned
  rfl

/-- Each signature is read at its node. -/
theorem nodes_of_mapM {ask : Ask} {place : Place} {nodes : List Cursor} {s : State}
    {calls : List CallSignature}
    (returned : outcome (nodes.mapM (ofNode ask place none)) s = .ok calls) :
    calls.map CallSignature.node? = nodes.map some := by
  induction nodes generalizing s calls with
  | nil =>
      cases returned
      rfl
  | cons node rest ih =>
      rw [List.mapM_cons] at returned
      obtain ⟨call, first, returned⟩ := outcome_bind_eq_ok returned
      obtain ⟨others, later, returned⟩ := outcome_bind_eq_ok returned
      cases returned
      rw [List.map_cons, List.map_cons, node?_of_ofNode first, ih later]

end Signature

namespace State.IsFunction

variable {s : State} {t : TypeId} {nodes : List Cursor}

/-- A function has one signature for each of its nodes, in their order. -/
theorem nodes_of_calls (isFunction : s.IsFunction t nodes) (idle : s.Idle t .calls) {limit : Nat}
    {calls : List CallSignature} (returned : outcome ((answer limit).calls t) s = .ok calls) :
    calls.map CallSignature.node? = nodes.map some := by
  obtain ⟨r, known, category, shape, kept⟩ := isFunction
  obtain ⟨part, loaded, returned⟩ := outcome_bind_eq_ok returned
  cases returned
  cases limit with
  | zero => cases loaded
  | succ limit =>
      replace loaded : outcome (Answer.load (answer limit) t .calls) s = .ok part := loaded
      cases found : r.cache.get? .calls with
      | some calls =>
          rw [outcome, Answer.run_load_of_some known found] at loaded
          cases loaded
          exact kept calls found
      | none =>
          have rule : Answer.loader? (answer limit) t r .calls =
              some (Answer.syntaxOf r.toTypeFacts >>= fun found =>
                nodes.mapM (Signature.ofNode (answer limit) found.2 none)) := by
            simp only [Answer.loader?, shape]
          rw [outcome, Answer.run_load_of_find known found rule (idle r known)] at loaded
          split at loaded
          · next content read =>
              cases loaded
              obtain ⟨⟨node, place⟩, -, read⟩ := outcome_bind_eq_ok read
              exact Signature.nodes_of_mapM read
          · cases loaded

/-- To widen a function leaves it as it is. -/
theorem comes_keepLiteral (isFunction : s.IsFunction t nodes) (keep : Bool) :
    Comes (· = s) (fun _ => Check.keepLiteral t keep) t := by
  obtain ⟨r, known, category, -⟩ := isFunction
  cases keep with
  | true => exact .pure t
  | false =>
      simp only [Check.keepLiteral, Bool.false_eq_true, if_false, Check.widen]
      refine (Comes.facts (fun _ same => same ▸ .refl s) known).bind ?_
      simp only [category]
      exact .pure t

end State.IsFunction

/-- A function stays one whether or not literals are kept. -/
theorem State.GivesFunction.keepLiteral {s : State} {rule : Ask → CheckM TypeId} {key : Key}
    {nodes : List Cursor} (gives : s.GivesFunction rule key nodes) (keep : Bool) :
    s.GivesFunction (fun ask => rule ask >>= fun t => Check.keepLiteral t keep) key nodes := by
  refine Ensures.bind gives fun t => .ofEach fun left there => ?_
  refine (there.2.2.comes_keepLiteral keep).consequence (fun _ => id) ?_
  rintro _ _ ⟨rfl, rfl⟩
  exact there

/-- The type of a function that is declared by some nodes is that of its key. -/
theorem State.ensures_functionOf {s : State} {first : Cursor} {others : List Cursor} {place : Place}
    {symbol : Symbol} (complete : place.blanks = [])
    (reserved : s.Reserves (Signature.keyAt first place) (Signature.overloads (first :: others))) :
    s.GivesFunction (fun _ => Signature.functionOf (first :: others) place symbol)
      (Signature.keyAt first place) (Signature.overloads (first :: others)) := by
  refine Ensures.ofRun fun s' same => ?_
  subst same
  simp only [Signature.functionOf, Check.needFirst, Check.complete_of_none complete, pure_bind]
  cases known : s'.interned[Signature.keyAt first place]? with
  | some t =>
      exact ⟨t, s', fun _ => Check.run_intern_of_some known _, .refl s', known, reserved t known⟩
  | none =>
      refine ⟨_, _, fun _ => Check.run_intern_of_none known _, .push known rfl, ?_, ?_⟩
      · exact Std.HashMap.getElem?_insert_self
      · refine ⟨_, Array.getElem?_push_size, rfl, rfl, fun _ found => ?_⟩
        cases found

/-! ## Functions of a module -/

/-- The nodes among declarations of one name that declare functions. -/
def Module.functionNodes (bindings : List Module.Binding) : List Cursor :=
  (bindings.filter (·.kind = .function)).map Module.Binding.node

/-- The nodes at which a function that is declared so has its signatures. -/
def Module.signatureNodes (bindings : List Module.Binding) : List Cursor :=
  Signature.overloads (functionNodes bindings)

/-- The declarations that a source has under a name, of which the first is a function. -/
structure State.DeclaresFunction (s : State) (source : Source) (scope : Module.Scope)
    (name : String) (first : Module.Binding) (others : List Module.Binding) : Prop where
  registered : Entries.find? (Path.normalize source.path) s.sources = some source
  read : source.scope = .ok scope
  ofTree : Module.Scope.ofTree source.root = .ok scope
  declared : Entries.find? name scope.values = some (first :: others)
  isFunction : first.kind = .function

section Functions

variable {s : State} {source : Source} {scope : Module.Scope} {name : String}
  {first binding : Module.Binding} {others : List Module.Binding}

theorem Module.functionNodes_cons (isFunction : first.kind = .function) :
    functionNodes (first :: others) = first.node :: functionNodes others := by
  simp [functionNodes, isFunction]

/-- The type of a function of a module is that of the key of its first declaration. -/
theorem State.ensures_functionOfBindings (isFunction : first.kind = .function)
    (reserved : s.Reserves (Signature.keyAt first.node (.top source))
      (Module.signatureNodes (first :: others))) :
    s.GivesFunction (fun _ => Signature.functionOfBindings source (first :: others))
      (Signature.keyAt first.node (.top source)) (Module.signatureNodes (first :: others)) := by
  rw [Module.signatureNodes, Module.functionNodes_cons isFunction] at reserved ⊢
  have nodes : ((first :: others).filter (·.kind = .function)).map Module.Binding.node =
      first.node :: Module.functionNodes others := Module.functionNodes_cons isFunction
  simp only [Signature.functionOfBindings, Check.needFirst, pure_bind, nodes]
  exact State.ensures_functionOf rfl reserved

namespace State.DeclaresFunction

variable (declares : s.DeclaresFunction source scope name first others)

include declares

theorem valuesOf_eq : scope.valuesOf name = first :: others := by
  rw [Module.Scope.valuesOf, declares.declared]
  rfl

/-- Every declaration of a function has the type of the function. -/
theorem ensures_ofDeclaration (among : binding ∈ first :: others)
    (isFunction : binding.kind = .function) (isSound : binding.node.focus.findError = none)
    (reserved : s.Reserves (Signature.keyAt first.node (.top source))
      (Module.signatureNodes (first :: others))) :
    s.GivesFunction (fun ask => ask.ofDeclaration (.ofBinding source.path binding))
      (Signature.keyAt first.node (.top source)) (Module.signatureNodes (first :: others)) := by
  have named : binding.name = name :=
    Module.Scope.named_of_ofTree declares.ofTree (declares.valuesOf_eq ▸ among)
  have functions : (Inference.bindingsOf (some binding.name) scope.values).filter
      (·.kind = .function) = first :: others.filter (·.kind = .function) := by
    simp [Inference.bindingsOf, named, declares.declared, declares.isFunction]
  have nodes : Module.signatureNodes (first :: others.filter (·.kind = .function)) =
      Module.signatureNodes (first :: others) := by
    simp [Module.signatureNodes, Module.functionNodes, declares.isFunction]
  have present : (Inference.presentSource (.ofBinding source.path binding)).run.run s =
      (.ok source, s) := by
    rw [Inference.run_presentSource, Declaration.ofBinding, declares.registered]
    rfl
  have sound : Check.checkSyntax binding.node source = pure () := by
    rw [Check.checkSyntax, isSound]
  have tables : Check.scopeOf source = pure scope := by
    rw [Check.scopeOf, declares.read]
    rfl
  refine Ensures.asked ?_
  simp only [Answer.step, Inference.declarationType]
  refine Ensures.bind_run present ?_
  simp only [Inference.syntaxOf, Declaration.ofBinding, pure_bind, sound, isFunction, tables,
    functions, List.isEmpty_cons, Bool.false_eq_true, if_false]
  rw [← nodes] at reserved ⊢
  exact State.ensures_functionOfBindings declares.isFunction reserved

/-- A module has the function under its own name. -/
theorem find?_eq : Lookup.find? s.toProgram source name .values =
    .ok (some ⟨source, first :: others⟩) := by
  have declared : Lookup.declarations? scope name .values = some (first :: others) :=
    declares.declared
  exact congrArg (Except.map Prod.fst) (Lookup.search_of_declared declares.read declared)

end State.DeclaresFunction

/-! ## Uses of functions -/

section Uses

variable {use declaration : Cursor} {root : Tree} {place : Place} {rule : Ask → CheckM TypeId}
  (uses : Lookup.Uses name root use) (plain : Inference.IsPlain name)
  (reads : Inference.Reads use place rule)

include uses plain reads

/-- A name that no statement at the top of its module declares has the type of the function that
the module has, or imports, under the name. -/
theorem State.ensures_foundUse
    (absent : Lookup.scopeDeclaration? (.ofTree root) name = none)
    (found : Lookup.find? s.toProgram place.source name .values =
      .ok (some ⟨source, first :: others⟩)) (isFunction : first.kind = .function)
    (reserved : s.Reserves (Signature.keyAt first.node (.top source))
      (Module.signatureNodes (first :: others))) :
    s.GivesFunction rule (Signature.keyAt first.node (.top source))
      (Module.signatureNodes (first :: others)) := by
  refine reads.ensures uses plain fun keep => ?_
  have nowhere : Lookup.localDeclaration? use name = none := uses.localDeclaration?_eq.trans absent
  refine Inference.ensures_identifier plain nowhere found ?_
  simp only [Inference.binding, Check.needFirst, pure_bind, isFunction]
  exact (State.ensures_functionOfBindings isFunction reserved).keepLiteral keep

/-- A name that a statement at the top of its module declares as a function has the type of a
function with a signature at this statement alone. -/
theorem State.ensures_declaredUse
    (found : Lookup.scopeDeclaration? (.ofTree root) name = some declaration)
    (isFunction : declaration.kind ∈ Grammar.functionDeclarations) (complete : place.blanks = [])
    (reserved : s.Reserves (Signature.keyAt declaration place) [declaration]) :
    s.GivesFunction rule (Signature.keyAt declaration place) [declaration] := by
  refine reads.ensures uses plain fun keep => ?_
  have there : Lookup.localDeclaration? use name = some declaration :=
    uses.localDeclaration?_eq.trans found
  have value (ask : Ask) : Inference.localValue ask name declaration place =
      Signature.functionAt .function (some name) declaration place := by
    rcases List.mem_cons.1 isFunction with same | same
    · simp [Inference.localValue, same, Grammar.parameters, Grammar.functionDeclarations]
    · simp [Inference.localValue, List.mem_singleton.1 same, Grammar.parameters,
        Grammar.functionDeclarations]
  have alone := Signature.overloads_singleton declaration
  simp only [Inference.identifier_of_declared plain there, value]
  rw [← alone] at reserved ⊢
  exact (State.ensures_functionOf complete reserved).keepLiteral keep

end Uses

/-- A call of a function has the return type of the first signature of the function, and it fails
where the signatures cannot be found. -/
theorem Inference.run_call {use node : Cursor} {place : Place} {limit : Nat} {u : TypeId}
    {left : State} {n : Cursor} {more : List Cursor} (plain : Inference.IsPlain use.text)
    (called : node.field? "function" = some use)
    (callee : ((answer limit).ofExpression use place false false).run.run s = (.ok u, left))
    (isFunction : left.IsFunction u (n :: more)) (idle : left.Idle u .calls) :
    (∀ {calls : List CallSignature} {later : State},
      ((answer limit).calls u).run.run left = (.ok calls, later) →
        ∃ call rest, calls = call :: rest ∧ call.node? = some n ∧
          (Inference.call (answer limit) node place).run.run s = (.ok call.returnType, later)) ∧
    ∀ {fault : Fault} {later : State},
      ((answer limit).calls u).run.run left = (.error fault, later) →
        (Inference.call (answer limit) node place).run.run s = (.error fault, later) := by
  have other : (textOf (some use) == "Object.freeze") = false := by
    refine beq_eq_false_iff_ne.2 fun same => ?_
    have whole : Text.pieces '.' "Object.freeze" = ["Object.freeze"] := same ▸ plain.whole
    exact absurd whole (by decide)
  have callable : (Inference.callable (answer limit) u).run.run left =
      ((answer limit).calls u).run.run left := by
    obtain ⟨r, known, category, -⟩ := isFunction
    rw [Inference.callable, run_bind_ok (Check.run_category known), category]
  refine ⟨fun {calls later} returned => ?_, fun {fault later} failed => ?_⟩
  · have nodes := isFunction.nodes_of_calls idle (congrArg Prod.fst returned)
    cases calls with
    | nil => cases nodes
    | cons call rest =>
        refine ⟨call, rest, rfl, (List.cons.inj nodes).1, ?_⟩
        simp only [Inference.call, called, other, Check.need, pure_bind]
        rw [run_bind_ok callee, run_bind_ok (callable.trans returned)]
        rfl
  · simp only [Inference.call, called, other, Check.need, pure_bind]
    rw [run_bind_ok callee, run_bind, outcome, after, callable, failed]

/-- A function of a module has signatures at its overloads. That is the type of each of its
declarations, and of its name wherever no statement at the top declares the name: in a module that
imports it, and in its own module if all its declarations are overloads.

In its own module the nearest declaration is a statement at the top, of which only one with a body
is looked for, and the name has a type of its own there, with the signature of that statement and no
other. It is the type of the function if the function is declared once and no type parameter is in
view; it has the signatures of the function only if the function is declared once. It has none
where a name in view stands for a type that is still being found. A call has the return type of the
first signature that the type of the name has where it is called. -/
theorem function_uses (declares : s.DeclaresFunction source scope name first others)
    (reserved : s.Reserves (Signature.keyAt first.node (.top source))
      (Module.signatureNodes (first :: others))) :
    (∀ binding ∈ first :: others, binding.kind = .function →
      binding.node.focus.findError = none →
        s.GivesFunction (fun ask => ask.ofDeclaration (.ofBinding source.path binding))
          (Signature.keyAt first.node (.top source)) (Module.signatureNodes (first :: others))) ∧
    Lookup.find? s.toProgram source name .values = .ok (some ⟨source, first :: others⟩) ∧
    (∀ {word : String} {root : Tree} {use : Cursor} {place : Place} {rule : Ask → CheckM TypeId},
      Lookup.Uses word root use → Inference.IsPlain word → Inference.Reads use place rule →
      Lookup.scopeDeclaration? (.ofTree root) word = none →
      Lookup.find? s.toProgram place.source word .values = .ok (some ⟨source, first :: others⟩) →
        s.GivesFunction rule (Signature.keyAt first.node (.top source))
          (Module.signatureNodes (first :: others))) ∧
    (∀ {use declaration : Cursor} {place : Place} {rule : Ask → CheckM TypeId},
      Lookup.Uses name source.root use → Inference.IsPlain name → Inference.Reads use place rule →
      place.source = source →
      Lookup.scopeDeclaration? (.ofTree source.root) name = some declaration →
      declaration.kind ∈ Grammar.functionDeclarations →
      s.Reserves (Signature.keyAt declaration place) [declaration] →
        (place.blanks = [] →
          s.GivesFunction rule (Signature.keyAt declaration place) [declaration]) ∧
        declaration ∈ Module.functionNodes (first :: others) ∧
        (Module.functionNodes (first :: others) = [declaration] → place.env = [] →
          Signature.keyAt declaration place = Signature.keyAt first.node (.top source)) ∧
        ((declaration.field? "body").isSome = true →
          (Module.signatureNodes (first :: others) = [declaration] ↔
            Module.functionNodes (first :: others) = [declaration]))) ∧
    (∀ {left : State} {t : TypeId} {nodes : List Cursor} {limit : Nat} {calls : List CallSignature},
      left.IsFunction t nodes → left.Idle t .calls →
      outcome ((answer limit).calls t) left = .ok calls →
        calls.map CallSignature.node? = nodes.map some) ∧
    ∀ {use node n : Cursor} {place : Place} {limit : Nat} {u : TypeId} {left : State}
      {more : List Cursor}, Inference.IsPlain use.text → node.field? "function" = some use →
      ((answer limit).ofExpression use place false false).run.run s = (.ok u, left) →
      left.IsFunction u (n :: more) → left.Idle u .calls →
        (∀ {calls : List CallSignature} {later : State},
          ((answer limit).calls u).run.run left = (.ok calls, later) →
            ∃ call rest, calls = call :: rest ∧ call.node? = some n ∧
              (Inference.call (answer limit) node place).run.run s =
                (.ok call.returnType, later)) ∧
        ∀ {fault : Fault} {later : State},
          ((answer limit).calls u).run.run left = (.error fault, later) →
            (Inference.call (answer limit) node place).run.run s = (.error fault, later) := by
  refine ⟨fun binding among isFunction isSound =>
      declares.ensures_ofDeclaration among isFunction isSound reserved,
    declares.find?_eq, fun uses plain reads absent found => ?_,
    fun {use declaration place rule} uses plain reads here found isFunction alone => ?_,
    fun isFunction idle returned => isFunction.nodes_of_calls idle returned,
    fun plain called callee isFunction idle =>
      Inference.run_call plain called callee isFunction idle⟩
  · exact State.ensures_foundUse uses plain reads absent found declares.isFunction reserved
  · obtain ⟨binding, among, kind, rfl⟩ := Module.Scope.hasFunction_of_scopeDeclaration?
      declares.ofTree found isFunction plain.nonempty
    have node : binding.node ∈ Module.functionNodes (first :: others) :=
      List.mem_map_of_mem (List.mem_filter.2 ⟨declares.valuesOf_eq ▸ among, decide_eq_true kind⟩)
    refine ⟨fun complete =>
        State.ensures_declaredUse uses plain reads found isFunction complete alone, node,
      fun single top => ?_, Signature.overloads_eq_singleton_iff⟩
    rw [Module.functionNodes_cons declares.isFunction] at single
    rw [(List.cons.inj single).1, Signature.keyAt, Signature.keyAt, here, top]
    rfl

end Functions

/-! ### A function with an overload

`function f(): string; function f(): any {} const x = f()` -/

namespace OneOverload

open ThreeClasses (token piece down)

/-- A part of a declaration of `f` that begins at an index. -/
def named (start : Nat) : Tree := piece "identifier" "f" start (some "name") []

def returns (type : String) (start : Nat) : Tree :=
  piece "type_annotation" (": " ++ type) start (some "return_type")
    [piece "predefined_type" type (start + 2) none []]

def overload : Tree :=
  piece "function_signature" "function f(): string;" 0 none
    [named 9, piece "formal_parameters" "()" 10 (some "parameters") [], returns "string" 12]

def implementation : Tree :=
  piece "function_declaration" "function f(): any {}" 22 none
    [named 31, piece "formal_parameters" "()" 32 (some "parameters") [], returns "any" 34,
      piece "statement_block" "{}" 40 (some "body") []]

def callTree : Tree :=
  piece "call_expression" "f()" 53 (some "value")
    [piece "identifier" "f" 53 (some "function") [],
      piece "arguments" "()" 54 (some "arguments") []]

def statement : Tree :=
  piece "lexical_declaration" "const x = f()" 43 none
    [token "const" 43,
      piece "variable_declarator" "x = f()" 49 none
        [piece "identifier" "x" 49 (some "name") [], callTree]]

def root : Tree :=
  piece "program" "function f(): string; function f(): any {} const x = f()" 0 none
    [overload, implementation, statement]

def source : Source := ⟨"a.ts", root, Module.Scope.ofTree root⟩

/-- The statement at an index. -/
def node (index : Nat) : Cursor := down (.ofTree root) index

/-- The call, and the name that is called. -/
def call : Cursor := down (down (node 2) 1) 1

def callee : Cursor := down call 0

def binding (index : Nat) : Module.Binding := ⟨"f", .function, node index, false⟩

def scope : Module.Scope :=
  { values := [("f", [binding 0, binding 1]),
      ("x", [⟨"x", .variableDecl, down (node 2) 1, false⟩])] }

theorem read_source : Module.Scope.ofTree root = .ok scope := by
  with_unfolding_all rfl

def state : State := { sources := [("a.ts", source)] }

theorem declares : state.DeclaresFunction source scope "f" (binding 0) [binding 1] where
  registered := by with_unfolding_all rfl
  read := read_source
  ofTree := read_source
  declared := rfl
  isFunction := rfl

theorem reserves (key : Key) (nodes : List Cursor) : state.Reserves key nodes := by
  intro t made
  simp [state] at made

theorem uses : Lookup.Uses "f" root callee where
  isName := rfl
  text := rfl
  isModule := rfl
  outward := ⟨[call, down (node 2) 1, node 2], rfl, by decide +kernel⟩

theorem plain : Inference.IsPlain "f" where
  nonempty := by decide
  other := by decide
  whole := by decide +kernel

end OneOverload

open OneOverload in
/-- The function has the signature of its overload, but where it is called its name has that of the
implementation, and the call has the return type of this one. -/
theorem function_uses_overload : ∃ depth t left u later,
    (∀ limit, depth ≤ limit → ((answer limit).ofDeclaration
      (.ofBinding "a.ts" (binding 0))).run.run state = (.ok t, left)) ∧
    left.IsFunction t [node 0] ∧ (node 0).kind = "function_signature" ∧
    (∀ limit, depth ≤ limit → ((answer limit).ofExpression callee (.top source) false
      false).run.run state = (.ok u, later)) ∧
    later.IsFunction u [node 1] ∧ (node 1).kind = "function_declaration" ∧
    ∀ limit, depth ≤ limit → ∀ {calls : List CallSignature} {last : State},
      ((answer limit).calls u).run.run later = (.ok calls, last) →
        ∃ signature rest, calls = signature :: rest ∧ signature.node? = some (node 1) ∧
          (Inference.call (answer limit) call (.top source)).run.run state =
            (.ok signature.returnType, last) := by
  obtain ⟨declared, -, -, used, -, called⟩ := function_uses declares (reserves _ _)
  have asks : Inference.Reads callee (.top source) fun ask =>
      ask.ofExpression callee (.top source) false false := .expression false false
  have found : Lookup.scopeDeclaration? (.ofTree root) "f" = some (node 1) := by
    with_unfolding_all rfl
  have nodes : Module.signatureNodes [binding 0, binding 1] = [node 0] := by
    with_unfolding_all rfl
  obtain ⟨depth, t, left, ⟨-, -, isFunction⟩, run⟩ :=
    (declared (binding 0) List.mem_cons_self rfl (by with_unfolding_all rfl)).exists_run rfl
  obtain ⟨depth', u, later, ⟨extended, -, isFunction'⟩, run'⟩ :=
    ((used uses plain asks rfl found (by decide) (reserves _ _)).1 rfl).exists_run rfl
  rw [nodes] at isFunction
  -- The type is new, so nothing of it is being found.
  have idle : later.Idle u .calls := fun r known => by
    have new : state.records[u]? = none := by simp [state]
    simp [extended.idle known new]
  refine ⟨max depth depth', t, left, u, later, fun limit enough => run limit (by omega),
    isFunction, rfl, fun limit enough => run' limit (by omega), isFunction', rfl, ?_⟩
  intro limit enough calls last returned
  have plainCallee : Inference.IsPlain callee.text := plain
  exact (called plainCallee rfl (run' limit (by omega)) isFunction' idle).1 returned

end TypeGloss
