/-
# TypeGloss.Proofs.Lookup.Shadowing — which constant a name means at a place

A name has its meaning from the nearest node around it that binds it: a block with a declaration
of the name, a function with a parameter of it, or the head of a loop (`Binds`, `Nearest`). The
look-up for initializers knows blocks only, and of their declarations constants only
(`constantAmong?`). It agrees with the nearest binding if that is a constant, or if nothing around
the place binds the name. Any other binding is passed over, and the name then means what it means
outside of the node that binds it (`nearest_constant_in_view`).
-/
import TypeGloss.Proofs.Checker.Inheritance

namespace TypeGloss

set_option autoImplicit false

/-! ## What binds a name -/

namespace Lookup

/-- A pattern has a variable of a name. -/
inductive HasVariable (name : String) : Cursor → Prop where
  | whole {pattern : Cursor} (text : pattern.text = name) : HasVariable name pattern
  | part {pattern inner : Cursor}
      (isPattern : pattern.kind ∈ ["object_pattern", "array_pattern", "rest_pattern"])
      (among : inner ∈ pattern.named) (inside : HasVariable name inner) : HasVariable name pattern
  | target {pattern inner : Cursor}
      (isPattern : pattern.kind ∈ ["assignment_pattern", "object_assignment_pattern"])
      (left : pattern.field? "left" = some inner) (inside : HasVariable name inner) :
      HasVariable name pattern
  | value {pattern inner : Cursor} (isPattern : pattern.kind = "pair_pattern")
      (right : pattern.field? "value" = some inner) (inside : HasVariable name inner) :
      HasVariable name pattern

/-- Statements that declare one value, under their own name. -/
def namedStatements : List String :=
  Grammar.functionDeclarations ++
    ["function_signature", "class_declaration", "abstract_class_declaration", "enum_declaration"]

/-- A statement declares a value of a name. -/
inductive DeclaresValue (name : String) : Cursor → Prop where
  | exported {statement inner : Cursor} (isExport : statement.kind = "export_statement")
      (declaration : statement.field? "declaration" = some inner)
      (inside : DeclaresValue name inner) : DeclaresValue name statement
  | variable {statement declarator pattern : Cursor}
      (isVariable : statement.kind ∈ Grammar.variableStatements)
      (among : declarator ∈ statement.ofKinds ["variable_declarator"])
      (target : declarator.field? "name" = some pattern) (has : HasVariable name pattern) :
      DeclaresValue name statement
  | named {statement : Cursor} (isNamed : statement.kind ∈ namedStatements)
      (text : textOf (statement.field? "name") = name) : DeclaresValue name statement

/-- Nodes whose parts are statements of their own. -/
def blocks : List String := ["statement_block", "program"]

/-- A node gives a name a meaning for what is inside of it. -/
inductive Binds (name : String) : Cursor → Prop where
  | statement {scope statement : Cursor} (isBlock : scope.kind ∈ blocks)
      (among : statement ∈ scope.named) (declares : DeclaresValue name statement) :
      Binds name scope
  | clause {scope clause statement : Cursor} (isSwitch : scope.kind = "switch_body")
      (among : clause ∈ scope.named) (inside : statement ∈ clause.named)
      (declares : DeclaresValue name statement) : Binds name scope
  | parameter {scope holder parameter pattern : Cursor} (function : isFunction scope.kind = true)
      (list : scope.field? "parameters" = some holder) (among : parameter ∈ holder.named)
      (target : parameter.field? "pattern" = some pattern) (has : HasVariable name pattern) :
      Binds name scope
  | single {scope parameter : Cursor} (function : isFunction scope.kind = true)
      (only : scope.field? "parameter" = some parameter) (text : parameter.text = name) :
      Binds name scope
  | own {scope self : Cursor} (isExpression : scope.kind ∈ "class" :: Grammar.functionExpressions)
      (called : scope.field? "name" = some self) (text : self.text = name) : Binds name scope
  | loop {scope head : Cursor} (isLoop : scope.kind = "for_statement")
      (first : scope.field? "initializer" = some head) (declares : DeclaresValue name head) :
      Binds name scope
  | each {scope pattern : Cursor} (isLoop : scope.kind = "for_in_statement")
      (declares : (scope.field? "kind").isSome = true)
      (left : scope.field? "left" = some pattern) (has : HasVariable name pattern) :
      Binds name scope
  | caught {scope pattern : Cursor} (isCatch : scope.kind = "catch_clause")
      (parameter : scope.field? "parameter" = some pattern) (has : HasVariable name pattern) :
      Binds name scope

/-- Nodes that can bind names. -/
def isBinder (kind : String) : Bool :=
  isFunction kind || (blocks ++
    ["class", "switch_body", "for_statement", "for_in_statement", "catch_clause"]).contains kind

/-- A node is the nearest around a place that binds a name. -/
structure Nearest (name : String) (place scope : Cursor) : Prop where
  binds : Binds name scope
  outward : ∃ inner outer, place.ancestors = inner ++ scope :: outer ∧
    ∀ node ∈ inner, ¬Binds name node

/-- A statement declares a name by a node: one of its variables, or itself as a function. -/
inductive DeclaredBy (name : String) (statement : Cursor) : Cursor → Prop where
  | declarator {declarator pattern : Cursor}
      (isVariable : statement.kind ∈ Grammar.variableStatements)
      (among : declarator ∈ statement.ofKinds ["variable_declarator"])
      (target : declarator.field? "name" = some pattern) (text : pattern.text = name) :
      DeclaredBy name statement declarator
  | function (isFunction : statement.kind ∈ Grammar.functionDeclarations)
      (text : textOf (statement.field? "name") = name) : DeclaredBy name statement statement

/-- A node declares a name among the statements of a block. -/
def DeclaredAt (name : String) (scope node : Cursor) : Prop :=
  ∃ statement ∈ scope.named, ∃ plain, exportedStatement? statement = some plain ∧
    DeclaredBy name plain node

/-- A block declares a name by a constant. -/
structure HasConstant (name : String) (scope declarator : Cursor) : Prop where
  isBlock : scope.kind ∈ blocks
  declared : DeclaredAt name scope declarator
  constant : isConstant declarator = true

/-- A block declares a name by a constant and by nothing else. -/
structure IsConstantOf (name : String) (scope declarator : Cursor) : Prop
    extends HasConstant name scope declarator where
  alone : ∀ other, DeclaredAt name scope other → other = declarator

/-- The initializer of the first declaration of a name in a module, if it is a constant. -/
def Found.initializer? (found : Found) : Option Cursor :=
  (found.bindings.head?.filter fun binding => isConstant binding.node).bind fun binding =>
    binding.node.field? "value"

/-! ## The declarations that blocks are searched for -/

variable {name : String} {scope statement plain node : Cursor}

theorem Binds.isBinder (binds : Binds name scope) : isBinder scope.kind = true := by
  rw [Lookup.isBinder, Bool.or_eq_true, List.contains_iff_mem]
  cases binds with
  | statement isBlock => exact .inr (List.mem_append_left _ isBlock)
  | clause isSwitch => exact .inr (by simp [isSwitch])
  | parameter function => exact .inl function
  | single function => exact .inl function
  | own isExpression =>
      rcases List.mem_cons.1 isExpression with isClass | function
      · exact .inr (by simp [isClass])
      · exact .inl (by simp [isFunction, function])
  | loop isLoop => exact .inr (by simp [isLoop])
  | each isLoop => exact .inr (by simp [isLoop])
  | caught isCatch => exact .inr (by simp [isCatch])

/-- A declaration that is found in a statement is one that the statement declares. -/
theorem exists_declaredBy_of_declaredIn? (found : declaredIn? name statement = some node) :
    ∃ plain, exportedStatement? statement = some plain ∧ DeclaredBy name plain node := by
  obtain ⟨plain, exported, found⟩ := Option.bind_eq_some_iff.1 found
  refine ⟨plain, exported, ?_⟩
  split at found
  · next isVariable =>
      have called := List.find?_some found
      cases target : node.field? "name" with
      | none => simp [target] at called
      | some pattern =>
          rw [target] at called
          exact .declarator (List.contains_iff_mem.1 isVariable) (List.mem_of_find?_eq_some found)
            target (beq_iff_eq.1 called)
  · split at found
    · next isFunction =>
        split at found
        · next called =>
            cases found
            exact .function (List.contains_iff_mem.1 isFunction) (beq_iff_eq.1 called)
        · cases found
    · cases found

theorem not_function_of_variable (isVariable : plain.kind ∈ Grammar.variableStatements) :
    plain.kind ∉ Grammar.functionDeclarations := by
  simp only [Grammar.variableStatements, List.mem_cons, List.not_mem_nil, or_false] at isVariable
  rcases isVariable with same | same <;> rw [same] <;> decide

/-- A name that a statement declares is found there. -/
theorem declaredIn?_isSome (exported : exportedStatement? statement = some plain)
    (declares : DeclaredBy name plain node) : (declaredIn? name statement).isSome = true := by
  unfold declaredIn?
  rw [exported, Option.bind_eq_bind, Option.bind_some]
  cases declares with
  | declarator isVariable among target text =>
      rw [if_pos (List.contains_iff_mem.2 isVariable), declaratorIn?, List.find?_isSome]
      exact ⟨node, among, by simp [target, text]⟩
  | function isFunction text =>
      -- Variables are asked for first.
      have noVariable : plain.kind ∉ Grammar.variableStatements :=
        fun isVariable => not_function_of_variable isVariable isFunction
      simp [isFunction, noVariable, text]

theorem DeclaredAt.of_scopeDeclaration? (found : scopeDeclaration? scope name = some node) :
    DeclaredAt name scope node := by
  obtain ⟨statement, among, found⟩ := List.exists_of_findSome?_eq_some found
  exact ⟨statement, among, exists_declaredBy_of_declaredIn? found⟩

theorem DeclaredAt.isSome (declared : DeclaredAt name scope node) :
    (scopeDeclaration? scope name).isSome = true := by
  obtain ⟨statement, among, plain, exported, declares⟩ := declared
  exact List.findSome?_isSome_iff.2 ⟨statement, among, declaredIn?_isSome exported declares⟩

theorem DeclaredBy.declaresValue (declares : DeclaredBy name plain node) :
    DeclaresValue name plain := by
  cases declares with
  | declarator isVariable among target text => exact .variable isVariable among target (.whole text)
  | function isFunction text => exact .named (List.mem_append_left _ isFunction) text

theorem DeclaredAt.binds (declared : DeclaredAt name scope node) (isBlock : scope.kind ∈ blocks) :
    Binds name scope := by
  obtain ⟨statement, among, plain, exported, declares⟩ := declared
  refine .statement isBlock among ?_
  unfold exportedStatement? at exported
  split at exported
  · next isExport => exact .exported (beq_iff_eq.1 isExport) exported declares.declaresValue
  · cases exported
    exact declares.declaresValue

/-! ## One block, and all around a place -/

/-- The constant that a node is found to declare a name by. -/
def constantOf? (name : String) (scope : Cursor) : Option Cursor :=
  if blocks.contains scope.kind then (scopeDeclaration? scope name).filter isConstant else none

theorem constantAmong?_eq (ancestors : List Cursor) :
    constantAmong? name ancestors = ancestors.findSome? (constantOf? name) := rfl

theorem HasConstant.of_constantOf? (found : constantOf? name scope = some node) :
    HasConstant name scope node := by
  unfold constantOf? at found
  split at found
  · next isBlock =>
      obtain ⟨found, constant⟩ := Option.filter_eq_some_iff.1 found
      exact ⟨List.contains_iff_mem.1 isBlock, .of_scopeDeclaration? found, constant⟩
  · cases found

theorem IsConstantOf.constantOf?_eq (only : IsConstantOf name scope node) :
    constantOf? name scope = some node := by
  obtain ⟨found, declared⟩ := Option.isSome_iff_exists.1 only.declared.isSome
  obtain rfl := only.alone found (.of_scopeDeclaration? declared)
  rw [constantOf?, if_pos (List.contains_iff_mem.2 only.isBlock), declared]
  exact Option.filter_eq_some_iff.2 ⟨rfl, only.constant⟩

theorem not_isConstantOf (nothing : constantOf? name scope = none) (node : Cursor) :
    ¬IsConstantOf name scope node := fun only => by
  simp [only.constantOf?_eq] at nothing

theorem constantOf?_eq_none (other : ∀ node, ¬HasConstant name scope node) :
    constantOf? name scope = none :=
  Option.eq_none_iff_forall_ne_some.2 fun node found => other node (.of_constantOf? found)

theorem constantOf?_eq_none_of_not_binds (free : ¬Binds name scope) :
    constantOf? name scope = none :=
  constantOf?_eq_none fun _ has => free (has.declared.binds has.isBlock)

/-- What does not bind a name is passed over. -/
theorem constantAmong?_append {inner : List Cursor} (free : ∀ node ∈ inner, ¬Binds name node)
    (outer : List Cursor) :
    constantAmong? name (inner ++ outer) = constantAmong? name outer := by
  have nothing : inner.findSome? (constantOf? name) = none :=
    List.findSome?_eq_none_iff.2 fun node among =>
      constantOf?_eq_none_of_not_binds (free node among)
  rw [constantAmong?_eq, List.findSome?_append, nothing, Option.none_or, constantAmong?_eq]

/-- What is around a node on the way up is around it wherever the way began. -/
theorem ancestors_of_along {steps : List Step} {inner outer : List Cursor}
    (way : Cursor.along steps = inner ++ scope :: outer) : outer = scope.ancestors := by
  induction inner generalizing steps with
  | nil =>
      cases steps with
      | nil => cases way
      | cons step rest =>
          obtain ⟨rfl, rfl⟩ := List.cons.inj way
          rfl
  | cons first inner ih =>
      cases steps with
      | nil => cases way
      | cons step rest => exact ih (List.cons.inj way).2

/-- The nearest binding of a name is the first one that is met. -/
theorem Nearest.constantAmong?_eq {place : Cursor} (nearest : Nearest name place scope) :
    constantAmong? name place.ancestors =
      (constantOf? name scope).or (constantAmong? name scope.ancestors) := by
  obtain ⟨inner, outer, outward, free⟩ := nearest.outward
  rw [outward, constantAmong?_append free, ancestors_of_along outward, Lookup.constantAmong?_eq,
    List.findSome?_cons]
  cases constantOf? name scope <;> rfl

/-! ## Initializers -/

variable {program : Program} {source : Source} {place : Cursor}

theorem constantInView?_of_some (found : constantAmong? name place.ancestors = some node) :
    constantInView? program source place name = .ok (node.field? "value") := by
  rw [constantInView?, found]
  rfl

/-- Where no block declares the name, it means a constant of the module or an imported one. -/
theorem constantInView?_of_none (nowhere : constantAmong? name place.ancestors = none) :
    constantInView? program source place name =
      (find? program source name .values).map fun found => found.bind Found.initializer? := by
  rw [constantInView?, nowhere]
  cases find? program source name .values with
  | error fault => rfl
  | ok found =>
      cases found with
      | none => rfl
      | some found =>
          obtain ⟨found, bindings⟩ := found
          cases bindings with
          | nil => rfl
          | cons binding rest =>
              cases constant : isConstant binding.node <;>
                simp [Bind.bind, Except.bind, Except.map, Found.initializer?, Option.filter,
                  constant, pure, Except.pure]

/-- What is found is the initializer of a constant around the place, or of one that the module
knows if nothing around the place is a constant of the name and nothing else. -/
theorem constant_of_constantInView? {found : Cursor}
    (returned : constantInView? program source place name = .ok (some found)) :
    (∃ inner scope declarator, place.ancestors = inner ++ scope :: scope.ancestors ∧
      HasConstant name scope declarator ∧ declarator.field? "value" = some found ∧
      ∀ node ∈ inner, ∀ other, ¬IsConstantOf name node other) ∨
    (∀ node ∈ place.ancestors, ∀ other, ¬IsConstantOf name node other) ∧
      ∃ declared, find? program source name .values = .ok (some declared) ∧
        declared.initializer? = some found := by
  cases among : constantAmong? name place.ancestors with
  | some declarator =>
      rw [constantInView?_of_some among] at returned
      obtain ⟨inner, scope, outer, outward, here, before⟩ := List.findSome?_eq_some_iff.1 among
      refine .inl ⟨inner, scope, declarator, ?_, .of_constantOf? here, Except.ok.inj returned,
        fun node passed => not_isConstantOf (before node passed)⟩
      rw [← ancestors_of_along outward]
      exact outward
  | none =>
      rw [constantInView?_of_none among] at returned
      have passed := List.findSome?_eq_none_iff.1 among
      refine .inr ⟨fun node around => not_isConstantOf (passed node around), ?_⟩
      cases declared : find? program source name .values with
      | error fault => simp [declared, Except.map] at returned
      | ok result =>
          rw [declared] at returned
          obtain ⟨binding, rfl, initializer⟩ := Option.bind_eq_some_iff.1 (Except.ok.inj returned)
          exact ⟨binding, rfl, initializer⟩

/-- What a name means depends on what is around the place only. -/
theorem constantInView?_congr {other : Cursor}
    (same : constantAmong? name place.ancestors = constantAmong? name other.ancestors) :
    constantInView? program source place name = constantInView? program source other name := by
  rw [constantInView?, constantInView?, same]

end Lookup

/-! ## Constants in view at a declaration -/

section Declarations

open Lookup

variable {name : String} {program : Program} {source : Source} {declaration : Declaration}
  {place : Cursor}

/-- The constant that a name means at a declaration is the nearest around it, and then that of the
module or of what the module imports. If nothing nearer binds the name, that is its meaning. A
binding of another sort does not hide it: around a declaration that is inside of such a binding the
name means what it means outside of it. -/
theorem nearest_constant_in_view (written : declaration.node = some place)
    (registered : Entries.find? declaration.path program.sources = some source) :
    (∀ scope declarator, Nearest name place scope → IsConstantOf name scope declarator →
      Checker.constantIn? program declaration name = .ok (declarator.field? "value")) ∧
    (∀ scope, Nearest name place scope → (∀ declarator, ¬HasConstant name scope declarator) →
      Checker.constantIn? program declaration name = constantInView? program source scope name) ∧
    ((∀ node ∈ place.ancestors, ¬Binds name node) →
      Checker.constantIn? program declaration name =
        (find? program source name .values).map fun found => found.bind Found.initializer?) ∧
    ∀ found, Checker.constantIn? program declaration name = .ok (some found) →
      (∃ inner scope declarator, place.ancestors = inner ++ scope :: scope.ancestors ∧
        HasConstant name scope declarator ∧ declarator.field? "value" = some found ∧
        ∀ node ∈ inner, ∀ other, ¬IsConstantOf name node other) ∨
      (∀ node ∈ place.ancestors, ∀ other, ¬IsConstantOf name node other) ∧
        ∃ declared, find? program source name .values = .ok (some declared) ∧
          declared.initializer? = some found := by
  have same : Checker.constantIn? program declaration name =
      constantInView? program source place name := by
    rw [Checker.constantIn?, written, registered]
  rw [same]
  refine ⟨fun scope declarator nearest only => ?_, fun scope nearest other => ?_, fun free => ?_,
    fun found => constant_of_constantInView?⟩
  · refine constantInView?_of_some ?_
    rw [nearest.constantAmong?_eq, only.constantOf?_eq, Option.some_or]
  · refine constantInView?_congr ?_
    rw [nearest.constantAmong?_eq, constantOf?_eq_none other, Option.none_or]
  · refine constantInView?_of_none ?_
    have nothing := constantAmong?_append free []
    rwa [List.append_nil] at nothing

end Declarations

/-! ### A parameter with the name of a constant

`const size = 1; function f(size, y = size) {}` -/

namespace HiddenConstant

open Lookup
open ThreeClasses (token piece down)

def constant : Tree :=
  piece "lexical_declaration" "const size = 1;" 0 none
    [token "const" 0,
      piece "variable_declarator" "size = 1" 6 none
        [piece "identifier" "size" 6 (some "name") [], piece "number" "1" 13 (some "value") []]]

def function : Tree :=
  piece "function_declaration" "function f(size, y = size) {}" 16 none
    [piece "identifier" "f" 25 (some "name") [],
      piece "formal_parameters" "(size, y = size)" 26 (some "parameters")
        [piece "required_parameter" "size" 27 none
            [piece "identifier" "size" 27 (some "pattern") []],
          piece "required_parameter" "y = size" 33 none
            [piece "identifier" "y" 33 (some "pattern") [],
              piece "identifier" "size" 37 (some "value") []]],
      piece "statement_block" "{}" 43 (some "body") []]

def root : Tree :=
  piece "program" "const size = 1; function f(size, y = size) {}" 0 none [constant, function]

def source : Source := ⟨"a.ts", root, Module.Scope.ofTree root⟩

def program : Program := { sources := [("a.ts", source)] }

/-- The function, and its second parameter. -/
def scope : Cursor := down (.ofTree root) 1

def parameter : Cursor := down (down scope 1) 1

def declaration : Declaration := ⟨.parameter, some "y", "a.ts", some parameter⟩

/-- The constant, and its initializer. -/
def declarator : Cursor := down (down (.ofTree root) 0) 1

def initializer : Cursor := down declarator 1

/-- The function is the nearest that binds the name, by its first parameter. -/
theorem nearest : Nearest "size" parameter scope where
  binds :=
    @Binds.parameter "size" scope (down scope 1) (down (down scope 1) 0)
      (down (down (down scope 1) 0) 0) rfl rfl (.head _) rfl (.whole rfl)
  outward := ⟨[down scope 1], [.ofTree root], rfl, fun node among => by
    obtain rfl := List.mem_singleton.1 among
    exact fun binds => absurd binds.isBinder (by decide)⟩

end HiddenConstant

open HiddenConstant in
/-- The second parameter has the value of the constant as its default. But the name means the first
parameter there, which is what the type of the second is inferred from. -/
theorem nearest_constant_in_view_hidden :
    Lookup.Nearest "size" parameter scope ∧
    (∀ declarator, ¬Lookup.HasConstant "size" scope declarator) ∧
    Lookup.localDeclaration? parameter "size" = Lookup.parameter? scope "size" ∧
    (Lookup.parameter? scope "size").isSome = true ∧
    Checker.constantIn? program declaration "size" = .ok (some initializer) := by
  have other (declarator : Cursor) : ¬Lookup.HasConstant "size" scope declarator :=
    fun has => absurd has.isBlock (by decide)
  have among : Lookup.constantAmong? "size" scope.ancestors =
      some declarator := by
    with_unfolding_all rfl
  obtain ⟨-, passes, -⟩ :=
    @nearest_constant_in_view "size" program source declaration parameter rfl rfl
  refine ⟨nearest, other, by with_unfolding_all rfl, rfl, ?_⟩
  rw [passes scope nearest other]
  exact Lookup.constantInView?_of_some among

end TypeGloss
