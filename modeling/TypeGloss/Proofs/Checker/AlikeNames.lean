/-
# TypeGloss.Proofs.Checker.AlikeNames — names stand for the same types under other numbers

Answers are *uniform* at an offset if checkers that are alike answer every question alike:
whatever is asked about is read over, and so is the answer. Here this is carried over from
the answers to the rules by which texts are written, names are looked up and references are
read. Numbers are compared for being the same and for nothing else, so nothing depends on how
great they are.
-/
import TypeGloss.Proofs.Checker.Alike
import TypeGloss.Proofs.Checker.Reads

namespace TypeGloss

set_option autoImplicit false

/-- Checkers that are alike answer alike. -/
structure Uniform (o : Offset) (ask : Ask) : Prop where
  typeThrough : ∀ via node place,
    Parallel o.Alike o.type (ask.typeThrough via node place)
      (ask.typeThrough (via.map o.ref) node (o.place place))
  declared : ∀ source bindings args,
    Parallel o.Alike o.type (ask.declared source bindings args)
      (ask.declared source bindings (args.map o.type))
  ofDeclaration : ∀ declaration,
    Parallel o.Alike o.type (ask.ofDeclaration declaration) (ask.ofDeclaration declaration)
  ofSymbol : ∀ symbol,
    Parallel o.Alike o.type (ask.ofSymbol symbol) (ask.ofSymbol (o.symbol symbol))
  ofExpression : ∀ node place literal frozen,
    Parallel o.Alike o.type (ask.ofExpression node place literal frozen)
      (ask.ofExpression node (o.place place) literal frozen)
  text : ∀ t, Parallel o.Alike id (ask.text t) (ask.text (o.type t))
  load? : ∀ t part,
    Parallel o.Alike (Option.map (o.content part)) (ask.load? t part) (ask.load? (o.type t) part)
  simplified : ∀ t,
    Parallel o.Alike (Option.map o.type) (ask.simplified t) (ask.simplified (o.type t))
  properties : ∀ t,
    Parallel o.Alike (List.map o.symbol) (ask.properties t) (ask.properties (o.type t))
  indexes : ∀ t, Parallel o.Alike (List.map o.index) (ask.indexes t) (ask.indexes (o.type t))
  assignable : ∀ source target,
    Parallel o.Alike id (ask.assignable source target)
      (ask.assignable (o.type source) (o.type target))
  fits : ∀ candidate pattern place inferred,
    Parallel o.Alike (Prod.map id o.inferred) (ask.fits candidate pattern place inferred)
      (ask.fits (candidate.map o.type) pattern (o.place place) (o.inferred inferred))

/-- A list that is missing is empty in both. -/
theorem Offset.getD_map {α β : Type} (f : α → β) (items : Option (List α)) :
    (items.map (List.map f)).getD [] = (items.getD []).map f := by
  cases items <;> rfl

namespace Uniform

variable {o : Offset} {ask : Ask} (uniform : Uniform o ask)

include uniform

theorem typeAt (node : Cursor) (place : Place) :
    Parallel o.Alike o.type (ask.typeAt node place) (ask.typeAt node (o.place place)) :=
  uniform.typeThrough none node place

theorem typesAt (nodes : List Cursor) (place : Place) :
    Parallel o.Alike (List.map o.type) (nodes.mapM fun node => ask.typeAt node place)
      (nodes.mapM fun node => ask.typeAt node (o.place place)) :=
  .mapM_same (fun node => uniform.typeAt node place) nodes

theorem members (t : TypeId) :
    Parallel o.Alike (List.map o.type) (ask.members t) (ask.members (o.type t)) :=
  (uniform.load? t .members).bind fun found => .done (Offset.getD_map o.type found)

theorem element? (t : TypeId) :
    Parallel o.Alike (Option.map o.type) (ask.element? t) (ask.element? (o.type t)) :=
  uniform.load? t .element

theorem elements (t : TypeId) :
    Parallel o.Alike (List.map o.item) (ask.elements t) (ask.elements (o.type t)) :=
  (uniform.load? t .elements).bind fun found => .done (Offset.getD_map o.item found)

theorem calls (t : TypeId) :
    Parallel o.Alike (List.map o.call) (ask.calls t) (ask.calls (o.type t)) :=
  (uniform.load? t .calls).bind fun found => .done (Offset.getD_map o.call found)

theorem alternatives (t : TypeId) :
    Parallel o.Alike (List.map o.type) (ask.alternatives t) (ask.alternatives (o.type t)) := by
  refine (Check.category_parallel t).bind fun category => ?_
  dsimp only [id]
  split
  · exact uniform.members t
  · exact .done rfl

theorem texts (types : List TypeId) :
    Parallel o.Alike id (types.mapM ask.text) ((types.map o.type).mapM ask.text) :=
  (Parallel.mapM uniform.text types).congr List.map_id

theorem commaTexts (types : List TypeId) :
    Parallel o.Alike id (ask.commaTexts types) (ask.commaTexts (types.map o.type)) :=
  (uniform.texts types).bind fun _ => .done rfl

theorem applied (name : String) (args : List TypeId) :
    Parallel o.Alike id (ask.applied name args) (ask.applied name (args.map o.type)) := by
  unfold Ask.applied
  rw [List.isEmpty_map]
  split
  · exact .done rfl
  · exact (uniform.commaTexts args).bind fun _ => .done rfl

theorem aliasText (via : AliasRef) :
    Parallel o.Alike id (ask.aliasText via) (ask.aliasText (o.ref via)) :=
  uniform.applied via.binding.name via.args

theorem aliasText? (via : Option AliasRef) :
    Parallel o.Alike id (ask.aliasText? via) (ask.aliasText? (via.map o.ref)) :=
  (Parallel.option uniform.aliasText via).congr fun _ => Option.map_id'

/-- A union has each type once, under either numbers. -/
theorem unionMembers {α β : Type} {h : α → β} {k : α → CheckM TypeId} {k' : β → CheckM TypeId}
    (each : ∀ a, Parallel o.Alike o.type (k a) (k' (h a))) (found : List TypeId)
    (parts : List α) :
    Parallel o.Alike (List.map o.type) (ask.unionMembers k found parts)
      (ask.unionMembers k' (found.map o.type) (parts.map h)) := by
  induction parts generalizing found with
  | nil => exact .done rfl
  | cons part rest ih =>
      refine (each part).bind fun t => (uniform.alternatives t).bind fun more => ?_
      have same (known : List TypeId) :
          (more.map o.type).foldl
              (fun known m => if known.contains m then known else known ++ [m])
              (known.map o.type) =
            (more.foldl (fun known m => if known.contains m then known else known ++ [m])
              known).map o.type := by
        induction more generalizing known with
        | nil => rfl
        | cons m more ih =>
            have listed : (known.map o.type).contains (o.type m) = known.contains m := by
              rw [Bool.eq_iff_iff, List.contains_iff_mem, List.contains_iff_mem,
                List.mem_map_of_injective o.type_injective]
            rw [List.map_cons, List.foldl_cons, List.foldl_cons, listed, ← ih]
            split <;> simp
      rw [same]
      exact ih _

/-- Unions of parts that are read over: the members are found in the same order, and each once. -/
theorem unionOf {α β : Type} {h : α → β} {k : α → CheckM TypeId} {k' : β → CheckM TypeId}
    (each : ∀ a, Parallel o.Alike o.type (k a) (k' (h a))) (parts : List α) :
    Parallel o.Alike o.type (ask.unionOf k parts) (ask.unionOf k' (parts.map h)) := by
  refine (uniform.unionMembers each [] parts).bind fun members => ?_
  match members with
  | [] => exact Check.primitive_parallel .never
  | [t] => exact .done rfl
  | first :: second :: rest => exact Check.intern_parallel rfl rfl

/-- Unions of parts that are read in parallel are parallel. -/
theorem unionOf_same {α : Type} {k k' : α → CheckM TypeId}
    (each : ∀ a, Parallel o.Alike o.type (k a) (k' a)) (parts : List α) :
    Parallel o.Alike o.type (ask.unionOf k parts) (ask.unionOf k' parts) := by
  have united := uniform.unionOf (h := id) each parts
  rwa [List.map_id] at united

theorem unionOfTypes (types : List TypeId) :
    Parallel o.Alike o.type (ask.unionOfTypes types) (ask.unionOfTypes (types.map o.type)) :=
  uniform.unionOf (fun _ => .done rfl) types

end Uniform

section Rules

variable {o : Offset} {ask : Ask} (uniform : Uniform o ask)

/-! ## Texts -/

namespace Render

include uniform in
theorem node_parallel (place : Place) (at_ : Cursor) :
    Parallel o.Alike id (node ask place at_) (node ask (o.place place) at_) := by
  rw [node, node, Offset.place_env, Offset.find?_env]
  dsimp only
  split
  · exact .done rfl
  · split
    · exact (Check.ofResult_parallel _).bind fun _ => .done rfl
    · split
      · cases Entries.find? at_.text place.env with
        | none => exact .done rfl
        | some bound => exact uniform.text bound
      · split
        · split
          · exact .failed _
          · rename_i element rest inside
            have inner := Cursor.sizeOf_unwrapParens_le element
            have part := Cursor.sizeOf_lt_of_mem_parts
              (show element ∈ at_.parts by rw [inside]; exact List.mem_cons_self)
            exact (node_parallel place element.unwrapParens).bind fun _ => .done rfl
        · split
          · refine .bind (f := id) (.congr (.mapM_same (g := id) (fun member => ?_) _) List.map_id)
              fun _ => .done rfl
            obtain ⟨member, isPart⟩ := member
            have part := Cursor.sizeOf_lt_of_mem_parts isPart
            exact (node_parallel place member).bind fun _ => .done rfl
          · split
            · exact .done rfl
            · refine .bind (.foldlM_same (g := id) (fun written child => ?_) _ _)
                fun _ => .done rfl
              obtain ⟨child, isChild⟩ := child
              have part := Cursor.sizeOf_lt_of_mem_children isChild
              exact (node_parallel place child).bind fun _ => .done rfl
termination_by sizeOf at_.focus

include uniform in
theorem render_parallel (at_ : Cursor) (place : Place) :
    Parallel o.Alike id (render ask at_ place) (render ask at_ (o.place place)) :=
  (node_parallel uniform place at_).bind fun _ => .done rfl

end Render

/-! ## Looking up names -/

namespace Lookup

theorem lookup_parallel (source : Source) (name : String) (space : Space) :
    Parallel o.Alike id (lookup source name space) (lookup source name space) :=
  Check.program_ofResult fun _ _ agrees => find?_of_agrees agrees source name space

theorem lookupExport_parallel (source : Source) (name : String) (space : Space) :
    Parallel o.Alike id (lookupExport source name space) (lookupExport source name space) := by
  refine Check.program_ofResult fun program other agrees => ?_
  rw [(searches_of_agrees agrees maxSteps).2]

theorem externalFile?_parallel (source : Source) (name : String) :
    Parallel o.Alike id (externalFile? source name) (externalFile? source name) := by
  refine (Check.scopeOf_parallel source).bind fun scope => ?_
  dsimp only [id]
  split
  · exact .done rfl
  · split
    · exact .done rfl
    · exact .done rfl

end Lookup

/-! ## Members of enums -/

namespace Enum

theorem memberName_parallel (member : Cursor) :
    Parallel o.Alike id (memberName member) (memberName member) :=
  (Check.need_same _).bind fun _ => Check.ofResult_parallel _

theorem namedNode?_parallel (name : String) (parts : List Cursor) :
    Parallel o.Alike id (namedNode? name parts) (namedNode? name parts) := by
  induction parts with
  | nil => exact .done rfl
  | cons member rest ih =>
      refine (memberName_parallel member).bind fun found => ?_
      dsimp only [id]
      split
      · exact .done rfl
      · exact ih

include uniform in
theorem memberType?_parallel (enum : TypeId) (name : String) :
    Parallel o.Alike (Option.map o.type) (memberType? ask enum name)
      (memberType? ask (o.type enum) name) := by
  refine (uniform.load? enum .enumMembers).bind fun listed => ?_
  have same : (listed.map (o.content .enumMembers)).getD [] = listed.getD [] := by
    cases listed <;> rfl
  dsimp only
  rw [same]
  split
  · exact .done rfl
  · refine (Check.facts_parallel enum).bind fun owner => ?_
    refine (Check.need_parallel o.place owner.place).bind fun place => ?_
    refine (namedNode?_parallel name _).bind fun node => ?_
    exact (Check.intern_parallel rfl rfl).map fun _ => rfl

end Enum

/-! ## References -/

namespace Reference

include uniform in
theorem unapplied_parallel (place : Place) (parameter : TypeParameter) :
    Parallel o.Alike o.type (unapplied ask place parameter)
      (unapplied ask (o.place place) parameter) := by
  unfold unapplied
  split
  · exact uniform.typeAt _ place
  · exact Check.typeParameter_parallel _ _ _

include uniform in
/-- Type parameters come into view one after the other. The frame they come into view in is
not the first, since it was made for them. -/
theorem bindAll_parallel {place : Place} (inside : place.frame ≠ 0)
    (parameters : List TypeParameter) (args : List TypeId) :
    Parallel o.Alike o.place (bindAll ask place parameters args)
      (bindAll ask (o.place place) parameters (args.map o.type)) := by
  induction parameters generalizing place args with
  | nil => exact .done rfl
  | cons parameter others ih =>
      cases args with
      | nil =>
          refine (unapplied_parallel uniform place parameter).bind fun t => ?_
          exact Check.bindAt_parallel_bind inside (fun next within => ih within []) _ t
      | cons arg args =>
          exact Check.bindAt_parallel_bind inside (fun next within => ih within args) _ arg

include uniform in
theorem instantiate_parallel (source : Source) (parameters : List TypeParameter)
    (args : List TypeId) :
    Parallel o.Alike o.place (instantiate ask source parameters args)
      (instantiate ask source parameters (args.map o.type)) := by
  unfold instantiate
  split
  · exact .done rfl
  · exact Check.newPlace_parallel_bind
      (fun place inside => bindAll_parallel uniform inside parameters args) source []

include uniform in
theorem withTypeParameters_parallel (node : Cursor) (place : Place) :
    Parallel o.Alike o.place (withTypeParameters ask node place)
      (withTypeParameters ask node (o.place place)) := by
  unfold withTypeParameters
  split
  · exact .done rfl
  · exact Check.newPlace_parallel_bind
      (fun inside own => bindAll_parallel uniform own _ []) place.source place.env

theorem argumentsAt_place (place : Place) (parameters : List TypeParameter) :
    argumentsAt (o.place place) parameters = (argumentsAt place parameters).map o.type := by
  simp only [argumentsAt, Offset.place_env, Offset.find?_env, List.map_filterMap]

include uniform in
theorem throughAlias_parallel (source : Source) (binding : Module.Binding)
    (args : List TypeId) :
    Parallel o.Alike o.type (throughAlias ask source binding args)
      (throughAlias ask source binding (args.map o.type)) := by
  refine (instantiate_parallel uniform source _ args).bind fun place => ?_
  dsimp only
  rw [argumentsAt_place]
  split
  · exact Check.namedType_parallel _ none
  · exact Check.guarded_parallel (Check.Guard.aliases_renamed o) _
      (Check.namedType_parallel _ none) (uniform.typeThrough (some _) _ place)

include uniform in
theorem declared_parallel (source : Source) (bindings : List Module.Binding)
    (args : List TypeId) :
    Parallel o.Alike o.type (declared ask source bindings args)
      (declared ask source bindings (args.map o.type)) := by
  refine (Check.needFirst_same bindings).bind fun binding => ?_
  refine (Check.checkSyntax_parallel _ source).bind fun _ => ?_
  dsimp only [id]
  split
  · exact throughAlias_parallel uniform source binding args
  · split
    · exact Check.namedType_parallel _ none
    · refine (instantiate_parallel uniform source _ args).bind fun place => ?_
      rw [argumentsAt_place]
      exact Check.intern_parallel rfl rfl

theorem libraryType_parallel (name file : String) (args : List TypeId) :
    Parallel o.Alike o.type (libraryType name file args)
      (libraryType name file (args.map o.type)) := by
  unfold libraryType
  rw [List.isEmpty_map]
  split
  · exact Check.namedType_parallel name _
  · exact Check.genericOf_parallel name file args

/-- The name of an alias, if there is one, is the same. -/
theorem name_ref (via : Option AliasRef) :
    (via.map o.ref).map (fun ref => ref.binding.name) = via.map fun ref => ref.binding.name := by
  cases via <;> rfl

include uniform in
theorem utility_parallel (name : String) (args : List TypeId) (node : Cursor) (place : Place)
    (via : Option AliasRef) :
    Parallel o.Alike o.type (utility ask name args node place via)
      (utility ask name (args.map o.type) node (o.place place) (via.map o.ref)) := by
  refine (uniform.aliasText? via).bind fun label => Check.intern_parallel ?_ ?_
  · rw [Offset.map_key_ref]
    rfl
  · rw [name_ref]
    cases via <;> rfl

include uniform in
theorem undeclared_parallel (name : String) (args : List TypeId) (node : Cursor) (place : Place)
    (via : Option AliasRef) :
    Parallel o.Alike o.type (undeclared ask name args node place via)
      (undeclared ask name (args.map o.type) node (o.place place) (via.map o.ref)) := by
  by_cases other : Library.arrayTypes.contains name = true → args.length ≠ 1
  · have otherToo : Library.arrayTypes.contains name = true → (args.map o.type).length ≠ 1 := by
      rwa [List.length_map]
    rw [undeclared_of_ne_one other, undeclared_of_ne_one otherToo, List.isEmpty_map]
    split
    · exact utility_parallel uniform name args node place via
    · split
      · exact libraryType_parallel name _ args
      · split
        · exact Check.namedType_parallel name _
        · refine (Lookup.externalFile?_parallel place.source name).bind fun file => ?_
          dsimp only [id]
          split
          · exact Check.namedType_parallel name file
          · exact Check.genericOf_parallel name _ args
  · obtain ⟨isArray, one⟩ : Library.arrayTypes.contains name = true ∧ args.length = 1 := by
      simpa using other
    obtain ⟨element, rfl⟩ := List.length_eq_one_iff.1 one
    simp only [undeclared, isArray, List.map_cons, List.map_nil]
    exact Check.arrayOf_parallel element _

include uniform in
theorem simple_parallel (name : String) (argNodes : List Cursor) (node : Cursor) (place : Place)
    (via : Option AliasRef) :
    Parallel o.Alike o.type (simple ask name argNodes node place via)
      (simple ask name argNodes node (o.place place) (via.map o.ref)) := by
  by_cases blank : (argNodes.isEmpty && place.blanks.contains name) = true
  · have blankToo : (argNodes.isEmpty && (o.place place).blanks.contains name) = true := blank
    rw [simple_of_blank blank, simple_of_blank blankToo]
    exact .failed _
  have knownToo : ¬(argNodes.isEmpty && (o.place place).blanks.contains name) = true := blank
  by_cases unbound : argNodes.isEmpty = true → Entries.find? name place.env = none
  · have unboundToo : argNodes.isEmpty = true → Entries.find? name (o.place place).env = none := by
      simpa using unbound
    rw [simple_of_unbound blank unbound, simple_of_unbound knownToo unboundToo]
    refine (uniform.typesAt argNodes place).bind fun args => ?_
    refine (Lookup.lookup_parallel place.source name .types).bind fun found => ?_
    cases found with
    | some found => exact uniform.declared _ _ args
    | none => exact undeclared_parallel uniform name args node place via
  · obtain ⟨plain, bound⟩ : argNodes.isEmpty = true ∧ Entries.find? name place.env ≠ none := by
      simpa using unbound
    obtain ⟨t, found⟩ := Option.ne_none_iff_exists'.1 bound
    have foundToo : Entries.find? name (o.place place).env = some (o.type t) := by simp [found]
    rw [simple_of_bound blank plain found, simple_of_bound knownToo plain foundToo]
    exact .done rfl

include uniform in
theorem moduleMember?_parallel (source : Source) (head member : String) (args : List TypeId) :
    Parallel o.Alike (Option.map o.type) (moduleMember? ask source head member args)
      (moduleMember? ask source head member (args.map o.type)) := by
  refine (Check.scopeOf_parallel source).bind fun scope => ?_
  dsimp only [id]
  split
  · exact .done rfl
  · split
    · refine Check.program_bind fun program other agrees => ?_
      rw [Lookup.module?_of_agrees agrees]
      split
      · exact .done rfl
      · refine (Lookup.lookupExport_parallel _ member .types).bind fun found => ?_
        dsimp only [id]
        split
        · exact (uniform.declared _ _ args).map fun _ => rfl
        · exact .done rfl
    · exact .done rfl

include uniform in
theorem enumMember?_parallel (source : Source) (head member : String) :
    Parallel o.Alike (Option.map o.type) (enumMember? ask source head member)
      (enumMember? ask source head member) := by
  refine (Lookup.lookup_parallel source head .values).bind fun found => ?_
  dsimp only [id]
  split
  · split
    · exact (uniform.declared _ _ []).bind fun t => Enum.memberType?_parallel uniform t member
    · exact .done rfl
  · exact .done rfl

include uniform in
theorem qualified_parallel (nameNode : Cursor) (argNodes : List Cursor) (node : Cursor)
    (place : Place) (via : Option AliasRef) :
    Parallel o.Alike o.type (qualified ask nameNode argNodes node place via)
      (qualified ask nameNode argNodes node (o.place place) (via.map o.ref)) := by
  refine (uniform.typesAt argNodes place).bind fun args => ?_
  split
  · refine (moduleMember?_parallel uniform place.source _ _ args).bind fun found => ?_
    cases found with
    | some t => exact .done rfl
    | none =>
        refine (enumMember?_parallel uniform place.source _ _).bind fun found => ?_
        cases found with
        | some t => exact .done rfl
        | none => exact undeclared_parallel uniform _ args node place via
  · exact undeclared_parallel uniform _ args node place via

end Reference

end Rules

end TypeGloss
