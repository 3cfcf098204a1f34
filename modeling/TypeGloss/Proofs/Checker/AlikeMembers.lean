/-
# TypeGloss.Proofs.Checker.AlikeMembers — signatures and members under other numbers

The rules by which signatures and members are made. A new member takes the next slot, so in
checkers that are alike it takes slots that are alike; nothing but its own type is ever read
from a slot.
-/
import TypeGloss.Proofs.Checker.AlikeNames

namespace TypeGloss

set_option autoImplicit false

section Rules

variable {o : Offset} {ask : Ask} (uniform : Uniform o ask)

/-! ## Texts of signatures and objects -/

namespace Render

include uniform in
theorem parameters_parallel (symbols : List Symbol) :
    Parallel o.Alike id (parameters ask symbols) (parameters ask (symbols.map o.symbol)) := by
  refine .bind (.mapM (g := id) (fun parameter => ?_) symbols) fun parts => .done ?_
  · refine (uniform.ofSymbol parameter).bind fun t => (uniform.text t).bind fun text => .done rfl
  · rw [List.map_id, id]

include uniform in
theorem arrow_parallel (symbols : List Symbol) (returnType : TypeId) :
    Parallel o.Alike id (arrow ask symbols returnType)
      (arrow ask (symbols.map o.symbol) (o.type returnType)) :=
  (parameters_parallel uniform symbols).bind fun _ =>
    (uniform.text returnType).bind fun _ => .done rfl

include uniform in
theorem function_parallel (t : TypeId) :
    Parallel o.Alike id (function ask t) (function ask (o.type t)) := by
  refine (uniform.calls t).bind fun signatures => ?_
  match signatures with
  | [] => exact .done rfl
  | [signature] => exact .done rfl
  | first :: second :: rest =>
      refine .bind (.mapM (g := id) (fun signature => ?_) (first :: second :: rest))
        fun calls => .done ?_
      · refine (parameters_parallel uniform signature.parameters).bind fun before => ?_
        exact (uniform.text signature.returnType).bind fun text => .done rfl
      · rw [List.map_id, id]

include uniform in
theorem objectLiteral_parallel (t : TypeId) :
    Parallel o.Alike id (objectLiteral ask t) (objectLiteral ask (o.type t)) := by
  refine (uniform.load? t .properties).bind fun found => ?_
  rw [show (found.map (o.content .properties)).getD [] = (found.getD []).map o.symbol from
    Offset.getD_map o.symbol found]
  refine .bind (.mapM (g := id) (fun property => ?_) _) fun parts => .done ?_
  · exact (uniform.ofSymbol property).bind fun u => (uniform.text u).bind fun text => .done rfl
  · rw [List.map_id, id]

end Render

/-! ## Signatures -/

namespace Signature

theorem functionOf_parallel (nodes : List Cursor) (place : Place) (symbol : Symbol) :
    Parallel o.Alike o.type (functionOf nodes place symbol)
      (functionOf nodes (o.place place) (o.symbol symbol)) := by
  refine (Check.needFirst_same nodes).bind fun first => ?_
  refine (Check.complete_parallel place).bind fun _ => Check.intern_parallel ?_ rfl
  rw [Offset.key, Offset.place_env, Offset.env_key]
  rfl

theorem functionOfBindings_parallel (source : Source) (bindings : List Module.Binding) :
    Parallel o.Alike o.type (functionOfBindings source bindings)
      (functionOfBindings source bindings) :=
  (Check.needFirst_same bindings).bind fun _ => functionOf_parallel _ (.top source) _

theorem functionAt_parallel (kind : DeclarationKind) (name : Option String) (node : Cursor)
    (place : Place) :
    Parallel o.Alike o.type (functionAt kind name node place)
      (functionAt kind name node (o.place place)) :=
  functionOf_parallel [node] place _

theorem parameter?_parallel (node : Cursor) (place : Place) :
    Parallel o.Alike (Option.map o.symbol) (parameter? node place)
      (parameter? node (o.place place)) := by
  unfold parameter?
  split
  · exact .done rfl
  · split
    · exact .done rfl
    · exact (Check.newMember_parallel place [node] none).bind fun _ => .done rfl

theorem parameters_parallel (node : Cursor) (place : Place) :
    Parallel o.Alike (List.map o.symbol) (parameters node place)
      (parameters node (o.place place)) := by
  unfold parameters
  split
  · refine (Parallel.mapM_same (fun param => parameter?_parallel param place) _).bind
      fun found => .done ?_
    rw [List.filterMap_map, List.map_filterMap]
    rfl
  · split
    · exact .done rfl
    · refine Check.any_parallel.bind fun t => ?_
      exact (Check.newMember_parallel place _ (some t)).bind fun _ => .done rfl

include uniform in
theorem widenedExpression_parallel (place : Place) (node : Cursor) :
    Parallel o.Alike o.type (widenedExpression ask place node)
      (widenedExpression ask (o.place place) node) :=
  (uniform.ofExpression node place false false).bind Check.widen_parallel

include uniform in
theorem returnedType_parallel (place : Place) (value : Option Cursor) :
    Parallel o.Alike o.type (returnedType ask place value)
      (returnedType ask (o.place place) value) := by
  cases value with
  | none => exact Check.primitive_parallel .undefined
  | some node => exact widenedExpression_parallel uniform place node

include uniform in
theorem yieldedType_parallel (place : Place) (node : Cursor) :
    Parallel o.Alike o.type (yieldedType ask place node)
      (yieldedType ask (o.place place) node) := by
  unfold yieldedType
  split
  · exact Check.any_parallel
  · split
    · exact widenedExpression_parallel uniform place _
    · exact Check.primitive_parallel .undefined

include uniform in
theorem bodyType_parallel (place : Place) (body : Cursor) :
    Parallel o.Alike o.type (bodyType ask place body) (bodyType ask (o.place place) body) := by
  unfold bodyType
  dsimp only
  split
  · exact widenedExpression_parallel uniform place body
  · split
    · exact uniform.unionOf_same (returnedType_parallel uniform place) _
    · exact Check.primitive_parallel .void

include uniform in
theorem inferredReturn_parallel (place : Place) (body : Cursor) (modifier : Option Modifier) :
    Parallel o.Alike o.type (inferredReturn ask place body modifier)
      (inferredReturn ask (o.place place) body modifier) := by
  refine (bodyType_parallel uniform place body).bind fun result => ?_
  have generating (name : String) :
      Parallel o.Alike o.type
        (do
          let yielded ← ask.unionOf (yieldedType ask place) (ownYields body)
          let sent ← Check.primitive .unknown
          Check.genericOf name (Library.genericFile name) [yielded, result, sent])
        (do
          let yielded ← ask.unionOf (yieldedType ask (o.place place)) (ownYields body)
          let sent ← Check.primitive .unknown
          Check.genericOf name (Library.genericFile name) [yielded, o.type result, sent]) := by
    refine (uniform.unionOf_same (yieldedType_parallel uniform place) _).bind fun yielded => ?_
    refine (Check.primitive_parallel .unknown).bind fun sent => ?_
    exact Check.genericOf_parallel name _ [yielded, result, sent]
  match modifier with
  | none => exact .done rfl
  | some .async => exact Check.genericOf_parallel _ _ [result]
  | some .generator => exact generating "Generator"
  | some .asyncGenerator => exact generating "AsyncGenerator"

include uniform in
theorem returnType_parallel (node : Cursor) (place : Place) :
    Parallel o.Alike o.type (returnType ask node place)
      (returnType ask node (o.place place)) := by
  unfold returnType
  split
  · exact uniform.typeAt _ place
  · exact inferredReturn_parallel uniform place _ _
  · exact Check.any_parallel

include uniform in
theorem ofNode_parallel (place : Place) (constructed : Option TypeId) (node : Cursor) :
    Parallel o.Alike o.call (ofNode ask place constructed node)
      (ofNode ask (o.place place) (constructed.map o.type) node) := by
  refine (Reference.withTypeParameters_parallel uniform node place).bind fun inside => ?_
  refine (parameters_parallel node inside).bind fun listed => ?_
  cases constructed with
  | none =>
      refine (returnType_parallel uniform node inside).bind fun result => ?_
      exact (Render.arrow_parallel uniform listed result).bind fun text => .done rfl
  | some result =>
      refine Parallel.bind (f := o.type) (.done rfl) fun result => ?_
      exact (Render.arrow_parallel uniform listed result).bind fun text => .done rfl

include uniform in
theorem ofNodes_parallel (place : Place) (nodes : List Cursor) :
    Parallel o.Alike (List.map o.call) (nodes.mapM (ofNode ask place none))
      (nodes.mapM (ofNode ask (o.place place) none)) :=
  .mapM_same (fun node => ofNode_parallel uniform place none node) nodes

end Signature

/-! ## Members -/

namespace Members

theorem realize_parallel (place : Place) (drafts : List Draft) :
    Parallel o.Alike (List.map o.symbol) (realize place drafts)
      (realize (o.place place) drafts) := by
  refine .mapM_same (fun draft => ?_) drafts
  exact (Check.newMember_parallel place draft.nodes none).bind fun _ => .done rfl

theorem nameOf?_parallel (node : Option Cursor) :
    Parallel o.Alike id (nameOf? node) (nameOf? node) := by
  cases node with
  | none => exact .done rfl
  | some name => exact (Check.ofResult_parallel _).map fun _ => rfl

theorem addObjectPart_parallel (path : String) (drafts : List Draft) (part : Cursor) :
    Parallel o.Alike id (addObjectPart path drafts part) (addObjectPart path drafts part) := by
  unfold addObjectPart
  split
  · refine (nameOf?_parallel _).bind fun name => ?_
    cases name with
    | none => exact .done rfl
    | some name =>
        dsimp only [id]
        split
        · exact .done rfl
        · exact .done rfl
  · exact .done rfl

theorem ofBody_parallel (place : Place) (body : Cursor) :
    Parallel o.Alike (List.map o.symbol) (ofBody place body) (ofBody (o.place place) body) :=
  (Parallel.foldlM_same (addObjectPart_parallel _) _ _).bind fun drafts =>
    realize_parallel place drafts

include uniform in
theorem indexesOfBody_parallel (place : Place) (body : Cursor) :
    Parallel o.Alike (List.map o.index) (indexesOfBody ask place body)
      (indexesOfBody ask (o.place place) body) := by
  refine .bind (.mapM_same (g := Option.map o.index) (fun member => ?_) _) fun found => .done ?_
  · split
    · refine (uniform.typeAt _ place).bind fun keyType => ?_
      cases member.fieldOr? "type" Grammar.annotations with
      | some valueNode =>
          refine (uniform.typeAt valueNode place).bind fun valueType => ?_
          exact (Render.render_parallel uniform member place).bind fun text => .done rfl
      | none =>
          refine Check.any_parallel.bind fun valueType => ?_
          exact (Render.render_parallel uniform member place).bind fun text => .done rfl
    · exact .done rfl
  · rw [List.filterMap_map, List.map_filterMap]
    rfl

include uniform in
theorem callsOfBody_parallel (place : Place) (body : Cursor) :
    Parallel o.Alike (List.map o.call) (callsOfBody ask place body)
      (callsOfBody ask (o.place place) body) :=
  Signature.ofNodes_parallel uniform place _

/-! ### Interfaces -/

theorem inherit_map (own base : List Symbol) :
    inherit (own.map o.symbol) (base.map o.symbol) = (inherit own base).map o.symbol := by
  induction base generalizing own with
  | nil => rfl
  | cons symbol rest ih =>
      have known : (own.map o.symbol).any (·.name == (o.symbol symbol).name) =
          own.any (·.name == symbol.name) := by
        rw [List.any_map]
        rfl
      simp only [inherit, List.map_cons, List.foldl_cons, known] at ih ⊢
      split
      · exact ih own
      · rw [← ih, List.map_append]
        rfl

include uniform in
theorem ofInterface_parallel (place : Place) (bindings : List Module.Binding) :
    Parallel o.Alike (List.map o.symbol) (ofInterface ask place bindings)
      (ofInterface ask (o.place place) bindings) := by
  refine (Parallel.mapM_same (ofBody_parallel place) _).bind fun own => ?_
  rw [← List.map_flatten]
  refine .foldlM_same (fun found node => ?_) _ _
  refine (uniform.typeAt node place).bind fun base => (uniform.properties base).bind fun more => ?_
  exact .done (inherit_map found more)

include uniform in
theorem inheritIndexes_parallel (found : List IndexEntry × List String)
    (base : List IndexEntry) :
    Parallel o.Alike (Prod.map (List.map o.index) id) (inheritIndexes ask found base)
      (inheritIndexes ask (Prod.map (List.map o.index) id found) (base.map o.index)) := by
  induction base generalizing found with
  | nil => exact .done rfl
  | cons entry rest ih =>
      refine (uniform.text entry.keyType).bind fun text => ?_
      dsimp only [id, Prod.map]
      split
      · exact ih found
      · have longer := ih (found.1 ++ [entry], found.2 ++ [text])
        simp only [Prod.map, List.map_append, id] at longer
        exact longer

include uniform in
theorem indexesOfInterface_parallel (place : Place) (bindings : List Module.Binding) :
    Parallel o.Alike (List.map o.index) (indexesOfInterface ask place bindings)
      (indexesOfInterface ask (o.place place) bindings) := by
  refine (Parallel.mapM_same (indexesOfBody_parallel uniform place) _).bind fun own => ?_
  rw [← List.map_flatten]
  refine .bind (.mapM (g := id) (h := o.index) (fun entry => uniform.text entry.keyType)
    own.flatten) fun keys => ?_
  rw [List.map_id]
  refine .bind (.foldlM_same (g := Prod.map (List.map o.index) id) (fun found node => ?_) _
    (own.flatten, keys)) fun _ => .done rfl
  refine (uniform.typeAt node place).bind fun base => (uniform.indexes base).bind fun more => ?_
  exact inheritIndexes_parallel uniform found more

include uniform in
theorem callsOfInterface_parallel (place : Place) (bindings : List Module.Binding) :
    Parallel o.Alike (List.map o.call) (callsOfInterface ask place bindings)
      (callsOfInterface ask (o.place place) bindings) :=
  (Parallel.mapM_same (callsOfBody_parallel uniform place) _).bind fun _ =>
    .done List.map_flatten.symm

/-! ### Classes -/

theorem addClassPart_parallel (path : String) (drafts : List Draft) (part : Cursor) :
    Parallel o.Alike id (addClassPart path drafts part) (addClassPart path drafts part) := by
  unfold addClassPart
  split
  · refine (nameOf?_parallel _).bind fun name => ?_
    cases name <;> exact .done rfl
  · split
    · refine (nameOf?_parallel _).bind fun name => ?_
      cases name with
      | none => exact .done rfl
      | some name =>
          dsimp only [id]
          split
          · exact .done rfl
          · split
            · exact .done rfl
            · exact .done rfl
    · exact .done rfl

include uniform in
theorem baseClass?_parallel (place : Place) (node : Cursor) :
    Parallel o.Alike (Option.map o.type) (baseClass? ask place node)
      (baseClass? ask (o.place place) node) := by
  unfold baseClass?
  dsimp only
  split
  · exact .done rfl
  · split
    · exact .done rfl
    · split
      · exact .done rfl
      · refine (uniform.typesAt _ place).bind fun args => ?_
        refine (Lookup.lookup_parallel place.source _ .values).bind fun found => ?_
        dsimp only [id]
        split
        · split
          · exact (uniform.declared _ _ args).map fun _ => rfl
          · exact .done rfl
        · exact .done rfl

theorem inheritMembers_map (own base : List Symbol) :
    inheritMembers (own.map o.symbol) (base.map o.symbol) =
      (inheritMembers own base).map o.symbol := by
  have keys : (own.map o.symbol).map key = own.map key := by
    rw [List.map_map]
    rfl
  simp only [inheritMembers, keys, List.map_append, List.filter_map]
  rfl

include uniform in
theorem ofClass_parallel (place : Place) (node : Cursor) :
    Parallel o.Alike (List.map o.symbol) (ofClass ask place node)
      (ofClass ask (o.place place) node) := by
  refine (Parallel.foldlM_same (addClassPart_parallel _) _ _).bind fun drafts => ?_
  refine (realize_parallel place drafts).bind fun own => ?_
  refine (baseClass?_parallel uniform place node).bind fun base => ?_
  cases base with
  | none => exact .done rfl
  | some base =>
      refine (uniform.load? base .classMembers).bind fun found => .done ?_
      rw [← inheritMembers_map]
      exact congrArg _ (Offset.getD_map o.symbol found)

include uniform in
theorem constructsOf_parallel (place : Place) (node : Cursor) (t : TypeId) :
    Parallel o.Alike (List.map o.call) (constructsOf ask place node t)
      (constructsOf ask (o.place place) node (o.type t)) := by
  unfold constructsOf
  split
  · refine (baseClass?_parallel uniform place node).bind fun base => ?_
    cases base with
    | none => exact .done rfl
    | some base =>
        refine (uniform.load? base .constructs).bind fun found => ?_
        rw [show (found.map (o.content .constructs)).getD [] = (found.getD []).map o.call from
          Offset.getD_map o.call found]
        refine .mapM (fun signature => ?_) _
        exact (Render.arrow_parallel uniform signature.parameters t).bind fun _ => .done rfl
  · exact .mapM_same (fun node => Signature.ofNode_parallel uniform place (some t) node) _

end Members

end Rules

end TypeGloss
