/-
# TypeGloss.Proofs.Checker.AlikeTypes — types under other numbers

The rules by which types are written, simplified and compared. Where two types are asked
whether they are the same, they are so under either numbers; a type that is looked for in a
union is found in it under either numbers.
-/
import TypeGloss.Proofs.Checker.AlikeValues

namespace TypeGloss

set_option autoImplicit false

section Rules

variable {o : Offset} {ask : Ask} (uniform : Uniform o ask)

/-! ## Type syntax -/

namespace TypeSyntax

include uniform in
theorem structured_parallel (category : Category) {symbol symbol' : Option Symbol}
    (same : symbol' = symbol.map o.symbol) (node : Cursor) (place : Place)
    (via : Option AliasRef) :
    Parallel o.Alike o.type (structured ask category symbol node place via)
      (structured ask category symbol' node (o.place place) (via.map o.ref)) := by
  subst same
  refine (Check.complete_parallel place).bind fun _ => ?_
  refine (uniform.aliasText? via).bind fun label => ?_
  refine Check.intern_parallel (o.key_ofNode node place via _).symm ?_
  cases via <;> cases symbol <;> rfl

include uniform in
theorem object_parallel (node : Cursor) (place : Place) (via : Option AliasRef) :
    Parallel o.Alike o.type (object ask node place via)
      (object ask node (o.place place) (via.map o.ref)) := by
  unfold object
  split
  · exact structured_parallel uniform .computed rfl node place via
  · exact structured_parallel uniform .object
      (congrArg some (o.symbol_ofType via node _).symm) node place via

include uniform in
theorem array_parallel (node : Cursor) (place : Place) (via : Option AliasRef) :
    Parallel o.Alike o.type (array ask node place via)
      (array ask node (o.place place) (via.map o.ref)) := by
  refine (Check.needFirst_same node.parts).bind fun element => ?_
  cases via with
  | none => exact (uniform.typeAt element place).bind fun t => Check.arrayOf_parallel t false
  | some ref =>
      refine (Check.complete_parallel place).bind fun _ => ?_
      refine (uniform.aliasText ref).bind fun label => ?_
      exact Check.intern_parallel (o.key_ofNode node place (some ref) _).symm rfl

include uniform in
theorem tupleItem_parallel (place : Place) (node : Cursor) :
    Parallel o.Alike o.item (tupleItem ask place node) (tupleItem ask (o.place place) node) := by
  unfold tupleItem
  dsimp only
  split
  · split
    · exact (uniform.typeAt _ place).bind fun _ => .done rfl
    · exact Check.any_parallel.bind fun _ => .done rfl
  · split
    · refine (Check.need_same _).bind fun inner => ?_
      exact (uniform.typeAt inner place).bind fun _ => .done rfl
    · split
      · refine (Check.need_same _).bind fun inner => ?_
        exact (uniform.typeAt inner place).bind fun _ => .done rfl
      · exact (uniform.typeAt node place).bind fun _ => .done rfl

theorem literal_parallel (node : Cursor) :
    Parallel o.Alike o.type (literal node) (literal node) := by
  unfold literal
  split
  · exact Check.any_parallel
  · split
    · exact (Check.ofResult_parallel _).bind fun _ => Check.literal_parallel _ _
    · exact Inference.numberType_parallel _ _
    · exact Check.literal_parallel _ _
    · exact Check.literal_parallel _ _
    · exact Check.primitive_parallel .null
    · exact Check.primitive_parallel .undefined
    · split
      · exact Inference.numberType_parallel _ _
      · exact Check.namedType_parallel _ none
    · exact Check.namedType_parallel _ none

include uniform in
theorem template_parallel (node : Cursor) (place : Place) :
    Parallel o.Alike o.type (template ask node place) (template ask node (o.place place)) := by
  unfold template
  split
  · exact Check.literal_parallel _ _
  · refine (Check.complete_parallel place).bind fun _ => ?_
    refine (Render.render_parallel uniform node place).bind fun label => ?_
    exact Check.intern_parallel (o.key_ofNode node place none _).symm rfl

theorem keyword_parallel (text : String) :
    Parallel o.Alike o.type (keyword text) (keyword text) := by
  unfold keyword
  split
  · exact Check.primitive_parallel _
  · exact Check.namedType_parallel text none

include uniform in
theorem generic_parallel (node : Cursor) (place : Place) (via : Option AliasRef) :
    Parallel o.Alike o.type (generic ask node place via)
      (generic ask node (o.place place) (via.map o.ref)) := by
  unfold generic
  dsimp only
  split
  · exact Reference.qualified_parallel uniform _ _ node place via
  · exact Reference.simple_parallel uniform _ _ node place via

include uniform in
theorem ofNode_parallel (node : Cursor) (place : Place) (via : Option AliasRef) :
    Parallel o.Alike o.type (ofNode ask node place via)
      (ofNode ask node (o.place place) (via.map o.ref)) := by
  unfold ofNode
  dsimp only
  split
  · split
    · exact uniform.typeThrough via _ place
    · exact Check.any_parallel
  · split
    · exact Check.primitive_parallel .boolean
    · split
      · exact Check.primitive_parallel .void
      · split
        · exact keyword_parallel _
        · exact literal_parallel node
        · exact template_parallel uniform node place
        · exact Check.namedType_parallel _ none
        · exact Check.any_parallel
        · exact Reference.simple_parallel uniform _ [] node place via
        · exact Reference.qualified_parallel uniform node [] node place via
        · exact generic_parallel uniform node place via
        · exact object_parallel uniform node place via
        · exact array_parallel uniform node place via
        · exact structured_parallel uniform .tuple rfl node place via
        · exact structured_parallel uniform .union rfl node place via
        · exact structured_parallel uniform .intersection rfl node place via
        · exact structured_parallel uniform .function
            (congrArg some (o.symbol_ofType via node _).symm) node place via
        · split
          · exact Inference.valuePath_parallel uniform _ place
          · exact Check.any_parallel
        · exact structured_parallel uniform .computed rfl node place via
        · exact structured_parallel uniform .computed rfl node place via
        · exact structured_parallel uniform .computed rfl node place via
        · exact Check.namedType_parallel _ none
        · refine (Render.render_parallel uniform node place).bind fun text => ?_
          exact Check.namedType_parallel text none

end TypeSyntax

/-! ## Simplified types -/

namespace Structure

include uniform in
theorem stuck_parallel (t : TypeId) :
    Parallel o.Alike o.type (stuck ask t) (stuck ask (o.type t)) :=
  (uniform.text t).bind fun text => Check.stuckType_parallel t text

include uniform in
theorem simplifiedIn_parallel (steps : Nat) (t : TypeId) :
    Parallel o.Alike (Option.map o.type) (simplifiedIn ask steps t)
      (simplifiedIn ask steps (o.type t)) := by
  induction steps generalizing t with
  | zero =>
      refine (Check.category_parallel t).bind fun category => ?_
      dsimp only [id]
      split
      · exact (stuck_parallel uniform t).map fun _ => rfl
      · exact .done rfl
  | succ steps ih =>
      refine (Check.category_parallel t).bind fun category => ?_
      dsimp only [id]
      split
      · exact .done rfl
      · refine (uniform.load? t .simplified).bind fun found => ?_
        match found with
        | none => exact .done rfl
        | some none => exact .done rfl
        | some (some next) =>
            change Parallel o.Alike (Option.map o.type)
              (if next = t then some <$> stuck ask t else simplifiedIn ask steps next)
              (if o.type next = o.type t then some <$> stuck ask (o.type t)
                else simplifiedIn ask steps (o.type next))
            simp only [Offset.type_inj]
            split
            · exact (stuck_parallel uniform t).map fun _ => rfl
            · exact ih next

include uniform in
theorem properties_parallel (t : TypeId) :
    Parallel o.Alike (List.map o.symbol) (properties ask t) (properties ask (o.type t)) := by
  refine (uniform.simplified t).bind fun simple => ?_
  cases simple with
  | none => exact .done rfl
  | some t =>
      refine (Check.category_parallel t).bind fun category => ?_
      dsimp only [id]
      split
      · exact (uniform.load? t .properties).bind fun found =>
          .done (Offset.getD_map o.symbol found)
      · refine (uniform.load? t .classMembers).bind fun found => .done ?_
        rw [show (found.map (o.content .classMembers)).getD [] = (found.getD []).map o.symbol from
          Offset.getD_map o.symbol found, List.filter_map]
        rfl
      · refine (uniform.members t).bind fun constituents => ?_
        refine .foldlM (fun found constituent => ?_) constituents []
        exact (uniform.properties constituent).bind fun more =>
          .done (Members.inherit_map found more)
      · exact .done rfl

include uniform in
theorem indexes_parallel (t : TypeId) :
    Parallel o.Alike (List.map o.index) (indexes ask t) (indexes ask (o.type t)) := by
  refine (uniform.simplified t).bind fun simple => ?_
  cases simple with
  | none => exact .done rfl
  | some t =>
      refine (Check.category_parallel t).bind fun category => ?_
      dsimp only [id]
      split
      · exact (uniform.load? t .indexes).bind fun found => .done (Offset.getD_map o.index found)
      · refine (uniform.members t).bind fun constituents => ?_
        refine .bind (.foldlM (g := Prod.map (List.map o.index) id)
          (fun found constituent => ?_) constituents ([], [])) fun _ => .done rfl
        exact (uniform.indexes constituent).bind fun more =>
          Members.inheritIndexes_parallel uniform found more
      · exact .done rfl

include uniform in
theorem objectProperties?_parallel (t : TypeId) :
    Parallel o.Alike (Option.map (List.map o.symbol)) (objectProperties? ask t)
      (objectProperties? ask (o.type t)) := by
  refine (uniform.simplified t).bind fun simple => ?_
  cases simple with
  | none => exact .done rfl
  | some t =>
      refine (Check.category_parallel t).bind fun category => ?_
      dsimp only [id]
      split
      · exact (uniform.properties t).map fun _ => rfl
      · exact .done rfl

theorem byName_map (properties : List Symbol) :
    byName (properties.map o.symbol) = Entries.mapEntries o.symbol (byName properties) := by
  rw [byName, byName, Entries.mapEntries_ofList, List.map_map, Entries.mapEntries, List.map_map]
  rfl

theorem keysOf?_parallel (types : List TypeId) :
    Parallel o.Alike id (keysOf? types) (keysOf? (types.map o.type)) := by
  induction types with
  | nil => exact .done rfl
  | cons t rest ih =>
      refine (Check.facts_parallel t).bind fun r => ?_
      rw [Offset.facts_category, Offset.facts_primitive, Offset.facts_value]
      split
      · exact ih.bind fun keys => .done rfl
      · split
        · exact ih
        · exact .done rfl

include uniform in
theorem literalKeys?_parallel (t : TypeId) :
    Parallel o.Alike id (literalKeys? ask t) (literalKeys? ask (o.type t)) := by
  refine (uniform.simplified t).bind fun simple => ?_
  cases simple with
  | none => exact .done rfl
  | some t => exact (uniform.alternatives t).bind keysOf?_parallel

end Structure

/-! ## Comparison of types -/

namespace Assignability

include uniform in
theorem toArray_parallel (category : Category) (source target : TypeId) :
    Parallel o.Alike id (toArray ask category source target)
      (toArray ask category (o.type source) (o.type target)) := by
  unfold toArray
  split
  · refine (uniform.element? source).bind fun have_ => ?_
    refine (uniform.element? target).bind fun want => ?_
    refine (Check.need_parallel o.type have_).bind fun element => ?_
    exact (Check.need_parallel o.type want).bind fun other => uniform.assignable element other
  · split
    · refine (uniform.element? target).bind fun want => ?_
      refine (uniform.elements source).bind fun items => .allM (fun item => ?_) items
      exact (Check.need_parallel o.type want).bind fun other => uniform.assignable item.type other
    · exact .done rfl

include uniform in
theorem toObject_parallel (source target : TypeId) :
    Parallel o.Alike id (toObject ask source target)
      (toObject ask (o.type source) (o.type target)) := by
  refine (uniform.properties source).bind fun available => ?_
  refine (uniform.properties target).bind fun wanted => .allM (fun property => ?_) wanted
  rw [Offset.symbol_isOptional, Offset.symbol_name, Structure.byName_map, Entries.find?_mapEntries]
  split
  · exact .done rfl
  · cases Entries.find? (property.name.getD "") (Structure.byName available) with
    | none => exact .done rfl
    | some found =>
        refine (uniform.ofSymbol found).bind fun have_ => ?_
        exact (uniform.ofSymbol property).bind fun want => uniform.assignable have_ want

include uniform in
theorem byCategory_parallel (source target : TypeId) (have_ want : TypeFacts) :
    Parallel o.Alike id (byCategory ask source target have_ want)
      (byCategory ask (o.type source) (o.type target) (o.facts have_) (o.facts want)) := by
  unfold byCategory
  rw [Offset.facts_category, Offset.facts_category]
  split
  · exact .done rfl
  · exact .done rfl
  · exact toArray_parallel uniform have_.category source target
  · exact .done rfl
  · refine .done ?_
    simp only [Offset.facts_name, Offset.facts_args, List.length_map, id]
  · split
    · exact toObject_parallel uniform source target
    · exact .done rfl

include uniform in
theorem assignable_parallel (source target : TypeId) :
    Parallel o.Alike id (assignable ask source target)
      (assignable ask (o.type source) (o.type target)) := by
  refine (Check.facts_parallel source).bind fun have_ => ?_
  refine (Check.facts_parallel target).bind fun want => ?_
  rw [Offset.facts_primitive, Offset.facts_primitive, Offset.facts_category,
    Offset.facts_category]
  simp only [Offset.type_inj]
  split
  · exact .done rfl
  · split
    · exact .done rfl
    · split
      · exact .done rfl
      · split
        · exact (uniform.members target).bind fun members =>
            .anyM (fun member => uniform.assignable source member) members
        · split
          · exact (uniform.members source).bind fun members =>
              .allM (fun member => uniform.assignable member target) members
          · exact byCategory_parallel uniform source target have_ want

end Assignability

end Rules

end TypeGloss
