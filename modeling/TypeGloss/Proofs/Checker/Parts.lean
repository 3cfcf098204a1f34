/-
# TypeGloss.Proofs.Checker.Parts — finding a part forgets nothing

The parts of a type are found by rules that may make new members, each with a slot of its
own. Such a rule does not find the same again, so it is not steady; but it is
conservative, and that is enough, because what it finds is kept with the type
(`TypeGloss.Proofs.Checker.Memory`).

`loader?_isConservative` says so of every way in which a part of a type is found.
-/
import TypeGloss.Proofs.Checker.SteadyTypes

namespace TypeGloss

set_option autoImplicit false

section Rules

variable {ask : Ask} (reliable : Reliable ask)

/-! ## Texts -/

namespace Render

include reliable in
theorem parameters_conservative (symbols : List Symbol) :
    Conservative (parameters ask symbols) := by
  refine .bind (.mapM (fun parameter => ?_) symbols) fun _ => .pure _
  refine (reliable.ofSymbol parameter).first.bind fun t => ?_
  exact (reliable.text t).first.bind fun _ => .pure _

include reliable in
theorem arrow_conservative (symbols : List Symbol) (returnType : TypeId) :
    Conservative (arrow ask symbols returnType) := by
  refine (parameters_conservative reliable symbols).bind fun before => ?_
  exact (reliable.text returnType).first.bind fun _ => .pure _

include reliable in
theorem function_conservative (t : TypeId) : Conservative (function ask t) := by
  refine (reliable.calls t).first.bind fun signatures => ?_
  split
  · exact .pure _
  · exact .pure _
  · refine .bind (.mapM (fun signature => ?_) _) fun _ => .pure _
    refine (parameters_conservative reliable _).bind fun before => ?_
    exact (reliable.text _).first.bind fun _ => .pure _

include reliable in
theorem objectLiteral_conservative (t : TypeId) : Conservative (objectLiteral ask t) := by
  refine (reliable.load? t .properties).first.bind fun properties => ?_
  refine .bind (.mapM (fun property => ?_) _) fun _ => .pure _
  refine (reliable.ofSymbol property).first.bind fun t => ?_
  exact (reliable.text t).first.bind fun _ => .pure _

end Render

/-! ## Enums -/

namespace Enum

theorem initialized_conservative (source : Source) (member : Cursor)
    (earlier : List (String × Value)) : Conservative (initialized source member earlier) := by
  refine Check.program_steady.first.bind fun program => ?_
  exact (Check.ofResult_steady _).first.bind fun _ => .pure _

theorem addMember_conservative (source : Source) (found : List (String × Value))
    (member : Cursor) : Conservative (addMember source found member) := by
  unfold addMember
  split
  · refine (memberName_steady member).first.bind fun name => ?_
    exact (initialized_conservative source member found).bind fun _ => .pure _
  · split
    · exact (memberName_steady member).first.bind fun _ => .pure _
    · exact .pure found

theorem members_conservative (source : Source) (node : Cursor) :
    Conservative (members source node) :=
  .foldlM (addMember_conservative source) _ []

end Enum

/-! ## Signatures -/

namespace Reference

include reliable in
theorem bindAll_conservative (parameters : List TypeParameter) (args : List TypeId)
    (place : Place) : Conservative (bindAll ask place parameters args) := by
  induction parameters generalizing place args with
  | nil => exact .pure place
  | cons parameter others ih =>
      cases args with
      | nil =>
          refine (unapplied_steady reliable place 0 parameter).first.bind fun t => ?_
          exact (Check.bindAt_conservative place _ t).bind fun place => ih [] place
      | cons arg args =>
          exact (Check.bindAt_conservative place _ arg).bind fun place => ih args place

include reliable in
theorem withTypeParameters_conservative (node : Cursor) (place : Place) :
    Conservative (withTypeParameters ask node place) := by
  unfold withTypeParameters
  split
  · exact .pure place
  · exact (Check.newPlace_conservative _ _).bind fun inside =>
      bindAll_conservative reliable _ [] inside

end Reference

namespace Signature

theorem parameter?_conservative (node : Cursor) (place : Place) :
    Conservative (parameter? node place) := by
  unfold parameter?
  split
  · exact .pure none
  · split
    · exact .pure none
    · exact (Check.newMember_conservative place [node] none).bind fun _ => .pure _

theorem parameters_conservative (node : Cursor) (place : Place) :
    Conservative (parameters node place) := by
  unfold parameters
  split
  · exact .bind (.mapM (fun param => parameter?_conservative param place) _) fun _ => .pure _
  · split
    · exact .pure []
    · refine Check.any_steady.first.bind fun t => ?_
      exact (Check.newMember_conservative place _ (some t)).bind fun _ => .pure _

include reliable in
theorem returnedType_steady (place : Place) (value : Option Cursor) :
    Steady (returnedType ask place value) (returnedType ask place value) := by
  cases value with
  | none => exact Check.primitive_steady .undefined
  | some node => exact widenedExpression_steady reliable place place.frame node

include reliable in
theorem yieldedType_steady (place : Place) (node : Cursor) :
    Steady (yieldedType ask place node) (yieldedType ask place node) := by
  unfold yieldedType
  split
  · exact Check.any_steady
  · split
    · exact widenedExpression_steady reliable place place.frame _
    · exact Check.primitive_steady .undefined

include reliable in
theorem bodyType_conservative (place : Place) (body : Cursor) :
    Conservative (bodyType ask place body) := by
  unfold bodyType
  dsimp only
  split
  · exact (widenedExpression_steady reliable place place.frame body).first
  · split
    · exact (reliable.unionOf (returnedType_steady reliable place) _).first
    · exact (Check.primitive_steady .void).first

include reliable in
theorem inferredReturn_conservative (place : Place) (body : Cursor)
    (modifier : Option Modifier) : Conservative (inferredReturn ask place body modifier) := by
  refine (bodyType_conservative reliable place body).bind fun result => ?_
  have generating (name : String) : Conservative (do
      let yielded ← ask.unionOf (yieldedType ask place) (ownYields body)
      let sent ← Check.primitive .unknown
      Check.genericOf name (Library.genericFile name) [yielded, result, sent]) := by
    refine (reliable.unionOf (yieldedType_steady reliable place) _).first.bind fun yielded => ?_
    refine (Check.primitive_steady .unknown).first.bind fun sent => ?_
    exact (Check.genericOf_steady name _ _).first
  dsimp only
  split
  · exact .pure result
  · exact (Check.genericOf_steady _ _ _).first
  · exact generating "Generator"
  · exact generating "AsyncGenerator"

include reliable in
theorem returnType_conservative (node : Cursor) (place : Place) :
    Conservative (returnType ask node place) := by
  unfold returnType
  split
  · exact (reliable.typeAt _ place 0).first
  · exact inferredReturn_conservative reliable place _ _
  · exact Check.any_steady.first

include reliable in
theorem ofNode_conservative (place : Place) (constructed : Option TypeId) (node : Cursor) :
    Conservative (ofNode ask place constructed node) := by
  refine (Reference.withTypeParameters_conservative reliable node place).bind fun inside => ?_
  refine (parameters_conservative node inside).bind fun listed => ?_
  cases constructed with
  | some t =>
      refine Conservative.bind (.pure t) fun result => ?_
      exact (Render.arrow_conservative reliable listed result).bind fun _ => .pure _
  | none =>
      refine (returnType_conservative reliable node inside).bind fun result => ?_
      exact (Render.arrow_conservative reliable listed result).bind fun _ => .pure _

end Signature

/-! ## Members -/

namespace Members

theorem realize_conservative (place : Place) (drafts : List Draft) :
    Conservative (realize place drafts) :=
  .mapM (fun _ => (Check.newMember_conservative place _ none).bind fun _ => .pure _) drafts

theorem nameOf?_conservative (node : Option Cursor) : Conservative (nameOf? node) :=
  .option (fun _ => (Check.ofResult_steady _).first) node

theorem addObjectPart_conservative (path : String) (drafts : List Draft) (part : Cursor) :
    Conservative (addObjectPart path drafts part) := by
  unfold addObjectPart
  split
  · refine (nameOf?_conservative _).bind fun name => ?_
    split
    · exact .pure drafts
    · dsimp only
      split
      · exact .pure _
      · exact .pure _
  · exact .pure drafts

theorem ofBody_conservative (place : Place) (body : Cursor) :
    Conservative (ofBody place body) :=
  .bind (.foldlM (addObjectPart_conservative _) _ []) fun drafts =>
    realize_conservative place drafts

include reliable in
theorem indexesOfBody_conservative (place : Place) (body : Cursor) :
    Conservative (indexesOfBody ask place body) := by
  refine .bind (.mapM (fun member => ?_) _) fun _ => .pure _
  split
  · refine (reliable.typeAt _ place 0).first.bind fun keyType => ?_
    dsimp only
    split
    · refine (reliable.typeAt _ place 0).first.bind fun valueType => ?_
      exact (Render.render_steady reliable member place 0).first.bind fun _ => .pure _
    · refine Check.any_steady.first.bind fun valueType => ?_
      exact (Render.render_steady reliable member place 0).first.bind fun _ => .pure _
  · exact .pure none

include reliable in
theorem callsOfBody_conservative (place : Place) (body : Cursor) :
    Conservative (callsOfBody ask place body) :=
  .mapM (Signature.ofNode_conservative reliable place none) _

include reliable in
theorem ofInterface_conservative (place : Place) (bindings : List Module.Binding) :
    Conservative (ofInterface ask place bindings) := by
  refine .bind (.mapM (ofBody_conservative place) _) fun own => ?_
  refine .foldlM (fun found node => ?_) _ _
  refine (reliable.typeAt node place 0).first.bind fun base => ?_
  exact (reliable.properties base).first.bind fun _ => .pure _

include reliable in
theorem indexesOfInterface_conservative (place : Place) (bindings : List Module.Binding) :
    Conservative (indexesOfInterface ask place bindings) := by
  refine .bind (.mapM (indexesOfBody_conservative reliable place) _) fun own => ?_
  refine .bind (.mapM (fun entry : IndexEntry => (reliable.text entry.keyType).first) _)
    fun keys => ?_
  refine .bind (.foldlM (fun found node => ?_) _ _) fun _ => .pure _
  refine (reliable.typeAt node place 0).first.bind fun base => ?_
  exact (reliable.indexes base).first.bind fun entries =>
    (inheritIndexes_steady reliable found entries).first

include reliable in
theorem callsOfInterface_conservative (place : Place) (bindings : List Module.Binding) :
    Conservative (callsOfInterface ask place bindings) :=
  .bind (.mapM (callsOfBody_conservative reliable place) _) fun _ => .pure _

theorem addClassPart_conservative (path : String) (drafts : List Draft) (part : Cursor) :
    Conservative (addClassPart path drafts part) := by
  unfold addClassPart
  split
  · refine (nameOf?_conservative _).bind fun name => ?_
    split
    · exact .pure drafts
    · exact .pure _
  · split
    · refine (nameOf?_conservative _).bind fun name => ?_
      split
      · exact .pure drafts
      · split
        · exact .pure _
        · split
          · exact .pure _
          · exact .pure drafts
    · exact .pure drafts

include reliable in
theorem baseClass?_conservative (place : Place) (node : Cursor) :
    Conservative (baseClass? ask place node) := by
  unfold baseClass?
  dsimp only
  split
  · exact .pure none
  · split
    · exact .pure none
    · split
      · exact .pure none
      · refine (Reference.typesAt_steady reliable _ place 0).first.bind fun args => ?_
        refine (Lookup.lookup_steady _ _ .values).first.bind fun found => ?_
        split
        · split
          · exact (reliable.declared _ _ args).first.map some
          · exact .pure none
        · exact .pure none

include reliable in
theorem ofClass_conservative (place : Place) (node : Cursor) :
    Conservative (ofClass ask place node) := by
  refine .bind (.foldlM (addClassPart_conservative _) _ []) fun drafts => ?_
  refine (realize_conservative place drafts).bind fun own => ?_
  refine (baseClass?_conservative reliable place node).bind fun base => ?_
  split
  · exact .pure own
  · exact (reliable.load? _ .classMembers).first.bind fun _ => .pure _

include reliable in
theorem constructsOf_conservative (place : Place) (node : Cursor) (t : TypeId) :
    Conservative (constructsOf ask place node t) := by
  unfold constructsOf
  split
  · refine (baseClass?_conservative reliable place node).bind fun base => ?_
    split
    · exact .pure []
    · refine (reliable.load? _ .constructs).first.bind fun inherited => ?_
      refine .mapM (fun signature => ?_) _
      exact (Render.arrow_conservative reliable _ t).bind fun _ => .pure _
  · exact .mapM (Signature.ofNode_conservative reliable place (some t)) _

end Members

namespace Inference

theorem putProperty_conservative (place : Place) (frozen : Bool) (name : String)
    (node : Cursor) (type : TypeId) (members : Entries Symbol) :
    Conservative (putProperty place frozen name node type members) :=
  (Check.newMember_conservative place [node] (some type)).bind fun _ => .pure _

include reliable in
theorem addPart_conservative (place : Place) (frozen : Bool) (members : Entries Symbol)
    (part : Cursor) : Conservative (addPart ask place frozen members part) := by
  unfold addPart
  split
  · refine (Members.nameOf?_conservative _).bind fun name => ?_
    refine (Check.need_steady _).first.bind fun value => ?_
    refine (reliable.ofExpression value place 0 frozen frozen).first.bind fun type => ?_
    split
    · exact putProperty_conservative place frozen _ part type members
    · exact .pure members
  · refine (identifier_steady reliable _ part place 0 frozen).first.bind fun type => ?_
    exact putProperty_conservative place frozen _ part type members
  · refine (Members.nameOf?_conservative _).bind fun name => ?_
    refine (Signature.functionAt_steady .method name part place 0).first.bind fun type => ?_
    split
    · exact putProperty_conservative place frozen _ part type members
    · exact .pure members
  · split
    · exact .pure members
    · refine (reliable.ofExpression _ place 0 false false).first.bind fun spread => ?_
      exact (reliable.properties spread).first.bind fun _ => .pure _
  · exact .pure members

include reliable in
theorem objectMembers_conservative (node : Cursor) (place : Place) (frozen : Bool) :
    Conservative (objectMembers ask node place frozen) :=
  .bind (.foldlM (addPart_conservative reliable place frozen) _ []) fun _ => .pure _

end Inference

include reliable in
theorem TypeSyntax.tupleItem_conservative (place : Place) (node : Cursor) :
    Conservative (tupleItem ask place node) := by
  unfold tupleItem
  dsimp only
  split
  · split
    · exact (reliable.typeAt _ place 0).first.bind fun _ => .pure _
    · exact Check.any_steady.first.bind fun _ => .pure _
  · split
    · refine (Check.need_steady _).first.bind fun inner => ?_
      exact (reliable.typeAt inner place 0).first.bind fun _ => .pure _
    · split
      · refine (Check.need_steady _).first.bind fun inner => ?_
        exact (reliable.typeAt inner place 0).first.bind fun _ => .pure _
      · exact (reliable.typeAt node place 0).first.bind fun _ => .pure _

/-! ## Computed types -/

namespace Structure

include reliable in
theorem objectProperties?_conservative (t : TypeId) :
    Conservative (objectProperties? ask t) := by
  refine (reliable.simplified t).first.bind fun simple => ?_
  split
  · exact .pure none
  · refine (Check.category_steady _).first.bind fun category => ?_
    split
    · exact (reliable.properties _).first.map some
    · exact .pure none

theorem keysOf?_conservative (types : List TypeId) : Conservative (keysOf? types) := by
  induction types with
  | nil => exact .pure _
  | cons t rest ih =>
      refine (Check.facts_steady t).first.bind fun r => ?_
      split
      · exact ih.bind fun _ => .pure _
      · split
        · exact ih
        · exact .pure none

include reliable in
theorem literalKeys?_conservative (t : TypeId) : Conservative (literalKeys? ask t) := by
  refine (reliable.simplified t).first.bind fun simple => ?_
  split
  · exact .pure none
  · exact (reliable.alternatives _).first.bind keysOf?_conservative

end Structure

namespace Computed

include reliable in
theorem filterMembers_conservative (name : String) (args : List TypeId) (target : TypeId) :
    Conservative (filterMembers ask name args target) := by
  refine (reliable.alternatives target).first.bind fun members => ?_
  split
  · refine (Inference.dropNullish_steady members).first.bind fun kept => ?_
    exact (reliable.unionOfTypes kept).first.map some
  · split
    · refine (reliable.simplified _).first.bind fun other => ?_
      split
      · exact .pure _
      · refine .bind (.mapM (fun member => ?_) members) fun kept => ?_
        · exact (reliable.assignable member _).first.bind fun _ => .pure _
        · exact (reliable.unionOfTypes _).first.map some
    · exact .pure _

include reliable in
theorem copy_conservative (isOptional isReadonly : Bool) (symbol : Symbol) :
    Conservative (copy ask isOptional isReadonly symbol) := by
  unfold copy
  split
  · exact .pure _
  · refine (reliable.ofSymbol symbol).first.bind fun t => ?_
    exact (Check.newMember_conservative _ _ (some t)).bind fun _ => .pure _

include reliable in
theorem changedProperties?_conservative (name : String) (args : List TypeId)
    (properties : List Symbol) : Conservative (changedProperties? ask name args properties) := by
  unfold changedProperties?
  split
  · exact .map some (.mapM (fun p => copy_conservative reliable _ _ p) properties)
  · exact .map some (.mapM (fun p => copy_conservative reliable _ _ p) properties)
  · exact .map some (.mapM (fun p => copy_conservative reliable _ _ p) properties)
  · split
    · refine (Structure.literalKeys?_conservative reliable _).bind fun keys => ?_
      split
      · exact .pure none
      · exact .pure _
    · exact .pure none

include reliable in
theorem utility_conservative (t : TypeId) (name : String) (args : List TypeId) :
    Conservative (utility ask t name args) := by
  refine (Check.needFirst_steady args).first.bind fun first => ?_
  split
  · refine (reliable.simplified first).first.bind fun target => ?_
    split
    · exact .pure none
    · exact filterMembers_conservative reliable name args _
  · refine (Structure.objectProperties?_conservative reliable first).bind fun properties => ?_
    split
    · exact .pure none
    · exact .pure none
    · refine (changedProperties?_conservative reliable name args _).bind fun changed => ?_
      split
      · exact .pure none
      · refine (reliable.text t).first.bind fun text => ?_
        exact (Check.syntheticObject_steady t _ text).first.map some

include reliable in
theorem mappedKeys?_conservative (place : Place) (constraint : Cursor) :
    Conservative (mappedKeys? ask place constraint) := by
  unfold mappedKeys?
  dsimp only
  split
  · refine (Check.need_steady _).first.bind fun node => ?_
    refine (reliable.typeAt node place 0).first.bind fun target => ?_
    refine (Structure.objectProperties?_conservative reliable target).bind fun properties => ?_
    split
    · exact .pure none
    · exact .pure _
  · refine (reliable.typeAt _ place 0).first.bind fun t => ?_
    exact (Structure.literalKeys?_conservative reliable t).bind fun _ => .pure _

include reliable in
theorem mappedName?_conservative (place : Place) (remap : Option Cursor) (key : String) :
    Conservative (mappedName? ask place remap key) := by
  unfold mappedName?
  split
  · exact .pure _
  · refine (reliable.typeAt _ place 0).first.bind fun t => ?_
    exact (Structure.literalKeys?_conservative reliable t).bind fun _ => .pure _

include reliable in
theorem mappedProperty?_conservative (place : Place) (clause : MappedClause) (key : String)
    (base : Option Symbol) : Conservative (mappedProperty? ask place clause key base) := by
  refine (Check.literal_steady _ _).first.bind fun literal => ?_
  refine (Check.newPlace_conservative _ _).bind fun inside => ?_
  refine (mappedName?_conservative reliable inside clause.remap key).bind fun name => ?_
  split
  · exact .pure none
  · dsimp only
    refine (reliable.typeAt _ inside 0).first.bind fun type => ?_
    exact (Check.newMember_conservative inside _ (some type)).bind fun _ => .pure _

include reliable in
theorem mapped_conservative (t : TypeId) (node : Cursor) (place : Place) :
    Conservative (mapped ask t node place) := by
  unfold mapped
  split
  · exact .pure none
  · refine (mappedKeys?_conservative reliable place _).bind fun keys => ?_
    split
    · exact .pure none
    · refine .bind (.mapM (fun pair => ?_) _) fun found => ?_
      · exact mappedProperty?_conservative reliable place _ _ _
      · refine (reliable.text t).first.bind fun text => ?_
        exact (Check.syntheticObject_steady t _ text).first.map some

include reliable in
theorem keys_conservative (t : TypeId) (node : Cursor) (place : Place) :
    Conservative (keys ask t node place) := by
  refine (Check.need_steady _).first.bind fun inner => ?_
  refine (reliable.typeAt inner place 0).first.bind fun target => ?_
  refine (Structure.objectProperties?_conservative reliable target).bind fun properties => ?_
  split
  · exact (Structure.stuck_steady reliable t).first.map some
  · exact (reliable.unionOf (fun _ => Check.literal_steady _ _) _).first.map some

include reliable in
theorem tupleAccess?_conservative (target : TypeId) (index : TypeFacts) :
    Conservative (tupleAccess? ask target index) := by
  refine (reliable.elements target).first.bind fun elements => ?_
  split
  · split
    · exact .pure none
    · exact .pure _
  · split
    · exact (reliable.unionOfTypes _).first.map some
    · exact .pure none

include reliable in
theorem propertyTypes_conservative (target : TypeId) (keys : List String) :
    Conservative (propertyTypes ask target keys) :=
  (reliable.properties target).first.bind fun _ =>
    .mapM (fun symbol => (reliable.ofSymbol symbol).first) _

include reliable in
theorem keyAccess_conservative (t target index : TypeId) :
    Conservative (keyAccess ask t target index) := by
  refine (Structure.literalKeys?_conservative reliable index).bind fun keys => ?_
  refine (Check.category_steady target).first.bind fun category => ?_
  split
  · refine (propertyTypes_conservative reliable target _).bind fun found => ?_
    split
    · exact (Structure.stuck_steady reliable t).first
    · exact (reliable.unionOfTypes _).first
  · exact (Structure.stuck_steady reliable t).first

include reliable in
theorem access_conservative (t : TypeId) (node : Cursor) (place : Place) :
    Conservative (access ask t node place) := by
  unfold access
  split
  · refine (reliable.typeAt _ place 0).first.bind fun targetType => ?_
    refine (reliable.simplified targetType).first.bind fun target => ?_
    refine (reliable.typeAt _ place 0).first.bind fun indexType => ?_
    refine (reliable.simplified indexType).first.bind fun index => ?_
    split
    · refine (Check.category_steady _).first.bind fun category => ?_
      refine (Check.facts_steady _).first.bind fun indexFacts => ?_
      split
      · exact (reliable.element? _).first
      · split
        · refine (tupleAccess?_conservative reliable _ indexFacts).bind fun found => ?_
          split
          · exact .pure _
          · exact (keyAccess_conservative reliable t _ _).map some
        · exact (keyAccess_conservative reliable t _ _).map some
    · exact .pure none
  · exact .pure none

end Computed

namespace Conditional

include reliable in
/-- The branches of candidates are found one after the other, and what was known stays known. -/
theorem branches?_conservative (place : Place) (choice : Choice) (parameter : Option String)
    (candidates : List TypeId) :
    Conservative (branches? ask place choice parameter candidates) := by
  induction candidates with
  | nil => exact .pure _
  | cons candidate rest ih =>
      refine (Check.category_steady candidate).first.bind fun category => ?_
      split
      · exact .pure none
      · refine (reliable.fits (some candidate) choice.pattern place 0 []).first.bind fun result => ?_
        dsimp only
        refine (branchPlace_conservative _ _ _).bind fun inside => ?_
        refine (reliable.typeAt _ inside 0).first.bind fun t => ?_
        exact ih.bind fun _ => .pure _

include reliable in
theorem united_conservative (t : TypeId) (place : Place) (choice : Choice)
    (parameter : Option String) (candidates : List TypeId) :
    Conservative (united ask t place choice parameter candidates) := by
  refine (branches?_conservative reliable place choice parameter candidates).bind
    fun results => ?_
  split
  · exact (Structure.stuck_steady reliable t).first
  · exact (reliable.unionOfTypes _).first

include reliable in
theorem conditional_conservative (t : TypeId) (node : Cursor) (place : Place) :
    Conservative (conditional ask t node place) := by
  unfold conditional
  split
  · exact .pure none
  · refine (reliable.typeAt _ place 0).first.bind fun checkedType => ?_
    refine (reliable.simplified checkedType).first.bind fun simple => ?_
    split
    · exact .pure none
    · refine (Check.category_steady _).first.bind fun category => ?_
      dsimp only
      split
      · refine (reliable.members _).first.bind fun candidates => ?_
        exact (united_conservative reliable t place _ _ candidates).map some
      · exact (united_conservative reliable t place _ _ _).map some

end Conditional

/-! ## All parts -/

namespace Answer

theorem syntaxOf_conservative (r : TypeFacts) : Conservative (syntaxOf r) := by
  refine (Check.need_steady r.node).first.bind fun node => ?_
  refine (Check.need_steady r.place).first.bind fun place => ?_
  exact (Check.upToDate_conservative place).bind fun _ => .pure _

/-- Whatever is done with the syntax of a type, if that forgets nothing. -/
theorem withSyntax_conservative {α : Type} {f : Cursor × Place → CheckM α} (r : TypeFacts)
    (rest : ∀ node place, Conservative (f (node, place))) :
    Conservative (syntaxOf r >>= f) :=
  (syntaxOf_conservative r).bind fun (node, place) => rest node place

/-- A way to find a part, if there is one, forgets nothing. -/
def Loader.IsConservative {part : Part} (loader : Loader part) : Prop :=
  ∀ find, loader = some find → Conservative find

theorem isConservative_none {part : Part} : Loader.IsConservative (none : Loader part) := by
  intro find impossible
  cases impossible

theorem isConservative_some {part : Part} {find : CheckM part.Content}
    (conservative : Conservative find) : Loader.IsConservative (some find) := by
  intro other same
  cases same
  exact conservative

include reliable in
theorem written?_isConservative (t : TypeId) (r : TypeFacts) (part : Part) :
    (written? ask t r part).IsConservative := by
  cases part with
  | text =>
      exact isConservative_some <| withSyntax_conservative r fun node place =>
        (Render.render_steady reliable node place 0).first
  | elements =>
      simp only [written?]
      split
      · exact isConservative_none
      · exact isConservative_some <| withSyntax_conservative r fun node place =>
          .mapM (TypeSyntax.tupleItem_conservative reliable place) _
  | members =>
      simp only [written?]
      split
      · exact isConservative_none
      · exact isConservative_some <| withSyntax_conservative r fun node place =>
          .mapM (fun operand => (reliable.typeAt operand place 0).first) _
  | properties =>
      simp only [written?]
      split
      · exact isConservative_none
      · exact isConservative_some <| withSyntax_conservative r fun node place =>
          Members.ofBody_conservative place node
  | indexes =>
      simp only [written?]
      split
      · exact isConservative_none
      · exact isConservative_some <| withSyntax_conservative r fun node place =>
          Members.indexesOfBody_conservative reliable place node
  | calls =>
      simp only [written?]
      split
      · exact isConservative_some <| withSyntax_conservative r fun node place =>
          (Signature.ofNode_conservative reliable place none node).bind fun _ => .pure _
      · split
        · exact isConservative_some <| withSyntax_conservative r fun node place =>
            Members.callsOfBody_conservative reliable place node
        · exact isConservative_none
  | simplified =>
      simp only [written?]
      split
      · exact isConservative_none
      · refine isConservative_some <| withSyntax_conservative r fun node place => ?_
        dsimp only
        split
        · exact Computed.mapped_conservative reliable t node place
        · exact Computed.keys_conservative reliable t node place
        · exact Computed.access_conservative reliable t node place
        · exact Conditional.conditional_conservative reliable t node place
  | element | constructs | classMembers | enumMembers => exact isConservative_none

include reliable in
theorem declared?_isConservative (t : TypeId) (r : TypeFacts) (part : Part) :
    (declared? ask t r part).IsConservative := by
  cases part with
  | text => exact isConservative_some (reliable.applied _ _).first
  | properties =>
      simp only [declared?]
      split
      · exact isConservative_none
      · exact isConservative_some <| withSyntax_conservative r fun _ place =>
          Members.ofInterface_conservative reliable place _
  | indexes =>
      simp only [declared?]
      split
      · exact isConservative_none
      · exact isConservative_some <| withSyntax_conservative r fun _ place =>
          Members.indexesOfInterface_conservative reliable place _
  | calls =>
      simp only [declared?]
      split
      · exact isConservative_none
      · exact isConservative_some <| withSyntax_conservative r fun _ place =>
          Members.callsOfInterface_conservative reliable place _
  | classMembers =>
      simp only [declared?]
      split
      · exact isConservative_none
      · exact isConservative_some <| withSyntax_conservative r fun node place =>
          Members.ofClass_conservative reliable place node
  | constructs =>
      simp only [declared?]
      split
      · exact isConservative_none
      · exact isConservative_some <| withSyntax_conservative r fun node place =>
          Members.constructsOf_conservative reliable place node t
  | enumMembers =>
      simp only [declared?]
      split
      · exact isConservative_none
      · exact isConservative_some <| withSyntax_conservative r fun node place =>
          Enum.members_conservative place.source node
  | members | element | elements | simplified => exact isConservative_none

include reliable in
theorem joined_conservative (separator : String) (types : List TypeId) :
    Conservative (joined ask separator types) :=
  .bind (.mapM (fun t => (reliable.text t).first) types) fun _ => .pure _

include reliable in
/-- Every way in which a part of a type is found forgets nothing. -/
theorem loader?_isConservative (t : TypeId) (r : TypeRecord) (part : Part) :
    (loader? ask t r part).IsConservative := by
  unfold loader?
  cases r.shape with
  | plain => cases part <;> exact isConservative_none
  | array =>
      cases part with
      | text =>
          refine isConservative_some <| (Check.need_steady _).first.bind fun element => ?_
          exact (reliable.text element).first.bind fun _ => .pure _
      | _ => exact isConservative_none
  | generic =>
      cases part with
      | text => exact isConservative_some (reliable.applied _ _).first
      | _ => exact isConservative_none
  | union =>
      cases part with
      | text => exact isConservative_some (joined_conservative reliable _ _)
      | _ => exact isConservative_none
  | written => exact written?_isConservative reliable t _ part
  | writtenArray =>
      cases part with
      | element =>
          refine isConservative_some <| withSyntax_conservative _ fun node place => ?_
          refine (Check.needFirst_steady _).first.bind fun element => ?_
          exact (reliable.typeAt element place 0).first
      | _ => exact isConservative_none
  | utility name =>
      cases part with
      | text => exact isConservative_some (reliable.applied _ _).first
      | simplified => exact isConservative_some (Computed.utility_conservative reliable t _ _)
      | _ => exact isConservative_none
  | declared => exact declared?_isConservative reliable t _ part
  | function nodes =>
      cases part with
      | text => exact isConservative_some (Render.function_conservative reliable t)
      | calls =>
          exact isConservative_some <| withSyntax_conservative _ fun _ place =>
            .mapM (Signature.ofNode_conservative reliable place none) _
      | _ => exact isConservative_none
  | classExpression =>
      cases part with
      | classMembers =>
          exact isConservative_some <| withSyntax_conservative _ fun node place =>
            Members.ofClass_conservative reliable place node
      | constructs =>
          exact isConservative_some <| withSyntax_conservative _ fun node place =>
            Members.constructsOf_conservative reliable place node t
      | _ => exact isConservative_none
  | objectLiteral frozen =>
      cases part with
      | text => exact isConservative_some (Render.objectLiteral_conservative reliable t)
      | properties =>
          exact isConservative_some <| withSyntax_conservative _ fun node place =>
            Inference.objectMembers_conservative reliable node place _
      | _ => exact isConservative_none
  | frozenTuple =>
      cases part with
      | text =>
          exact isConservative_some <| (joined_conservative reliable _ _).bind fun _ => .pure _
      | _ => exact isConservative_none

end Answer

end Rules

end TypeGloss
