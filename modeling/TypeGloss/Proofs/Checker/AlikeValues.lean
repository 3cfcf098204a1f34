/-
# TypeGloss.Proofs.Checker.AlikeValues — values under other numbers

The rules by which the types of declarations, expressions and symbols are found. The guard of
variables being inferred holds places in the sources and no numbers, so it holds the same in
checkers that are alike.
-/
import TypeGloss.Proofs.Checker.AlikeMembers

namespace TypeGloss.Inference

set_option autoImplicit false

variable {o : Offset} {ask : Ask} (uniform : Uniform o ask)

/-! ## Declarations -/

include uniform in
theorem declaredValue_parallel (node : Cursor) (place : Place) (literal : Bool) :
    Parallel o.Alike o.type (declaredValue ask node place literal)
      (declaredValue ask node (o.place place) literal) := by
  unfold declaredValue
  split
  · exact uniform.typeAt _ place
  · exact uniform.ofExpression _ place literal false
  · exact Check.any_parallel

include uniform in
theorem parameter_parallel (node : Cursor) (place : Place) :
    Parallel o.Alike o.type (parameter ask node place) (parameter ask node (o.place place)) := by
  unfold parameter
  split
  · exact Check.any_parallel
  · refine (declaredValue_parallel uniform node place false).bind fun declared => ?_
    dsimp only
    split
    · exact Check.any_parallel.bind fun t => Check.arrayOf_parallel t false
    · exact .done rfl

include uniform in
theorem variableType_parallel (declarator : Cursor) (place : Place) :
    Parallel o.Alike o.type (variableType ask declarator place)
      (variableType ask declarator (o.place place)) := by
  unfold variableType
  rw [Offset.orTop_place]
  exact Check.guarded_parallel (Check.Guard.values_renamed o) _ Check.any_parallel
    (declaredValue_parallel uniform declarator place.orTop _)

include uniform in
theorem binding_parallel (found : Lookup.Found) :
    Parallel o.Alike o.type (binding ask found) (binding ask found) := by
  refine (Check.needFirst_same found.bindings).bind fun first => ?_
  dsimp only [id]
  split
  · exact Signature.functionOfBindings_parallel found.source found.bindings
  · exact uniform.declared found.source _ []
  · exact uniform.declared found.source _ []
  · split
    · exact variableType_parallel uniform _ (.top found.source)
    · exact uniform.ofExpression _ (.top found.source) false false

include uniform in
theorem localValue_parallel (name : String) (declaration : Cursor) (place : Place) :
    Parallel o.Alike o.type (localValue ask name declaration place)
      (localValue ask name declaration (o.place place)) := by
  unfold localValue
  dsimp only
  split
  · exact variableType_parallel uniform declaration place
  · split
    · exact parameter_parallel uniform declaration place
    · split
      · exact Signature.functionAt_parallel _ _ declaration place
      · exact Check.any_parallel

/-! ## Names and members -/

include uniform in
theorem identifier_parallel (name : String) (at_ : Cursor) (place : Place) (literal : Bool) :
    Parallel o.Alike o.type (identifier ask name at_ place literal)
      (identifier ask name at_ (o.place place) literal) := by
  unfold identifier
  split
  · exact Check.primitive_parallel .undefined
  · split
    · exact Check.primitive_parallel .number
    · split
      · exact (localValue_parallel uniform name _ place).bind fun t =>
          Check.keepLiteral_parallel t literal
      · refine (Lookup.lookup_parallel place.source name .values).bind fun found => ?_
        cases found with
        | some found =>
            exact (binding_parallel uniform found).bind fun t =>
              Check.keepLiteral_parallel t literal
        | none =>
            refine (Lookup.externalFile?_parallel place.source name).bind fun file => ?_
            cases file with
            | some file => exact Check.namedType_parallel name _
            | none => exact Check.any_parallel

/-- Renaming the symbols does not change which is found by name. -/
theorem find?_symbols (name : String) (symbols : List Symbol) :
    (symbols.map o.symbol).find? (·.name == some name) =
      (symbols.find? (·.name == some name)).map o.symbol := by
  rw [List.find?_map]
  rfl

include uniform in
theorem member_parallel (owner : TypeId) (name : String) :
    Parallel o.Alike o.type (member ask owner name) (member ask (o.type owner) name) := by
  refine (uniform.simplified owner).bind fun simple => ?_
  cases simple with
  | none => exact Check.any_parallel
  | some t =>
      refine (Check.category_parallel t).bind fun category => ?_
      dsimp only [id]
      split
      · refine (Enum.memberType?_parallel uniform t name).bind fun found => ?_
        cases found with
        | some found => exact .done rfl
        | none => exact Check.any_parallel
      · split
        · exact Check.primitive_parallel .number
        · refine (uniform.properties t).bind fun symbols => ?_
          rw [find?_symbols]
          cases symbols.find? (·.name == some name) with
          | some property => exact uniform.ofSymbol property
          | none => exact Check.any_parallel

include uniform in
theorem valuePath_parallel (node : Cursor) (place : Place) :
    Parallel o.Alike o.type (valuePath ask node place) (valuePath ask node (o.place place)) := by
  unfold valuePath
  split
  · exact Check.any_parallel
  · exact (identifier_parallel uniform _ node place true).bind fun start =>
      .foldlM_same (member_parallel uniform) _ start

/-! ## Literals and operators -/

theorem numberType_parallel (text : String) (negative : Bool) :
    Parallel o.Alike o.type (numberType text negative) (numberType text negative) :=
  (Check.ofResult_parallel _).bind fun _ => Check.literal_parallel _ _

theorem unary_parallel (node : Cursor) (keep : Bool) :
    Parallel o.Alike o.type (unary node keep) (unary node keep) := by
  unfold unary
  dsimp only
  split
  · exact Check.primitive_parallel .boolean
  · split
    · exact Check.primitive_parallel .string
    · split
      · exact Check.primitive_parallel .undefined
      · split
        · split
          · exact (numberType_parallel _ _).bind fun t => Check.keepLiteral_parallel t keep
          · exact Check.primitive_parallel .number
        · exact Check.primitive_parallel .number

theorem isNullish_parallel (t : TypeId) :
    Parallel o.Alike id (isNullish t) (isNullish (o.type t)) :=
  (Check.facts_parallel t).bind fun _ => .done rfl

theorem dropNullish_parallel (types : List TypeId) :
    Parallel o.Alike (List.map o.type) (dropNullish types) (dropNullish (types.map o.type)) := by
  refine .filterM (fun t => ?_) types
  exact (isNullish_parallel t).bind fun _ => .done rfl

include uniform in
theorem operatorType_parallel (operator : String) (left right : TypeId) :
    Parallel o.Alike o.type (operatorType ask operator left right)
      (operatorType ask operator (o.type left) (o.type right)) := by
  refine (Check.facts_parallel left).bind fun first => ?_
  refine (Check.facts_parallel right).bind fun second => ?_
  rw [Offset.facts_primitive, Offset.facts_primitive]
  dsimp only
  split
  · exact Check.primitive_parallel .boolean
  · split
    · split
      · exact Check.primitive_parallel .string
      · split
        · exact .done rfl
        · exact Check.any_parallel
    · split
      · split
        · exact .done rfl
        · exact Check.primitive_parallel .number
      · split
        · exact .done rfl
        · split
          · refine (uniform.alternatives left).bind fun types => ?_
            refine (dropNullish_parallel types).bind fun kept => ?_
            have united := uniform.unionOfTypes (kept ++ [right])
            rw [List.map_append] at united
            exact united
          · exact Check.any_parallel

include uniform in
theorem binary_parallel (node : Cursor) (place : Place) :
    Parallel o.Alike o.type (binary ask node place) (binary ask node (o.place place)) := by
  refine (Check.need_same _).bind fun leftNode => ?_
  refine (Signature.widenedExpression_parallel uniform place leftNode).bind fun left => ?_
  refine (Check.need_same _).bind fun rightNode => ?_
  refine (Signature.widenedExpression_parallel uniform place rightNode).bind fun right => ?_
  exact operatorType_parallel uniform _ left right

/-! ## Calls -/

include uniform in
theorem callable_parallel (t : TypeId) :
    Parallel o.Alike (List.map o.call) (callable ask t) (callable ask (o.type t)) := by
  refine (Check.category_parallel t).bind fun category => ?_
  dsimp only [id]
  split
  · exact uniform.calls t
  · exact uniform.calls t
  · exact .done rfl

include uniform in
theorem call_parallel (node : Cursor) (place : Place) :
    Parallel o.Alike o.type (call ask node place) (call ask node (o.place place)) := by
  unfold call
  dsimp only
  split
  · exact uniform.ofExpression _ place true true
  · refine (Check.need_same _).bind fun function => ?_
    refine (uniform.ofExpression function place false false).bind fun callee => ?_
    refine (callable_parallel uniform callee).bind fun signatures => ?_
    cases signatures with
    | nil => exact Check.any_parallel
    | cons signature rest => exact .done rfl

theorem constructedLibrary_parallel (name : String) (args : List TypeId) (place : Place) :
    Parallel o.Alike o.type (constructedLibrary name args place)
      (constructedLibrary name (args.map o.type) (o.place place)) := by
  unfold constructedLibrary
  split
  · cases args with
    | nil => exact Check.any_parallel.bind fun t => Check.arrayOf_parallel t false
    | cons element rest => exact Check.arrayOf_parallel element false
  · split
    · exact Reference.libraryType_parallel name _ args
    · split
      · exact Check.namedType_parallel name _
      · refine (Lookup.externalFile?_parallel place.source name).bind fun file => ?_
        cases file with
        | some file => exact Check.namedType_parallel name _
        | none => exact Check.any_parallel

include uniform in
theorem construction_parallel (node : Cursor) (place : Place) :
    Parallel o.Alike o.type (construction ask node place)
      (construction ask node (o.place place)) := by
  refine (uniform.typesAt _ place).bind fun args => ?_
  split
  · exact Check.any_parallel
  · refine (Lookup.lookup_parallel place.source _ .values).bind fun found => ?_
    dsimp only [id]
    split
    · split
      · exact uniform.declared _ _ args
      · exact constructedLibrary_parallel _ args place
    · exact constructedLibrary_parallel _ args place

/-! ## Objects and arrays -/

theorem object_parallel (node : Cursor) (place : Place) (frozen : Bool) :
    Parallel o.Alike o.type (object node place frozen) (object node (o.place place) frozen) :=
  (Check.complete_parallel place).bind fun _ =>
    Check.intern_parallel (o.key_ofNode node place none _).symm rfl

theorem putProperty_parallel (place : Place) (frozen : Bool) (name : String) (node : Cursor)
    (type : TypeId) (members : Entries Symbol) :
    Parallel o.Alike (Entries.mapEntries o.symbol)
      (putProperty place frozen name node type members)
      (putProperty (o.place place) frozen name node (o.type type)
        (Entries.mapEntries o.symbol members)) := by
  refine (Check.newMember_parallel place [node] (some type)).bind fun member => .done ?_
  rw [Entries.mapEntries_put]
  rfl

/-- Spread properties are written one after the other. -/
theorem spread_map (properties : List Symbol) (members : Entries Symbol) :
    (properties.map o.symbol).foldl
        (fun found property => Entries.put (property.name.getD "") property found)
        (Entries.mapEntries o.symbol members) =
      Entries.mapEntries o.symbol
        (properties.foldl
          (fun found property => Entries.put (property.name.getD "") property found) members) := by
  induction properties generalizing members with
  | nil => rfl
  | cons property rest ih =>
      rw [List.map_cons, List.foldl_cons, List.foldl_cons, ← ih, Entries.mapEntries_put]
      rfl

include uniform in
theorem addPart_parallel (place : Place) (frozen : Bool) (members : Entries Symbol)
    (part : Cursor) :
    Parallel o.Alike (Entries.mapEntries o.symbol) (addPart ask place frozen members part)
      (addPart ask (o.place place) frozen (Entries.mapEntries o.symbol members) part) := by
  unfold addPart
  split
  · refine (Members.nameOf?_parallel _).bind fun name => ?_
    refine (Check.need_same _).bind fun value => ?_
    refine (uniform.ofExpression value place frozen frozen).bind fun type => ?_
    cases name with
    | some name => exact putProperty_parallel place frozen name part type members
    | none => exact .done rfl
  · refine (identifier_parallel uniform part.text part place frozen).bind fun type => ?_
    exact putProperty_parallel place frozen part.text part type members
  · refine (Members.nameOf?_parallel _).bind fun name => ?_
    refine (Signature.functionAt_parallel _ name part place).bind fun type => ?_
    cases name with
    | some name => exact putProperty_parallel place frozen name part type members
    | none => exact .done rfl
  · split
    · exact .done rfl
    · refine (uniform.ofExpression _ place false false).bind fun spread => ?_
      exact (uniform.properties spread).bind fun properties => .done (spread_map properties members)
  · exact .done rfl

include uniform in
theorem objectMembers_parallel (node : Cursor) (place : Place) (frozen : Bool) :
    Parallel o.Alike (List.map o.symbol) (objectMembers ask node place frozen)
      (objectMembers ask node (o.place place) frozen) :=
  (Parallel.foldlM_same (addPart_parallel uniform place frozen) _ []).bind fun members =>
    .done (Entries.entries_mapEntries o.symbol members)

include uniform in
theorem tuple_parallel (node : Cursor) (place : Place) :
    Parallel o.Alike o.type (tuple ask node place) (tuple ask node (o.place place)) := by
  refine .bind (.mapM_same (g := o.item) (fun element => ?_) _) fun items => ?_
  · exact (uniform.ofExpression element place true true).bind fun _ => .done rfl
  · refine (Check.complete_parallel place).bind fun _ => ?_
    exact Check.intern_parallel (o.key_ofNode node place none _).symm rfl

include uniform in
theorem arrayPart_parallel (place : Place) (part : Cursor) :
    Parallel o.Alike o.type (arrayPart ask place part) (arrayPart ask (o.place place) part) := by
  unfold arrayPart
  split
  · exact Signature.widenedExpression_parallel uniform place part
  · split
    · exact Check.any_parallel
    · refine (uniform.ofExpression _ place false false).bind fun spread => ?_
      refine (Check.category_parallel spread).bind fun category => ?_
      dsimp only [id]
      split
      · refine (uniform.element? spread).bind fun element => ?_
        cases element with
        | some element => exact .done rfl
        | none => exact Check.any_parallel
      · exact Check.any_parallel

include uniform in
theorem array_parallel (node : Cursor) (place : Place) (frozen : Bool) :
    Parallel o.Alike o.type (array ask node place frozen)
      (array ask node (o.place place) frozen) := by
  unfold array
  split
  · exact tuple_parallel uniform node place
  · refine (Parallel.mapM_same (arrayPart_parallel uniform place) _).bind fun types => ?_
    rw [List.isEmpty_map]
    split
    · exact Check.any_parallel.bind fun element => Check.arrayOf_parallel element false
    · exact (uniform.unionOfTypes types).bind fun element => Check.arrayOf_parallel element false

/-! ## Expressions -/

theorem functionExpression_parallel (node : Cursor) (place : Place) :
    Parallel o.Alike o.type (functionExpression node place)
      (functionExpression node (o.place place)) :=
  (Check.complete_parallel place).bind fun _ =>
    Check.intern_parallel (o.key_ofNode node place none _).symm rfl

theorem classExpression_parallel (node : Cursor) (place : Place) :
    Parallel o.Alike o.type (classExpression node place)
      (classExpression node (o.place place)) :=
  (Check.complete_parallel place).bind fun _ =>
    Check.intern_parallel (o.key_ofNode node place none _).symm rfl

theorem template_parallel (node : Cursor) (keep : Bool) :
    Parallel o.Alike o.type (template node keep) (template node keep) := by
  unfold template
  split
  · exact Check.primitive_parallel .string
  · refine (Check.ofResult_parallel _).bind fun value => ?_
    exact (Check.literal_parallel _ _).bind fun t => Check.keepLiteral_parallel t keep

include uniform in
theorem assertion_parallel (node : Cursor) (place : Place) :
    Parallel o.Alike o.type (assertion ask node place) (assertion ask node (o.place place)) := by
  refine (Check.needLast_same _).bind fun last => ?_
  dsimp only [id]
  split
  · exact (Check.needFirst_same _).bind fun first => uniform.ofExpression first place true true
  · exact uniform.typeAt last place

/-- Only promises are looked into. -/
theorem awaited_eq (t : TypeId) :
    awaited t = (do
      let r ← Check.facts t
      return if r.category = .generic ∧ (r.name = some "Promise" ∨ r.name = some "PromiseLike")
        then r.args.headD t else t) := by
  refine congrArg (Check.facts t >>= ·) (funext fun r => ?_)
  split
  · next isGeneric isPromise args => simp [isGeneric, isPromise, args]
  · next isGeneric isPromise args => simp [isGeneric, isPromise, args]
  · next neither nor =>
      split
      · next promise =>
          obtain ⟨isGeneric, isPromise | isPromise⟩ := promise <;> cases args : r.args with
          | nil => rfl
          | cons result rest =>
              first
                | exact absurd args (neither result rest isGeneric isPromise)
                | exact absurd args (nor result rest isGeneric isPromise)
      · rfl

theorem awaited_parallel (t : TypeId) :
    Parallel o.Alike o.type (awaited t) (awaited (o.type t)) := by
  rw [awaited_eq, awaited_eq]
  refine (Check.facts_parallel t).bind fun r => .done ?_
  rw [Offset.facts_category, Offset.facts_name, Offset.facts_args]
  split
  · cases r.args <;> rfl
  · rfl

include uniform in
theorem expression_parallel (node : Cursor) (place : Place) (literal frozen : Bool) :
    Parallel o.Alike o.type (expression ask node place literal frozen)
      (expression ask node (o.place place) literal frozen) := by
  unfold expression
  dsimp only
  split
  · exact functionExpression_parallel node place
  · split
    · exact Check.namedType_parallel _ none
    · split
      · split
        · exact uniform.ofExpression _ place literal frozen
        · exact Check.any_parallel
      · split
        · exact uniform.ofExpression _ place literal frozen
        · exact Check.any_parallel
      · refine (Check.ofResult_parallel _).bind fun value => ?_
        exact (Check.literal_parallel _ _).bind fun t => Check.keepLiteral_parallel t _
      · exact template_parallel node _
      · exact (numberType_parallel _ _).bind fun t => Check.keepLiteral_parallel t _
      · exact (Check.literal_parallel _ _).bind fun t => Check.keepLiteral_parallel t _
      · exact (Check.literal_parallel _ _).bind fun t => Check.keepLiteral_parallel t _
      · exact Check.primitive_parallel .null
      · exact Check.primitive_parallel .undefined
      · exact Check.namedType_parallel _ _
      · exact unary_parallel node _
      · exact binary_parallel uniform node place
      · refine uniform.unionOf_same (fun branch => ?_) _
        exact (Check.need_same _).bind fun inner => uniform.ofExpression inner place literal frozen
      · exact assertion_parallel uniform node place
      · exact (Check.needFirst_same _).bind fun inner =>
          uniform.ofExpression inner place literal frozen
      · refine (Check.needFirst_same _).bind fun inner => ?_
        exact (uniform.ofExpression inner place false false).bind awaited_parallel
      · exact object_parallel node place frozen
      · exact array_parallel uniform node place frozen
      · exact classExpression_parallel node place
      · exact identifier_parallel uniform _ node place _
      · refine (Check.need_same _).bind fun object => ?_
        refine (uniform.ofExpression object place true false).bind fun owner => ?_
        exact (member_parallel uniform owner _).bind fun found => Check.keepLiteral_parallel found _
      · exact call_parallel uniform node place
      · exact construction_parallel uniform node place
      · exact Check.any_parallel

/-! ## Symbols and declarations -/

include uniform in
theorem memberAt_parallel (symbol : Symbol) (place : Place) (nodes : List Cursor) :
    Parallel o.Alike o.type (memberAt ask symbol place nodes)
      (memberAt ask (o.symbol symbol) (o.place place) nodes) := by
  unfold memberAt
  split
  · exact Check.any_parallel
  · dsimp only
    split
    · exact Signature.functionOf_parallel _ place symbol
    · split
      · exact parameter_parallel uniform _ place
      · split
        · exact declaredValue_parallel uniform _ place symbol.isReadonly
        · split
          · exact variableType_parallel uniform _ place
          · exact Check.any_parallel

include uniform in
theorem memberType_parallel (symbol : Symbol) (member : Member) :
    Parallel o.Alike o.type (memberType ask symbol member)
      (memberType ask (o.symbol symbol) (o.member member)) :=
  (Check.upToDate_parallel member.place).bind fun place =>
    memberAt_parallel uniform symbol place member.nodes

include uniform in
theorem symbolType_parallel (symbol : Symbol) :
    Parallel o.Alike o.type (symbolType ask symbol) (symbolType ask (o.symbol symbol)) := by
  unfold symbolType
  rw [Offset.symbol_member, Offset.symbol_declaration]
  cases symbol.member with
  | some member =>
      refine (Check.slotType_parallel member.slot).bind fun known => ?_
      cases known with
      | some t => exact .done rfl
      | none =>
          refine (memberType_parallel uniform symbol member).bind fun t => ?_
          exact (Check.setSlot_parallel member.slot t).bind fun _ => .done rfl
  | none =>
      dsimp only [Option.map]
      split
      · split
        · exact uniform.ofDeclaration _
        · exact Check.any_parallel
      · exact Check.any_parallel

theorem presentSource_parallel (declaration : Declaration) :
    Parallel o.Alike id (presentSource declaration) (presentSource declaration) := by
  refine Check.program_bind fun program other agrees => ?_
  rw [agrees.sources]
  split
  · exact .done rfl
  · exact .failed _

theorem syntaxOf_parallel (declaration : Declaration) :
    Parallel o.Alike id (syntaxOf declaration) (syntaxOf declaration) := by
  unfold syntaxOf
  split
  · exact .done rfl
  · exact .failed _

include uniform in
theorem declarationType_parallel (declaration : Declaration) :
    Parallel o.Alike o.type (declarationType ask declaration)
      (declarationType ask declaration) := by
  refine (presentSource_parallel declaration).bind fun source => ?_
  refine (syntaxOf_parallel declaration).bind fun node => ?_
  refine (Check.checkSyntax_parallel node source).bind fun _ => ?_
  dsimp only [id]
  split
  · refine (Check.scopeOf_parallel source).bind fun scope => ?_
    dsimp only [id]
    split
    · exact Signature.functionOf_parallel [node] (.top source) _
    · exact Signature.functionOfBindings_parallel source _
  · split
    · exact variableType_parallel uniform node (.top source)
    · exact uniform.ofExpression node (.top source) false false
  · exact declaredValue_parallel uniform node (.top source) false
  · exact declaredValue_parallel uniform node (.top source) false
  · split
    · refine (Check.scopeOf_parallel source).bind fun scope => ?_
      dsimp only [id]
      split
      · exact (Check.need_same _).bind fun binding => uniform.declared source [binding] []
      · exact uniform.declared source _ []
    · exact .failed _

end TypeGloss.Inference
