/-
# TypeGloss.Proofs.Checker.SteadyValues — values have the same types again

The rules by which the types of declarations and expressions are inferred are steady if
the answers are reliable. A variable whose type is being inferred already is any, and it
is so again: what is being inferred is the same at both times.

The types of members are left out here, because what is found for them is kept in slots.
Only what is found at last for a member (`memberAt_steady`) is a rule like the others.
-/
import TypeGloss.Proofs.Checker.SteadyNames

namespace TypeGloss

set_option autoImplicit false

section Rules

variable {ask : Ask} (reliable : Reliable ask)

/-! ## Functions -/

namespace Signature

theorem functionOf_steady (nodes : List Cursor) (place : Place) (frame : FrameId)
    (symbol : Symbol) :
    Steady (functionOf nodes place symbol) (functionOf nodes (place.inFrame frame) symbol) :=
  (Check.needFirst_steady nodes).bind fun _ =>
    (Check.complete_steady place frame).bind fun _ => Check.intern_steady _ _ _ rfl rfl

theorem functionOfBindings_steady (source : Source) (bindings : List Module.Binding) :
    Steady (functionOfBindings source bindings) (functionOfBindings source bindings) :=
  (Check.needFirst_steady bindings).bind fun _ => functionOf_steady _ (.top source) 0 _

theorem functionAt_steady (kind : DeclarationKind) (name : Option String) (node : Cursor)
    (place : Place) (frame : FrameId) :
    Steady (functionAt kind name node place) (functionAt kind name node (place.inFrame frame)) :=
  functionOf_steady [node] place frame _

include reliable in
theorem widenedExpression_steady (place : Place) (frame : FrameId) (node : Cursor) :
    Steady (widenedExpression ask place node)
      (widenedExpression ask (place.inFrame frame) node) :=
  (reliable.ofExpression node place frame false false).bind fun t => Check.widen_steady t

end Signature

namespace Inference

/-! ## Declarations -/

include reliable in
theorem declaredValue_steady (node : Cursor) (place : Place) (frame : FrameId) (literal : Bool) :
    Steady (declaredValue ask node place literal)
      (declaredValue ask node (place.inFrame frame) literal) := by
  unfold declaredValue
  split
  · exact reliable.typeAt _ place frame
  · exact reliable.ofExpression _ place frame literal false
  · exact Check.any_steady

include reliable in
theorem parameter_steady (node : Cursor) (place : Place) (frame : FrameId) :
    Steady (parameter ask node place) (parameter ask node (place.inFrame frame)) := by
  unfold parameter
  split
  · exact Check.any_steady
  · refine (declaredValue_steady reliable node place frame false).bind fun declared => ?_
    dsimp only
    split
    · exact Check.any_steady.bind fun t => Check.arrayOf_steady t false
    · exact .pure declared

include reliable in
theorem variableType_steady (declarator : Cursor) (place : Place) (frame : FrameId) :
    Steady (variableType ask declarator place)
      (variableType ask declarator (place.inFrame frame)) := by
  refine Check.guarded_steady Check.Guard.isMark_values _ Check.any_steady ?_
  unfold Place.orTop
  rw [Place.inFrame_env, Place.inFrame_blanks]
  split
  · exact declaredValue_steady reliable declarator (.top place.source) 0 _
  · exact declaredValue_steady reliable declarator place frame _

include reliable in
theorem binding_steady (found : Lookup.Found) :
    Steady (binding ask found) (binding ask found) := by
  refine (Check.needFirst_steady found.bindings).bind fun first => ?_
  split
  · exact Signature.functionOfBindings_steady found.source found.bindings
  · exact reliable.declared _ _ []
  · exact reliable.declared _ _ []
  · split
    · exact variableType_steady reliable _ (.top found.source) 0
    · exact reliable.ofExpression _ (.top found.source) 0 false false

include reliable in
theorem localValue_steady (name : String) (declaration : Cursor) (place : Place)
    (frame : FrameId) :
    Steady (localValue ask name declaration place)
      (localValue ask name declaration (place.inFrame frame)) := by
  unfold localValue
  dsimp only
  split
  · exact variableType_steady reliable declaration place frame
  · split
    · exact parameter_steady reliable declaration place frame
    · split
      · exact Signature.functionAt_steady _ _ declaration place frame
      · exact Check.any_steady

/-! ## Names and members -/

include reliable in
theorem identifier_steady (name : String) (at_ : Cursor) (place : Place) (frame : FrameId)
    (literal : Bool) :
    Steady (identifier ask name at_ place literal)
      (identifier ask name at_ (place.inFrame frame) literal) := by
  unfold identifier
  split
  · exact Check.primitive_steady .undefined
  · split
    · exact Check.primitive_steady .number
    · split
      · refine (localValue_steady reliable name _ place frame).bind fun t => ?_
        exact Check.keepLiteral_steady t literal
      · refine (Lookup.lookup_steady place.source name .values).bind fun found => ?_
        split
        · refine (binding_steady reliable _).bind fun t => ?_
          exact Check.keepLiteral_steady t literal
        · refine (Lookup.externalFile?_steady place.source name).bind fun file => ?_
          split
          · exact Check.namedType_steady name _
          · exact Check.any_steady

include reliable in
theorem member_steady (owner : TypeId) (name : String) :
    Steady (member ask owner name) (member ask owner name) := by
  refine (reliable.simplified owner).bind fun simple => ?_
  split
  · exact Check.any_steady
  · refine (Check.category_steady _).bind fun category => ?_
    split
    · refine (Enum.memberType?_steady reliable _ name).bind fun found => ?_
      split
      · exact .pure _
      · exact Check.any_steady
    · split
      · exact Check.primitive_steady .number
      · refine (reliable.properties _).bind fun properties => ?_
        split
        · exact reliable.ofSymbol _
        · exact Check.any_steady

include reliable in
theorem valuePath_steady (node : Cursor) (place : Place) (frame : FrameId) :
    Steady (valuePath ask node place) (valuePath ask node (place.inFrame frame)) := by
  unfold valuePath
  split
  · exact Check.any_steady
  · refine (identifier_steady reliable _ node place frame true).bind fun start => ?_
    exact .foldlM (fun t name => member_steady reliable t name) _ start

/-! ## Literals and operators -/

theorem numberType_steady (text : String) (negative : Bool) :
    Steady (numberType text negative) (numberType text negative) :=
  (Check.ofResult_steady _).bind fun _ => Check.literal_steady _ _

theorem unary_steady (node : Cursor) (keep : Bool) :
    Steady (unary node keep) (unary node keep) := by
  unfold unary
  dsimp only
  split
  · exact Check.primitive_steady .boolean
  · split
    · exact Check.primitive_steady .string
    · split
      · exact Check.primitive_steady .undefined
      · split
        · split
          · exact (numberType_steady _ _).bind fun t => Check.keepLiteral_steady t keep
          · exact Check.primitive_steady .number
        · exact Check.primitive_steady .number

theorem isNullish_steady (t : TypeId) : Steady (isNullish t) (isNullish t) :=
  (Check.facts_steady t).bind fun _ => .pure _

theorem dropNullish_steady (types : List TypeId) :
    Steady (dropNullish types) (dropNullish types) :=
  .filterM (fun t => (isNullish_steady t).bind fun _ => .pure _) types

include reliable in
theorem operatorType_steady (operator : String) (left right : TypeId) :
    Steady (operatorType ask operator left right) (operatorType ask operator left right) := by
  refine (Check.facts_steady left).bind fun leftFacts => ?_
  refine (Check.facts_steady right).bind fun rightFacts => ?_
  dsimp only
  split
  · exact Check.primitive_steady .boolean
  · split
    · split
      · exact Check.primitive_steady .string
      · split
        · exact .pure left
        · exact Check.any_steady
    · split
      · split
        · exact .pure left
        · exact Check.primitive_steady .number
      · split
        · exact .pure right
        · split
          · refine (reliable.alternatives left).bind fun types => ?_
            refine (dropNullish_steady types).bind fun kept => ?_
            exact reliable.unionOfTypes _
          · exact Check.any_steady

include reliable in
theorem binary_steady (node : Cursor) (place : Place) (frame : FrameId) :
    Steady (binary ask node place) (binary ask node (place.inFrame frame)) := by
  refine (Check.need_steady _).bind fun leftNode => ?_
  refine (Signature.widenedExpression_steady reliable place frame leftNode).bind fun left => ?_
  refine (Check.need_steady _).bind fun rightNode => ?_
  refine (Signature.widenedExpression_steady reliable place frame rightNode).bind fun right => ?_
  exact operatorType_steady reliable _ left right

/-! ## Calls -/

include reliable in
theorem callable_steady (t : TypeId) : Steady (callable ask t) (callable ask t) := by
  refine (Check.category_steady t).bind fun category => ?_
  split
  · exact reliable.calls t
  · exact reliable.calls t
  · exact .pure []

include reliable in
theorem call_steady (node : Cursor) (place : Place) (frame : FrameId) :
    Steady (call ask node place) (call ask node (place.inFrame frame)) := by
  unfold call
  dsimp only
  split
  · exact reliable.ofExpression _ place frame true true
  · refine (Check.need_steady _).bind fun function => ?_
    refine (reliable.ofExpression function place frame false false).bind fun callee => ?_
    refine (callable_steady reliable callee).bind fun signatures => ?_
    split
    · exact .pure _
    · exact Check.any_steady

theorem constructedLibrary_steady (name : String) (args : List TypeId) (place : Place)
    (frame : FrameId) :
    Steady (constructedLibrary name args place)
      (constructedLibrary name args (place.inFrame frame)) := by
  unfold constructedLibrary
  split
  · split
    · exact Check.arrayOf_steady _ false
    · exact Check.any_steady.bind fun t => Check.arrayOf_steady t false
  · split
    · exact Reference.libraryType_steady name _ args
    · split
      · exact Check.namedType_steady name _
      · refine (Lookup.externalFile?_steady place.source name).bind fun file => ?_
        split
        · exact Check.namedType_steady name _
        · exact Check.any_steady

include reliable in
theorem construction_steady (node : Cursor) (place : Place) (frame : FrameId) :
    Steady (construction ask node place) (construction ask node (place.inFrame frame)) := by
  refine (Reference.typesAt_steady reliable _ place frame).bind fun args => ?_
  split
  · exact Check.any_steady
  · refine (Lookup.lookup_steady place.source _ .values).bind fun found => ?_
    split
    · split
      · exact reliable.declared _ _ args
      · exact constructedLibrary_steady _ args place frame
    · exact constructedLibrary_steady _ args place frame

/-! ## Expressions -/

theorem object_steady (node : Cursor) (place : Place) (frame : FrameId) (frozen : Bool) :
    Steady (object node place frozen) (object node (place.inFrame frame) frozen) :=
  (Check.complete_steady place frame).bind fun _ => Check.intern_steady _ _ _ rfl rfl

include reliable in
theorem tuple_steady (node : Cursor) (place : Place) (frame : FrameId) :
    Steady (tuple ask node place) (tuple ask node (place.inFrame frame)) := by
  refine .bind (.mapM (fun element => ?_) _) fun items =>
    (Check.complete_steady place frame).bind fun _ => Check.intern_steady _ _ _ rfl rfl
  exact (reliable.ofExpression element place frame true true).bind fun _ => .pure _

include reliable in
theorem arrayPart_steady (place : Place) (frame : FrameId) (part : Cursor) :
    Steady (arrayPart ask place part) (arrayPart ask (place.inFrame frame) part) := by
  unfold arrayPart
  split
  · exact Signature.widenedExpression_steady reliable place frame part
  · split
    · exact Check.any_steady
    · refine (reliable.ofExpression _ place frame false false).bind fun spread => ?_
      refine (Check.category_steady spread).bind fun category => ?_
      split
      · refine (reliable.element? spread).bind fun element => ?_
        split
        · exact .pure _
        · exact Check.any_steady
      · exact Check.any_steady

include reliable in
theorem array_steady (node : Cursor) (place : Place) (frame : FrameId) (frozen : Bool) :
    Steady (array ask node place frozen) (array ask node (place.inFrame frame) frozen) := by
  unfold array
  split
  · exact tuple_steady reliable node place frame
  · refine .bind (.mapM (arrayPart_steady reliable place frame) node.parts) fun types => ?_
    dsimp only
    split
    · exact Check.any_steady.bind fun element => Check.arrayOf_steady element false
    · exact (reliable.unionOfTypes types).bind fun element => Check.arrayOf_steady element false

theorem functionExpression_steady (node : Cursor) (place : Place) (frame : FrameId) :
    Steady (functionExpression node place) (functionExpression node (place.inFrame frame)) :=
  (Check.complete_steady place frame).bind fun _ => Check.intern_steady _ _ _ rfl rfl

theorem classExpression_steady (node : Cursor) (place : Place) (frame : FrameId) :
    Steady (classExpression node place) (classExpression node (place.inFrame frame)) :=
  (Check.complete_steady place frame).bind fun _ => Check.intern_steady _ _ _ rfl rfl

theorem template_steady (node : Cursor) (keep : Bool) :
    Steady (template node keep) (template node keep) := by
  unfold template
  split
  · exact Check.primitive_steady .string
  · refine (Check.ofResult_steady _).bind fun value => ?_
    exact (Check.literal_steady _ _).bind fun t => Check.keepLiteral_steady t keep

include reliable in
theorem assertion_steady (node : Cursor) (place : Place) (frame : FrameId) :
    Steady (assertion ask node place) (assertion ask node (place.inFrame frame)) := by
  refine (Check.needLast_steady node.parts).bind fun last => ?_
  split
  · refine (Check.needFirst_steady _).bind fun inner => ?_
    exact reliable.ofExpression inner place frame true true
  · exact reliable.typeAt last place frame

theorem awaited_steady (t : TypeId) : Steady (awaited t) (awaited t) := by
  refine (Check.facts_steady t).bind fun r => ?_
  split
  · exact .pure _
  · exact .pure _
  · exact .pure _

include reliable in
theorem expression_steady (node : Cursor) (place : Place) (frame : FrameId)
    (literal frozen : Bool) :
    Steady (expression ask node place literal frozen)
      (expression ask node (place.inFrame frame) literal frozen) := by
  unfold expression
  dsimp only
  split
  · exact functionExpression_steady node place frame
  · split
    · exact Check.namedType_steady _ none
    · split
      · split
        · exact reliable.ofExpression _ place frame literal frozen
        · exact Check.any_steady
      · split
        · exact reliable.ofExpression _ place frame literal frozen
        · exact Check.any_steady
      · refine (Check.ofResult_steady _).bind fun value => ?_
        exact (Check.literal_steady _ _).bind fun t => Check.keepLiteral_steady t _
      · exact template_steady node _
      · exact (numberType_steady _ _).bind fun t => Check.keepLiteral_steady t _
      · exact (Check.literal_steady _ _).bind fun t => Check.keepLiteral_steady t _
      · exact (Check.literal_steady _ _).bind fun t => Check.keepLiteral_steady t _
      · exact Check.primitive_steady .null
      · exact Check.primitive_steady .undefined
      · exact Check.namedType_steady _ _
      · exact unary_steady node _
      · exact binary_steady reliable node place frame
      · refine reliable.unionOf (fun branch => ?_) _
        refine (Check.need_steady _).bind fun inner => ?_
        exact reliable.ofExpression inner place frame literal frozen
      · exact assertion_steady reliable node place frame
      · refine (Check.needFirst_steady _).bind fun inner => ?_
        exact reliable.ofExpression inner place frame literal frozen
      · refine (Check.needFirst_steady _).bind fun inner => ?_
        exact (reliable.ofExpression inner place frame false false).bind awaited_steady
      · exact object_steady node place frame frozen
      · exact array_steady reliable node place frame frozen
      · exact classExpression_steady node place frame
      · exact identifier_steady reliable _ node place frame _
      · refine (Check.need_steady _).bind fun inner => ?_
        refine (reliable.ofExpression inner place frame true false).bind fun owner => ?_
        refine (member_steady reliable owner _).bind fun found => ?_
        exact Check.keepLiteral_steady found _
      · exact call_steady reliable node place frame
      · exact construction_steady reliable node place frame
      · exact Check.any_steady

/-! ## Members and declarations -/

include reliable in
theorem memberAt_steady (symbol : Symbol) (place : Place) (frame : FrameId)
    (nodes : List Cursor) :
    Steady (memberAt ask symbol place nodes) (memberAt ask symbol (place.inFrame frame) nodes) := by
  unfold memberAt
  split
  · exact Check.any_steady
  · dsimp only
    split
    · exact Signature.functionOf_steady _ place frame symbol
    · split
      · exact parameter_steady reliable _ place frame
      · split
        · exact declaredValue_steady reliable _ place frame _
        · split
          · exact variableType_steady reliable _ place frame
          · exact Check.any_steady

theorem presentSource_timeless (declaration : Declaration) :
    Timeless (presentSource declaration) := by
  refine Check.program_timeless.bind fun program => ?_
  split
  · exact .pure _
  · exact .throw _

/-- The source of a declaration is the one under its path. -/
theorem run_presentSource (declaration : Declaration) (s : State) :
    (presentSource declaration).run.run s =
      ((Entries.find? (Path.normalize declaration.path) s.sources).elim
        (.error (.unknownSource declaration.path)) .ok, s) := by
  have program : Check.program.run.run s = (.ok s.toProgram, s) := rfl
  rw [presentSource, run_bind_ok program]
  cases Entries.find? (Path.normalize declaration.path) s.sources <;> rfl

theorem syntaxOf_timeless (declaration : Declaration) : Timeless (syntaxOf declaration) := by
  unfold syntaxOf
  split
  · exact .pure _
  · exact .throw _

include reliable in
theorem declarationType_steady (declaration : Declaration) :
    Steady (declarationType ask declaration) (declarationType ask declaration) := by
  refine (presentSource_timeless declaration).steady.bind fun source => ?_
  refine (syntaxOf_timeless declaration).steady.bind fun node => ?_
  refine (Check.checkSyntax_steady node source).bind fun _ => ?_
  split
  · refine (Check.scopeOf_steady source).bind fun scope => ?_
    dsimp only
    split
    · exact Signature.functionOf_steady [node] (.top source) 0 _
    · exact Signature.functionOfBindings_steady source _
  · split
    · exact variableType_steady reliable node (.top source) 0
    · exact reliable.ofExpression node (.top source) 0 false false
  · exact declaredValue_steady reliable node (.top source) 0 false
  · exact declaredValue_steady reliable node (.top source) 0 false
  · split
    · refine (Check.scopeOf_steady source).bind fun scope => ?_
      dsimp only
      split
      · refine (Check.need_steady _).bind fun binding => ?_
        exact reliable.declared source [binding] []
      · exact reliable.declared source _ []
    · exact .throw _

end Inference

end Rules

end TypeGloss
