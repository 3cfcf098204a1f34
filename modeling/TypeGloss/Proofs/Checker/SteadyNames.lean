/-
# TypeGloss.Proofs.Checker.SteadyNames — names stand for the same types again

The rules ask questions, so what can be said about a rule depends on what can be said
about the answers it gets. Answers are *reliable* if every question is steady, and does
not depend on the frame of the place it is asked in. Here this is carried over from the
answers to the rules by which texts are written, names are looked up and references are
read.

The type parameters of a declaration come into view in a new frame every time the
declaration is used. This is the only place where two runs of a rule go apart, and
`bindAll_bind` says that what follows comes to the same.
-/
import TypeGloss.Proofs.Checker.Steady

namespace TypeGloss

set_option autoImplicit false

/-- Answers that are given again, in any frame. -/
structure Reliable (ask : Ask) : Prop where
  steady : ∀ query, Steady (ask query) (ask query)
  typeThrough : ∀ via node place frame,
    Steady (ask.typeThrough via node place) (ask.typeThrough via node (place.inFrame frame))
  ofExpression : ∀ node place frame literal frozen,
    Steady (ask.ofExpression node place literal frozen)
      (ask.ofExpression node (place.inFrame frame) literal frozen)
  fits : ∀ candidate pattern place frame inferred,
    Steady (ask.fits candidate pattern place inferred)
      (ask.fits candidate pattern (place.inFrame frame) inferred)

namespace Reliable

variable {ask : Ask} (reliable : Reliable ask)

include reliable

theorem typeAt (node : Cursor) (place : Place) (frame : FrameId) :
    Steady (ask.typeAt node place) (ask.typeAt node (place.inFrame frame)) :=
  reliable.typeThrough none node place frame

/-- Reading a declaration is steady. -/
theorem declared (source : Source) (bindings : List Module.Binding) (args : List TypeId) :
    Steady (ask.declared source bindings args) (ask.declared source bindings args) :=
  reliable.steady (.declared source bindings args)

theorem ofDeclaration (declaration : Declaration) :
    Steady (ask.ofDeclaration declaration) (ask.ofDeclaration declaration) :=
  reliable.steady (.ofDeclaration declaration)

theorem ofSymbol (symbol : Symbol) : Steady (ask.ofSymbol symbol) (ask.ofSymbol symbol) :=
  reliable.steady (.ofSymbol symbol)

theorem text (t : TypeId) : Steady (ask.text t) (ask.text t) :=
  reliable.steady (.text t)

theorem load? (t : TypeId) (part : Part) : Steady (ask.load? t part) (ask.load? t part) :=
  reliable.steady (.load t part)

theorem simplified (t : TypeId) : Steady (ask.simplified t) (ask.simplified t) :=
  reliable.steady (.simplified t)

theorem properties (t : TypeId) : Steady (ask.properties t) (ask.properties t) :=
  reliable.steady (.properties t)

theorem indexes (t : TypeId) : Steady (ask.indexes t) (ask.indexes t) :=
  reliable.steady (.indexes t)

theorem assignable (source target : TypeId) :
    Steady (ask.assignable source target) (ask.assignable source target) :=
  reliable.steady (.assignable source target)

theorem members (t : TypeId) : Steady (ask.members t) (ask.members t) :=
  (reliable.load? t .members).bind fun _ => .pure _

theorem element? (t : TypeId) : Steady (ask.element? t) (ask.element? t) :=
  reliable.load? t .element

theorem elements (t : TypeId) : Steady (ask.elements t) (ask.elements t) :=
  (reliable.load? t .elements).bind fun _ => .pure _

theorem calls (t : TypeId) : Steady (ask.calls t) (ask.calls t) :=
  (reliable.load? t .calls).bind fun _ => .pure _

theorem alternatives (t : TypeId) : Steady (ask.alternatives t) (ask.alternatives t) := by
  refine (Check.category_steady t).bind fun category => ?_
  split
  · exact reliable.members t
  · exact .pure [t]

theorem commaTexts (types : List TypeId) :
    Steady (ask.commaTexts types) (ask.commaTexts types) :=
  (Steady.mapM reliable.text types).bind fun _ => .pure _

theorem applied (name : String) (args : List TypeId) :
    Steady (ask.applied name args) (ask.applied name args) := by
  unfold Ask.applied
  split
  · exact .pure name
  · exact (reliable.commaTexts args).bind fun _ => .pure _

theorem aliasText (via : AliasRef) : Steady (ask.aliasText via) (ask.aliasText via) :=
  reliable.applied via.binding.name via.args

theorem aliasText? (via : Option AliasRef) :
    Steady (ask.aliasText? via) (ask.aliasText? via) :=
  .option reliable.aliasText via

/-- A union is found again if its parts are. -/
theorem unionMembers {α : Type} {f g : α → CheckM TypeId} (each : ∀ a, Steady (f a) (g a))
    (found : List TypeId) (parts : List α) :
    Steady (ask.unionMembers f found parts) (ask.unionMembers g found parts) := by
  induction parts generalizing found with
  | nil => exact .pure found
  | cons part rest ih =>
      exact (each part).bind fun t => (reliable.alternatives t).bind fun more => ih _

theorem unionOf {α : Type} {f g : α → CheckM TypeId} (each : ∀ a, Steady (f a) (g a))
    (parts : List α) : Steady (ask.unionOf f parts) (ask.unionOf g parts) := by
  refine (reliable.unionMembers each [] parts).bind fun members => ?_
  split
  · exact Check.primitive_steady .never
  · exact .pure _
  · exact Check.intern_steady _ _ _ rfl rfl

theorem unionOfTypes (types : List TypeId) :
    Steady (ask.unionOfTypes types) (ask.unionOfTypes types) :=
  reliable.unionOf (fun t => .pure t) types

end Reliable

section Rules

variable {ask : Ask} (reliable : Reliable ask)

/-! ## Texts -/

include reliable in
theorem Render.node_steady (place : Place) (frame : FrameId) (at_ : Cursor) :
    Steady (node ask place at_) (node ask (place.inFrame frame) at_) := by
  rw [node, node, Place.inFrame_env]
  dsimp only
  split
  · exact .pure ""
  · split
    · exact (Check.ofResult_steady _).bind fun _ => .pure _
    · split
      · split
        · exact reliable.text _
        · exact .pure _
      · split
        · split
          · exact .throw _
          · rename_i element rest inside
            have inner := Cursor.sizeOf_unwrapParens_le element
            have part := Cursor.sizeOf_lt_of_mem_parts
              (show element ∈ at_.parts by rw [inside]; exact List.mem_cons_self)
            exact (node_steady place frame element.unwrapParens).bind fun _ => .pure _
        · split
          · refine .bind (.mapM (fun member => ?_) _) fun _ => .pure _
            obtain ⟨member, isPart⟩ := member
            have part := Cursor.sizeOf_lt_of_mem_parts isPart
            exact (node_steady place frame member).bind fun _ => .pure _
          · split
            · exact .pure _
            · refine .bind (.foldlM (fun written child => ?_) _ _) fun _ => .pure _
              obtain ⟨child, isChild⟩ := child
              have part := Cursor.sizeOf_lt_of_mem_children isChild
              exact (node_steady place frame child).bind fun _ => .pure _
termination_by sizeOf at_.focus

include reliable in
theorem Render.render_steady (at_ : Cursor) (place : Place) (frame : FrameId) :
    Steady (render ask at_ place) (render ask at_ (place.inFrame frame)) :=
  (node_steady reliable place frame at_).bind fun _ => .pure _

/-! ## Looking up names -/

theorem Lookup.lookup_timeless (source : Source) (name : String) (space : Space) :
    Timeless (lookup source name space) :=
  Check.program_timeless.bind fun _ => Check.ofResult_timeless _

theorem Lookup.lookup_steady (source : Source) (name : String) (space : Space) :
    Steady (lookup source name space) (lookup source name space) :=
  (lookup_timeless source name space).steady

theorem Lookup.lookupExport_timeless (source : Source) (name : String) (space : Space) :
    Timeless (lookupExport source name space) :=
  Check.program_timeless.bind fun _ => Check.ofResult_timeless _

theorem Lookup.lookupExport_steady (source : Source) (name : String) (space : Space) :
    Steady (lookupExport source name space) (lookupExport source name space) :=
  (lookupExport_timeless source name space).steady

theorem Lookup.externalFile?_steady (source : Source) (name : String) :
    Steady (externalFile? source name) (externalFile? source name) := by
  refine (Check.scopeOf_steady source).bind fun scope => ?_
  dsimp only
  split
  · exact .pure none
  · split
    · exact .pure _
    · exact .pure _

/-! ## Members of enums -/

namespace Enum

theorem memberName_steady (member : Cursor) : Steady (memberName member) (memberName member) :=
  (Check.need_steady _).bind fun _ => Check.ofResult_steady _

theorem namedNode?_steady (name : String) (parts : List Cursor) :
    Steady (namedNode? name parts) (namedNode? name parts) := by
  induction parts with
  | nil => exact .pure none
  | cons member rest ih =>
      refine (memberName_steady member).bind fun found => ?_
      split
      · exact .pure _
      · exact ih

include reliable in
theorem memberType?_steady (enum : TypeId) (name : String) :
    Steady (memberType? ask enum name) (memberType? ask enum name) := by
  refine (reliable.load? enum .enumMembers).bind fun listed => ?_
  dsimp only
  split
  · exact .pure none
  · refine (Check.facts_steady enum).bind fun owner => ?_
    refine (Check.need_steady _).bind fun place => ?_
    refine (namedNode?_steady name _).bind fun node => ?_
    exact (Check.intern_steady _ _ _ rfl rfl).map some

end Enum

/-! ## References -/

namespace Reference

include reliable in
theorem unapplied_steady (place : Place) (frame : FrameId) (parameter : TypeParameter) :
    Steady (unapplied ask place parameter) (unapplied ask (place.inFrame frame) parameter) := by
  unfold unapplied
  split
  · exact reliable.typeAt _ place frame
  · exact Check.typeParameter_steady _ _ _

include reliable in
/-- What follows where type parameters have come into view does not depend on the frame. -/
theorem bindAll_bind {α : Type} {f g : Place → CheckM α}
    (rest : ∀ place frame, Steady (f place) (g (place.inFrame frame)))
    (parameters : List TypeParameter) (args : List TypeId) (place : Place) (frame : FrameId) :
    Steady (bindAll ask place parameters args >>= f)
      (bindAll ask (place.inFrame frame) parameters args >>= g) := by
  induction parameters generalizing place frame args with
  | nil =>
      simp only [bindAll, pure_bind]
      exact rest place frame
  | cons parameter others ih =>
      cases args with
      | nil =>
          simp only [bindAll, bind_assoc]
          refine (unapplied_steady reliable place frame parameter).bind fun t => ?_
          exact Check.bindAt_bind (fun place frame => ih [] place frame) place frame _ t
      | cons arg args =>
          simp only [bindAll, bind_assoc]
          exact Check.bindAt_bind (fun place frame => ih args place frame) place frame _ arg

include reliable in
/-- A declaration is instantiated in a new frame, and what follows does not depend on which. -/
theorem instantiate_bind {α : Type} {f g : Place → CheckM α}
    (rest : ∀ place frame, Steady (f place) (g (place.inFrame frame))) (source : Source)
    (parameters : List TypeParameter) (args : List TypeId) :
    Steady (instantiate ask source parameters args >>= f)
      (instantiate ask source parameters args >>= g) := by
  unfold instantiate
  split
  · simp only [pure_bind]
    exact rest (.top source) 0
  · simp only [bind_assoc]
    exact Check.newPlace_bind
      (fun place frame => bindAll_bind reliable rest parameters args place frame) source []

include reliable in
theorem throughAlias_steady (source : Source) (binding : Module.Binding) (args : List TypeId) :
    Steady (throughAlias ask source binding args) (throughAlias ask source binding args) := by
  refine instantiate_bind reliable (fun place frame => ?_) source _ args
  split
  · exact Check.namedType_steady _ none
  · exact Check.guarded_steady Check.Guard.isMark_aliases _ (Check.namedType_steady _ none)
      (reliable.typeThrough _ _ place frame)

include reliable in
theorem declared_steady (source : Source) (bindings : List Module.Binding) (args : List TypeId) :
    Steady (declared ask source bindings args) (declared ask source bindings args) := by
  refine (Check.needFirst_steady bindings).bind fun binding => ?_
  refine (Check.checkSyntax_steady _ source).bind fun _ => ?_
  split
  · exact throughAlias_steady reliable source binding args
  · split
    · exact Check.namedType_steady _ none
    · exact instantiate_bind reliable (fun place frame => Check.intern_steady _ _ _ rfl rfl)
        source _ args

theorem libraryType_steady (name file : String) (args : List TypeId) :
    Steady (libraryType name file args) (libraryType name file args) := by
  unfold libraryType
  split
  · exact Check.namedType_steady name _
  · exact Check.genericOf_steady name file args

include reliable in
theorem utility_steady (name : String) (args : List TypeId) (node : Cursor) (place : Place)
    (frame : FrameId) (via : Option AliasRef) :
    Steady (utility ask name args node place via)
      (utility ask name args node (place.inFrame frame) via) :=
  (reliable.aliasText? via).bind fun _ => Check.intern_steady _ _ _ rfl rfl

include reliable in
theorem undeclared_steady (name : String) (args : List TypeId) (node : Cursor) (place : Place)
    (frame : FrameId) (via : Option AliasRef) :
    Steady (undeclared ask name args node place via)
      (undeclared ask name args node (place.inFrame frame) via) := by
  unfold undeclared
  split
  · exact Check.arrayOf_steady _ _
  · split
    · exact utility_steady reliable name _ node place frame via
    · split
      · exact libraryType_steady name _ _
      · split
        · exact Check.namedType_steady name _
        · refine (Lookup.externalFile?_steady place.source name).bind fun file => ?_
          split
          · exact Check.namedType_steady name file
          · exact Check.genericOf_steady name _ _

include reliable in
theorem typesAt_steady (nodes : List Cursor) (place : Place) (frame : FrameId) :
    Steady (nodes.mapM fun node => ask.typeAt node place)
      (nodes.mapM fun node => ask.typeAt node (place.inFrame frame)) :=
  .mapM (fun node => reliable.typeAt node place frame) nodes

include reliable in
theorem simple_steady (name : String) (argNodes : List Cursor) (node : Cursor) (place : Place)
    (frame : FrameId) (via : Option AliasRef) :
    Steady (simple ask name argNodes node place via)
      (simple ask name argNodes node (place.inFrame frame) via) := by
  unfold simple
  rw [Place.inFrame_env, Place.inFrame_blanks]
  split
  · exact .throw _
  · split
    · exact .pure _
    · refine (typesAt_steady reliable argNodes place frame).bind fun args => ?_
      refine (Lookup.lookup_steady place.source name .types).bind fun found => ?_
      split
      · exact reliable.declared _ _ args
      · exact undeclared_steady reliable name args node place frame via

include reliable in
theorem moduleMember?_steady (source : Source) (head member : String) (args : List TypeId) :
    Steady (moduleMember? ask source head member args)
      (moduleMember? ask source head member args) := by
  refine (Check.scopeOf_steady source).bind fun scope => ?_
  split
  · exact .pure none
  · split
    · refine Check.program_steady.bind fun program => ?_
      split
      · exact .pure none
      · refine (Lookup.lookupExport_steady _ member .types).bind fun found => ?_
        split
        · exact (reliable.declared _ _ args).map some
        · exact .pure none
    · exact .pure none

include reliable in
theorem enumMember?_steady (source : Source) (head member : String) :
    Steady (enumMember? ask source head member) (enumMember? ask source head member) := by
  refine (Lookup.lookup_steady source head .values).bind fun found => ?_
  split
  · split
    · exact (reliable.declared _ _ []).bind fun t => Enum.memberType?_steady reliable t member
    · exact .pure none
  · exact .pure none

include reliable in
theorem qualified_steady (nameNode : Cursor) (argNodes : List Cursor) (node : Cursor)
    (place : Place) (frame : FrameId) (via : Option AliasRef) :
    Steady (qualified ask nameNode argNodes node place via)
      (qualified ask nameNode argNodes node (place.inFrame frame) via) := by
  refine (typesAt_steady reliable argNodes place frame).bind fun args => ?_
  split
  · refine (moduleMember?_steady reliable place.source _ _ args).bind fun found => ?_
    split
    · exact .pure _
    · refine (enumMember?_steady reliable place.source _ _).bind fun found => ?_
      split
      · exact .pure _
      · exact undeclared_steady reliable _ args node place frame via
  · exact undeclared_steady reliable _ args node place frame via

end Reference

end Rules

end TypeGloss
