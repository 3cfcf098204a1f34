/-
# TypeGloss.Proofs.Checker.SteadyTypes — types that are written, simplified and compared

The rest of the rules that are steady if the answers are reliable: type syntax, of which
the parts are found later; the steps by which a computed type is simplified, with the
properties and index signatures it then appears to have; and the comparison of types with
each other and with patterns.
-/
import TypeGloss.Proofs.Checker.SteadyValues

namespace TypeGloss

set_option autoImplicit false

section Rules

variable {ask : Ask} (reliable : Reliable ask)

/-! ## Type syntax -/

namespace TypeSyntax

include reliable in
theorem structured_steady (category : Category) (symbol : Option Symbol) (node : Cursor)
    (place : Place) (frame : FrameId) (via : Option AliasRef) :
    Steady (structured ask category symbol node place via)
      (structured ask category symbol node (place.inFrame frame) via) :=
  (Check.complete_steady place frame).bind fun _ =>
    (reliable.aliasText? via).bind fun _ => Check.intern_steady _ _ _ rfl rfl

include reliable in
theorem object_steady (node : Cursor) (place : Place) (frame : FrameId)
    (via : Option AliasRef) :
    Steady (object ask node place via) (object ask node (place.inFrame frame) via) := by
  unfold object
  split
  · exact structured_steady reliable .computed none node place frame via
  · exact structured_steady reliable .object _ node place frame via

include reliable in
theorem array_steady (node : Cursor) (place : Place) (frame : FrameId) (via : Option AliasRef) :
    Steady (array ask node place via) (array ask node (place.inFrame frame) via) := by
  refine (Check.needFirst_steady node.parts).bind fun element => ?_
  split
  · refine (reliable.typeAt element place frame).bind fun t => ?_
    exact Check.arrayOf_steady t false
  · refine (Check.complete_steady place frame).bind fun _ => ?_
    exact (reliable.aliasText _).bind fun _ => Check.intern_steady _ _ _ rfl rfl

theorem literal_steady (node : Cursor) : Steady (literal node) (literal node) := by
  unfold literal
  split
  · exact Check.any_steady
  · split
    · exact (Check.ofResult_steady _).bind fun _ => Check.literal_steady _ _
    · exact Inference.numberType_steady _ _
    · exact Check.literal_steady _ _
    · exact Check.literal_steady _ _
    · exact Check.primitive_steady .null
    · exact Check.primitive_steady .undefined
    · split
      · exact Inference.numberType_steady _ _
      · exact Check.namedType_steady _ none
    · exact Check.namedType_steady _ none

include reliable in
theorem template_steady (node : Cursor) (place : Place) (frame : FrameId) :
    Steady (template ask node place) (template ask node (place.inFrame frame)) := by
  unfold template
  split
  · exact Check.literal_steady _ _
  · refine (Check.complete_steady place frame).bind fun _ => ?_
    refine (Render.render_steady reliable node place frame).bind fun label => ?_
    exact Check.intern_steady _ _ _ rfl rfl

theorem keyword_steady (text : String) : Steady (keyword text) (keyword text) := by
  unfold keyword
  split
  · exact Check.primitive_steady _
  · exact Check.namedType_steady text none

include reliable in
theorem generic_steady (node : Cursor) (place : Place) (frame : FrameId)
    (via : Option AliasRef) :
    Steady (generic ask node place via) (generic ask node (place.inFrame frame) via) := by
  unfold generic
  dsimp only
  split
  · exact Reference.qualified_steady reliable _ _ node place frame via
  · exact Reference.simple_steady reliable _ _ node place frame via

include reliable in
theorem ofNode_steady (node : Cursor) (place : Place) (frame : FrameId)
    (via : Option AliasRef) :
    Steady (ofNode ask node place via) (ofNode ask node (place.inFrame frame) via) := by
  unfold ofNode
  dsimp only
  split
  · split
    · exact reliable.typeThrough via _ place frame
    · exact Check.any_steady
  · split
    · exact Check.primitive_steady .boolean
    · split
      · exact Check.primitive_steady .void
      · split
        · exact keyword_steady _
        · exact literal_steady node
        · exact template_steady reliable node place frame
        · exact Check.namedType_steady _ none
        · exact Check.any_steady
        · exact Reference.simple_steady reliable _ [] node place frame via
        · exact Reference.qualified_steady reliable node [] node place frame via
        · exact generic_steady reliable node place frame via
        · exact object_steady reliable node place frame via
        · exact array_steady reliable node place frame via
        · exact structured_steady reliable .tuple none node place frame via
        · exact structured_steady reliable .union none node place frame via
        · exact structured_steady reliable .intersection none node place frame via
        · exact structured_steady reliable .function _ node place frame via
        · split
          · exact Inference.valuePath_steady reliable _ place frame
          · exact Check.any_steady
        · exact structured_steady reliable .computed none node place frame via
        · exact structured_steady reliable .computed none node place frame via
        · exact structured_steady reliable .computed none node place frame via
        · exact Check.namedType_steady _ none
        · refine (Render.render_steady reliable node place frame).bind fun text => ?_
          exact Check.namedType_steady text none

end TypeSyntax

/-! ## Simplified types -/

include reliable in
theorem Members.inheritIndexes_steady (found : List IndexEntry × List String)
    (base : List IndexEntry) :
    Steady (inheritIndexes ask found base) (inheritIndexes ask found base) := by
  induction base generalizing found with
  | nil => exact .pure found
  | cons entry rest ih =>
      refine (reliable.text entry.keyType).bind fun text => ?_
      split
      · exact ih _
      · exact ih _

namespace Structure

include reliable in
theorem stuck_steady (t : TypeId) : Steady (stuck ask t) (stuck ask t) :=
  (reliable.text t).bind fun text => Check.stuckType_steady t text

include reliable in
theorem simplifiedIn_steady (steps : Nat) (t : TypeId) :
    Steady (simplifiedIn ask steps t) (simplifiedIn ask steps t) := by
  induction steps generalizing t with
  | zero =>
      refine (Check.category_steady t).bind fun category => ?_
      split
      · exact (stuck_steady reliable t).map some
      · exact .pure (some t)
  | succ steps ih =>
      refine (Check.category_steady t).bind fun category => ?_
      split
      · exact .pure (some t)
      · refine (reliable.load? t .simplified).bind fun found => ?_
        split
        · exact .pure none
        · split
          · exact (stuck_steady reliable t).map some
          · exact ih _

include reliable in
theorem properties_steady (t : TypeId) : Steady (properties ask t) (properties ask t) := by
  refine (reliable.simplified t).bind fun simple => ?_
  split
  · exact .pure []
  · refine (Check.category_steady _).bind fun category => ?_
    split
    · exact (reliable.load? _ .properties).bind fun _ => .pure _
    · exact (reliable.load? _ .classMembers).bind fun _ => .pure _
    · refine (reliable.members _).bind fun constituents => .foldlM (fun found t => ?_) _ []
      exact (reliable.properties t).bind fun _ => .pure _
    · exact .pure []

include reliable in
theorem indexes_steady (t : TypeId) : Steady (indexes ask t) (indexes ask t) := by
  refine (reliable.simplified t).bind fun simple => ?_
  split
  · exact .pure []
  · refine (Check.category_steady _).bind fun category => ?_
    split
    · exact (reliable.load? _ .indexes).bind fun _ => .pure _
    · refine (reliable.members _).bind fun constituents => ?_
      refine .bind (.foldlM (fun found t => ?_) _ _) fun _ => .pure _
      exact (reliable.indexes t).bind fun base =>
        Members.inheritIndexes_steady reliable found base
    · exact .pure []

end Structure

/-! ## Comparison of types -/

namespace Assignability

include reliable in
theorem toArray_steady (category : Category) (source target : TypeId) :
    Steady (toArray ask category source target) (toArray ask category source target) := by
  unfold toArray
  split
  · refine (reliable.element? source).bind fun have_ => ?_
    refine (reliable.element? target).bind fun want => ?_
    refine (Check.need_steady have_).bind fun element => ?_
    exact (Check.need_steady want).bind fun other => reliable.assignable element other
  · split
    · refine (reliable.element? target).bind fun element => ?_
      refine (reliable.elements source).bind fun items => .allM (fun item => ?_) items
      exact (Check.need_steady element).bind fun other => reliable.assignable item.type other
    · exact .pure false

include reliable in
theorem toObject_steady (source target : TypeId) :
    Steady (toObject ask source target) (toObject ask source target) := by
  refine (reliable.properties source).bind fun available => ?_
  refine (reliable.properties target).bind fun wanted => .allM (fun property => ?_) wanted
  split
  · exact .pure true
  · split
    · exact .pure false
    · refine (reliable.ofSymbol _).bind fun have_ => ?_
      exact (reliable.ofSymbol property).bind fun want => reliable.assignable have_ want

include reliable in
theorem byCategory_steady (source target : TypeId) (have_ want : TypeFacts) :
    Steady (byCategory ask source target have_ want)
      (byCategory ask source target have_ want) := by
  unfold byCategory
  split
  · exact .pure _
  · exact .pure _
  · exact toArray_steady reliable _ source target
  · exact .pure _
  · exact .pure _
  · split
    · exact toObject_steady reliable source target
    · exact .pure false

include reliable in
theorem assignable_steady (source target : TypeId) :
    Steady (assignable ask source target) (assignable ask source target) := by
  refine (Check.facts_steady source).bind fun have_ => ?_
  refine (Check.facts_steady target).bind fun want => ?_
  split
  · exact .pure true
  · split
    · exact .pure true
    · split
      · exact .pure true
      · split
        · exact (reliable.members target).bind fun members =>
            .anyM (fun member => reliable.assignable source member) members
        · split
          · exact (reliable.members source).bind fun members =>
              .allM (fun member => reliable.assignable member target) members
          · exact byCategory_steady reliable source target have_ want

end Assignability

namespace Conditional

include reliable in
theorem fitsAll_steady (place : Place) (frame : FrameId) (pairs : List (TypeId × Cursor))
    (inferred : Inferred) :
    Steady (fitsAll ask place pairs inferred)
      (fitsAll ask (place.inFrame frame) pairs inferred) := by
  induction pairs generalizing inferred with
  | nil => exact .pure _
  | cons pair rest ih =>
      obtain ⟨candidate, pattern⟩ := pair
      refine (reliable.fits (some candidate) pattern place frame inferred).bind fun result => ?_
      split
      · exact ih _
      · exact .pure _

include reliable in
theorem fitsGeneric_steady (candidate : TypeId) (pattern : Cursor) (place : Place)
    (frame : FrameId) (inferred : Inferred) :
    Steady (fitsGeneric ask candidate pattern place inferred)
      (fitsGeneric ask candidate pattern (place.inFrame frame) inferred) := by
  refine (Check.facts_steady candidate).bind fun r => ?_
  dsimp only
  split
  · refine (reliable.element? candidate).bind fun element => ?_
    exact reliable.fits element _ place frame inferred
  · split
    · exact fitsAll_steady reliable place frame _ inferred
    · exact .pure _

include reliable in
theorem fits_steady (candidate : Option TypeId) (pattern : Cursor) (place : Place) (frame : FrameId)
    (inferred : Inferred) :
    Steady (fits ask candidate pattern place inferred)
      (fits ask candidate pattern (place.inFrame frame) inferred) := by
  unfold fits
  split
  · refine (reliable.typeAt pattern place frame).bind fun t => ?_
    refine (reliable.simplified t).bind fun simple => ?_
    split
    · exact .pure _
    · refine (Check.need_steady candidate).bind fun t => ?_
      exact (reliable.assignable t _).bind fun _ => .pure _
  · split
    · exact .pure _
    · refine (Check.needFirst_steady _).bind fun inner => ?_
      exact reliable.fits candidate inner place frame inferred
    · refine (Check.need_steady candidate).bind fun t => ?_
      refine (Check.category_steady t).bind fun category => ?_
      split
      · exact .pure _
      · refine (reliable.element? t).bind fun element => ?_
        refine (Check.needFirst_steady _).bind fun inner => ?_
        exact reliable.fits element inner place frame inferred
    · refine (Check.need_steady candidate).bind fun t => ?_
      exact fitsGeneric_steady reliable t pattern place frame inferred
    · refine (Check.need_steady candidate).bind fun t => ?_
      refine (Inference.callable_steady reliable t).bind fun signatures => ?_
      split
      · exact .pure _
      · split
        · exact .pure _
        · exact reliable.fits _ _ place frame inferred
    · exact .pure _

/-- What follows in a branch does not depend on its frame. -/
theorem branchPlace_bind {α : Type} {f g : Place → CheckM α}
    (rest : ∀ place frame, Steady (f place) (g (place.inFrame frame))) (source : Source)
    (bound : Env) (inferred : Inferred) :
    Steady (branchPlace source bound inferred >>= f) (branchPlace source bound inferred >>= g) := by
  simp only [branchPlace, bind_assoc, pure_bind]
  exact Check.newPlace_bind (fun place frame => rest { place with blanks := inferred.blanks } frame)
    source _

theorem branchPlace_conservative (source : Source) (bound : Env) (inferred : Inferred) :
    Conservative (branchPlace source bound inferred) :=
  (Check.newPlace_conservative source _).bind fun _ => .pure _

end Conditional

end Rules

end TypeGloss
