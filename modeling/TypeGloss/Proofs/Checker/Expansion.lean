/-
# TypeGloss.Proofs.Checker.Expansion — reading type syntax comes to an end

A circle of reads does not end by itself. An alias is left as a name while it is being read
through with the same arguments. A circle through an alias without parameters is cut there,
since it has no arguments. A circle on which arguments are only handed on is cut as well: the
types in view stay among those it was entered with, so after finitely many rounds some alias
has the same arguments again. But a circle on which new types come into view need not be cut,
for the arguments may be others each time.

So the type at a node settles if reading the node unwinds (`settlesAt_of_unwinds`), and with it
the type of every declaration that reads only such nodes (`Inference.ofDeclaration_settles`).

The measure is the number of aliases without parameters that are not being read through; for
one such number, how often new types come into view; in between, the number of aliases with
arguments from among the types in view that are not being read through; and last the size of
the node.
-/
import TypeGloss.Proofs.Checker.Reads
import TypeGloss.Proofs.Checker.Settling
import TypeGloss.Proofs.Lookup.Search
import Mathlib.Data.List.Sections

namespace TypeGloss

set_option autoImplicit false

/-! ## Between aliases -/

/-- The given uses of aliases are being read through, and no type has yet to be inferred. -/
structure State.Amid (program : Program) (keys : List AliasKey) (s : State) : Prop where
  program : s.toProgram = program
  expanding : s.expanding = keys
  written : s.IsWritten

section Rules

variable {program : Program} {keys : List AliasKey}

open State (Amid)

theorem State.Amid.reworded {s s' : State} (amid : Amid program keys s)
    (reworded : s.Reworded s') : Amid program keys s' where
  program := reworded.program.trans amid.program
  expanding := reworded.expanding.trans amid.expanding
  written := reworded.isWritten amid.written

/-- What settles as long as nothing but what is kept about types changes. -/
theorem Settles.amid {α : Type} {P : α → Prop} {rule : Ask → CheckM α}
    (settles : ∀ s : State, s.IsWritten → Settles s.Reworded P rule) :
    Settles (Amid program keys) P rule := by
  intro s amid
  obtain ⟨depth, result, left, reworded, returned, run⟩ := settles s amid.written (.refl s)
  exact ⟨depth, result, left, amid.reworded reworded, returned, run⟩

theorem texts_amid : TextsSettle (Amid program keys) :=
  fun t => .amid fun _ written => Answer.texts_settle_of_isWritten written t

/-! ### Types -/

namespace Check

theorem intern_settles (key : Key) {fresh : TypeRecord}
    (written : fresh.shape.isInferred = false) :
    Settles (Amid program keys) (fun _ => True) fun _ => intern key fresh := by
  refine .ofRun fun s amid => ⟨?_, fun _ _ => trivial⟩
  cases known : s.interned[key]? with
  | some t =>
      rw [after, run_intern_of_some known]
      exact amid
  | none =>
      rw [after, run_intern_of_none known]
      refine ⟨amid.program, amid.expanding, fun t r found => ?_⟩
      rw [Array.getElem?_push] at found
      split at found
      · cases found
        exact written
      · exact amid.written found

theorem primitive_settles (p : Primitive) :
    Settles (Amid program keys) (fun _ => True) fun _ => primitive p :=
  intern_settles _ rfl

theorem literal_settles (value : Value) (p : Primitive) :
    Settles (Amid program keys) (fun _ => True) fun _ => literal value p :=
  (ofResult_settles _).bind fun _ _ => intern_settles _ rfl

theorem arrayOf_settles (element : TypeId) (readonly : Bool) :
    Settles (Amid program keys) (fun _ => True) fun _ => arrayOf element readonly :=
  intern_settles _ rfl

theorem genericOf_settles (name file : String) (args : List TypeId) :
    Settles (Amid program keys) (fun _ => True) fun _ => genericOf name file args :=
  intern_settles _ rfl

theorem namedType_settles (text : String) (file : Option String) :
    Settles (Amid program keys) (fun _ => True) fun _ => namedType text file :=
  intern_settles _ rfl

theorem typeParameter_settles (name : String) (node : Cursor) (source : Source) :
    Settles (Amid program keys) (fun _ => True) fun _ => typeParameter name node source :=
  intern_settles _ rfl

theorem newPlace_settles (source : Source) (env : Env) :
    Settles (Amid program keys) (fun place => place.source = source ∧ place.env = env)
      fun _ => newPlace source env :=
  .ofRun fun _ amid => ⟨⟨amid.program, amid.expanding, amid.written⟩,
    fun _ returned => Except.ok.inj returned ▸ ⟨rfl, rfl⟩⟩

theorem bindAt_settles (place : Place) (name : String) (t : TypeId) :
    Settles (Amid program keys) (fun next => next = { place with env := Entries.put name t place.env })
      fun _ => bindAt place name t :=
  .ofRun fun _ amid => ⟨⟨amid.program, amid.expanding, amid.written⟩,
    fun _ returned => (Except.ok.inj returned).symm⟩

/-- While an alias is being read through its key is there, and afterwards it is gone. -/
theorem guarded_settles {α : Type} {P : α → Prop} {key : AliasKey} {circular : CheckM α}
    {body : Ask → CheckM α} (outside : Settles (Amid program keys) P fun _ => circular)
    (inside : key ∉ keys → Settles (Amid program (key :: keys)) P body) :
    Settles (Amid program keys) P fun ask => guarded .aliases key circular (body ask) := by
  intro s amid
  have held : Guard.aliases.held s = keys := amid.expanding
  by_cases among : key ∈ keys
  · obtain ⟨depth, result, left, kept, returned, run⟩ := outside amid
    refine ⟨depth, result, left, kept, returned, fun beyond => ?_⟩
    rw [run_guarded, if_pos (by rw [held]; exact List.contains_iff_mem.2 among)]
    exact run beyond
  · have entered : Amid program (key :: keys) (Guard.aliases.hold (key :: keys) s) :=
      ⟨amid.program, rfl, amid.written⟩
    obtain ⟨depth, result, left, kept, returned, run⟩ := inside among entered
    have back : Amid program keys (Guard.aliases.hold ((Guard.aliases.held left).erase key) left) := by
      refine ⟨kept.program, ?_, kept.written⟩
      change left.expanding.erase key = keys
      rw [kept.expanding, List.erase_cons_head]
    refine ⟨depth, result, _, back, returned, fun beyond => ?_⟩
    rw [run_guarded, if_neg (by rw [held]; exact mt List.contains_iff_mem.1 among), held, outcome,
      after, run]

end Check

/-! ### Names -/

namespace Lookup

/-- A look-up ends, and what it finds is found in the program alone. -/
theorem lookup_settles (source : Source) (name : String) (space : Space) :
    TypeGloss.Settles (Amid program keys)
      (fun found => ∃ after, search program maxSteps space (.within source name) [] =
        .ok (found, after))
      fun _ => lookup source name space := by
  refine (Check.program_settles fun _ amid => amid.program).bind fun read same => ?_
  rw [same]
  unfold find?
  change TypeGloss.Settles _ (fun found => ∃ after, within program maxSteps source name space [] =
    .ok (found, after)) fun _ => Check.ofResult ((within program maxSteps source name space []).map _)
  cases within program maxSteps source name space [] with
  | error fault => exact .failed fault
  | ok trail => exact .done ⟨trail.2, rfl⟩

theorem lookupExport_settles (source : Source) (name : String) (space : Space) :
    TypeGloss.Settles (Amid program keys)
      (fun found => ∃ after, search program maxSteps space (.exported source name) [] =
        .ok (found, after))
      fun _ => lookupExport source name space := by
  refine (Check.program_settles fun _ amid => amid.program).bind fun read same => ?_
  rw [same]
  change TypeGloss.Settles _ (fun found => ∃ after, exported program maxSteps source name space [] =
    .ok (found, after)) fun _ => Check.ofResult ((exported program maxSteps source name space []).map _)
  cases exported program maxSteps source name space [] with
  | error fault => exact .failed fault
  | ok trail => exact .done ⟨trail.2, rfl⟩

theorem externalFile?_settles (source : Source) (name : String) :
    TypeGloss.Settles (Amid program keys) (fun _ => True) fun _ => externalFile? source name := by
  unfold externalFile?
  refine (Check.scopeOf_settles source).bind fun scope _ => ?_
  dsimp only
  cases Entries.find? ((Text.pieces '.' name).headD "") scope.imports with
  | none => exact .done trivial
  | some imported => exact .ite (fun _ => .done trivial) fun _ => .done trivial

end Lookup

/-! ### Enums -/

namespace Enum

theorem memberName_settles {I : State → Prop} (member : Cursor) :
    Settles I (fun _ => True) fun _ => memberName member :=
  (Check.need_settles _).bind fun _ _ => Check.ofResult_settles _

theorem namedNode?_settles {I : State → Prop} (name : String) (parts : List Cursor) :
    Settles I (fun _ => True) fun _ => namedNode? name parts := by
  induction parts with
  | nil => exact .done trivial
  | cons member rest ih =>
      unfold namedNode?
      exact (memberName_settles member).bind fun _ _ => .ite (fun _ => .done trivial) fun _ => ih

theorem addMember_settles {s : State} (source : Source) (members : List (String × Value))
    (member : Cursor) :
    Settles s.Reworded (fun _ => True) fun _ => addMember source members member := by
  unfold addMember
  refine .ite (fun _ => ?_) fun _ => .ite (fun _ => ?_) fun _ => .done trivial
  · refine (memberName_settles member).bind fun name _ => ?_
    refine Settles.bind (P := fun _ => True) ?_ fun _ _ => .done trivial
    refine (Check.program_settles fun _ reworded => reworded.program).bind fun _ _ => ?_
    exact (Check.ofResult_settles _).bind fun _ _ => .done trivial
  · exact (memberName_settles member).bind fun _ _ => .done trivial

/-- The members of an enum are found in its syntax alone. -/
theorem load_members_settles (t : TypeId) :
    Settles (Amid program keys) (fun _ => True) fun ask => ask.load? t .enumMembers := by
  refine .amid fun s written => Settles.asked (q := .load t .enumMembers) ?_
  refine Answer.load_settles fun {s' r} reworded known idle => ?_
  unfold Answer.loader?
  cases r.shape with
  | declared =>
      by_cases isEnum : r.category = .enum
      · refine .inr ⟨fun _ => Answer.syntaxOf r.toTypeFacts >>= fun read =>
          Enum.members read.2.source read.1, fun _ => if_neg (not_not_intro isEnum), ?_⟩
        refine (Answer.syntaxOf_settles r.toTypeFacts).bind fun read _ => ?_
        exact .foldlM (fun members member _ => addMember_settles read.2.source members member) []
      · exact .inl fun _ => if_pos isEnum
  | _ => exact .inl fun _ => rfl

theorem memberType?_settles (enum : TypeId) (name : String) :
    Settles (Amid program keys) (fun _ => True) fun ask => memberType? ask enum name := by
  unfold memberType?
  refine (load_members_settles enum).bind fun listed _ => ?_
  dsimp only
  cases Entries.find? name (Entries.ofList (listed.getD [])) with
  | none => exact .done trivial
  | some value =>
      refine (Check.facts_settles enum).bind fun owner _ => ?_
      refine (Check.need_settles _).bind fun place _ => ?_
      refine (namedNode?_settles name _).bind fun node _ => ?_
      simp only [map_eq_pure_bind]
      exact (Check.intern_settles _ rfl).bind fun _ _ => .done trivial

end Enum

/-! ### Declarations -/

/-- In an environment, the names in view stand for some of the given types, and no name
stands for any other. -/
structure Env.Within (env : Env) (view : List String) (types : List TypeId) : Prop where
  bound : ∀ name ∈ view, ∃ t, Entries.find? name env = some t
  among : ∀ name t, Entries.find? name env = some t → t ∈ types

theorem Env.mem_entries {env : Env} {name : String} {t : TypeId}
    (found : Entries.find? name env = some t) : t ∈ Entries.entries env :=
  List.mem_map_of_mem (Entries.mem_of_find?_eq_some found)

/-- The type at a node settles while the given uses of aliases are being read through and the
type parameters in view stand for some of the given types. It is one of these if the node is
such a type parameter. -/
def SettlesAt (program : Program) (keys : List AliasKey) (types : List TypeId) (site : Site) :
    Prop :=
  ∀ (via : Option AliasRef) (place : Place), place.source = site.source →
    place.env.Within site.view types →
      Settles (Amid program keys)
        (fun t => (Form.ofNode site.node).isInView site.view = true → t ∈ types)
        fun ask => ask.typeThrough via site.node place

/-- The key under which an alias is read through at a place. -/
def Module.Binding.keyAt (binding : Module.Binding) (place : Place) : AliasKey :=
  ⟨place.source.path, binding.node.mark.start, Reference.argumentsAt place binding.parameters⟩

namespace Reference

/-- The parameters are in view. If there are arguments for all of them, no name stands for
anything else than an argument or what it stood for before. -/
structure Bound (parameters : List TypeParameter) (args : List TypeId) (before : Env)
    (env : Env) : Prop where
  bound : ∀ name, name ∈ parameters.map (·.name) ∨ (∃ t, Entries.find? name before = some t) →
    ∃ t, Entries.find? name env = some t
  among : parameters.length ≤ args.length → ∀ name t, Entries.find? name env = some t →
    t ∈ args ∨ Entries.find? name before = some t

theorem Bound.nil (args : List TypeId) (env : Env) : Bound [] args env env where
  bound _ known := known.elim (fun none => absurd none List.not_mem_nil) id
  among _ _ _ found := .inr found

/-- A type parameter comes into view before those behind it. -/
theorem Bound.cons {parameter : TypeParameter} {rest : List TypeParameter} {t : TypeId}
    {args all : List TypeId} {before env : Env}
    (inside : Bound rest args (Entries.put parameter.name t before) env)
    (first : rest.length + 1 ≤ all.length → all = t :: args) :
    Bound (parameter :: rest) all before env where
  bound name known := by
    refine inside.bound name ?_
    rw [Entries.find?_put]
    rcases known with listed | before
    · rcases List.mem_cons.1 listed with rfl | later
      · exact .inr ⟨t, if_pos rfl⟩
      · exact .inl later
    · split
      · exact .inr ⟨t, rfl⟩
      · exact .inr before
  among enough name u found := by
    obtain rfl := first enough
    rcases inside.among (Nat.le_of_succ_le_succ enough) name u found with arg | before
    · exact .inl (List.mem_cons_of_mem _ arg)
    · rw [Entries.find?_put] at before
      split at before
      · exact .inl (Option.some.inj before ▸ List.mem_cons_self)
      · exact .inr before

/-- Only type parameters are in view inside a declaration, and they stand for what is bound there.
-/
theorem Bound.within {parameters : List TypeParameter} {args : List TypeId} {before env : Env}
    (inside : Bound parameters args before env) :
    env.Within (parameters.map (·.name)) (Entries.entries env) :=
  ⟨fun name listed => inside.bound name (.inl listed), fun _ _ => Env.mem_entries⟩

/-- Parameters that are in view stand for as many types as there are parameters. -/
theorem argumentsAt_mem_sections {place : Place} {parameters : List TypeParameter}
    {types : List TypeId} (within : place.env.Within (parameters.map (·.name)) types) :
    argumentsAt place parameters ∈ (parameters.map fun _ => types).sections := by
  rw [List.mem_sections]
  induction parameters with
  | nil => exact .nil
  | cons parameter rest ih =>
      obtain ⟨t, found⟩ := within.bound _ List.mem_cons_self
      have first : argumentsAt place (parameter :: rest) = t :: argumentsAt place rest :=
        List.filterMap_cons_some found
      rw [first]
      exact .cons (within.among _ _ found)
        (ih ⟨fun name later => within.bound name (List.mem_cons_of_mem _ later), within.among⟩)

end Reference

/-- What must settle for a declaration to settle with the given arguments: the defaults of the
parameters behind these and, if it is an alias, the right side while it is being read through. -/
structure SettlesInside (program : Program) (keys : List AliasKey) (source : Source)
    (binding : Module.Binding) (args : List TypeId) : Prop where
  fallbacks : ∀ parameter ∈ binding.parameters.drop args.length, ∀ inner,
    parameter.fallback = some inner → ∀ types, SettlesAt program keys types ⟨source, [], inner⟩
  value : binding.kind = .typeAlias → ∀ inner, binding.value? = some inner → ∀ place : Place,
    place.source = source → Reference.Bound binding.parameters args [] place.env →
      binding.keyAt place ∉ keys → ∀ via,
        Settles (Amid program (binding.keyAt place :: keys)) (fun _ => True)
          fun ask => ask.typeThrough via inner place

namespace Reference

theorem bindAll_settles {source : Source} {parameters : List TypeParameter} {args : List TypeId}
    (fallbacks : ∀ parameter ∈ parameters.drop args.length, ∀ inner,
      parameter.fallback = some inner → ∀ types, SettlesAt program keys types ⟨source, [], inner⟩)
    (place : Place) (here : place.source = source) :
    Settles (Amid program keys)
      (fun next => next.source = source ∧ Bound parameters args place.env next.env)
      fun ask => bindAll ask place parameters args := by
  induction parameters generalizing place args with
  | nil => exact .done ⟨here, .nil args place.env⟩
  | cons parameter rest ih =>
      cases args with
      | cons arg args =>
          unfold bindAll
          refine (Check.bindAt_settles place _ arg).bind fun next bound => ?_
          subst bound
          have later := ih fallbacks { place with env := Entries.put parameter.name arg place.env } here
          exact later.weaken fun _ inside => ⟨inside.1, inside.2.cons fun _ => rfl⟩
      | nil =>
          unfold bindAll
          refine Settles.bind (P := fun _ => True) ?_ fun t _ => ?_
          · unfold unapplied
            cases default : parameter.fallback with
            | none => exact Check.typeParameter_settles _ _ _
            | some inner =>
                have settles := fallbacks parameter List.mem_cons_self inner default
                  (Entries.entries place.env)
                refine (settles none place here ⟨fun _ none => ?_, fun _ _ => Env.mem_entries⟩).weaken
                  fun _ _ => trivial
                exact absurd none List.not_mem_nil
          · refine (Check.bindAt_settles place _ t).bind fun next bound => ?_
            subst bound
            have others : ∀ other ∈ rest.drop ([] : List TypeId).length, ∀ inner,
                other.fallback = some inner →
                  ∀ types, SettlesAt program keys types ⟨source, [], inner⟩ :=
              fun other among => fallbacks other (List.mem_cons_of_mem _ among)
            have later := ih others { place with env := Entries.put parameter.name t place.env } here
            exact later.weaken fun _ inside =>
              ⟨inside.1, inside.2.cons fun enough => absurd enough (Nat.not_succ_le_zero _)⟩

/-- A place inside a declaration is found if the defaults of the parameters without arguments are.
-/
theorem instantiate_settles {source : Source} {parameters : List TypeParameter}
    {args : List TypeId}
    (fallbacks : ∀ parameter ∈ parameters.drop args.length, ∀ inner,
      parameter.fallback = some inner → ∀ types, SettlesAt program keys types ⟨source, [], inner⟩) :
    Settles (Amid program keys)
      (fun next => next.source = source ∧ Bound parameters args [] next.env)
      fun ask => instantiate ask source parameters args := by
  unfold instantiate
  refine .ite (fun empty => ?_) fun _ => ?_
  · obtain rfl := List.isEmpty_iff.1 empty
    exact .done ⟨rfl, .nil args []⟩
  · refine (Check.newPlace_settles source []).bind fun place ⟨here, unbound⟩ => ?_
    rw [← unbound]
    exact bindAll_settles fallbacks place here

theorem throughAlias_settles {source : Source} {binding : Module.Binding} {args : List TypeId}
    (isAlias : binding.kind = .typeAlias)
    (inside : SettlesInside program keys source binding args) :
    Settles (Amid program keys) (fun _ => True)
      fun ask => throughAlias ask source binding args := by
  unfold throughAlias
  refine (instantiate_settles inside.fallbacks).bind fun place ⟨here, bound⟩ => ?_
  subst here
  dsimp only
  cases isValue : binding.node.field? "value" with
  | none => exact Check.namedType_settles _ _
  | some value =>
      refine Check.guarded_settles (Check.namedType_settles _ _) fun new => ?_
      exact inside.value isAlias value isValue place rfl bound new _

theorem declared_settles {source : Source} {bindings : List Module.Binding} {args : List TypeId}
    (inside : ∀ binding ∈ bindings.head?, SettlesInside program keys source binding args) :
    Settles (Amid program keys) (fun _ => True)
      fun ask => ask.declared source bindings args := by
  refine Settles.asked (q := .declared source bindings args) ?_
  change Settles _ _ fun ask => declared ask source bindings args
  unfold declared
  refine (Check.needFirst_settles bindings).bind fun binding first => ?_
  refine (Check.checkSyntax_settles _ _).bind fun _ _ => ?_
  refine .ite (fun isAlias => throughAlias_settles isAlias (inside binding first)) fun _ => ?_
  cases declaredCategory? binding.kind with
  | none => exact Check.namedType_settles _ _
  | some category =>
      refine (instantiate_settles (inside binding first).fallbacks).bind fun place _ => ?_
      exact Check.intern_settles _ rfl

/-! ### References -/

/-- What arguments stand for: as many types, of which those are among the given ones that are
written as type parameters in view. -/
def Arguments (view : List String) (types : List TypeId) : List Cursor → List TypeId → Prop :=
  List.Forall₂ fun arg t => (Form.ofNode arg).isInView view = true → t ∈ types

/-- An argument that is a name in view is one of the types that are bound there. -/
theorem Arguments.mem {view : List String} {types args : List TypeId} {argNodes : List Cursor}
    (known : Arguments view types argNodes args)
    (inView : ∀ arg ∈ argNodes, (Form.ofNode arg).isInView view = true) : ∀ t ∈ args, t ∈ types := by
  induction known with
  | nil => exact fun _ none => absurd none List.not_mem_nil
  | cons first _ ih =>
      have later := ih fun arg listed => inView arg (List.mem_cons_of_mem _ listed)
      exact List.forall_mem_cons.2 ⟨first (inView _ List.mem_cons_self), later⟩

/-- Arguments that are handed on are among the types in view. -/
theorem Bound.within_of_handedOn {parameters : List TypeParameter} {args types : List TypeId}
    {argNodes : List Cursor} {view : List String} {env : Env}
    (inside : Bound parameters args [] env) (known : Arguments view types argNodes args)
    (handedOn : parameters.length ≤ argNodes.length ∧
      ∀ arg ∈ argNodes, (Form.ofNode arg).isInView view = true) :
    env.Within (parameters.map (·.name)) types where
  bound name listed := inside.bound name (.inl listed)
  among name t found := by
    rcases inside.among (known.length_eq ▸ handedOn.1) name t found with among | unbound
    · exact known.mem handedOn.2 t among
    · cases unbound

/-- Whatever a node names settles with the arguments to which it is applied. -/
def SettlesNamed (program : Program) (keys : List AliasKey) (types : List TypeId)
    (source : Source) (view : List String) (form : Form) : Prop :=
  ∀ ⦃target : Source⦄ ⦃binding : Module.Binding⦄ ⦃rest : List Module.Binding⦄
    ⦃argNodes : List Cursor⦄ ⦃args : List TypeId⦄,
      Names program source view form argNodes ⟨target, binding :: rest⟩ →
        Arguments view types argNodes args → SettlesInside program keys target binding args

theorem undeclared_settles (name : String) (args : List TypeId) (node : Cursor) (place : Place)
    (via : Option AliasRef) :
    Settles (Amid program keys) (fun _ => True)
      fun ask => undeclared ask name args node place via := by
  by_cases other : Library.arrayTypes.contains name = true → args.length ≠ 1
  · simp only [undeclared_of_ne_one other]
    refine .ite (fun _ => ?_) fun _ => ?_
    · unfold utility
      exact (texts_amid.aliasText? via).bind fun _ _ => Check.intern_settles _ rfl
    · cases Entries.find? name Library.genericTypes with
      | some file =>
          exact .ite (fun _ => Check.namedType_settles _ _) fun _ => Check.genericOf_settles _ _ _
      | none =>
          cases Entries.find? name Library.plainTypes with
          | some file => exact Check.namedType_settles _ _
          | none =>
              refine (Lookup.externalFile?_settles _ _).bind fun file _ => ?_
              exact .ite (fun _ => Check.namedType_settles _ _)
                fun _ => Check.genericOf_settles _ _ _
  · obtain ⟨isArray, one⟩ : Library.arrayTypes.contains name = true ∧ args.length = 1 := by
      simpa using other
    obtain ⟨element, rfl⟩ := List.length_eq_one_iff.1 one
    simp only [undeclared, isArray]
    exact Check.arrayOf_settles element _

/-- The arguments settle, to some of the given types if all of them are type parameters in
view. -/
theorem arguments_settle {source : Source} {view : List String} {types : List TypeId}
    {argNodes : List Cursor}
    (operands : ∀ inner ∈ argNodes, SettlesAt program keys types ⟨source, view, inner⟩)
    (place : Place) (here : place.source = source) (within : place.env.Within view types) :
    Settles (Amid program keys) (Arguments view types argNodes)
      fun ask => argNodes.mapM fun arg => ask.typeAt arg place :=
  .mapM fun arg among => operands arg among none place here within

theorem simple_settles {source : Source} {view : List String} {types : List TypeId}
    {name : String} {argNodes : List Cursor}
    (operands : ∀ inner ∈ argNodes, SettlesAt program keys types ⟨source, view, inner⟩)
    (named : SettlesNamed program keys types source view (.simple name argNodes))
    (node : Cursor) (place : Place) (here : place.source = source)
    (within : place.env.Within view types) (via : Option AliasRef) :
    Settles (Amid program keys)
      (fun t => (Form.simple name argNodes).isInView view = true → t ∈ types)
      fun ask => simple ask name argNodes node place via := by
  by_cases blank : (argNodes.isEmpty && place.blanks.contains name) = true
  · simp only [simple_of_blank blank]
    exact .failed _
  by_cases unbound : argNodes.isEmpty = true → Entries.find? name place.env = none
  · simp only [simple_of_unbound blank unbound]
    have outside : (Form.simple name argNodes).isInView view = false := by
      cases argNodes with
      | cons arg rest => rfl
      | nil =>
          refine Bool.eq_false_iff.2 fun inView => ?_
          obtain ⟨t, bound⟩ := within.bound name (List.contains_iff_mem.1 inView)
          rw [unbound rfl] at bound
          cases bound
    rw [outside]
    refine (arguments_settle operands place here within).bind fun args known => ?_
    refine (Lookup.lookup_settles place.source name .types).bind fun found finds => ?_
    refine Settles.weaken (P := fun _ => True) ?_ fun _ _ none => absurd none Bool.false_ne_true
    cases found with
    | none => exact undeclared_settles name args node place via
    | some found =>
        obtain ⟨target, bindings⟩ := found
        obtain ⟨after, finds⟩ := finds
        rw [here] at finds
        refine declared_settles fun binding first => ?_
        obtain ⟨rest, rfl⟩ := List.head?_eq_some_iff.1 first
        exact named (.simple outside finds) known
  · obtain ⟨plain, bound⟩ : argNodes.isEmpty = true ∧ Entries.find? name place.env ≠ none := by
      simpa using unbound
    obtain ⟨t, found⟩ := Option.ne_none_iff_exists'.1 bound
    simp only [simple_of_bound blank plain found]
    exact .done fun _ => within.among name t found

theorem moduleMember?_settles {source : Source} {view : List String} {types : List TypeId}
    {name : Cursor} {argNodes : List Cursor} {head member : String}
    (parts : Text.pieces '.' name.text = [head, member])
    (named : SettlesNamed program keys types source view (.dotted name argNodes))
    {args : List TypeId} (known : Arguments view types argNodes args) :
    Settles (Amid program keys) (fun _ => True)
      fun ask => moduleMember? ask source head member args := by
  unfold moduleMember?
  refine (Check.scopeOf_settles source).bind fun scope read => ?_
  cases listed : Entries.find? head scope.imports with
  | none => exact .done trivial
  | some imported =>
      refine .ite (fun _ => ?_) fun _ => .done trivial
      refine (Check.program_settles fun _ amid => amid.program).bind fun _ same => ?_
      rw [same]
      cases present : Lookup.module? program source.path imported.specifier with
      | none => exact .done trivial
      | some target =>
          refine (Lookup.lookupExport_settles target member .types).bind fun found finds => ?_
          cases found with
          | none => exact .done trivial
          | some found =>
              obtain ⟨declaring, bindings⟩ := found
              obtain ⟨after, finds⟩ := finds
              simp only [map_eq_pure_bind]
              refine (declared_settles fun binding first => ?_).bind fun _ _ => .done trivial
              obtain ⟨rest, rfl⟩ := List.head?_eq_some_iff.1 first
              exact named (.member parts read listed present finds) known

theorem enumMember?_settles {source : Source} {view : List String} {types : List TypeId}
    {name : Cursor} {argNodes : List Cursor} {head member : String}
    (parts : Text.pieces '.' name.text = [head, member])
    (named : SettlesNamed program keys types source view (.dotted name argNodes)) :
    Settles (Amid program keys) (fun _ => True)
      fun ask => enumMember? ask source head member := by
  unfold enumMember?
  refine (Lookup.lookup_settles source head .values).bind fun found finds => ?_
  match found with
  | none => exact .done trivial
  | some ⟨declaring, []⟩ => exact .done trivial
  | some ⟨declaring, binding :: rest⟩ =>
      obtain ⟨after, finds⟩ := finds
      refine .ite (fun isEnum => ?_) fun _ => .done trivial
      refine (declared_settles fun other first => ?_).bind fun enum _ =>
        Enum.memberType?_settles enum member
      obtain rfl : binding = other := Option.some.inj first
      exact named (.enum parts finds isEnum) .nil

theorem qualified_settles {source : Source} {view : List String} {types : List TypeId}
    {name : Cursor} {argNodes : List Cursor}
    (operands : ∀ inner ∈ argNodes, SettlesAt program keys types ⟨source, view, inner⟩)
    (named : SettlesNamed program keys types source view (.dotted name argNodes))
    (node : Cursor) (place : Place) (here : place.source = source)
    (within : place.env.Within view types) (via : Option AliasRef) :
    Settles (Amid program keys) (fun _ => True)
      fun ask => qualified ask name argNodes node place via := by
  unfold qualified
  refine (arguments_settle operands place here within).bind fun args known => ?_
  match parts : Text.pieces '.' name.text with
  | [] => exact undeclared_settles name.text args node place via
  | [_] => exact undeclared_settles name.text args node place via
  | _ :: _ :: _ :: _ => exact undeclared_settles name.text args node place via
  | [head, member] =>
      rw [here]
      refine (moduleMember?_settles parts named known).bind fun found _ => ?_
      cases found with
      | some t => exact .done trivial
      | none =>
          refine (enumMember?_settles parts named).bind fun found _ => ?_
          cases found with
          | some t => exact .done trivial
          | none => exact undeclared_settles name.text args node place via

end Reference

/-! ### All nodes -/

namespace TypeSyntax

theorem structured_settles (category : Category) (symbol : Option Symbol) (node : Cursor)
    (place : Place) (via : Option AliasRef) :
    Settles (Amid program keys) (fun _ => True)
      fun ask => structured ask category symbol node place via := by
  unfold structured
  refine (Check.complete_settles place).bind fun _ _ => ?_
  exact (texts_amid.aliasText? via).bind fun _ _ => Check.intern_settles _ rfl

theorem array_settles {source : Source} {view : List String} {types : List TypeId} {node : Cursor}
    (operands : ∀ inner ∈ node.parts.head?, SettlesAt program keys types ⟨source, view, inner⟩)
    (place : Place) (here : place.source = source) (within : place.env.Within view types)
    (via : Option AliasRef) :
    Settles (Amid program keys) (fun _ => True) fun ask => array ask node place via := by
  unfold array
  refine (Check.needFirst_settles node.parts).bind fun element first => ?_
  cases via with
  | none =>
      refine (operands element first none place here within).bind fun t _ => ?_
      exact Check.arrayOf_settles _ _
  | some ref =>
      refine (Check.complete_settles place).bind fun _ _ => ?_
      refine (texts_amid.applied ref.binding.name ref.args).bind fun _ _ => ?_
      exact Check.intern_settles _ rfl

theorem numberType_settles (text : String) (negative : Bool) :
    Settles (Amid program keys) (fun _ => True) fun _ => Inference.numberType text negative :=
  (Check.ofResult_settles _).bind fun _ _ => Check.literal_settles _ _

theorem literal_settles (node : Cursor) :
    Settles (Amid program keys) (fun _ => True) fun _ => literal node := by
  unfold literal
  split
  · exact Check.primitive_settles .any
  · split
    · exact (Check.ofResult_settles _).bind fun _ _ => Check.literal_settles _ _
    · exact numberType_settles _ _
    · exact Check.literal_settles _ _
    · exact Check.literal_settles _ _
    · exact Check.primitive_settles .null
    · exact Check.primitive_settles .undefined
    · split
      · exact numberType_settles _ _
      · exact Check.namedType_settles _ _
    · exact Check.namedType_settles _ _

theorem template_settles (node : Cursor) (place : Place) :
    Settles (Amid program keys) (fun _ => True) fun ask => template ask node place := by
  unfold template
  refine .ite (fun _ => Check.literal_settles _ _) fun _ => ?_
  refine (Check.complete_settles place).bind fun _ _ => ?_
  exact (texts_amid.render node place).bind fun _ _ => Check.intern_settles _ rfl

theorem keyword_settles (text : String) :
    Settles (Amid program keys) (fun _ => True) fun _ => keyword text := by
  unfold keyword
  cases Primitive.ofText? text with
  | some p => exact Check.primitive_settles p
  | none => exact Check.namedType_settles _ _

end TypeSyntax

/-- A node settles if everything does that it reads. -/
theorem settlesAt_of_reads {site : Site} {types : List TypeId}
    (operands : ∀ inner ∈ (Form.ofNode site.node).operands site.node,
      SettlesAt program keys types ⟨site.source, site.view, inner⟩)
    (named : Reference.SettlesNamed program keys types site.source site.view (.ofNode site.node))
    (valueless : ∀ target, Form.ofNode site.node ≠ .query target) :
    SettlesAt program keys types site := by
  intro via place here within
  refine Settles.asked (q := .typeAt site.node place via) ?_
  change Settles _ _ fun ask => TypeSyntax.ofNode ask site.node place via
  simp only [Form.read_ofNode]
  generalize Form.ofNode site.node = form at operands named valueless
  -- A name may be a type parameter in view. No other node is one.
  have other {rule : Ask → CheckM TypeId} (outside : form.isInView site.view = false)
      (settles : Settles (Amid program keys) (fun _ => True) rule) :
      Settles (Amid program keys) (fun t => form.isInView site.view = true → t ∈ types) rule :=
    settles.weaken fun _ _ inView => absurd (outside ▸ inView) Bool.false_ne_true
  cases form with
  | wrapper inner =>
      refine other rfl ?_
      cases inner with
      | none => exact Check.primitive_settles .any
      | some inner =>
          exact (operands inner (List.mem_singleton_self _) via place here within).weaken
            fun _ _ => trivial
  | primitive p => exact other rfl (Check.primitive_settles p)
  | named text => exact other rfl (Check.namedType_settles _ _)
  | keyword => exact other rfl (TypeSyntax.keyword_settles _)
  | literal => exact other rfl (TypeSyntax.literal_settles _)
  | template => exact other rfl (TypeSyntax.template_settles _ place)
  | simple name args => exact Reference.simple_settles operands named _ place here within via
  | dotted name args =>
      exact other rfl (Reference.qualified_settles operands named _ place here within via)
  | structured category ownSymbol =>
      exact other rfl (TypeSyntax.structured_settles _ _ _ place via)
  | array =>
      refine other rfl (TypeSyntax.array_settles (fun inner first => ?_) place here within via)
      exact operands inner (Option.mem_toList.2 first)
  | query target => exact absurd rfl (valueless target)
  | rendered =>
      refine other rfl ((texts_amid.render _ place).bind fun _ _ => ?_)
      exact Check.namedType_settles _ _

end Rules

/-! ## Chains of reads -/

namespace Program

/-- The keys under which the aliases of a program are read through with some of the given types
as arguments. -/
def aliasKeys (program : Program) (types : List TypeId) : List AliasKey :=
  program.sources.flatMap fun entry =>
    match entry.2.scope with
    | .ok scope => scope.types.flatMap fun table =>
        table.2.flatMap fun binding =>
          (binding.parameters.map fun _ => types).sections.map fun args =>
            ⟨entry.2.path, binding.node.mark.start, args⟩
    | .error _ => []

/-- The alias of a declared name, applied to types in view, is among the aliases that can be met. -/
theorem mem_aliasKeys {program : Program} {source : Source} {scope : Module.Scope} {name : String}
    {bindings : List Module.Binding} {binding : Module.Binding} {types args : List TypeId}
    (has : program.Has source) (read : source.scope = .ok scope)
    (declared : Entries.find? name scope.types = some bindings) (among : binding ∈ bindings)
    (listed : args ∈ (binding.parameters.map fun _ => types).sections) :
    ⟨source.path, binding.node.mark.start, args⟩ ∈ program.aliasKeys types := by
  refine List.mem_flatMap.2 ⟨_, Entries.mem_of_find?_eq_some has, ?_⟩
  simp only [read]
  refine List.mem_flatMap.2 ⟨_, Entries.mem_of_find?_eq_some declared, ?_⟩
  exact List.mem_flatMap.2 ⟨_, among, List.mem_map_of_mem listed⟩

/-- The number of uses of aliases with some of the given types as arguments that are not being
read through. -/
def pending (program : Program) (types : List TypeId) (keys : List AliasKey) : Nat :=
  ((program.aliasKeys types).filter (· ∉ keys)).length

theorem filter_cons (program : Program) (types : List TypeId) (key : AliasKey)
    (keys : List AliasKey) :
    (program.aliasKeys types).filter (· ∉ key :: keys) =
      ((program.aliasKeys types).filter (· ∉ keys)).filter (· ≠ key) := by
  rw [List.filter_filter]
  congr 1
  funext other
  simp [not_or]

/-- There is no more left to expand with one more alias under way. -/
theorem pending_cons_le (program : Program) (types : List TypeId) (key : AliasKey)
    (keys : List AliasKey) : program.pending types (key :: keys) ≤ program.pending types keys := by
  rw [pending, filter_cons]
  exact List.length_filter_le _ _

/-- With one more alias being read through, fewer are left. -/
theorem pending_cons_lt {program : Program} {types : List TypeId} {key : AliasKey}
    {keys : List AliasKey} (among : key ∈ program.aliasKeys types) (new : key ∉ keys) :
    program.pending types (key :: keys) < program.pending types keys := by
  rw [pending, filter_cons]
  refine List.length_filter_lt_length_iff_exists.2 ⟨key, ?_, by simp⟩
  exact List.mem_filter.2 ⟨among, by simpa using new⟩

end Program

/-- What a look-up finds stands in the tables of a source of the program. -/
theorem Lookup.listed_of_search {program : Program} {space : Space} {question : Question}
    {found : Found} {after : List Visit} (registered : program.IsRegistered)
    (finds : search program maxSteps space question [] = .ok (some found, after))
    (has : program.Has question.source) :
    program.Has found.source ∧ ∃ scope name, found.source.scope = .ok scope ∧
      declarations? scope name space = some found.bindings := by
  obtain ⟨goal, reached, declares⟩ := declares_of_search finds
  have hasGoal := has_of_reaches registered reached has
  cases declares with
  | within read declared => exact ⟨hasGoal, _, _, read, declared⟩

/-- What is named in a source of the program is declared in one, and has keys if it is an
alias. -/
theorem Names.declared {program : Program} {source target : Source} {view : List String}
    {form : Form} {argNodes : List Cursor} {binding : Module.Binding} {rest : List Module.Binding}
    (registered : program.IsRegistered) (has : program.Has source)
    (names : Names program source view form argNodes ⟨target, binding :: rest⟩) :
    program.Has target ∧ (binding.kind = .typeAlias → ∀ {types args},
      args ∈ (binding.parameters.map fun _ => types).sections →
        ⟨target.path, binding.node.mark.start, args⟩ ∈ program.aliasKeys types) := by
  cases names with
  | simple outside finds =>
      obtain ⟨known, scope, name, read, declared⟩ := Lookup.listed_of_search registered finds has
      exact ⟨known, fun _ _ _ => Program.mem_aliasKeys known read declared List.mem_cons_self⟩
  | member parts read listed present finds =>
      obtain ⟨known, scope, name, read, declared⟩ :=
        Lookup.listed_of_search registered finds (Lookup.has_of_module? registered present)
      exact ⟨known, fun _ _ _ => Program.mem_aliasKeys known read declared List.mem_cons_self⟩
  | enum parts finds isEnum =>
      refine ⟨(Lookup.listed_of_search registered finds has).1, fun isAlias => ?_⟩
      rw [isEnum] at isAlias
      cases isAlias

section Chains

variable {program : Program}

/-- The type at a node settles if it does at all nodes that are the first to be read with new
types in view or through an alias without parameters. -/
theorem settlesAt_of_staysUntil (registered : program.IsRegistered) {origin : Site} {bound : Nat}
    (valueless : ∀ site, StaysUntil program origin site →
      ∀ target, Form.ofNode site.node ≠ .query target)
    (renewed : ∀ site inner, StaysUntil program origin site → Reads program site .renewed inner →
      program.Has inner.source → ∀ keys types, program.pending [] keys ≤ bound →
        SettlesAt program keys types inner)
    (closed : ∀ site inner, StaysUntil program origin site → Reads program site .closed inner →
      program.Has inner.source → ∀ keys types, program.pending [] keys < bound →
        SettlesAt program keys types inner)
    {site : Site} (stays : StaysUntil program origin site) (has : program.Has site.source)
    (keys : List AliasKey) (types : List TypeId) (few : program.pending [] keys ≤ bound) :
    SettlesAt program keys types site := by
  refine settlesAt_of_reads (fun inner isOperand => ?_) ?_ (valueless site stays)
  · have reads : Reads program site .inward ⟨site.source, site.view, inner⟩ := .operand isOperand
    have smaller := Form.sizeOf_lt_of_mem_operands isOperand
    exact settlesAt_of_staysUntil registered valueless renewed closed (stays.tail (.inl reads)) has
      keys types few
  · intro target binding rest argNodes args names known
    obtain ⟨hasTarget, keyed⟩ := names.declared registered has
    constructor
    · intro parameter isParameter inner isFallback others
      rw [← known.length_eq] at isParameter
      exact renewed site _ stays (.fallback names isParameter isFallback) hasTarget keys others few
    · intro isAlias inner isValue place here arguments new via
      have reads : Reads program site _ _ := .value names isAlias isValue
      have fewer := program.pending_cons_le [] (binding.keyAt place) keys
      subst here
      cases passage : Passage.through site.view binding.parameters argNodes with
      | inward => exact absurd passage Passage.through_ne_inward
      | closed =>
          rw [passage] at reads
          have plain := Passage.eq_nil_of_closed passage
          have key : binding.keyAt place ∈ program.aliasKeys [] := by
            refine keyed isAlias ?_
            rw [plain]
            exact List.mem_singleton_self []
          have left := Nat.lt_of_lt_of_le (Program.pending_cons_lt key new) few
          have settles := closed site _ stays reads hasTarget _ (Entries.entries place.env) left
          exact (settles via place rfl arguments.within).weaken fun _ _ => trivial
      | handedOn =>
          rw [passage] at reads
          have within := arguments.within_of_handedOn known (Passage.inView_of_handedOn passage)
          have key := keyed isAlias (Reference.argumentsAt_mem_sections within)
          have left : program.pending types (binding.keyAt place :: keys) <
              program.pending types keys := Program.pending_cons_lt key new
          have settles := settlesAt_of_staysUntil registered valueless renewed closed
            (stays.tail (.inr reads)) hasTarget (binding.keyAt place :: keys) types
            (Nat.le_trans fewer few)
          exact (settles via place rfl within).weaken fun _ _ => trivial
      | renewed =>
          rw [passage] at reads
          have settles := renewed site _ stays reads hasTarget (binding.keyAt place :: keys)
            (Entries.entries place.env) (Nat.le_trans fewer few)
          exact (settles via place rfl arguments.within).weaken fun _ _ => trivial
termination_by (program.pending types keys, sizeOf site.node.focus)

/-- If reading a node unwinds, its type settles, whatever aliases are being read through and
whatever types are in view. -/
theorem settlesAt_of_unwinds (registered : program.IsRegistered) {site : Site}
    (unwinds : Unwinds program site) (has : program.Has site.source) (keys : List AliasKey)
    (types : List TypeId) : SettlesAt program keys types site := by
  generalize few : program.pending [] keys = bound
  induction bound using Nat.strongRecOn generalizing site keys types with
  | _ bound fewer =>
    -- For one number of aliases that are left, the induction is on how often types are renewed.
    have chain := unwinds.ends site .refl
    replace few := Nat.le_of_eq few
    induction chain generalizing keys types with
    | intro site _ ih =>
      refine settlesAt_of_staysUntil registered (fun _ stays => unwinds.valueless _ (.of_staysUntil stays))
        (fun mid inner stays reads hasInner keys types few => ?_)
        (fun mid inner stays reads hasInner keys types left => ?_) .refl has keys types few
      · have leads := (LeadsTo.of_staysUntil stays).tail ⟨_, reads⟩
        exact ih inner ⟨mid, stays, reads⟩ (unwinds.inside leads) hasInner keys types few
      · have leads := (LeadsTo.of_staysUntil stays).tail ⟨_, reads⟩
        exact fewer _ left (unwinds.inside leads) hasInner keys types rfl

end Chains

namespace Inference

variable {program : Program} {keys : List AliasKey}

open State (Amid)

theorem presentSource_settles (declaration : Declaration) :
    Settles (Amid program keys)
      (fun source => Entries.find? (Path.normalize declaration.path) program.sources = some source)
      fun _ => presentSource declaration := by
  unfold presentSource
  refine (Check.program_settles fun _ amid => amid.program).bind fun _ same => ?_
  rw [same]
  cases Entries.find? (Path.normalize declaration.path) program.sources with
  | none => exact .failed _
  | some source => exact .done rfl

/-- A binding that a declaration stands for is among the bindings of its name. -/
theorem mem_of_bindingOf? {declaration : Declaration} {node : Cursor} {scope : Module.Scope}
    {binding : Module.Binding} (same : bindingOf? declaration node scope = some binding) :
    binding ∈ bindingsOf declaration.name scope.types ++
      bindingsOf declaration.name scope.values := by
  rcases Option.or_eq_some_iff.1 same with type | ⟨-, value⟩
  · exact List.mem_append_left _ (List.mem_of_find?_eq_some type)
  · exact List.mem_append_right _ (List.mem_of_find?_eq_some value)

/-- A declaration of a type settles if everything unwinds that it reads. -/
theorem ofDeclaration_settles (registered : program.IsRegistered) {declaration : Declaration}
    (isType : declaration.kind.bindsType = true)
    (unwinds : ∀ site, Opens program declaration site → Unwinds program site) :
    Settles (Amid program keys) (fun _ => True) fun ask => ask.ofDeclaration declaration := by
  refine Settles.asked (q := .ofDeclaration declaration) ?_
  change Settles _ _ fun ask => declarationType ask declaration
  unfold declarationType
  refine (presentSource_settles declaration).bind fun source found => ?_
  have has : program.Has source := by
    rw [Program.Has, registered.path found]
    exact found
  have inside {scope : Module.Scope} {binding : Module.Binding} (read : source.scope = .ok scope)
      (listed : binding ∈ bindingsOf declaration.name scope.types ++
        bindingsOf declaration.name scope.values) :
      SettlesInside program keys source binding [] := by
    constructor
    · intro parameter isParameter inner isFallback types
      have opens := Opens.fallback found read listed isParameter isFallback
      exact settlesAt_of_unwinds registered (unwinds _ opens) has keys types
    · intro isAlias inner isValue place here arguments new via
      have opens := Opens.value found read listed isAlias isValue
      have settles := settlesAt_of_unwinds registered (unwinds _ opens) has
        (binding.keyAt place :: keys) (Entries.entries place.env)
      exact (settles via place here arguments.within).weaken fun _ _ => trivial
  refine Settles.bind (P := fun _ => True) ?_ fun node _ => ?_
  · unfold syntaxOf
    cases declaration.node with
    | none => exact .failed _
    | some node => exact .done trivial
  refine (Check.checkSyntax_settles _ _).bind fun _ _ => ?_
  have typed : Settles (Amid program keys) (fun _ => True) (fun ask => do
      let scope ← Check.scopeOf source
      let bindings := (bindingsOf declaration.name scope.types).filter (·.kind = declaration.kind)
      if bindings.isEmpty then
        let binding ← Check.need (bindingOf? declaration node scope)
        ask.declared source [binding] []
      else ask.declared source bindings []) := by
    refine (Check.scopeOf_settles source).bind fun scope read => .ite (fun _ => ?_) fun _ => ?_
    · refine (Check.need_settles _).bind fun binding same => ?_
      refine Reference.declared_settles fun other first => ?_
      obtain rfl : binding = other := Option.some.inj first
      exact inside read (mem_of_bindingOf? same)
    · refine Reference.declared_settles fun binding first => inside read ?_
      exact List.mem_append_left _ (List.mem_filter.1 (List.mem_of_mem_head? first)).1
  -- The rule has one branch for all kinds that declare types.
  revert isType typed
  cases declaration.kind <;> intro isType typed
  case typeAlias | interface | classType | enum => exact typed
  all_goals cases isType

end Inference

end TypeGloss
