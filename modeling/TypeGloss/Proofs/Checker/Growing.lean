/-
# TypeGloss.Proofs.Checker.Growing — aliases that are read through without end

The arguments of a name are read before the name is looked up, and an alias is left as a name
only if it is being read through with the same arguments. So let an alias with one parameter
`T` have a right side that begins with a use of the alias itself, applied to an array of `T`,
such as `Box<A<T[]>>` for an alias `A`. The type of the right side cannot be told before that
of the use, and in the use the parameter stands for an array of what it stood for. An array is
made after its element, so its type is above the types with which the alias is being read
through already: the alias is never left as a name, and its right side is read again.

No limit on the nesting of questions is great enough for such an alias
(`GrowingDeclaration.exhausted`).
-/
import TypeGloss.Proofs.Checker.Reads
import TypeGloss.Proofs.Checker.SteadyValues

namespace TypeGloss

set_option autoImplicit false

/-! ## Uses of an alias inside itself -/

/-- The node whose type is found before anything else. -/
def Form.leading? : Form → Option Cursor
  | wrapper inner => inner
  | simple _ (arg :: _) => some arg
  | dotted _ (arg :: _) => some arg
  | _ => none

/-- Reading a node begins with reading another. -/
def BeginsWith : Cursor → Cursor → Prop :=
  Relation.ReflTransGen fun node inner => (Form.ofNode node).leading? = some inner

/-- A node is an array of a name, or an array of such an array. -/
inductive IsArrayOf (name : String) : Cursor → Prop where
  | name {node element : Cursor} {rest : List Cursor} (isArray : Form.ofNode node = .array)
      (parts : node.parts = element :: rest) (isName : Form.ofNode element = .simple name []) :
      IsArrayOf name node
  | array {node element : Cursor} {rest : List Cursor} (isArray : Form.ofNode node = .array)
      (parts : node.parts = element :: rest) (inner : IsArrayOf name element) :
      IsArrayOf name node

/-- An alias with one parameter whose right side begins with a use of the alias, applied to an
array of the parameter. -/
structure GrowingAlias (program : Program) (source : Source) (binding : Module.Binding) where
  parameter : Reference.TypeParameter
  value : Cursor
  use : Cursor
  name : String
  argument : Cursor
  others : List Module.Binding
  visited : List Lookup.Visit
  isAlias : binding.kind = .typeAlias
  isSound : binding.node.focus.findError = none
  parameters : binding.parameters = [parameter]
  unapplied : parameter.fallback = none
  isValue : binding.value? = some value
  begins : BeginsWith value use
  isUse : Form.ofNode use = .simple name [argument]
  grows : IsArrayOf parameter.name argument
  finds : Lookup.search program Lookup.maxSteps .types (.within source name) [] =
    .ok (some ⟨source, binding :: others⟩, visited)

/-- A declaration of such an alias. -/
structure GrowingDeclaration (program : Program) (declaration : Declaration) where
  source : Source
  node : Cursor
  scope : Module.Scope
  binding : Module.Binding
  others : List Module.Binding
  isAlias : declaration.kind = .typeAlias
  hasNode : declaration.node = some node
  isSound : node.focus.findError = none
  found : Entries.find? (Path.normalize declaration.path) program.sources = some source
  read : source.scope = .ok scope
  listed : (Inference.bindingsOf declaration.name scope.types).filter (·.kind = .typeAlias) =
    binding :: others
  growing : GrowingAlias program source binding

/-! ## Types that rise -/

/-- Arrays are above their elements, and aliases are being read through only with types below
a bound. -/
structure State.Rising (program : Program) (bound : Nat) (s : State) : Prop where
  program : s.toProgram = program
  interned : ∀ (key : Key) (t : TypeId), s.interned[key]? = some t → t < s.records.size
  arrays : ∀ (element : TypeId) (readonly : Bool) (t : TypeId),
    s.interned[Key.array element readonly]? = some t → element < t
  below : ∀ key ∈ s.expanding, ∀ t ∈ key.args, t < bound
  known : bound ≤ s.records.size

open State (Rising)

variable {program : Program} {bound : Nat} {s : State}

namespace State.Rising

theorem mono (rising : Rising program bound s) {higher : Nat} (above : bound ≤ higher)
    (known : higher ≤ s.records.size) : Rising program higher s :=
  { rising with
    below := fun key among t listed => Nat.lt_of_lt_of_le (rising.below key among t listed) above
    known }

theorem withFrames (rising : Rising program bound s) (frames : Array Env) :
    Rising program bound { s with frames } :=
  ⟨rising.program, rising.interned, rising.arrays, rising.below, rising.known⟩

/-- A type that is interned is there, and it is above its element if it is an array. -/
theorem intern (rising : Rising program bound s) (key : Key) (fresh : TypeRecord)
    (inside : ∀ element readonly, key = .array element readonly → element < s.records.size) :
    ∃ t, outcome (Check.intern key fresh) s = .ok t ∧
      t < (after (Check.intern key fresh) s).records.size ∧
      (∀ element readonly, key = .array element readonly → element < t) ∧
      Rising program bound (after (Check.intern key fresh) s) := by
  cases known : s.interned[key]? with
  | some t =>
      rw [outcome, after, Check.run_intern_of_some known]
      refine ⟨t, rfl, rising.interned key t known, ?_, rising⟩
      rintro element readonly rfl
      exact rising.arrays element readonly t known
  | none =>
      rw [outcome, after, Check.run_intern_of_none known]
      refine ⟨s.records.size, rfl, by simp, inside, ?_⟩
      refine ⟨rising.program, fun other t found => ?_, fun element readonly t found => ?_,
        rising.below, ?_⟩
      · rw [Std.HashMap.getElem?_insert] at found
        split at found
        · cases found
          simp
        · rw [Array.size_push]
          exact Nat.lt_succ_of_lt (rising.interned other t found)
      · rw [Std.HashMap.getElem?_insert] at found
        split at found
        · next same =>
            cases found
            exact inside element readonly (eq_of_beq same)
        · exact rising.arrays element readonly t found
      · rw [Array.size_push]
        exact Nat.le_succ_of_le rising.known

/-- A type parameter is made in every rising state, and the state stays rising. -/
theorem typeParameter (rising : Rising program bound s) (name : String) (node : Cursor)
    (source : Source) :
    ∃ t s', (Check.typeParameter name node source).run.run s = (.ok t, s') ∧
      t < s'.records.size ∧ Rising program bound s' := by
  obtain ⟨t, made, known, -, later⟩ := rising.intern
    (.typeParameter source.path node.mark.start) _ (fun _ _ => Key.noConfusion)
  exact ⟨t, _, Prod.ext made rfl, known, later⟩

end State.Rising

/-- A computation runs out of depth, or it comes to a type that is not below the bound. -/
def Climbs (program : Program) (bound : Nat) (x : CheckM TypeId) (s : State) : Prop :=
  outcome x s = .error .exhausted ∨
    ∃ t, outcome x s = .ok t ∧ bound ≤ t ∧ t < (after x s).records.size ∧
      Rising program bound (after x s)

/-- The array of a type is above it. -/
theorem arrayOf_climbs {x : CheckM TypeId} {t : TypeId}
    (element : outcome x s = .error .exhausted ∨
      ∃ e, outcome x s = .ok e ∧ t ≤ e ∧ e < (after x s).records.size ∧
        Rising program (t + 1) (after x s)) :
    Climbs program (t + 1) (x >>= fun e => Check.arrayOf e false) s := by
  rcases element with exhausted | ⟨e, found, above, known, rising⟩
  · exact .inl (outcome_bind_error exhausted)
  · obtain ⟨u, made, known', higher, rising'⟩ := rising.intern (.array e false)
      { category := .array, shape := .array, cache := { element := some e } }
      (fun _ _ same => by cases same; exact known)
    have beyond : t < u := Nat.lt_of_le_of_lt above (higher e false rfl)
    refine .inr ⟨u, ?_, beyond, ?_, ?_⟩
    · rw [outcome_bind_ok found]
      exact made
    · rw [after_bind_ok found]
      exact known'
    · rw [after_bind_ok found]
      exact rising'

open Answer (answer)

/-- At a place where a name stands for a type, a node that is this name is that type. -/
theorem typeAt_name {name : String} {node : Cursor} {place : Place} {t : TypeId}
    (isName : Form.ofNode node = .simple name []) (complete : place.blanks = [])
    (stands : Entries.find? name place.env = some t) (depth : Nat) (s : State) :
    ((answer depth).typeAt node place).run.run s = (.error .exhausted, s) ∨
      ((answer depth).typeAt node place).run.run s = (.ok t, s) := by
  cases depth with
  | zero => exact .inl rfl
  | succ depth =>
      refine .inr ?_
      change (TypeSyntax.ofNode (answer depth) node place none).run.run s = _
      rw [Form.read_ofNode, isName, Form.read,
        Reference.simple_of_bound (Reference.known_of_complete complete _ _) rfl stands]
      rfl

/-- An array is read by reading its element. -/
theorem read_array {ask : Ask} {node element : Cursor} {rest : List Cursor} {place : Place}
    (isArray : Form.ofNode node = .array) (parts : node.parts = element :: rest) :
    Answer.step ask (.typeAt node place none) =
      ask.typeAt element place >>= fun e => Check.arrayOf e false := by
  change TypeSyntax.ofNode ask node place none = _
  rw [Form.read_ofNode, isArray, Form.read, TypeSyntax.array, parts]
  rfl

/-- At a place where a name stands for a type, an array of the name is above that type. -/
theorem typeAt_array {name : String} {node : Cursor} (grows : IsArrayOf name node) {place : Place}
    {t : TypeId} (complete : place.blanks = [])
    (stands : Entries.find? name place.env = some t) (depth : Nat) (rising : Rising program (t + 1) s) :
    Climbs program (t + 1) ((answer depth).typeAt node place) s := by
  induction grows generalizing depth with
  | @name node element rest isArray parts isName =>
      cases depth with
      | zero => exact .inl rfl
      | succ depth =>
          change Climbs program (t + 1) (Answer.step (answer depth) (.typeAt node place none)) s
          rw [read_array isArray parts]
          refine arrayOf_climbs ?_
          rcases typeAt_name isName complete stands depth s with exhausted | found
          · exact .inl (congrArg Prod.fst exhausted)
          · refine .inr ⟨t, congrArg Prod.fst found, Nat.le_refl t, ?_⟩
            rw [after, found]
            exact ⟨rising.known, rising⟩
  | @array node element rest isArray parts inner ih =>
      cases depth with
      | zero => exact .inl rfl
      | succ depth =>
          change Climbs program (t + 1) (Answer.step (answer depth) (.typeAt node place none)) s
          rw [read_array isArray parts]
          refine arrayOf_climbs ((ih depth).imp_right ?_)
          rintro ⟨e, found, above, known, rising⟩
          exact ⟨e, found, Nat.le_of_succ_le above, known, rising⟩

/-! ## Reading without end -/

/-- Where an alias with one parameter is read through with an argument. -/
theorem run_instantiate_applied (ask : Ask) (source : Source) (parameter : Reference.TypeParameter)
    (t : TypeId) (s : State) :
    (Reference.instantiate ask source [parameter] [t]).run.run s =
      (.ok { source, env := [(parameter.name, t)], frame := s.frames.size }, { s with
        frames := (s.frames.push []).modify s.frames.size (Entries.put parameter.name t) }) :=
  rfl

/-- Where an alias with one parameter is read through without arguments. -/
theorem run_instantiate_unapplied (ask : Ask) (source : Source)
    {parameter : Reference.TypeParameter} (unapplied : parameter.fallback = none)
    (rising : Rising program bound s) :
    ∃ place t s', (Reference.instantiate ask source [parameter] []).run.run s = (.ok place, s') ∧
      place.source = source ∧ place.blanks = [] ∧ Entries.find? parameter.name place.env = some t ∧
      Rising program bound s' ∧ t < s'.records.size := by
  obtain ⟨t, s', made, known, later⟩ :=
    (rising.withFrames (s.frames.push [])).typeParameter parameter.name parameter.node source
  have itself : Reference.unapplied ask { source, env := [], frame := s.frames.size } parameter =
      Check.typeParameter parameter.name parameter.node source := by
    rw [Reference.unapplied, unapplied]
  refine ⟨{ source, env := [(parameter.name, t)], frame := s.frames.size }, t,
    { s' with frames := s'.frames.modify s.frames.size (Entries.put parameter.name t) }, ?_, rfl,
    rfl, if_pos rfl, later.withFrames _, known⟩
  change (Reference.unapplied ask { source, env := [], frame := s.frames.size } parameter >>= fun t => do
    Reference.bindAll ask (← Check.bindAt { source, env := [], frame := s.frames.size } parameter.name t) [] []).run.run
      { s with frames := s.frames.push [] } = _
  rw [itself, run_bind, outcome, after, made]
  rfl

/-- A look-up that finds something does so in every state of the program. -/
theorem run_lookup_of_finds {source : Source} {name : String} {found : Lookup.Found}
    {visited : List Lookup.Visit} (same : s.toProgram = program)
    (finds : Lookup.search program Lookup.maxSteps .types (.within source name) [] =
      .ok (some found, visited)) :
    (Lookup.lookup source name .types).run.run s = (.ok (some found), s) := by
  have looked : Lookup.find? program source name .types = .ok (some found) := by
    rw [Lookup.search] at finds
    rw [Lookup.find?, finds]
    rfl
  have read : outcome Check.program s = .ok program := congrArg Except.ok same
  rw [Lookup.lookup, run_bind, read]
  simp only [looked]
  rfl

namespace GrowingAlias

variable {source : Source} {binding : Module.Binding} (growing : GrowingAlias program source binding)

/-- The parameter stands for a type at a place in the source of the alias. -/
structure StandsAt (place : Place) (t : TypeId) : Prop where
  here : place.source = source
  complete : place.blanks = []
  stands : Entries.find? growing.parameter.name place.env = some t

/-- With limits below the given one, no node that begins with the use of the alias can be read. -/
def ExhaustsBelow (limit : Nat) : Prop :=
  ∀ depth < limit, ∀ node, BeginsWith node growing.use → ∀ via place t s,
    growing.StandsAt place t → Rising program (t + 1) s →
      outcome ((answer depth).typeThrough via node place) s = .error .exhausted

variable {growing}

/-- An alias that is not being read through with a type as its argument cannot be read through
with it if its right side cannot be read. -/
theorem throughAlias_exhausted {limit depth : Nat} (exhausts : growing.ExhaustsBelow limit)
    (deep : depth < limit) {args : List TypeId} {place : Place} {t : TypeId} {s s' : State}
    (instantiated : (Reference.instantiate (answer depth) source binding.parameters args).run.run s =
      (.ok place, s'))
    (stands : growing.StandsAt place t) (rising : Rising program t s')
    (known : t < s'.records.size) :
    outcome (Reference.throughAlias (answer depth) source binding args) s = .error .exhausted := by
  have first : outcome (Reference.instantiate (answer depth) source
      (Reference.typeParameters binding.node) args) s = .ok place := congrArg Prod.fst instantiated
  have left : after (Reference.instantiate (answer depth) source
      (Reference.typeParameters binding.node) args) s = s' := congrArg Prod.snd instantiated
  have value : binding.node.field? "value" = some growing.value := growing.isValue
  have arguments : Reference.argumentsAt place (Reference.typeParameters binding.node) = [t] := by
    rw [show Reference.typeParameters binding.node = _ from growing.parameters]
    exact List.filterMap_cons_some stands.stands
  -- All arguments that are held are below the type, so the guard lets it pass.
  have new : ¬(Check.Guard.aliases.held s').contains
      (AliasRef.key ⟨binding, source.path, [t]⟩) = true := by
    intro among
    have below := rising.below _ (List.contains_iff_mem.1 among) t (List.mem_singleton_self t)
    exact Nat.lt_irrefl t below
  rw [Reference.throughAlias, outcome_bind_ok first, left, value, arguments]
  dsimp only
  rw [outcome, Check.run_guarded, if_neg new]
  refine exhausts depth deep _ growing.begins _ place t _ stands ?_
  refine ⟨rising.program, rising.interned, rising.arrays, fun key among u listed => ?_, known⟩
  rcases List.mem_cons.1 among with rfl | before
  · exact Nat.lt_succ_of_le (Nat.le_of_eq (List.mem_singleton.1 listed))
  · exact Nat.lt_succ_of_lt (rising.below key before u listed)

/-- A growing alias is read through, whatever is declared besides under its name. -/
theorem outcome_declared (growing : GrowingAlias program source binding) (ask : Ask)
    (others : List Module.Binding) (args : List TypeId) (s : State) :
    outcome (Reference.declared ask source (binding :: others) args) s =
      outcome (Reference.throughAlias ask source binding args) s := by
  have sound : Check.checkSyntax binding.node source = pure () := by
    rw [Check.checkSyntax, growing.isSound]
  rw [Reference.declared, outcome_bind_ok (a := binding) rfl, sound, outcome_bind_ok (a := ()) rfl,
    if_pos growing.isAlias]
  rfl

/-- The use of the alias runs out of depth if the right side does. -/
theorem use_exhausted {limit depth : Nat} (exhausts : growing.ExhaustsBelow limit)
    (deep : depth ≤ limit) {node : Cursor} {place : Place} {t : TypeId} {s : State}
    (stands : growing.StandsAt place t) (rising : Rising program (t + 1) s)
    (via : Option AliasRef) :
    outcome (Reference.simple (answer depth) growing.name [growing.argument] node place via) s =
      .error .exhausted := by
  rw [Reference.simple_of_unbound (Reference.known_of_complete stands.complete _ _)
    (fun empty => by cases empty), List.mapM_cons, List.mapM_nil]
  simp only [bind_assoc, pure_bind]
  rcases typeAt_array growing.grows stands.complete stands.stands depth rising with
    exhausted | ⟨u, found, above, known, later⟩
  · exact outcome_bind_error exhausted
  · rw [outcome_bind_ok found]
    generalize after ((answer depth).typeAt growing.argument place) s = s' at known later
    have looked := run_lookup_of_finds later.program growing.finds
    rw [stands.here, outcome_bind_ok (congrArg Prod.fst looked),
      show after (Lookup.lookup source growing.name .types) s' = s' from congrArg Prod.snd looked]
    change outcome ((answer depth).declared source (binding :: growing.others) [u]) s' = _
    cases depth with
    | zero => rfl
    | succ depth =>
        have instantiated := run_instantiate_applied (answer depth) source growing.parameter u s'
        rw [← growing.parameters] at instantiated
        refine (growing.outcome_declared (answer depth) growing.others [u] s').trans ?_
        refine throughAlias_exhausted exhausts deep instantiated ⟨rfl, rfl, ?_⟩ ?_ known
        · exact if_pos rfl
        · exact (later.mono above (Nat.le_of_lt known)).withFrames _

/-- Reading a node that begins with the use of the alias runs out of depth, whatever the depth. -/
theorem exhausts (limit : Nat) : growing.ExhaustsBelow limit := by
  induction limit with
  | zero => exact fun _ impossible => absurd impossible (Nat.not_lt_zero _)
  | succ limit ih =>
    intro depth within node begins via place t s stands rising
    -- Only the use itself and the nodes around it are read, each with one question fewer left.
    cases depth with
    | zero => rfl
    | succ depth =>
      have deep : depth < limit := Nat.lt_of_succ_lt_succ within
      change outcome (TypeSyntax.ofNode (answer depth) node place via) s = _
      rw [Form.read_ofNode]
      rcases Relation.ReflTransGen.cases_head begins with rfl | ⟨inner, leads, further⟩
      · rw [growing.isUse]
        exact use_exhausted ih (Nat.le_of_lt deep) stands rising via
      · have exhausted (via : Option AliasRef) :
            outcome ((answer depth).typeThrough via inner place) s = .error .exhausted :=
          ih depth deep inner further via place t s stands rising
        have first (args : List Cursor) :
            outcome ((inner :: args).mapM fun arg => (answer depth).typeAt arg place) s =
              .error .exhausted := by
          rw [List.mapM_cons]
          exact outcome_bind_error (exhausted none)
        generalize Form.ofNode node = form at leads
        match form, leads with
        | .wrapper (some _), rfl => exact exhausted via
        | .simple name (_ :: args), rfl =>
            rw [Form.read, Reference.simple]
            exact outcome_bind_error (first args)
        | .dotted name (_ :: args), rfl =>
            rw [Form.read, Reference.qualified]
            exact outcome_bind_error (first args)

end GrowingAlias

namespace GrowingDeclaration

variable {declaration : Declaration}

/-- The type of the declaration is that of the alias without arguments. -/
theorem outcome_declarationType (growing : GrowingDeclaration program declaration)
    (same : s.toProgram = program) (ask : Ask) :
    outcome (Inference.declarationType ask declaration) s =
      outcome (ask.declared growing.source (growing.binding :: growing.others) []) s := by
  have present : (Inference.presentSource declaration).run.run s = (.ok growing.source, s) := by
    rw [Inference.run_presentSource, same, growing.found]
    rfl
  have stated : Inference.syntaxOf declaration = pure growing.node := by
    rw [Inference.syntaxOf, growing.hasNode]
  have sound : Check.checkSyntax growing.node growing.source = pure () := by
    rw [Check.checkSyntax, growing.isSound]
  have names : Check.scopeOf growing.source = pure growing.scope := by
    rw [Check.scopeOf, growing.read]
    rfl
  rw [Inference.declarationType, outcome_bind_ok (congrArg Prod.fst present), stated, pure_bind, sound,
    pure_bind, growing.isAlias, names]
  simp only [pure_bind, growing.listed]
  rw [show after (Inference.presentSource declaration) s = s from congrArg Prod.snd present]
  rfl

/-- The type of a declaration of a growing alias cannot be found, whatever the limit. -/
theorem exhausted (growing : GrowingDeclaration program declaration)
    (rising : Rising program 0 s) (limit : Nat) :
    outcome ((answer limit).ofDeclaration declaration) s = .error .exhausted := by
  match limit with
  | 0 => rfl
  | 1 => exact growing.outcome_declarationType rising.program (answer 0)
  | depth + 2 =>
      refine (growing.outcome_declarationType rising.program (answer (depth + 1))).trans ?_
      obtain ⟨place, t, s', instantiated, here, complete, stands, later, known⟩ :=
        run_instantiate_unapplied (answer depth) growing.source growing.growing.unapplied rising
      rw [← growing.growing.parameters] at instantiated
      refine (growing.growing.outcome_declared (answer depth) growing.others [] s).trans ?_
      exact GrowingAlias.throughAlias_exhausted (GrowingAlias.exhausts (depth + 1))
        (Nat.lt_succ_self depth) instantiated ⟨here, complete, stands⟩
        (later.mono (Nat.zero_le t) (Nat.le_of_lt known)) known

end GrowingDeclaration

end TypeGloss
