/-
# TypeGloss.Proofs.Checker.SoundNames — names lead to lawful syntax

If questions about lawful syntax are answered soundly, then so are the rules by which texts
are written, names are looked up and references are read. A look-up goes from module to
module, and every module that it comes to is one of the program, so whatever it finds is as
lawful as the sources are (`Lookup.lookup_sound`).
-/
import TypeGloss.Proofs.Checker.Sound

namespace TypeGloss

set_option autoImplicit false

variable {law : Tree.Law}

/-! ## Careful answers -/

section Queries

variable (law)

/-- The syntax that a question is about obeys a law. -/
def Query.Obeys : Query → Prop
  | .typeAt node place via =>
      node.Obeys law ∧ place.source.Obeys law ∧ ∀ ref ∈ via, ref.binding.node.Obeys law
  | .declared source bindings _ => source.Obeys law ∧ ∀ binding ∈ bindings, binding.node.Obeys law
  | .ofDeclaration declaration => declaration.Obeys law
  | .ofSymbol symbol => symbol.Obeys law
  | .ofExpression node place _ _ => node.Obeys law ∧ place.source.Obeys law
  | .fits _ pattern place _ => pattern.Obeys law ∧ place.source.Obeys law
  | _ => True

/-- The symbols in an answer are declared. -/
def Query.Lawful : (query : Query) → query.Answer → Prop
  | .load _ part, found => ∀ content ∈ found, part.Lawful law content
  | .properties _, symbols => ∀ symbol ∈ symbols, symbol.IsDeclared law
  | _, _ => True

/-- Answers that are sound if the questions are about lawful syntax. -/
def Careful (ask : Ask) : Prop :=
  ∀ query, query.Obeys law → Sound law (query.Lawful law) (ask query)

end Queries

namespace Careful

variable {ask : Ask} (careful : Careful law ask)

include careful

/-- A node that obeys is safe to read through an alias that does. -/
theorem typeThrough {via : Option AliasRef} (aliased : ∀ ref ∈ via, ref.binding.node.Obeys law)
    {node : Cursor} (obeys : node.Obeys law) {place : Place} (home : place.source.Obeys law) :
    Safe law (ask.typeThrough via node place) :=
  careful (.typeAt node place via) ⟨obeys, home, aliased⟩

theorem typeAt {node : Cursor} (obeys : node.Obeys law) {place : Place}
    (home : place.source.Obeys law) : Safe law (ask.typeAt node place) :=
  careful.typeThrough (by simp) obeys home

/-- Bindings that obey are safe to instantiate. -/
theorem declared {source : Source} (home : source.Obeys law) {bindings : List Module.Binding}
    (obey : ∀ binding ∈ bindings, binding.node.Obeys law) (args : List TypeId) :
    Safe law (ask.declared source bindings args) :=
  careful (.declared source bindings args) ⟨home, obey⟩

theorem ofDeclaration {declaration : Declaration} (obeys : declaration.Obeys law) :
    Safe law (ask.ofDeclaration declaration) :=
  careful (.ofDeclaration declaration) obeys

theorem ofSymbol {symbol : Symbol} (obeys : symbol.Obeys law) : Safe law (ask.ofSymbol symbol) :=
  careful (.ofSymbol symbol) obeys

/-- An expression that obeys is safe to infer the type of. -/
theorem ofExpression {node : Cursor} (obeys : node.Obeys law) {place : Place}
    (home : place.source.Obeys law) (literal frozen : Bool) :
    Safe law (ask.ofExpression node place literal frozen) :=
  careful (.ofExpression node place literal frozen) ⟨obeys, home⟩

/-- A pattern that obeys is safe to fit a candidate against. -/
theorem fits (candidate : Option TypeId) {pattern : Cursor} (obeys : pattern.Obeys law) {place : Place}
    (home : place.source.Obeys law) (inferred : Inferred) :
    Safe law (ask.fits candidate pattern place inferred) :=
  careful (.fits candidate pattern place inferred) ⟨obeys, home⟩

theorem text (t : TypeId) : Safe law (ask.text t) := careful (.text t) trivial

theorem load? (t : TypeId) (part : Part) :
    Sound law (fun found => ∀ content ∈ found, part.Lawful law content) (ask.load? t part) :=
  careful (.load t part) trivial

theorem simplified (t : TypeId) : Safe law (ask.simplified t) := careful (.simplified t) trivial

theorem properties (t : TypeId) :
    Sound law (fun symbols => ∀ symbol ∈ symbols, symbol.IsDeclared law) (ask.properties t) :=
  careful (.properties t) trivial

theorem indexes (t : TypeId) : Safe law (ask.indexes t) := careful (.indexes t) trivial

theorem assignable (source target : TypeId) : Safe law (ask.assignable source target) :=
  careful (.assignable source target) trivial

theorem members (t : TypeId) : Safe law (ask.members t) :=
  (careful.load? t .members).bind fun _ _ => .pure trivial

theorem element? (t : TypeId) : Safe law (ask.element? t) := (careful.load? t .element).safe

theorem elements (t : TypeId) : Safe law (ask.elements t) :=
  (careful.load? t .elements).bind fun _ _ => .pure trivial

theorem calls (t : TypeId) :
    Sound law (fun calls => ∀ call ∈ calls, call.IsDeclared law) (ask.calls t) := by
  refine (careful.load? t .calls).bind fun found known => ?_
  cases found with
  | none => exact .pure (by simp)
  | some calls => exact .pure (known calls rfl)

theorem alternatives (t : TypeId) : Safe law (ask.alternatives t) := by
  refine (Check.category_safe t).bind fun category => ?_
  split
  · exact careful.members t
  · exact .pure trivial

theorem commaTexts (types : List TypeId) : Safe law (ask.commaTexts types) :=
  (Safe.mapM fun t _ => careful.text t).bind fun _ => .pure trivial

theorem applied (name : String) (args : List TypeId) : Safe law (ask.applied name args) := by
  unfold Ask.applied
  split
  · exact .pure trivial
  · exact (careful.commaTexts args).bind fun _ => .pure trivial

theorem aliasText (via : AliasRef) : Safe law (ask.aliasText via) :=
  careful.applied via.binding.name via.args

theorem aliasText? (via : Option AliasRef) : Safe law (ask.aliasText? via) :=
  (Sound.option fun ref _ => careful.aliasText ref).safe

/-- The members of a union are found one part after the other, and nothing unlawful comes of it. -/
theorem unionMembers {α : Type} {typeOf : α → CheckM TypeId} {parts : List α}
    (each : ∀ part ∈ parts, Safe law (typeOf part)) (found : List TypeId) :
    Safe law (ask.unionMembers typeOf found parts) := by
  induction parts generalizing found with
  | nil => exact .pure trivial
  | cons part rest ih =>
      refine (each part List.mem_cons_self).bind fun t => ?_
      refine (careful.alternatives t).bind fun more => ?_
      exact ih (fun part among => each part (List.mem_cons_of_mem _ among)) _

theorem unionOf {α : Type} {typeOf : α → CheckM TypeId} {parts : List α}
    (each : ∀ part ∈ parts, Safe law (typeOf part)) : Safe law (ask.unionOf typeOf parts) := by
  refine (careful.unionMembers each []).bind fun members => ?_
  split
  · exact Check.primitive_safe .never
  · exact .pure trivial
  · exact Check.intern_safe _ ⟨{}, Cache.lawful_empty.set .members trivial⟩ ⟨rfl, rfl⟩

theorem unionOfTypes (types : List TypeId) : Safe law (ask.unionOfTypes types) :=
  careful.unionOf fun _ _ => .pure trivial

end Careful

section Rules

variable {ask : Ask} (careful : Careful law ask)

/-! ## Texts -/

include careful in
theorem Render.node_safe (place : Place) (at_ : Cursor) : Safe law (node ask place at_) := by
  rw [node]
  dsimp only
  split
  · exact .pure trivial
  · split
    · exact (Check.ofResult_safe _).bind fun _ => .pure trivial
    · split
      · split
        · exact careful.text _
        · exact .pure trivial
      · split
        · split
          · exact .throw _
          · next element rest inside =>
              have inner := Cursor.sizeOf_unwrapParens_le element
              have part := Cursor.sizeOf_lt_of_mem_parts
                (show element ∈ at_.parts by rw [inside]; exact List.mem_cons_self)
              exact (node_safe place element.unwrapParens).bind fun _ => .pure trivial
        · split
          · refine (Safe.mapM fun member _ => ?_).bind fun _ => .pure trivial
            obtain ⟨member, isPart⟩ := member
            have part := Cursor.sizeOf_lt_of_mem_parts isPart
            exact (node_safe place member).bind fun _ => .pure trivial
          · split
            · exact .pure trivial
            · refine (Safe.foldlM (fun written child _ => ?_) _).bind fun _ => .pure trivial
              obtain ⟨child, isChild⟩ := child
              have part := Cursor.sizeOf_lt_of_mem_children isChild
              exact (node_safe place child).bind fun _ => .pure trivial
termination_by sizeOf at_.focus

include careful in
theorem Render.render_safe (at_ : Cursor) (place : Place) : Safe law (render ask at_ place) :=
  (node_safe careful place at_).bind fun _ => .pure trivial

/-! ## Looking up names -/

namespace Lookup

/-- The source that an import means is one of the program. -/
theorem source_of_module? {program : Program} {importer specifier : String} {target : Source}
    (found : module? program importer specifier = some target) :
    ∃ path, Entries.find? path program.sources = some target := by
  obtain ⟨path, -, found⟩ := List.exists_of_findSome?_eq_some found
  exact ⟨path, found⟩

/-- A look-up that starts in a lawful source stays among lawful sources. -/
theorem obeys_of_reaches {program : Program} {space : Space} {question goal : Question}
    (sources : ∀ {path : String} {source : Source},
      Entries.find? path program.sources = some source → source.Obeys law)
    (home : question.source.Obeys law) (reached : Reaches program space question goal) :
    goal.source.Obeys law := by
  have present {importer specifier : String} {target : Source}
      (found : module? program importer specifier = some target) : target.Obeys law := by
    obtain ⟨path, known⟩ := source_of_module? found
    exact sources known
  induction reached with
  | refl => exact home
  | tail _ leads ih =>
      cases leads with
      | imported read undeclared listed found => exact present found
      | own read listed => exact ih
      | passed passes =>
          cases passes with
          | mk read listed covered found => exact present found
      | implicit read declarations silent => exact ih

/-- Whatever a look-up finds is lawful. -/
theorem search_obeys {program : Program} (steps : Nat) (space : Space) (question : Question)
    {found : Found} (sources : ∀ {path : String} {source : Source},
      Entries.find? path program.sources = some source → source.Obeys law)
    (home : question.source.Obeys law)
    (run : (search program steps space question []).map Prod.fst = .ok (some found)) :
    found.Obeys law := by
  cases trail : search program steps space question [] with
  | error fault => simp [trail, Except.map] at run
  | ok result =>
      obtain ⟨first, visited⟩ := result
      obtain rfl : first = some found := by simpa [trail, Except.map] using run
      obtain ⟨goal, reached, declares⟩ := declares_of_search trail
      have lawful := obeys_of_reaches sources home reached
      cases declares with
      | within read declared => exact ⟨lawful, lawful _ read _ _ _ declared⟩

/-- What a look-up finds is declared in a source of the program. -/
theorem lookup_sound {source : Source} (home : source.Obeys law) (name : String)
    (space : Space) : Sound law (fun result => ∀ found ∈ result, found.Obeys law)
      (lookup source name space) := by
  refine Check.program_sound.bind fun program sources => ?_
  unfold find?
  cases run : (within program maxSteps source name space []).map Prod.fst with
  | error fault => exact .throw fault
  | ok result =>
      refine .pure fun found known => ?_
      cases known
      exact search_obeys maxSteps space (.within source name) sources home run

theorem lookupExport_sound {source : Source} (home : source.Obeys law) (name : String)
    (space : Space) : Sound law (fun result => ∀ found ∈ result, found.Obeys law)
      (lookupExport source name space) := by
  refine Check.program_sound.bind fun program sources => ?_
  cases run : (exported program maxSteps source name space []).map Prod.fst with
  | error fault => exact .throw fault
  | ok result =>
      refine .pure fun found known => ?_
      cases known
      exact search_obeys maxSteps space (.exported source name) sources home run

theorem externalFile?_safe (source : Source) (name : String) :
    Safe law (externalFile? source name) := by
  refine (Safe.of_timeless (Check.scopeOf_timeless source)).bind fun scope => ?_
  dsimp only
  split
  · exact .pure trivial
  · split
    · exact .pure trivial
    · exact .pure trivial

end Lookup

/-! ## Members of enums -/

namespace Enum

theorem memberName_safe (member : Cursor) : Safe law (memberName member) :=
  (Check.need_sound _).bind fun _ _ => Check.ofResult_safe _

theorem namedNode?_sound (name : String) {parts : List Cursor}
    (obey : ∀ part ∈ parts, part.Obeys law) :
    Sound law (fun found => ∀ node ∈ found, node.Obeys law) (namedNode? name parts) := by
  induction parts with
  | nil => exact .pure (by simp)
  | cons member rest ih =>
      refine (memberName_safe member).bind fun found => ?_
      split
      · refine .pure fun node known => ?_
        cases known
        exact obey member List.mem_cons_self
      · exact ih fun part among => obey part (List.mem_cons_of_mem _ among)

theorem body_obeys {node : Cursor} (obeys : node.Obeys law) :
    ∀ part ∈ body node, part.Obeys law := by
  intro part among
  exact Cursor.obeys_inside (fun _ found _ => (obeys.fieldOr? found).part) among

include careful in
theorem memberType?_safe (enum : TypeId) (name : String) :
    Safe law (memberType? ask enum name) := by
  refine (careful.load? enum .enumMembers).bind fun listed _ => ?_
  dsimp only
  split
  · exact .pure trivial
  · refine (Check.facts_sound enum).bind fun owner known => ?_
    refine (Check.need_sound _).bind fun place found => ?_
    have home := known.place place found
    have parts : ∀ part ∈ (owner.node.map body).getD [], part.Obeys law := by
      cases written : owner.node with
      | none => simp
      | some node => exact body_obeys (known.node node written)
    refine (namedNode?_sound name parts).bind fun node obeys => ?_
    refine Safe.map some (Check.intern_safe _ ⟨{
      node := obeys, place := by simpa [Place.top] using home, symbol := ?_ },
      Cache.lawful_empty⟩)
    rintro _ ⟨⟩
    exact Symbol.obeys_of_declaration rfl obeys rfl

end Enum

/-! ## References -/

/-- The symbol of a type is as lawful as the alias that leads to it and as its node. -/
theorem Symbol.obeys_ofType {via : Option AliasRef}
    (aliased : ∀ ref ∈ via, ref.binding.node.Obeys law) {node : Cursor} (obeys : node.Obeys law)
    (path : String) : (Symbol.ofType via node path).Obeys law := by
  cases via with
  | none => exact obeys_of_declaration rfl (Declaration.obeys_of_node rfl obeys) rfl
  | some ref =>
      exact obeys_of_declaration rfl (Declaration.obeys_of_node rfl (aliased ref rfl)) rfl

/-- Without an alias, the symbol of a type has no name of its own. -/
theorem Symbol.ownName?_ofType (node : Cursor) (path : String) :
    (Symbol.ofType none node path).ownName? = none := by
  rfl

namespace Reference

/-- The syntax of a type parameter obeys a law. -/
structure TypeParameter.Obeys (law : Tree.Law) (parameter : TypeParameter) : Prop where
  node : parameter.node.Obeys law
  fallback : ∀ node ∈ parameter.fallback, node.Obeys law

theorem fallback?_obeys {parameter : Cursor} (obeys : parameter.Obeys law) :
    ∀ node ∈ fallback? parameter, node.Obeys law := by
  intro node found
  obtain ⟨value, written, found⟩ := Option.bind_eq_some_iff.1 found
  have lawful := obeys.fieldOr? written
  split at found
  · exact lawful.lastPart? found
  · cases found
    exact lawful

theorem typeParameters_obey {node : Cursor} (obeys : node.Obeys law) :
    ∀ parameter ∈ typeParameters node, parameter.Obeys law := by
  intro parameter among
  unfold typeParameters at among
  split at among
  · simp at among
  · next holder found =>
      obtain ⟨written, listed, rfl⟩ := List.mem_map.1 among
      have lawful := (obeys.fieldOr? found).ofKinds listed
      exact ⟨lawful, fallback?_obeys lawful⟩

include careful in
theorem unapplied_safe {place : Place} (home : place.source.Obeys law) {parameter : TypeParameter}
    (obeys : parameter.Obeys law) : Safe law (unapplied ask place parameter) := by
  unfold unapplied
  split
  · next node default => exact careful.typeAt (obeys.fallback node default) home
  · exact Check.typeParameter_safe _ obeys.node home

include careful in
theorem bindAll_sound {parameters : List TypeParameter}
    (obey : ∀ parameter ∈ parameters, parameter.Obeys law) (args : List TypeId) {place : Place}
    (home : place.source.Obeys law) :
    Sound law (fun place => place.source.Obeys law) (bindAll ask place parameters args) := by
  induction parameters generalizing place args with
  | nil => exact .pure home
  | cons parameter rest ih =>
      have others := fun other among => obey other (List.mem_cons_of_mem parameter among)
      cases args with
      | nil =>
          refine (unapplied_safe careful home (obey parameter List.mem_cons_self)).bind
            fun t => ?_
          exact (Check.bindAt_sound home _ t).bind fun place home => ih others [] home
      | cons arg args =>
          exact (Check.bindAt_sound home _ arg).bind fun place home => ih others args home

include careful in
/-- A place inside a declaration is in the source of the declaration. -/
theorem instantiate_sound {source : Source} (home : source.Obeys law)
    {parameters : List TypeParameter} (obey : ∀ parameter ∈ parameters, parameter.Obeys law)
    (args : List TypeId) :
    Sound law (fun place => place.source.Obeys law) (instantiate ask source parameters args) := by
  unfold instantiate
  split
  · exact .pure home
  · exact (Check.newPlace_sound home []).bind fun place home =>
      bindAll_sound careful obey args home

include careful in
theorem withTypeParameters_sound {node : Cursor} (obeys : node.Obeys law) {place : Place}
    (home : place.source.Obeys law) :
    Sound law (fun place => place.source.Obeys law) (withTypeParameters ask node place) := by
  unfold withTypeParameters
  split
  · exact .pure home
  · exact (Check.newPlace_sound home _).bind fun inside home =>
      bindAll_sound careful (typeParameters_obey obeys) [] home

include careful in
theorem throughAlias_safe {source : Source} (home : source.Obeys law) {binding : Module.Binding}
    (obeys : binding.node.Obeys law) (args : List TypeId) :
    Safe law (throughAlias ask source binding args) := by
  refine (instantiate_sound careful home (typeParameters_obey obeys) args).bind
    fun place home => ?_
  dsimp only
  split
  · exact Check.namedType_safe _ none
  · next value found =>
      refine Check.guarded_safe _ Check.hold_aliases (fun _ keyed => ⟨keyed.made⟩) (Check.namedType_safe _ none) ?_
      refine careful.typeThrough ?_ (obeys.field? found) home
      rintro _ ⟨⟩
      exact obeys

theorem declaredCategory?_ne_computed (kind : DeclarationKind) :
    declaredCategory? kind ≠ some .computed := by
  cases kind <;> simp [declaredCategory?]

include careful in
theorem declared_safe {source : Source} (home : source.Obeys law)
    {bindings : List Module.Binding} (obey : ∀ binding ∈ bindings, binding.node.Obeys law)
    (args : List TypeId) : Safe law (declared ask source bindings args) := by
  refine (Check.needFirst_sound bindings).bind fun binding listed => ?_
  have obeys := obey binding listed
  refine (Check.checkSyntax_safe _ source).bind fun _ => ?_
  split
  · exact throughAlias_safe careful home obeys args
  · split
    · exact Check.namedType_safe _ none
    · next category makes =>
        refine (instantiate_sound careful home (typeParameters_obey obeys) args).bind
          fun place home => ?_
        refine Check.intern_safe _ ⟨{
          node := by simpa, place := by simpa, bindings := ?_, symbol := ?_, computed := ?_,
          object := ?_ }, Cache.lawful_empty⟩
        · exact fun other among => obey other (List.mem_filter.1 among).1
        · rintro _ ⟨⟩
          exact Symbol.obeys_of_declaration rfl (Declaration.obeys_of_node rfl obeys) rfl
        · rintro rfl
          exact absurd makes (declaredCategory?_ne_computed binding.kind)
        · intro _ _ empty
          simp [List.eq_nil_iff_forall_not_mem] at empty
          exact absurd rfl (empty binding listed)

theorem libraryType_safe (name file : String) (args : List TypeId) :
    Safe law (libraryType name file args) := by
  unfold libraryType
  split
  · exact Check.namedType_safe name _
  · exact Check.genericOf_safe name file args

include careful in
theorem utility_safe (name : String) (args : List TypeId) {node : Cursor}
    (obeys : node.Obeys law) {place : Place} (home : place.source.Obeys law)
    {via : Option AliasRef} (aliased : ∀ ref ∈ via, ref.binding.node.Obeys law) :
    Safe law (utility ask name args node place via) := by
  refine (careful.aliasText? via).bind fun label => ?_
  refine Check.intern_safe _ ⟨{
    node := by simpa, place := by simpa, symbol := ?_, computed := ?_ }, Cache.lawful_empty⟩
  · rintro _ ⟨⟩
    exact Symbol.obeys_ofType aliased obeys _
  · rintro _ direct _ ⟨⟩
    cases direct
    exact Symbol.ownName?_ofType node _

include careful in
theorem undeclared_safe (name : String) (args : List TypeId) {node : Cursor}
    (obeys : node.Obeys law) {place : Place} (home : place.source.Obeys law)
    {via : Option AliasRef} (aliased : ∀ ref ∈ via, ref.binding.node.Obeys law) :
    Safe law (undeclared ask name args node place via) := by
  unfold undeclared
  split
  · exact Check.arrayOf_safe _ _
  · split
    · exact utility_safe careful name _ obeys home aliased
    · split
      · exact libraryType_safe name _ _
      · split
        · exact Check.namedType_safe name _
        · refine (Lookup.externalFile?_safe place.source name).bind fun file => ?_
          split
          · exact Check.namedType_safe name file
          · exact Check.genericOf_safe name _ _

include careful in
theorem typesAt_safe {nodes : List Cursor} (obey : ∀ node ∈ nodes, node.Obeys law) {place : Place}
    (home : place.source.Obeys law) : Safe law (nodes.mapM fun node => ask.typeAt node place) :=
  Safe.mapM fun node among => careful.typeAt (obey node among) home

include careful in
theorem simple_safe (name : String) {argNodes : List Cursor}
    (obey : ∀ node ∈ argNodes, node.Obeys law) {node : Cursor} (obeys : node.Obeys law)
    {place : Place} (home : place.source.Obeys law) {via : Option AliasRef}
    (aliased : ∀ ref ∈ via, ref.binding.node.Obeys law) :
    Safe law (simple ask name argNodes node place via) := by
  unfold simple
  split
  · exact .throw _
  · split
    · exact .pure trivial
    · refine (typesAt_safe careful obey home).bind fun args => ?_
      refine (Lookup.lookup_sound home name .types).bind fun result known => ?_
      split
      · next found =>
          exact careful.declared (known found rfl).source (known found rfl).bindings args
      · exact undeclared_safe careful name args obeys home aliased

include careful in
theorem moduleMember?_safe {source : Source} (home : source.Obeys law) (head member : String)
    (args : List TypeId) : Safe law (moduleMember? ask source head member args) := by
  refine (Check.scopeOf_sound home).bind fun scope _ => ?_
  split
  · exact .pure trivial
  · split
    · refine Check.program_sound.bind fun program sources => ?_
      split
      · exact .pure trivial
      · next target present =>
          obtain ⟨path, known⟩ := Lookup.source_of_module? present
          refine (Lookup.lookupExport_sound (sources known) member .types).bind
            fun result known => ?_
          split
          · next found =>
              exact (careful.declared (known found rfl).source (known found rfl).bindings args).map
                some
          · exact .pure trivial
    · exact .pure trivial

include careful in
theorem enumMember?_safe {source : Source} (home : source.Obeys law) (head member : String) :
    Safe law (enumMember? ask source head member) := by
  refine (Lookup.lookup_sound home head .values).bind fun result known => ?_
  split
  · next declaring binding _ =>
      have found := known _ rfl
      split
      · have obey : ∀ other ∈ [binding], other.node.Obeys law := by
          simpa using found.bindings binding List.mem_cons_self
        exact (careful.declared found.source obey []).bind fun t =>
          Enum.memberType?_safe careful t member
      · exact .pure trivial
  · exact .pure trivial

include careful in
theorem qualified_safe (nameNode : Cursor) {argNodes : List Cursor}
    (obey : ∀ node ∈ argNodes, node.Obeys law) {node : Cursor} (obeys : node.Obeys law)
    {place : Place} (home : place.source.Obeys law) {via : Option AliasRef}
    (aliased : ∀ ref ∈ via, ref.binding.node.Obeys law) :
    Safe law (qualified ask nameNode argNodes node place via) := by
  refine (typesAt_safe careful obey home).bind fun args => ?_
  split
  · refine (moduleMember?_safe careful home _ _ args).bind fun found => ?_
    split
    · exact .pure trivial
    · refine (enumMember?_safe careful home _ _).bind fun found => ?_
      split
      · exact .pure trivial
      · exact undeclared_safe careful _ args obeys home aliased
  · exact undeclared_safe careful _ args obeys home aliased

end Reference

end Rules

end TypeGloss
