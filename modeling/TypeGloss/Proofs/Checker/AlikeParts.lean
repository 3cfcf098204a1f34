/-
# TypeGloss.Proofs.Checker.AlikeParts — all answers under other numbers

The rules by which the parts of types are found, and with them all answers. `answer_uniform`:
checkers that are alike answer every question alike, however many questions may be nested.
-/
import TypeGloss.Proofs.Checker.AlikeTypes

namespace TypeGloss

set_option autoImplicit false

section Rules

variable {o : Offset} {ask : Ask} (uniform : Uniform o ask)

namespace Computed

/-! ## Utility types -/

/-- Types that are kept for what is known of each. -/
theorem kept_map (verdict : Bool) (matched : List (TypeId × Bool)) :
    ((matched.map (Prod.map o.type id)).filter fun pair => pair.2 == verdict).map Prod.fst =
      ((matched.filter fun pair => pair.2 == verdict).map Prod.fst).map o.type := by
  rw [List.filter_map, List.map_map, List.map_map]
  rfl

include uniform in
theorem filterMembers_parallel (name : String) (args : List TypeId) (target : TypeId) :
    Parallel o.Alike (Option.map o.type) (filterMembers ask name args target)
      (filterMembers ask name (args.map o.type) (o.type target)) := by
  refine (uniform.alternatives target).bind fun members => ?_
  split
  · refine (Inference.dropNullish_parallel members).bind fun kept => ?_
    exact (uniform.unionOfTypes kept).map fun _ => rfl
  · match args with
    | [] => exact .done rfl
    | [_] => exact .done rfl
    | _ :: second :: _ =>
        refine (uniform.simplified second).bind fun simple => ?_
        cases simple with
        | none => exact .done rfl
        | some other =>
            refine .bind (.mapM (g := Prod.map o.type id) (fun member => ?_) members)
              fun matched => ?_
            · exact (uniform.assignable member other).bind fun _ => .done rfl
            · dsimp only
              rw [kept_map]
              exact (uniform.unionOfTypes _).map fun _ => rfl

include uniform in
theorem copy_parallel (isOptional isReadonly : Bool) (symbol : Symbol) :
    Parallel o.Alike o.symbol (copy ask isOptional isReadonly symbol)
      (copy ask isOptional isReadonly (o.symbol symbol)) := by
  unfold copy
  rw [Offset.symbol_member]
  cases own : symbol.member with
  | none => exact .done (by simp [Offset.symbol, own])
  | some member =>
      refine (uniform.ofSymbol symbol).bind fun t => ?_
      exact (Check.newMember_parallel member.place member.nodes (some t)).bind fun _ => .done rfl

include uniform in
/-- Copies are made of properties alike if the modifiers are chosen alike. -/
theorem copies_parallel (isOptional isReadonly : Symbol → Bool)
    (sameOptional : ∀ symbol, isOptional (o.symbol symbol) = isOptional symbol)
    (sameReadonly : ∀ symbol, isReadonly (o.symbol symbol) = isReadonly symbol)
    (properties : List Symbol) :
    Parallel o.Alike (Option.map (List.map o.symbol))
      (some <$> properties.mapM fun p => copy ask (isOptional p) (isReadonly p) p)
      (some <$> (properties.map o.symbol).mapM fun p => copy ask (isOptional p) (isReadonly p) p) := by
  refine Parallel.map (.mapM (fun p => ?_) properties) fun _ => rfl
  rw [sameOptional, sameReadonly]
  exact copy_parallel uniform _ _ p

include uniform in
theorem changedProperties?_parallel (name : String) (args : List TypeId)
    (properties : List Symbol) :
    Parallel o.Alike (Option.map (List.map o.symbol))
      (changedProperties? ask name args properties)
      (changedProperties? ask name (args.map o.type) (properties.map o.symbol)) := by
  unfold changedProperties?
  split
  · exact copies_parallel uniform (fun _ => true) Symbol.isReadonly (fun _ => rfl) (fun _ => rfl) _
  · exact copies_parallel uniform (fun _ => false) Symbol.isReadonly (fun _ => rfl) (fun _ => rfl) _
  · exact copies_parallel uniform Symbol.isOptional (fun _ => true) (fun _ => rfl) (fun _ => rfl) _
  · match args with
    | [] => exact .done rfl
    | [_] => exact .done rfl
    | _ :: second :: _ =>
        refine (Structure.literalKeys?_parallel uniform second).bind fun keys => ?_
        cases keys with
        | none => exact .done rfl
        | some keys =>
            refine .done ?_
            rw [List.filter_map]
            rfl

include uniform in
theorem utility_parallel (t : TypeId) (name : String) (args : List TypeId) :
    Parallel o.Alike (Option.map o.type) (utility ask t name args)
      (utility ask (o.type t) name (args.map o.type)) := by
  refine (Check.needFirst_parallel o.type args).bind fun first => ?_
  split
  · refine (uniform.simplified first).bind fun simple => ?_
    cases simple with
    | none => exact .done rfl
    | some target => exact filterMembers_parallel uniform name args target
  · refine (Structure.objectProperties?_parallel uniform first).bind fun properties => ?_
    match properties with
    | none => exact .done rfl
    | some [] => exact .done rfl
    | some (property :: rest) =>
        refine (changedProperties?_parallel uniform name args (property :: rest)).bind
          fun changed => ?_
        cases changed with
        | none => exact .done rfl
        | some result =>
            refine (uniform.text t).bind fun text => ?_
            exact (Check.syntheticObject_parallel t result text).map fun _ => rfl

/-! ## Mapped types -/

include uniform in
theorem mappedKeys?_parallel (place : Place) (constraint : Cursor) :
    Parallel o.Alike (Option.map (List.map (Prod.map id (Option.map o.symbol))))
      (mappedKeys? ask place constraint) (mappedKeys? ask (o.place place) constraint) := by
  unfold mappedKeys?
  dsimp only
  split
  · refine (Check.need_same _).bind fun inner => ?_
    refine (uniform.typeAt inner place).bind fun target => ?_
    refine (Structure.objectProperties?_parallel uniform target).bind fun properties => ?_
    cases properties with
    | none => exact .done rfl
    | some properties =>
        refine .done ?_
        simp only [Option.map_some, Structure.byName_map, Entries.mapEntries, List.map_map]
        rfl
  · refine (uniform.typeAt _ place).bind fun t => ?_
    refine (Structure.literalKeys?_parallel uniform t).bind fun keys => .done ?_
    cases keys with
    | none => rfl
    | some keys =>
        simp only [id, Option.map_some, List.map_map]
        rfl

include uniform in
theorem mappedName?_parallel (place : Place) (remap : Option Cursor) (key : String) :
    Parallel o.Alike id (mappedName? ask place remap key)
      (mappedName? ask (o.place place) remap key) := by
  unfold mappedName?
  split
  · exact .done rfl
  · refine (uniform.typeAt _ place).bind fun t => ?_
    exact (Structure.literalKeys?_parallel uniform t).bind fun _ => .done rfl

include uniform in
theorem mappedProperty?_parallel (place : Place) (clause : MappedClause) (key : String)
    (base : Option Symbol) :
    Parallel o.Alike (Option.map o.symbol) (mappedProperty? ask place clause key base)
      (mappedProperty? ask (o.place place) clause key (base.map o.symbol)) := by
  refine (Check.literal_parallel _ _).bind fun literal => ?_
  rw [Offset.place_env, ← Offset.env_put]
  refine (Check.newPlace_parallel place.source _).bind fun inside => ?_
  refine (mappedName?_parallel uniform inside clause.remap key).bind fun name => ?_
  cases name with
  | none => exact .done rfl
  | some name =>
      cases base with
      | none =>
          refine (uniform.typeAt clause.value inside).bind fun type => ?_
          exact (Check.newMember_parallel inside _ (some type)).bind fun _ => .done rfl
      | some property =>
          refine (uniform.typeAt clause.value inside).bind fun type => ?_
          exact (Check.newMember_parallel inside _ (some type)).bind fun _ => .done rfl

include uniform in
theorem mapped_parallel (t : TypeId) (node : Cursor) (place : Place) :
    Parallel o.Alike (Option.map o.type) (mapped ask t node place)
      (mapped ask (o.type t) node (o.place place)) := by
  unfold mapped
  split
  · exact .done rfl
  · refine (mappedKeys?_parallel uniform place _).bind fun keys => ?_
    cases keys with
    | none => exact .done rfl
    | some keys =>
        refine .bind (.mapM (g := Option.map o.symbol) (fun entry => ?_) keys) fun found => ?_
        · exact mappedProperty?_parallel uniform place _ entry.1 entry.2
        · refine (uniform.text t).bind fun text => ?_
          have same : (found.map (Option.map o.symbol)).filterMap id =
              (found.filterMap id).map o.symbol := by
            rw [List.filterMap_map, List.map_filterMap]
            rfl
          rw [same]
          exact (Check.syntheticObject_parallel t _ text).map fun _ => rfl

/-! ## Keys and access -/

include uniform in
theorem keys_parallel (t : TypeId) (node : Cursor) (place : Place) :
    Parallel o.Alike (Option.map o.type) (keys ask t node place)
      (keys ask (o.type t) node (o.place place)) := by
  refine (Check.need_same _).bind fun inner => ?_
  refine (uniform.typeAt inner place).bind fun target => ?_
  refine (Structure.objectProperties?_parallel uniform target).bind fun properties => ?_
  cases properties with
  | none => exact (Structure.stuck_parallel uniform t).map fun _ => rfl
  | some properties =>
      refine (uniform.unionOf (fun p => ?_) properties).map fun _ => rfl
      exact Check.literal_parallel (.text (p.name.getD "")) .string

include uniform in
theorem tupleAccess?_parallel (target : TypeId) (index : TypeFacts) :
    Parallel o.Alike (Option.map o.type) (tupleAccess? ask target index)
      (tupleAccess? ask (o.type target) (o.facts index)) := by
  refine (uniform.elements target).bind fun elements => ?_
  rw [show position? (o.facts index) = position? index from rfl, Offset.facts_primitive]
  split
  · split
    · exact .done rfl
    · refine .done ?_
      rw [List.getElem?_map, Option.map_map, Option.map_map]
      rfl
  · split
    · have united := uniform.unionOfTypes (elements.map TupleItem.type)
      rw [List.map_map] at united ⊢
      exact united.map fun _ => rfl
    · exact .done rfl

include uniform in
theorem propertyTypes_parallel (target : TypeId) (keys : List String) :
    Parallel o.Alike (List.map o.type) (propertyTypes ask target keys)
      (propertyTypes ask (o.type target) keys) := by
  refine (uniform.properties target).bind fun properties => ?_
  have found (names : List String) :
      names.filterMap (fun key =>
          Entries.find? key (Structure.byName (properties.map o.symbol))) =
        (names.filterMap fun key => Entries.find? key (Structure.byName properties)).map
          o.symbol := by
    simp only [Structure.byName_map, Entries.find?_mapEntries, List.map_filterMap]
  dsimp only
  rw [found]
  exact .mapM uniform.ofSymbol _

include uniform in
theorem keyAccess_parallel (t target index : TypeId) :
    Parallel o.Alike o.type (keyAccess ask t target index)
      (keyAccess ask (o.type t) (o.type target) (o.type index)) := by
  refine (Structure.literalKeys?_parallel uniform index).bind fun keys => ?_
  refine (Check.category_parallel target).bind fun category => ?_
  dsimp only [id]
  split
  · refine (propertyTypes_parallel uniform target _).bind fun found => ?_
    cases found with
    | nil => exact Structure.stuck_parallel uniform t
    | cons first rest => exact uniform.unionOfTypes (first :: rest)
  · exact Structure.stuck_parallel uniform t

include uniform in
theorem access_parallel (t : TypeId) (node : Cursor) (place : Place) :
    Parallel o.Alike (Option.map o.type) (access ask t node place)
      (access ask (o.type t) node (o.place place)) := by
  unfold access
  split
  · refine (uniform.typeAt _ place).bind fun targetType => ?_
    refine (uniform.simplified targetType).bind fun target => ?_
    refine (uniform.typeAt _ place).bind fun indexType => ?_
    refine (uniform.simplified indexType).bind fun index => ?_
    match target, index with
    | none, _ => exact .done rfl
    | some target, none => exact .done rfl
    | some target, some index =>
        refine (Check.category_parallel target).bind fun category => ?_
        refine (Check.facts_parallel index).bind fun indexFacts => ?_
        rw [Offset.facts_primitive]
        dsimp only [id]
        split
        · exact uniform.element? target
        · split
          · refine (tupleAccess?_parallel uniform target indexFacts).bind fun found => ?_
            cases found with
            | some found => exact .done rfl
            | none => exact (keyAccess_parallel uniform t target index).map fun _ => rfl
          · exact (keyAccess_parallel uniform t target index).map fun _ => rfl
  · exact .done rfl

end Computed

/-! ## Conditional types -/

namespace Conditional

include uniform in
theorem fitsAll_parallel (place : Place) (pairs : List (TypeId × Cursor)) (inferred : Inferred) :
    Parallel o.Alike (Prod.map id o.inferred) (fitsAll ask place pairs inferred)
      (fitsAll ask (o.place place) (pairs.map (Prod.map o.type id)) (o.inferred inferred)) := by
  induction pairs generalizing inferred with
  | nil => exact .done rfl
  | cons pair rest ih =>
      obtain ⟨candidate, pattern⟩ := pair
      refine (uniform.fits (some candidate) pattern place inferred).bind fun result => ?_
      obtain ⟨holds, found⟩ := result
      cases holds with
      | true => exact ih found
      | false => exact .done rfl

include uniform in
theorem fitsGeneric_parallel (candidate : TypeId) (pattern : Cursor) (place : Place)
    (inferred : Inferred) :
    Parallel o.Alike (Prod.map id o.inferred) (fitsGeneric ask candidate pattern place inferred)
      (fitsGeneric ask (o.type candidate) pattern (o.place place) (o.inferred inferred)) := by
  refine (Check.facts_parallel candidate).bind fun r => ?_
  rw [Offset.facts_category, Offset.facts_name, Offset.facts_args, List.length_map]
  dsimp only
  split
  · refine (uniform.element? candidate).bind fun element => ?_
    exact uniform.fits element _ place inferred
  · split
    · rw [List.zip_map_left]
      exact fitsAll_parallel uniform place _ inferred
    · exact .done rfl

include uniform in
theorem fits_parallel (candidate : Option TypeId) (pattern : Cursor) (place : Place) (inferred : Inferred) :
    Parallel o.Alike (Prod.map id o.inferred) (fits ask candidate pattern place inferred)
      (fits ask (candidate.map o.type) pattern (o.place place) (o.inferred inferred)) := by
  unfold fits
  split
  · refine (uniform.typeAt pattern place).bind fun t => ?_
    refine (uniform.simplified t).bind fun simple => ?_
    cases simple with
    | none => exact .done rfl
    | some target =>
        refine (Check.need_parallel o.type candidate).bind fun t => ?_
        exact (uniform.assignable t target).bind fun _ => .done rfl
  · split
    · exact .done (congrArg _ (o.inferred_put _ candidate inferred).symm)
    · refine (Check.needFirst_same _).bind fun inner => ?_
      exact uniform.fits candidate inner place inferred
    · refine (Check.need_parallel o.type candidate).bind fun t => ?_
      refine (Check.category_parallel t).bind fun category => ?_
      dsimp only [id]
      split
      · exact .done rfl
      · refine (uniform.element? t).bind fun element => ?_
        refine (Check.needFirst_same _).bind fun inner => ?_
        exact uniform.fits element inner place inferred
    · refine (Check.need_parallel o.type candidate).bind fun t => ?_
      exact fitsGeneric_parallel uniform t pattern place inferred
    · refine (Check.need_parallel o.type candidate).bind fun t => ?_
      refine (Inference.callable_parallel uniform t).bind fun signatures => ?_
      cases signatures with
      | nil => exact .done rfl
      | cons signature rest =>
          dsimp only [List.map_cons]
          split
          · exact .done rfl
          · exact uniform.fits (some signature.returnType) _ place inferred
    · exact .done rfl

theorem branchPlace_parallel (source : Source) (bound : Env) (inferred : Inferred) :
    Parallel o.Alike o.place (branchPlace source bound inferred)
      (branchPlace source (o.env bound) (o.inferred inferred)) := by
  unfold branchPlace
  rw [← Offset.env_above, Offset.blanks_inferred]
  exact (Check.newPlace_parallel source _).bind fun _ => .done rfl

include uniform in
theorem branches?_parallel (place : Place) (choice : Choice) (parameter : Option String)
    (candidates : List TypeId) :
    Parallel o.Alike (Option.map (List.map o.type))
      (branches? ask place choice parameter candidates)
      (branches? ask (o.place place) choice parameter (candidates.map o.type)) := by
  induction candidates with
  | nil => exact .done rfl
  | cons candidate rest ih =>
      refine (Check.category_parallel candidate).bind fun category => ?_
      dsimp only [id]
      split
      · exact .done rfl
      · refine (uniform.fits (some candidate) choice.pattern place []).bind fun result => ?_
        obtain ⟨holds, inferred⟩ := result
        have inBranch (bound : Env) :
            Parallel o.Alike (Option.map (List.map o.type))
              (do
                let inside ← branchPlace place.source bound inferred
                let t ← ask.typeAt (if holds then choice.whenTrue else choice.whenFalse) inside
                return (← branches? ask place choice parameter rest).map (t :: ·))
              (do
                let inside ← branchPlace place.source (o.env bound) (o.inferred inferred)
                let t ← ask.typeAt (if holds then choice.whenTrue else choice.whenFalse) inside
                return (← branches? ask (o.place place) choice parameter (rest.map o.type)).map
                  (t :: ·)) := by
          refine (branchPlace_parallel place.source bound inferred).bind fun inside => ?_
          refine (uniform.typeAt _ inside).bind fun t => ih.bind fun types => .done ?_
          cases types <;> rfl
        cases parameter with
        | none => exact inBranch place.env
        | some name =>
            have branch := inBranch (Entries.put name candidate place.env)
            rw [Offset.env_put] at branch
            exact branch

include uniform in
theorem united_parallel (t : TypeId) (place : Place) (choice : Choice)
    (parameter : Option String) (candidates : List TypeId) :
    Parallel o.Alike o.type (united ask t place choice parameter candidates)
      (united ask (o.type t) (o.place place) choice parameter (candidates.map o.type)) := by
  refine (branches?_parallel uniform place choice parameter candidates).bind fun results => ?_
  cases results with
  | none => exact Structure.stuck_parallel uniform t
  | some results => exact uniform.unionOfTypes results

theorem distributed?_place (choice : Choice) (place : Place) (category : Category) :
    distributed? choice (o.place place).env category = distributed? choice place.env category := by
  simp only [distributed?, Offset.place_env, Offset.has_env]

include uniform in
theorem conditional_parallel (t : TypeId) (node : Cursor) (place : Place) :
    Parallel o.Alike (Option.map o.type) (conditional ask t node place)
      (conditional ask (o.type t) node (o.place place)) := by
  unfold conditional
  split
  · exact .done rfl
  · refine (uniform.typeAt _ place).bind fun checkedType => ?_
    refine (uniform.simplified checkedType).bind fun simple => ?_
    cases simple with
    | none => exact .done rfl
    | some checked =>
        refine (Check.category_parallel checked).bind fun category => ?_
        dsimp only [id]
        rw [distributed?_place]
        split
        · refine (uniform.members checked).bind fun members => ?_
          exact (united_parallel uniform t place _ _ members).map fun _ => rfl
        · exact (united_parallel uniform t place _ _ [checked]).map fun _ => rfl

end Conditional

/-! ## Members of enums -/

namespace Enum

theorem initialized_parallel (source : Source) (member : Cursor)
    (earlier : List (String × Value)) :
    Parallel o.Alike id (initialized source member earlier)
      (initialized source member earlier) := by
  refine Check.program_bind fun program other agrees => ?_
  rw [Lookup.initializersAt_of_agrees agrees]
  exact (Check.ofResult_parallel _).bind fun _ => .done rfl

theorem addMember_parallel (source : Source) (members : List (String × Value))
    (member : Cursor) :
    Parallel o.Alike id (addMember source members member) (addMember source members member) := by
  unfold addMember
  split
  · refine (memberName_parallel member).bind fun name => ?_
    exact (initialized_parallel source member members).bind fun _ => .done rfl
  · split
    · exact (memberName_parallel member).bind fun _ => .done rfl
    · exact .done rfl

theorem members_parallel (source : Source) (node : Cursor) :
    Parallel o.Alike id (members source node) (members source node) :=
  .foldlM_same (addMember_parallel source) _ []

end Enum

/-! ## Parts -/

namespace Answer

theorem syntaxOf_parallel (r : TypeFacts) :
    Parallel o.Alike (Prod.map id o.place) (syntaxOf r) (syntaxOf (o.facts r)) := by
  refine (Check.need_same r.node).bind fun node => ?_
  refine (Check.need_parallel o.place r.place).bind fun place => ?_
  exact (Check.upToDate_parallel place).bind fun _ => .done rfl

/-- A part is found in both in the same way, or in neither. -/
inductive Matching (o : Offset) (part : Part) : Loader part → Loader part → Prop where
  | missing : Matching o part none none
  | found {find find' : CheckM part.Content}
      (parallel : Parallel o.Alike (o.content part) find find') :
      Matching o part (some find) (some find')

/-- A part that is found in the syntax of a type. -/
theorem Matching.ofSyntax {part : Part} (r : TypeFacts)
    {find find' : Cursor × Place → CheckM part.Content}
    (parallel : ∀ node place,
      Parallel o.Alike (o.content part) (find (node, place)) (find' (node, o.place place))) :
    Matching o part (some (syntaxOf r >>= find)) (some (syntaxOf (o.facts r) >>= find')) :=
  .found ((syntaxOf_parallel r).bind fun read => parallel read.1 read.2)

/-- A part that types of some categories have. -/
theorem Matching.ofCategory {part : Part} {condition : Prop} [Decidable condition]
    {loader loader' : Loader part} (matching : Matching o part loader loader') :
    Matching o part (if condition then none else loader)
      (if condition then none else loader') := by
  split
  · exact .missing
  · exact matching

include uniform in
theorem joined_parallel (separator : String) (types : List TypeId) :
    Parallel o.Alike id (joined ask separator types) (joined ask separator (types.map o.type)) :=
  (uniform.texts types).bind fun _ => .done rfl

include uniform in
theorem simplifying_parallel (t : TypeId) (node : Cursor) (place : Place) :
    Parallel o.Alike (o.content .simplified)
      (match node.kind with
        | "object_type" => Computed.mapped ask t node place
        | "index_type_query" => Computed.keys ask t node place
        | "lookup_type" => Computed.access ask t node place
        | _ => Conditional.conditional ask t node place)
      (match node.kind with
        | "object_type" => Computed.mapped ask (o.type t) node (o.place place)
        | "index_type_query" => Computed.keys ask (o.type t) node (o.place place)
        | "lookup_type" => Computed.access ask (o.type t) node (o.place place)
        | _ => Conditional.conditional ask (o.type t) node (o.place place)) := by
  split
  · exact Computed.mapped_parallel uniform t node place
  · exact Computed.keys_parallel uniform t node place
  · exact Computed.access_parallel uniform t node place
  · exact Conditional.conditional_parallel uniform t node place

include uniform in
theorem written?_matching (t : TypeId) (r : TypeFacts) (part : Part) :
    Matching o part (written? ask t r part) (written? ask (o.type t) (o.facts r) part) := by
  cases part with
  | text => exact .ofSyntax r fun node place => Render.render_parallel uniform node place
  | elements =>
      exact .ofCategory (.ofSyntax r fun node place =>
        .mapM_same (TypeSyntax.tupleItem_parallel uniform place) node.parts)
  | members =>
      exact .ofCategory (.ofSyntax r fun node place => uniform.typesAt _ place)
  | properties =>
      exact .ofCategory (.ofSyntax r fun node place => Members.ofBody_parallel place node)
  | indexes =>
      exact .ofCategory (.ofSyntax r fun node place =>
        Members.indexesOfBody_parallel uniform place node)
  | calls =>
      unfold written?
      rw [Offset.facts_category]
      dsimp only
      split
      · refine .ofSyntax r fun node place => ?_
        exact (Signature.ofNode_parallel uniform place none node).bind fun _ => .done rfl
      · split
        · exact .ofSyntax r fun node place => Members.callsOfBody_parallel uniform place node
        · exact .missing
  | simplified =>
      exact .ofCategory (.ofSyntax r fun node place => simplifying_parallel uniform t node place)
  | element => exact .missing
  | constructs => exact .missing
  | classMembers => exact .missing
  | enumMembers => exact .missing

include uniform in
theorem declared?_matching (t : TypeId) (r : TypeFacts) (part : Part) :
    Matching o part (declared? ask t r part) (declared? ask (o.type t) (o.facts r) part) := by
  cases part with
  | text => exact .found (uniform.applied _ r.args)
  | properties =>
      exact .ofCategory (.ofSyntax r fun node place =>
        Members.ofInterface_parallel uniform place r.bindings)
  | indexes =>
      exact .ofCategory (.ofSyntax r fun node place =>
        Members.indexesOfInterface_parallel uniform place r.bindings)
  | calls =>
      exact .ofCategory (.ofSyntax r fun node place =>
        Members.callsOfInterface_parallel uniform place r.bindings)
  | classMembers =>
      exact .ofCategory (.ofSyntax r fun node place =>
        Members.ofClass_parallel uniform place node)
  | constructs =>
      exact .ofCategory (.ofSyntax r fun node place =>
        Members.constructsOf_parallel uniform place node t)
  | enumMembers =>
      exact .ofCategory (.ofSyntax r fun node place => Enum.members_parallel place.source node)
  | members => exact .missing
  | element => exact .missing
  | elements => exact .missing
  | simplified => exact .missing

include uniform in
theorem loader?_matching (t : TypeId) (r : TypeRecord) (part : Part) :
    Matching o part (loader? ask t r part) (loader? ask (o.type t) (o.record r) part) := by
  unfold loader?
  rw [Offset.record_shape, Offset.record_facts]
  cases r.shape with
  | plain => cases part <;> exact .missing
  | array =>
      cases part with
      | text =>
          refine .found ((Check.need_parallel o.type r.cache.element).bind fun element => ?_)
          exact (uniform.text element).bind fun _ => .done rfl
      | _ => exact .missing
  | generic =>
      cases part with
      | text => exact .found (uniform.applied _ r.args)
      | _ => exact .missing
  | union =>
      cases part with
      | text =>
          refine .found ?_
          rw [Offset.record_cache, Offset.cache_members]
          exact joined_parallel uniform " | " _
      | _ => exact .missing
  | written => exact written?_matching uniform t r.toTypeFacts part
  | writtenArray =>
      cases part with
      | element =>
          refine .ofSyntax r.toTypeFacts fun node place => ?_
          exact (Check.needFirst_same node.parts).bind fun element => uniform.typeAt element place
      | _ => exact .missing
  | utility name =>
      cases part with
      | text => exact .found (uniform.applied name r.args)
      | simplified => exact .found (Computed.utility_parallel uniform t name r.args)
      | _ => exact .missing
  | declared => exact declared?_matching uniform t r.toTypeFacts part
  | function nodes =>
      cases part with
      | text => exact .found (Render.function_parallel uniform t)
      | calls =>
          exact .ofSyntax r.toTypeFacts fun _ place =>
            .mapM_same (Signature.ofNode_parallel uniform place none) nodes
      | _ => exact .missing
  | classExpression =>
      cases part with
      | classMembers =>
          exact .ofSyntax r.toTypeFacts fun node place =>
            Members.ofClass_parallel uniform place node
      | constructs =>
          exact .ofSyntax r.toTypeFacts fun node place =>
            Members.constructsOf_parallel uniform place node t
      | _ => exact .missing
  | objectLiteral frozen =>
      cases part with
      | text => exact .found (Render.objectLiteral_parallel uniform t)
      | properties =>
          exact .ofSyntax r.toTypeFacts fun node place =>
            Inference.objectMembers_parallel uniform node place frozen
      | _ => exact .missing
  | frozenTuple =>
      cases part with
      | text =>
          have items : ((o.record r).cache.elements.getD []).map TupleItem.type =
              ((r.cache.elements.getD []).map TupleItem.type).map o.type := by
            rw [Offset.record_cache, Offset.cache_elements, List.map_map, List.map_map]
            rfl
          refine .found ?_
          dsimp only
          rw [items]
          exact (joined_parallel uniform ", " _).bind fun _ => .done rfl
      | _ => exact .missing

/-- A part is found once in both, and kept in both. -/
theorem load_parallel (uniform : Uniform o ask) (t : TypeId) (part : Part) :
    Parallel o.Alike (Option.map (o.content part)) (load ask t part)
      (load ask (o.type t) part) := by
  refine (Check.record_parallel t).bind fun r => ?_
  rw [Offset.record_cache, Offset.get?_cache]
  cases r.cache.get? part with
  | some content => exact .done rfl
  | none =>
      have matching := loader?_matching uniform t r part
      generalize loader? ask t r part = loader at matching
      generalize loader? ask (o.type t) (o.record r) part = loader' at matching
      cases matching with
      | missing => exact .done rfl
      | found parallel =>
          rw [Offset.record_loading]
          dsimp only [Option.map_none]
          split
          · exact .done rfl
          · refine (Check.bracket_parallel (.mark t part) (.unmark t part) parallel).bind
              fun content => ?_
            exact (Check.modify_parallel (.keepPart t part content)).bind fun _ => .done rfl

theorem text_parallel (uniform : Uniform o ask) (t : TypeId) :
    Parallel o.Alike id (text ask t) (text ask (o.type t)) := by
  refine (Check.record_parallel t).bind fun r => ?_
  rw [Offset.record_label]
  cases r.label with
  | some label => exact .done rfl
  | none =>
      refine (load_parallel uniform t .text).bind fun found => ?_
      cases found with
      | none => exact .done rfl
      | some found =>
          exact (Check.modify_parallel (.keepLabel t found)).bind fun _ => .done rfl

/-! ## All questions -/

theorem step_uniform (uniform : Uniform o ask) : Uniform o (step ask) where
  typeThrough via node place := TypeSyntax.ofNode_parallel uniform node place via
  declared source bindings args := Reference.declared_parallel uniform source bindings args
  ofDeclaration declaration := Inference.declarationType_parallel uniform declaration
  ofSymbol symbol := Inference.symbolType_parallel uniform symbol
  ofExpression node place literal frozen :=
    Inference.expression_parallel uniform node place literal frozen
  text t := text_parallel uniform t
  load? t part := load_parallel uniform t part
  simplified t := Structure.simplifiedIn_parallel uniform Structure.maxSteps t
  properties t := Structure.properties_parallel uniform t
  indexes t := Structure.indexes_parallel uniform t
  assignable source target := Assignability.assignable_parallel uniform source target
  fits candidate pattern place inferred :=
    Conditional.fits_parallel uniform candidate pattern place inferred

/-- Checkers that are alike answer alike, however many questions may be nested. -/
theorem uniform_answer (o : Offset) (depth : Nat) : Uniform o (answer depth) := by
  induction depth with
  | zero => constructor <;> intros <;> exact .failed _
  | succ depth ih => exact step_uniform ih

theorem uniform_ask (o : Offset) : Uniform o Answer.ask := uniform_answer o maxDepth

end Answer

end Rules

end TypeGloss
