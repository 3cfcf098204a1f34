/-
# TypeGloss.Proofs.Checker.InterfaceBodies — what interfaces list, told from bodies and bases

An interface may have several bodies, and each of them is read by itself: in a body, overloads of a
method are one member (`OfBody`), but what another body declares is not looked at. What the bases
have is added name by name, and a name that is there already is left out (`names_inherit`).

So an interface lists the members of its bodies, one body after the other, and then those of its
bases whose names are new (`Listing`). Every name of a body or a base is listed, and a name stands
as often as there are bodies that declare it, or once if only bases have it (`count_namesWith`).
No name stands twice exactly if no two bodies share one (`nodup_namesWith_iff`).
-/
import Mathlib.Data.List.Find
import Mathlib.Data.List.Nodup
import Mathlib.Data.List.Pairwise
import TypeGloss.Proofs.Checker.ClassBodies

namespace TypeGloss

set_option autoImplicit false

/-! ## Lists -/

section Lists

variable {α β : Type} [BEq α] [LawfulBEq α] [BEq β] [LawfulBEq β]

/-- Images of items that are told apart by them: those of the items without repetitions. -/
theorem eraseDups_map {f : α → β} {items : List α}
    (apart : ∀ a ∈ items, ∀ b ∈ items, f a = f b → a = b) :
    (items.map f).eraseDups = items.eraseDups.map f := by
  induction items using List.reverseRecOn with
  | nil => rfl
  | append_singleton items item ih =>
      have ih := ih fun a among b others =>
        apart a (List.mem_append_left _ among) b (List.mem_append_left _ others)
      have last : item ∈ items ++ [item] := by simp
      rw [List.map_append, List.map_singleton]
      by_cases there : item ∈ items
      · rw [eraseDups_concat_of_mem (List.mem_map_of_mem there), eraseDups_concat_of_mem there, ih]
      · have new : f item ∉ items.map f := by
          intro known
          obtain ⟨other, among, same⟩ := List.mem_map.1 known
          exact there (apart other (List.mem_append_left _ among) item last same ▸ among)
        rw [eraseDups_concat_of_not_mem new, eraseDups_concat_of_not_mem there, ih, List.map_append]
        rfl

theorem count_eraseDups (items : List α) (item : α) :
    items.eraseDups.count item = if item ∈ items then 1 else 0 := by
  rw [(nodup_eraseDups items).count]
  simp only [List.mem_eraseDups]

end Lists

/-! ## Items by key -/

section Keys

variable {α κ : Type} [BEq κ] [LawfulBEq κ]

/-- Items, and then more of them whose keys are not there yet, each key once. -/
def addNew (key : α → κ) (own more : List α) : List α :=
  more.foldl
    (fun found item => if found.any (key · == key item) then found else found ++ [item]) own

variable (key : α → κ)

omit [LawfulBEq κ] in
/-- Lists that are added one after the other are added as one. -/
theorem addNew_append (own more others : List α) :
    addNew key own (more ++ others) = addNew key (addNew key own more) others :=
  List.foldl_append

theorem addNew_cons (own more : List α) (item : α) :
    addNew key own (item :: more) =
      addNew key (if key item ∈ own.map key then own else own ++ [item]) more := by
  have known : own.any (key · == key item) = true ↔ key item ∈ own.map key := by
    simp [List.any_eq_true, List.mem_map]
  exact congrArg (addNew key · more) (if_congr known rfl rfl)

/-- An item is added behind the others if its key is new. -/
theorem addNew_concat (own more : List α) (item : α) :
    addNew key own (more ++ [item]) =
      if key item ∈ (addNew key own more).map key then addNew key own more
      else addNew key own more ++ [item] := by
  rw [addNew_append, addNew_cons]
  rfl

/-- What is added: each key that is not there yet, once, for its first item. -/
theorem exists_addNew (own more : List α) : ∃ added, addNew key own more = own ++ added ∧
    added.map key = (more.map key).eraseDups.filter (· ∉ own.map key) ∧
    ∀ a ∈ added, more.find? (key · == key a) = some a := by
  induction more using List.reverseRecOn with
  | nil => exact ⟨[], (List.append_nil own).symm, rfl, fun _ => nofun⟩
  | append_singleton more item ih =>
      obtain ⟨added, split, keys, first⟩ := ih
      have all : (addNew key own more).map key =
          own.map key ++ (more.map key).eraseDups.filter (· ∉ own.map key) := by
        rw [split, List.map_append, keys]
      have there : key item ∈ (addNew key own more).map key ↔
          key item ∈ own.map key ∨ key item ∈ more.map key := by
        rw [all, List.mem_append, List.mem_filter, List.mem_eraseDups, decide_eq_true_eq]
        tauto
      have earlier : ∀ a ∈ added, (more ++ [item]).find? (key · == key a) = some a :=
        fun a among => by rw [List.find?_append, first a among]; rfl
      rw [addNew_concat, List.map_append, List.map_singleton]
      by_cases known : key item ∈ more.map key
      · refine ⟨added, ?_, ?_, earlier⟩
        · rw [if_pos (there.2 (.inr known)), split]
        · rw [eraseDups_concat_of_mem known, keys]
      · rw [eraseDups_concat_of_not_mem known, List.filter_append, ← keys]
        by_cases owned : key item ∈ own.map key
        · refine ⟨added, ?_, ?_, earlier⟩
          · rw [if_pos (there.2 (.inl owned)), split]
          · simp [owned, -List.mem_map]
        · have new : ¬key item ∈ (addNew key own more).map key := by
            rw [there]
            exact not_or.2 ⟨owned, known⟩
          refine ⟨added ++ [item], ?_, ?_, fun a among => ?_⟩
          · rw [if_neg new, split, List.append_assoc]
          · simp [owned, -List.mem_map]
          · rcases List.mem_append.1 among with before | last
            · exact earlier a before
            · obtain rfl := List.mem_singleton.1 last
              have absent : more.find? (key · == key a) = none :=
                List.find?_eq_none.2 fun other among same =>
                  known (eq_of_beq same ▸ List.mem_map_of_mem among)
              rw [List.find?_append, absent]
              simp

/-- To add items to nothing leaves out those whose keys were there before. -/
theorem map_addNew_nil (items : List α) : (addNew key [] items).map key = (items.map key).eraseDups := by
  obtain ⟨added, split, keys, -⟩ := exists_addNew key [] items
  rw [split, List.nil_append, keys]
  simp

theorem find?_of_mem_addNew_nil (items : List α) :
    ∀ a ∈ addNew key [] items, items.find? (key · == key a) = some a := by
  obtain ⟨added, split, -, first⟩ := exists_addNew key [] items
  rwa [split, List.nil_append]

theorem addNew_nil_eq_self_iff (items : List α) :
    addNew key [] items = items ↔ (items.map key).Nodup := by
  constructor
  · intro same
    have keys := map_addNew_nil key items
    rw [same] at keys
    rw [keys]
    exact nodup_eraseDups _
  · intro once
    induction items using List.reverseRecOn with
    | nil => rfl
    | append_singleton items item ih =>
        rw [List.map_append, List.nodup_append] at once
        have new : key item ∉ items.map key := fun known =>
          once.2.2 _ known _ (List.mem_singleton_self _) rfl
        rw [addNew_concat, ih once.1, if_neg new]

end Keys

namespace Members

/-! ## What a body declares -/

/-- The name that a draft declares. -/
def Draft.name (draft : Draft) : Option String :=
  draft.symbol.name

/-- The property that a part of an object type declares. -/
def property (name path : String) (part : Cursor) : Draft :=
  ⟨{ name := some name, declaration := declarationAt .property name path part,
      isOptional := part.hasToken ["?"], isReadonly := part.hasToken ["readonly"],
      kind := some .property }, [part]⟩

/-- The overload of a method that a part of an object type declares. -/
def overload (name path : String) (part : Cursor) : Draft :=
  ⟨{ name := some name, declaration := declarationAt .method name path part,
      isOptional := part.hasToken ["?"], kind := some .method }, [part]⟩

/-- What a part of an object type declares: a property, an overload of a method, or no member. -/
inductive Declaring (path : String) (part : Cursor) : List Draft → Prop where
  | property {node : Cursor} {name : String} (kind : part.kind = "property_signature")
      (named : part.field? "name" = some node) (read : Literal.memberName node.focus = .ok name) :
      Declaring path part [property name path part]
  | overload {node : Cursor} {name : String} (kind : part.kind = "method_signature")
      (named : part.field? "name" = some node) (read : Literal.memberName node.focus = .ok name) :
      Declaring path part [overload name path part]
  | none (kind : part.kind ≠ "property_signature" ∧ part.kind ≠ "method_signature") :
      Declaring path part []

/-- What an object type or a body of an interface declares, in its order. -/
def BodyDeclares (path : String) (body : Cursor) (declared : List Draft) : Prop :=
  ∃ found, found.flatten = declared ∧ List.Forall₂ (Declaring path) body.named found

/-- No name is declared twice in a body, unless it is a method and all are overloads of it. -/
def FreeOfRepeats (declared : List Draft) : Prop :=
  declared.Pairwise fun draft other =>
    draft.name = other.name → draft.isProperty = false ∧ other.isProperty = false

instance (declared : List Draft) : Decidable (FreeOfRepeats declared) :=
  inferInstanceAs (Decidable (declared.Pairwise _))

section Bodies

variable {path : String} {part body : Cursor} {new declared : List Draft} {draft other : Draft}

/-- What a part of an object type adds to drafts is what it declares by itself. -/
theorem addObjectPart_eq (path : String) (drafts : List Draft) (part : Cursor) :
    addObjectPart path drafts part =
      (fun new => new.foldl join drafts) <$> addObjectPart path [] part := by
  unfold addObjectPart
  split
  · rw [map_bind]
    refine bind_congr fun name => ?_
    cases name with
    | none => rfl
    | some name =>
        dsimp only
        split
        · rw [map_pure, List.nil_append, List.foldl_cons, join_property rfl]
          rfl
        · rw [map_pure, addOverload, List.foldl_cons, join_overload rfl]
          rfl
  · rfl

theorem Declaring.eq_pure (declaring : Declaring path part new) :
    addObjectPart path [] part = pure new := by
  cases declaring with
  | property kind named read =>
      simp only [addObjectPart, kind, nameOf?, named, Option.mapM_some, Check.ofResult, read]
      rfl
  | overload kind named read =>
      simp only [addObjectPart, kind, nameOf?, named, Option.mapM_some, Check.ofResult, read]
      rfl
  | none kind => simp [addObjectPart, kind.1, kind.2]

/-- The drafts of a body are joined from what it declares. -/
theorem BodyDeclares.eq_pure (declares : BodyDeclares path body declared) :
    body.named.foldlM (addObjectPart path) [] = pure (declared.foldl join []) := by
  obtain ⟨found, rfl, each⟩ := declares
  rw [foldlM_join (addObjectPart_eq path)]
  have read : body.named.mapM (addObjectPart path []) = pure found := by
    generalize body.named = parts at each
    induction each with
    | nil => rfl
    | cons one _ ih => rw [List.mapM_cons, one.eq_pure, pure_bind, ih, pure_bind]
  rw [read, map_pure]

/-- A member of an object type is known by its name and by whether it is a property. -/
theorem BodyDeclares.key (declares : BodyDeclares path body declared) (among : draft ∈ declared) :
    draft.key = (draft.name, false, some (if draft.isProperty then .property else .method)) := by
  obtain ⟨found, rfl, each⟩ := declares
  obtain ⟨new, listed, among⟩ := List.mem_flatten.1 among
  obtain ⟨part, -, declaring⟩ := exists_of_mem_right each listed
  cases declaring with
  | property => cases List.mem_singleton.1 among; rfl
  | overload => cases List.mem_singleton.1 among; rfl
  | none => cases among

theorem FreeOfRepeats.once (free : FreeOfRepeats declared) :
    ((declared.filter Draft.isProperty).map Draft.key).Nodup := by
  refine List.pairwise_map.2 ((List.Pairwise.filter _ free).imp_of_mem ?_)
  intro draft other among _ apart same
  have isProperty := (List.mem_filter.1 among).2
  rw [(apart (congrArg Prod.fst same)).1] at isProperty
  cases isProperty

/-- In a body that is free of repeats, names tell members apart. -/
theorem BodyDeclares.key_eq_iff (declares : BodyDeclares path body declared)
    (free : FreeOfRepeats declared) (among : draft ∈ declared) (others : other ∈ declared) :
    draft.key = other.key ↔ draft.name = other.name := by
  refine ⟨congrArg Prod.fst, ?_⟩
  have pairs : declared.Pairwise fun draft other => draft.name = other.name → draft.key = other.key :=
    free.imp_of_mem fun among others apart same => by
      obtain ⟨isMethod, alike⟩ := apart same
      rw [declares.key among, declares.key others, same, isMethod, alike]
  have symmetric : Std.Symm fun draft other : Draft =>
      draft.name = other.name → draft.key = other.key := ⟨fun _ _ keys same => (keys same.symm).symm⟩
  exact pairs.forall_of_forall (fun _ _ _ => rfl) among others

end Bodies

/-! ## Members of a body -/

/-- The members of one body: each name where it is declared first, for what is declared there, with
the syntax of all declarations of the name. -/
structure OfBody (place : Place) (declared : List Draft) (own : List Symbol) : Prop where
  names : own.map Symbol.name = (declared.map Draft.name).eraseDups
  each : ∀ m ∈ own, ∃ first slot, declared.find? (·.name == m.name) = some first ∧
    m = { first.symbol with
      member := some ⟨slot, place, (declared.filter (·.name == m.name)).flatMap Draft.nodes⟩ }

/-- What is made of the drafts of a body. -/
theorem ofBody_of_realized {path : String} {place : Place} {body : Cursor} {declared : List Draft}
    {own : List Symbol} (declares : BodyDeclares path body declared)
    (free : FreeOfRepeats declared)
    (made : List.Forall₂ (fun draft symbol => ∃ slot,
      symbol = { draft.symbol with member := some ⟨slot, place, draft.nodes⟩ })
      (declared.foldl join []) own) : OfBody place declared own := by
  have gathers := gathers free.once
  generalize declared.foldl join [] = drafts at made gathers
  have names : own.map Symbol.name = drafts.map Draft.name := by
    clear gathers
    induction made with
    | nil => rfl
    | cons one _ ih =>
        obtain ⟨slot, rfl⟩ := one
        rw [List.map_cons, List.map_cons, ih]
        rfl
  have sameName {draft other : Draft} (among : draft ∈ drafts) (others : other ∈ declared) :
      (other.key == draft.key) = (other.name == draft.name) := by
    obtain ⟨first, listed, same⟩ := List.mem_map.1
      (gathers.mem_keys.1 (List.mem_map_of_mem among))
    rw [← same, Bool.eq_iff_iff, beq_iff_eq, beq_iff_eq,
      declares.key_eq_iff free others listed]
    exact (congrArg (other.name = ·) (congrArg Prod.fst same)).to_iff
  constructor
  · have byKey (drafts : List Draft) : drafts.map Draft.name = (drafts.map Draft.key).map Prod.fst := by
      rw [List.map_map]
      rfl
    rw [names, byKey drafts, byKey declared, gathers.keys, ← eraseDups_map (f := Prod.fst)]
    · intro k among k' others same
      obtain ⟨draft, listed, rfl⟩ := List.mem_map.1 among
      obtain ⟨other, listed', rfl⟩ := List.mem_map.1 others
      exact (declares.key_eq_iff free listed listed').2 same
  · intro m among
    obtain ⟨draft, there, slot, rfl⟩ := exists_of_mem_right made among
    obtain ⟨first, found, same⟩ := gathers.first draft there
    have byName : declared.find? (·.key == draft.key) = declared.find? (·.name == draft.name) :=
      List.find?_congr fun other others => sameName there others
    have syntax_ : draft.nodes = (declared.filter (·.name == draft.name)).flatMap Draft.nodes := by
      rw [gathers.syntax_ draft there,
        List.filter_congr fun other others => sameName there others]
    refine ⟨first, slot, byName ▸ found, ?_⟩
    exact congrArg₂ (fun (symbol : Symbol) nodes =>
      { symbol with member := some ⟨slot, place, nodes⟩ }) same syntax_

/-! ## Interfaces -/

/-- The members of an interface with the given bodies, whose bases have the given members: those of
each body, one body after the other, and then those of the bases whose names no body declares, each
name for the first base that has it. -/
structure Listing (place : Place) (bodies : List (List Draft)) (told : List (List Symbol))
    (parts : List (List Symbol)) (inherited : List Symbol) : Prop where
  own : List.Forall₂ (OfBody place) bodies parts
  names : inherited.map Symbol.name =
    (told.flatten.map Symbol.name).eraseDups.filter (· ∉ parts.flatten.map Symbol.name)
  first : ∀ m ∈ inherited, told.flatten.find? (·.name == m.name) = some m

/-- The names of bodies, one body after the other, each name once for each body. -/
def namesOf (bodies : List (List Draft)) : List (Option String) :=
  bodies.flatMap fun body => (body.map Draft.name).eraseDups

/-- A name stands as often among the names of bodies as there are bodies that declare it. -/
theorem count_namesOf (bodies : List (List Draft)) (name : Option String) :
    (namesOf bodies).count name = bodies.countP (name ∈ ·.map Draft.name) := by
  induction bodies with
  | nil => rfl
  | cons body rest ih =>
      rw [namesOf, List.flatMap_cons, List.count_append, count_eraseDups, List.countP_cons, ← ih,
        Nat.add_comm]
      simp only [namesOf, decide_eq_true_eq]

/-- The names of bodies stand once each exactly if no two bodies share one. -/
theorem nodup_namesOf_iff (bodies : List (List Draft)) :
    (namesOf bodies).Nodup ↔ bodies.Pairwise fun body later =>
      ∀ draft ∈ body, ∀ other ∈ later, draft.name ≠ other.name := by
  have each : ∀ body ∈ bodies, ((body.map Draft.name).eraseDups).Nodup :=
    fun body _ => nodup_eraseDups _
  rw [namesOf, List.nodup_flatMap, and_iff_right each]
  refine List.Pairwise.iff_of_mem fun {body later} _ _ => ?_
  simp only [Function.onFun, List.Disjoint, List.mem_eraseDups, List.mem_map]
  constructor
  · intro disjoint draft among other others same
    exact disjoint ⟨draft, among, rfl⟩ ⟨other, others, same.symm⟩
  · rintro apart name ⟨draft, among, rfl⟩ ⟨other, others, same⟩
    exact apart draft among other others same.symm

/-- The names that bodies list, and then those of bases that are not among them, each once. -/
def namesWith (bodies : List (List Draft)) (bases : List (List (Option String))) :
    List (Option String) :=
  namesOf bodies ++ bases.flatten.eraseDups.filter (· ∉ namesOf bodies)

section Names

variable {bodies : List (List Draft)} {bases : List (List (Option String))} {name : Option String}

/-- How often a name is listed: as often as there are bodies that declare it, or once if none does
and some base has it. -/
theorem count_namesWith : (namesWith bodies bases).count name =
    if bodies.countP (name ∈ ·.map Draft.name) = 0 then if ∃ base ∈ bases, name ∈ base then 1 else 0
    else bodies.countP (name ∈ ·.map Draft.name) := by
  have once : (bases.flatten.eraseDups.filter (· ∉ namesOf bodies)).Nodup :=
    (nodup_eraseDups _).filter _
  rw [namesWith, List.count_append, ← count_namesOf, once.count]
  simp only [List.mem_filter, List.mem_eraseDups, decide_eq_true_eq, List.mem_flatten]
  by_cases declared : name ∈ namesOf bodies
  · rw [if_neg (fun inherited => inherited.2 declared), Nat.add_zero,
      if_neg (Nat.ne_of_gt (List.count_pos_iff.2 declared))]
  · rw [if_pos (List.count_eq_zero.2 declared), List.count_eq_zero.2 declared, Nat.zero_add]
    simp only [declared, not_false_eq_true, and_true]

theorem mem_namesWith : name ∈ namesWith bodies bases ↔
    (∃ body ∈ bodies, name ∈ body.map Draft.name) ∨ ∃ base ∈ bases, name ∈ base := by
  have declared : name ∈ namesOf bodies ↔ ∃ body ∈ bodies, name ∈ body.map Draft.name := by
    simp only [namesOf, List.mem_flatMap, List.mem_eraseDups]
  rw [namesWith, List.mem_append, List.mem_filter, List.mem_eraseDups, decide_eq_true_eq,
    ← declared, List.mem_flatten]
  tauto

/-- No name is listed twice exactly if no two bodies share one. -/
theorem nodup_namesWith_iff : (namesWith bodies bases).Nodup ↔
    bodies.Pairwise fun body later =>
      ∀ draft ∈ body, ∀ other ∈ later, draft.name ≠ other.name := by
  have once : (bases.flatten.eraseDups.filter (· ∉ namesOf bodies)).Nodup :=
    (nodup_eraseDups _).filter _
  rw [namesWith, ← nodup_namesOf_iff, List.nodup_append]
  refine ⟨And.left, fun own => ⟨own, once, fun name among other others same => ?_⟩⟩
  have new := (List.mem_filter.1 others).2
  simp [← same, among] at new

end Names

namespace Listing

variable {place : Place} {bodies : List (List Draft)} {told parts : List (List Symbol)}
  {inherited : List Symbol}

theorem ownNames (listing : Listing place bodies told parts inherited) :
    parts.flatten.map Symbol.name = namesOf bodies := by
  have own := listing.own
  clear listing
  induction own with
  | nil => rfl
  | cons one _ ih =>
      rw [List.flatten_cons, List.map_append, one.names, ih]
      rfl

/-- The properties of an interface are named as those of its bodies, then those it inherits. -/
theorem allNames (listing : Listing place bodies told parts inherited) :
    (parts.flatten ++ inherited).map Symbol.name =
      namesWith bodies (told.map (List.map Symbol.name)) := by
  rw [List.map_append, listing.names, listing.ownNames, namesWith, List.map_flatten]

end Listing

end Members

end TypeGloss
