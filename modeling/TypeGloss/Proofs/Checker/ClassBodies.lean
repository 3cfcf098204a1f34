/-
# TypeGloss.Proofs.Checker.ClassBodies — what a class declares by itself

The parts of the body of a class are read one after the other. A field is a property, and so is a
parameter of the constructor that has a modifier; methods and accessors are gathered, so that the
overloads of one key are one member.

What a part declares does not depend on the parts before it (`addClassPart_eq`). So a body declares
the drafts of its parts, one after the other (`Declares`), and its members are gathered from
these. If no key is declared twice as a property, there is one member for each key, where the key is
declared first; it is what is declared there, with the syntax of every declaration of the
key (`gathers`).
-/
import TypeGloss.Proofs.Checker.FlatUnions

namespace TypeGloss.Members

set_option autoImplicit false

/-! ## Drafts -/

/-- What tells a declaration of a class apart from others. -/
def Draft.key (draft : Draft) : MemberKey :=
  Members.key draft.symbol

/-- Is a declaration a property: a field, or a parameter of the constructor? -/
def Draft.isProperty (draft : Draft) : Bool :=
  draft.symbol.kind == some .property

/-- The drafts of a class after one more declaration. -/
def join (drafts : List Draft) (draft : Draft) : List Draft :=
  if draft.isProperty then drafts ++ [draft] else addOverload draft drafts

/-- Only a property has the key of a property. -/
theorem Draft.isProperty_of_key {draft other : Draft} (same : draft.key = other.key) :
    draft.isProperty = other.isProperty := by
  have kinds : draft.symbol.kind = other.symbol.kind := congrArg (fun k => k.2.2) same
  rw [isProperty, isProperty, kinds]

/-! ### Parts of a body -/

theorem join_property {drafts : List Draft} {draft : Draft} (property : draft.isProperty = true) :
    join drafts draft = drafts ++ [draft] := by
  rw [join, if_pos property]

theorem join_overload {drafts : List Draft} {draft : Draft} (overload : draft.isProperty = false) :
    join drafts draft = addOverload draft drafts := by
  rw [join, overload, if_neg Bool.false_ne_true]

theorem field_isProperty (name path : String) (part : Cursor) :
    (field name path part).isProperty = true := rfl

theorem method_isProperty (name path : String) (part : Cursor) :
    (method name path part).isProperty = false := by
  unfold method
  by_cases getter : part.hasToken ["get"] = true
  · simp only [getter, if_true]
    rfl
  · by_cases setter : part.hasToken ["set"] = true
    · simp only [getter, setter, if_true]
      rfl
    · simp only [getter, setter]
      rfl

theorem parameterProperties_isProperty (path : String) (part : Cursor) :
    ∀ draft ∈ parameterProperties path part, draft.isProperty = true := by
  unfold parameterProperties
  split
  · exact fun _ => nofun
  · intro draft among
    obtain ⟨parameter, -, made⟩ := List.mem_filterMap.1 among
    unfold parameterProperty? at made
    split at made
    · cases made
    · obtain ⟨pattern, -, rfl⟩ := Option.map_eq_some_iff.1 made
      rfl

theorem foldl_join_properties {drafts new : List Draft}
    (properties : ∀ draft ∈ new, draft.isProperty = true) :
    new.foldl join drafts = drafts ++ new := by
  induction new generalizing drafts with
  | nil => exact (List.append_nil drafts).symm
  | cons draft rest ih =>
      obtain ⟨property, others⟩ := List.forall_mem_cons.1 properties
      rw [List.foldl_cons, ih others, join_property property, List.append_assoc]
      rfl

/-- What a part of a body adds to drafts is what it declares by itself. -/
theorem addClassPart_eq (path : String) (drafts : List Draft) (part : Cursor) :
    addClassPart path drafts part =
      (fun new => new.foldl join drafts) <$> addClassPart path [] part := by
  unfold addClassPart
  split
  · rw [map_bind]
    refine bind_congr fun name => ?_
    cases name with
    | none => rfl
    | some name =>
        rw [map_pure, List.nil_append, List.foldl_cons, join_property (field_isProperty ..)]
        rfl
  · split
    · rw [map_bind]
      refine bind_congr fun name => ?_
      cases name with
      | none => rfl
      | some name =>
          dsimp only
          split
          · rw [map_pure, addOverload, List.foldl_cons, join_overload (method_isProperty ..)]
            rfl
          · split
            · rw [map_pure, List.nil_append,
                foldl_join_properties (parameterProperties_isProperty path part)]
            · rfl
    · rfl

/-- If each part of a body adds what it declares by itself, the parts add what they declare, one
after the other. -/
theorem foldlM_join {add : List Draft → Cursor → CheckM (List Draft)}
    (each : ∀ drafts part, add drafts part = (fun new => new.foldl join drafts) <$> add [] part)
    (drafts : List Draft) (parts : List Cursor) :
    parts.foldlM add drafts =
      (fun found => found.flatten.foldl join drafts) <$> parts.mapM (add []) := by
  induction parts generalizing drafts with
  | nil => rfl
  | cons part rest ih =>
      simp only [List.foldlM_cons, List.mapM_cons, each drafts part, ih, bind_map_left, map_bind,
        map_pure, List.flatten_cons, List.foldl_append]
      refine bind_congr fun new => ?_
      rw [map_eq_pure_bind]

/-- What the body of a class declares, in its order. -/
def Declares (path : String) (node : Cursor) (declared : List Draft) : Prop :=
  ∃ found, found.flatten = declared ∧
    ∀ s : State, ((classBody node).mapM (addClassPart path [])).run.run s = (.ok found, s)

/-- The drafts of a class are joined from what its body declares. -/
theorem Declares.run {path : String} {node : Cursor} {declared : List Draft}
    (declares : Declares path node declared) (s : State) :
    ((classBody node).foldlM (addClassPart path) []).run.run s =
      (.ok (declared.foldl join []), s) := by
  obtain ⟨found, rfl, run⟩ := declares
  rw [foldlM_join (addClassPart_eq path), map_eq_pure_bind, run_bind_ok (run s)]
  rfl

/-! ## Members of one key -/

/-- Drafts gathered from declarations: for each key, where it is declared first, what is declared
there and the syntax of all its declarations. -/
structure Gathers (declared gathered : List Draft) : Prop where
  keys : gathered.map Draft.key = (declared.map Draft.key).eraseDups
  first : ∀ draft ∈ gathered, ∃ first, declared.find? (·.key == draft.key) = some first ∧
    draft.symbol = first.symbol
  syntax_ : ∀ draft ∈ gathered,
    draft.nodes = (declared.filter (·.key == draft.key)).flatMap Draft.nodes

theorem addOverload_of_not_mem {draft : Draft} {drafts : List Draft}
    (new : draft.key ∉ drafts.map Draft.key) : addOverload draft drafts = drafts ++ [draft] := by
  induction drafts with
  | nil => rfl
  | cons other rest ih =>
      rw [List.map_cons, List.mem_cons, not_or] at new
      have different : ¬Members.key other.symbol = Members.key draft.symbol := Ne.symm new.1
      rw [addOverload, if_neg different, ih new.2]
      rfl

/-- A draft whose key is known joins the one that has it. -/
theorem addOverload_of_mem {draft : Draft} {drafts : List Draft}
    (known : draft.key ∈ drafts.map Draft.key) (once : (drafts.map Draft.key).Nodup) :
    addOverload draft drafts = drafts.map fun other =>
      if other.key = draft.key then { other with nodes := other.nodes ++ draft.nodes }
      else other := by
  induction drafts with
  | nil => cases known
  | cons other rest ih =>
      rw [List.map_cons, List.nodup_cons] at once
      rw [List.map_cons]
      by_cases same : other.key = draft.key
      · have others : ∀ later ∈ rest, later.key ≠ draft.key := fun later among here =>
          once.1 (same ▸ here ▸ List.mem_map_of_mem among)
        have unchanged : rest.map (fun later =>
            if later.key = draft.key then { later with nodes := later.nodes ++ draft.nodes }
            else later) = rest :=
          (List.map_congr_left fun later among => if_neg (others later among)).trans
            (List.map_id' rest)
        rw [unchanged, if_pos same]
        exact if_pos same
      · have later : draft.key ∈ rest.map Draft.key :=
          (List.mem_cons.1 known).resolve_left (Ne.symm same)
        rw [if_neg same, ← ih later once.2]
        exact if_neg same

namespace Gathers

variable {declared gathered : List Draft} {draft : Draft}

theorem mem_keys (gathers : Gathers declared gathered) {k : MemberKey} :
    k ∈ gathered.map Draft.key ↔ k ∈ declared.map Draft.key := by
  rw [gathers.keys, List.mem_eraseDups]

/-- A key that has not been declared yet. -/
theorem append_new (gathers : Gathers declared gathered)
    (new : draft.key ∉ declared.map Draft.key) :
    Gathers (declared ++ [draft]) (gathered ++ [draft]) := by
  have apart : ∀ other ∈ declared, ¬(other.key == draft.key) = true := fun other among same =>
    new (eq_of_beq same ▸ List.mem_map_of_mem among)
  have different : ∀ other ∈ gathered, (draft.key == other.key) = false := fun other among =>
    beq_eq_false_iff_ne.2 fun same =>
      new (gathers.mem_keys.1 (same ▸ List.mem_map_of_mem among))
  refine ⟨?_, fun other among => ?_, fun other among => ?_⟩
  · rw [List.map_append, List.map_append, List.map_singleton, gathers.keys,
      eraseDups_concat_of_not_mem new]
  · rcases List.mem_append.1 among with earlier | last
    · obtain ⟨first, found, same⟩ := gathers.first other earlier
      exact ⟨first, by rw [List.find?_append, found]; rfl, same⟩
    · obtain rfl := List.mem_singleton.1 last
      refine ⟨other, ?_, rfl⟩
      rw [List.find?_append, List.find?_eq_none.2 apart]
      simp
  · rcases List.mem_append.1 among with earlier | last
    · rw [List.filter_append, gathers.syntax_ other earlier]
      simp [different other earlier]
    · obtain rfl := List.mem_singleton.1 last
      rw [List.filter_append, List.filter_eq_nil_iff.2 apart]
      simp

/-- One more overload of a member. -/
theorem append_known (gathers : Gathers declared gathered)
    (known : draft.key ∈ declared.map Draft.key) :
    Gathers (declared ++ [draft]) (gathered.map fun other =>
      if other.key = draft.key then { other with nodes := other.nodes ++ draft.nodes }
      else other) := by
  have sameKey (other : Draft) : Draft.key (if other.key = draft.key then
      { other with nodes := other.nodes ++ draft.nodes } else other) = other.key := by
    split <;> rfl
  refine ⟨?_, ?_, ?_⟩
  · rw [List.map_append, List.map_singleton, eraseDups_concat_of_mem known, ← gathers.keys,
      List.map_map]
    exact List.map_congr_left fun other _ => sameKey other
  · intro other among
    obtain ⟨before, there, rfl⟩ := List.mem_map.1 among
    obtain ⟨first, found, same⟩ := gathers.first before there
    refine ⟨first, ?_, ?_⟩
    · rw [sameKey, List.find?_append, found]
      rfl
    · split <;> exact same
  · intro other among
    obtain ⟨before, there, rfl⟩ := List.mem_map.1 among
    rw [sameKey, List.filter_append, List.flatMap_append, ← gathers.syntax_ before there]
    by_cases same : before.key = draft.key
    · simp [same]
    · simp [same, Ne.symm same]

end Gathers

/-- If no key is declared twice as a property, what a body declares is gathered by keys. -/
theorem gathers {declared : List Draft}
    (once : ((declared.filter Draft.isProperty).map Draft.key).Nodup) :
    Gathers declared (declared.foldl join []) := by
  induction declared using List.reverseRecOn with
  | nil => exact ⟨rfl, fun _ => nofun, fun _ => nofun⟩
  | append_singleton declared draft ih =>
      rw [List.filter_append, List.map_append, List.nodup_append] at once
      obtain ⟨earlier, -, apart⟩ := once
      have gathers := ih earlier
      have distinct : ((declared.foldl join []).map Draft.key).Nodup := by
        rw [gathers.keys]
        exact nodup_eraseDups _
      rw [List.foldl_append, List.foldl_cons, List.foldl_nil]
      cases property : draft.isProperty with
      | true =>
          have new : draft.key ∉ declared.map Draft.key := by
            intro known
            obtain ⟨other, among, same⟩ := List.mem_map.1 known
            have alike := Draft.isProperty_of_key same
            refine apart draft.key ?_ draft.key (by simp [property]) rfl
            exact same ▸ List.mem_map_of_mem (List.mem_filter.2 ⟨among, alike.trans property⟩)
          rw [join_property property]
          exact gathers.append_new new
      | false =>
          rw [join_overload property]
          by_cases known : draft.key ∈ declared.map Draft.key
          · rw [addOverload_of_mem (gathers.mem_keys.2 known) distinct]
            exact gathers.append_known known
          · rw [addOverload_of_not_mem (mt gathers.mem_keys.1 known)]
            exact gathers.append_new known

/-! ## Slots -/

/-- Members that are made of drafts: each has a slot of its own for its type. -/
theorem run_realize (place : Place) (drafts : List Draft) (s : State) :
    ∃ own, (realize place drafts).run.run s =
        (.ok own, { s with slots := s.slots ++ Array.replicate drafts.length none }) ∧
      List.Forall₂ (fun draft symbol => ∃ slot,
        symbol = { draft.symbol with member := some ⟨slot, place, draft.nodes⟩ }) drafts own := by
  induction drafts generalizing s with
  | nil => exact ⟨[], by simp [realize]; rfl, .nil⟩
  | cons draft rest ih =>
      obtain ⟨own, run, each⟩ := ih { s with slots := s.slots.push none }
      refine ⟨_ :: own, ?_, .cons ⟨s.slots.size, rfl⟩ each⟩
      have one : (do
          return { draft.symbol with
            member := some (← Check.newMember place draft.nodes none) } : CheckM Symbol).run.run s =
          (.ok { draft.symbol with member := some ⟨s.slots.size, place, draft.nodes⟩ },
            { s with slots := s.slots.push none }) := rfl
      have slots : s.slots.push none ++ Array.replicate rest.length none =
          s.slots ++ Array.replicate (rest.length + 1) none := by
        rw [Array.replicate_succ', ← Array.append_assoc, Array.push_eq_append]
      rw [realize, List.mapM_cons, run_bind_ok one]
      refine (run_bind_ok run).trans ?_
      rw [slots]
      rfl

end TypeGloss.Members
