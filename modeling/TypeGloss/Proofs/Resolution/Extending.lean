/-
# TypeGloss.Proofs.Resolution.Extending — how an interface is documented that only extends another

An object is documented as a function or a component if it has no properties but can be called
(`Made.ObjectOrCallable.kind_eq_object_iff`). An interface that only extends another takes its
properties and its index signatures over, but not its call signatures, so that it is documented as
an object always. It is documented as its base is, unless all one can do with the base is to call it
(`empty_extension`).
-/
import TypeGloss.Proofs.Checker.Extending
import TypeGloss.Proofs.Resolution.Made

namespace TypeGloss

set_option autoImplicit false

open Answer (answer)

namespace Made

variable {plan : Plan} {s : State} {below : Below} {t u : TypeId} {context : Context} {node : Node}
  {symbols : List Symbol} {calls : List CallSignature} {entries : List IndexEntry}

theorem Callable.kind_ne_object (made : Callable plan s below t context node) :
    node.header.kind ≠ .object := by
  cases made <;> simp [Node.header, Context.header]

theorem Object.kind (made : Object plan s below t context node) : node.header.kind = .object := by
  cases made
  rfl

/-- Types that have the same properties and the same index signatures are made into the same
objects. -/
theorem Object.congr (made : Object plan s below t context node)
    (listed : s.Finds (Checker.properties t) symbols)
    (listed' : s.Finds (Checker.properties u) symbols)
    (indexed : s.Finds (Checker.indexes t) entries)
    (indexed' : s.Finds (Checker.indexes u) entries) : Object plan s below u context node := by
  obtain ⟨known, each, here, shown⟩ := made
  cases known.unique indexed
  cases here.unique listed
  exact .mk indexed' each listed' shown

namespace ObjectOrCallable

variable (made : ObjectOrCallable plan s below t context node)

include made

/-- What has no call signature is made into an object. -/
theorem isObject (uncalled : ∀ calls, s.Finds (Checker.calls t) calls → calls = []) :
    Object plan s below t context node := by
  cases made with
  | object _ _ made => exact made
  | callable _ called some => exact absurd (uncalled _ called) some

/-- An object is documented as one unless it has no properties and can be called. -/
theorem kind_eq_object_iff (listed : s.Finds (Checker.properties t) symbols)
    (called : s.Finds (Checker.calls t) calls) :
    node.header.kind = .object ↔ symbols ≠ [] ∨ calls = [] := by
  cases made with
  | object here uncalled made =>
      cases here.unique listed
      refine ⟨fun _ => ?_, fun _ => made.kind⟩
      by_cases empty : symbols = []
      · exact .inr (called.unique (uncalled empty))
      · exact .inl empty
  | callable here called' some made =>
      cases here.unique listed
      cases called'.unique called
      refine ⟨fun kind => absurd kind made.kind_ne_object, fun shown => ?_⟩
      rcases shown with inhabited | uncalled
      · exact absurd rfl inhabited
      · exact absurd uncalled some

end ObjectOrCallable

end Made

/-- An object is asked for its call signatures. -/
theorem State.run_calls_of_object {s : State} {t : TypeId} {r : TypeRecord}
    (known : s.records[t]? = some r) (isObject : r.category = .object) :
    (Checker.calls t).run.run s = (Answer.ask.calls t).run.run s := by
  have read : (Checker.category t).run.run s = (.ok .object, s) :=
    isObject ▸ Check.run_category known
  rw [Checker.calls, Checker.partOf?, bind_assoc, run_bind_ok read]
  rfl

/-- An extension that has not been asked for its calls has none. -/
theorem State.Extension.uncalled {s : State} {t : TypeId} {r : TypeRecord} {place : Place}
    {node : Cursor} (extension : s.Extension t r place node)
    (unanswered : ∀ calls, r.cache.calls = some calls → calls = []) {calls : List CallSignature}
    (found : s.Finds (Checker.calls t) calls) : calls = [] := by
  rw [Finds, outcome, run_calls_of_object extension.known extension.isObject] at found
  exact (extension.ensures_calls unanswered).holds rfl found

/-- Let an interface have bodies that declare nothing and one base, of type `b`. Its properties are
those of `b`, of each name the first, so that they are the same if no two properties of `b` share a
name, and only then. Its index signatures are those of `b`, for each text of a key the first, so that
they are the same if no two of them have keys of the same text, and only then. It has no call
signatures, whatever `b` has. So it is documented as an object always; `b` is documented as a node of
the same kind exactly if it has a property or no call signature, and then what the interface is made
into is what `b` is made into as well, if they have the same properties and index signatures. -/
theorem empty_extension {s : State} {t b : TypeId} {r : TypeRecord} {place : Place} {node : Cursor}
    (extension : s.Extension t r place node) :
    (r.cache.properties = none → .properties ∉ r.loading →
      (s.mark t .properties).BaseTells node place b (fun ask t => ask.properties t)
        (fun told left => left.Remembers (fun ask => ask.properties b) told) →
      Ensures (· = s) (fun ask => ask.properties t) fun found left =>
        ∃ told, left.Remembers (fun ask => ask.properties b) told ∧
          left.Remembers (fun ask => ask.properties t) found ∧
          found.map Symbol.name = (told.map Symbol.name).eraseDups ∧
          (∀ m ∈ found, told.find? (·.name == m.name) = some m) ∧
          (found = told ↔ (told.map Symbol.name).Nodup)) ∧
    (r.cache.indexes = none → .indexes ∉ r.loading →
      (s.mark t .indexes).BaseTells node place b Members.keyedIndexes
        (fun told left => left.KnowsIndexes b told) →
      Ensures (· = s) (fun ask => ask.indexes t) fun found left =>
        ∃ told kept, left.KnowsIndexes b told ∧ left.KnowsIndexes t kept ∧
          found = kept.map Prod.fst ∧ kept.map Prod.snd = (told.map Prod.snd).eraseDups ∧
          (∀ p ∈ kept, told.find? (·.2 == p.2) = some p) ∧
          (kept = told ↔ (told.map Prod.snd).Nodup)) ∧
    ((∀ calls, r.cache.calls = some calls → calls = []) →
      Ensures (· = s) (fun ask => ask.calls t) (fun found _ => found = []) ∧
      ∀ {plan : Plan} {below : Made.Below} {context : Context} {made : Node},
        Made.Expanded plan s below t context .object made →
          made.header.kind = .object ∧
          ∀ {told : List Symbol} {calls : List CallSignature},
            s.Finds (Checker.properties b) told → s.Finds (Checker.calls b) calls →
              (∀ {there : Context} {other : Node},
                Made.Expanded plan s below b there .object other →
                  (other.header.kind = made.header.kind ↔ told ≠ [] ∨ calls = [])) ∧
              ∀ {entries : List IndexEntry}, s.Finds (Checker.properties t) told →
                s.Finds (Checker.indexes t) entries → s.Finds (Checker.indexes b) entries →
                  told ≠ [] ∨ calls = [] → Made.Expanded plan s below b context .object made) := by
  refine ⟨fun unknown idle tells => ?_, fun unknown idle tells => ?_, fun unanswered =>
    ⟨extension.ensures_calls unanswered, fun {plan below context made} expanded => ?_⟩⟩
  · refine (extension.ensures_properties unknown idle tells).consequence (fun _ => id) ?_
    rintro _ left ⟨told, rfl, here, remembers⟩
    refine ⟨told, here, remembers, map_addNew_nil _ _, ?_, addNew_nil_eq_self_iff _ _⟩
    exact find?_of_mem_addNew_nil _ _
  · refine (extension.ensures_indexes unknown idle tells).consequence (fun _ => id) ?_
    rintro _ left ⟨told, rfl, here, known⟩
    refine ⟨told, _, here, known, rfl, map_addNew_nil _ _, ?_, addNew_nil_eq_self_iff _ _⟩
    exact find?_of_mem_addNew_nil _ _
  · have isObject := Made.ObjectOrCallable.isObject expanded fun _ => extension.uncalled unanswered
    refine ⟨isObject.kind, fun {told calls} listed called => ⟨fun {there other} others => ?_,
      fun {entries} listed' indexed indexed' shown => ?_⟩⟩
    · rw [isObject.kind]
      exact Made.ObjectOrCallable.kind_eq_object_iff others listed called
    · refine .object listed (fun empty => ?_) (isObject.congr listed' listed indexed indexed')
      rcases shown with inhabited | rfl
      · exact absurd empty inhabited
      · exact called

/-! ### Two interfaces

`interface B { (): any; [k: string]: any } interface D extends B {}` -/

namespace CallableBase

open ThreeClasses (token piece down)

def b : Tree :=
  piece "interface_declaration" "interface B { (): any; [k: string]: any }" 0 none
    [piece "type_identifier" "B" 10 (some "name") [],
      piece "interface_body" "{ (): any; [k: string]: any }" 12 (some "body")
        [piece "call_signature" "(): any" 14 none
          [piece "formal_parameters" "()" 14 (some "parameters") []],
          piece "index_signature" "[k: string]: any" 23 none
            [piece "identifier" "k" 24 (some "name") [],
              piece "predefined_type" "string" 27 (some "index_type") []]]]

def d : Tree :=
  piece "interface_declaration" "interface D extends B {}" 42 none
    [piece "type_identifier" "D" 52 (some "name") [],
      piece "extends_type_clause" "extends B" 54 none
        [token "extends" 54, piece "type_identifier" "B" 62 (some "type") []],
      piece "interface_body" "{}" 64 (some "body") []]

def root : Tree := piece "program" (b.text ++ " " ++ d.text) 0 none [b, d]

def source : Source := ⟨"a.ts", root, Module.Scope.ofTree root⟩

/-- The declaration at an index. -/
def node (index : Nat) : Cursor := down (.ofTree root) index

/-- The name of the base of `D`. -/
def base : Cursor := down (down (node 1) 1) 1

def binding (name : String) (index : Nat) : Module.Binding := ⟨name, .interface, node index, false⟩

def bindings : Entries (List Module.Binding) := [("B", [binding "B" 0]), ("D", [binding "D" 1])]

theorem read_source : source.scope = .ok { types := bindings } := by
  with_unfolding_all rfl

/-- `D` stands above `B`. -/
def both : Hierarchy Bool where
  source _ := source
  first isD := if isD then binding "D" 1 else binding "B" 0
  others _ := []
  bodies _ := [[]]
  bases isD := if isD then [false] else []
  rank := Bool.toNat
  lower {isD base} among := by cases isD <;> simp_all
  apart {isD other} _ start := by
    cases isD <;> cases other <;> first | rfl | exact absurd start (by decide +kernel)

def entry : IndexEntry := ⟨"k", 2, 3, "[k: string]: any", false⟩

def call : CallSignature := ⟨[], 3, "(): any", none, none⟩

/-- The type of a keyword. -/
def keyword (p : Primitive) : TypeRecord :=
  { category := .primitive, label := some p.text, name := some p.text, primitive := some p }

/-- All parts of `B` have been found, and none of `D`. -/
def state : State :=
  { sources := [("a.ts", source)]
    interned := ({} : Std.HashMap Key TypeId).insert (both.key false) 0
    records := #[{ both.record false with
        cache := { properties := some [], indexes := some [entry], calls := some [call] } },
      both.record true, keyword .string, keyword .any] }

theorem stands : both.Stands state.toProgram false where
  isInterface := rfl
  plain := by with_unfolding_all rfl
  sound := by with_unfolding_all rfl
  declares := .cons ⟨[[], []], rfl,
    .cons (.none (by decide +kernel)) (.cons (.none (by decide +kernel)) .nil)⟩ .nil
  free := by decide +kernel
  extends_ := .nil

theorem extension : state.Extension 1 (both.record true) (.top source) base where
  known := rfl
  isObject := rfl
  isDeclared := rfl
  syntax_ := ⟨_, _, rfl, rfl, rfl⟩
  nothing body among := by
    obtain rfl : body = down (node 1) 2 := List.mem_singleton.1 among
    decide +kernel
  base := rfl

/-- While a part of `D` is being found, its base is `B`. -/
theorem comes_base (part : Part) :
    Comes (· = state.mark 1 part) (fun ask => ask.typeAt base (.top source)) 0 := by
  have found : Lookup.search state.toProgram Lookup.maxSteps .types (.within source "B") [] =
      .ok (some ⟨source, [binding "B" 0]⟩, [("a.ts", "B", .types)]) :=
    Lookup.search_of_declared read_source rfl
  have finds : Lookup.find? state.toProgram source base.text .types =
      .ok (some ⟨source, [binding "B" 0]⟩) := congrArg (Except.map Prod.fst) found
  have stands : both.Stands (state.mark 1 part).toProgram false := stands
  have made : (state.mark 1 part).interned[both.key false]? = some 0 :=
    Std.HashMap.getElem?_insert_self
  exact Ensures.typeAt_of_found rfl finds (stands.comes_declared made)

theorem knows (part : Part) : (state.mark 1 part).KnowsIndexes 0 [(entry, "string")] where
  entries := .indexes rfl rfl rfl
  texts p among := by
    obtain rfl := List.mem_singleton.1 among
    exact .text rfl rfl

/-- A base tells what the state remembers of it. -/
theorem tells {α : Type} {part : Part} {asks : Ask → TypeId → CheckM α} {told : α}
    {holds : α → State → Prop} (remembers : (state.mark 1 part).Remembers (fun ask => asks ask 0) told)
    (here : holds told (state.mark 1 part)) :
    (state.mark 1 part).BaseTells base (.top source) 0 asks holds :=
  (comes_base part).consequence (fun _ => id) fun _ _ ⟨came, same⟩ =>
    ⟨came, same ▸ remembers.now.consequence (fun _ => id) fun _ _ ⟨came, same⟩ =>
      came ▸ same ▸ here⟩

end CallableBase

open CallableBase in
/-- `D` has the index signature of `B` and cannot be called. So it is documented as an object, and
`B` is not. -/
theorem empty_extension_callableBase :
    (∃ depth left, ∀ limit, depth ≤ limit →
      ((answer limit).indexes 1).run.run state = (.ok [entry], left)) ∧
    (∃ depth left, ∀ limit, depth ≤ limit →
      ((answer limit).calls 1).run.run state = (.ok [], left)) ∧
    ∀ {plan : Plan} {below : Made.Below} {context there : Context} {made other : Node},
      Made.Expanded plan state below 1 context .object made →
        Made.Expanded plan state below 0 there .object other →
          made.header.kind = .object ∧ other.header.kind ≠ .object := by
  obtain ⟨-, indexes, others⟩ := @empty_extension state 1 0 _ _ _ extension
  have indexed := indexes rfl List.not_mem_nil (tells (knows .indexes).remembers (knows .indexes))
  obtain ⟨called, documented⟩ := others fun _ => nofun
  refine ⟨?_, ?_, fun {plan below context there made other} expanded base => ?_⟩
  · have indexed := indexed.growing fun limit => ((Answer.reliable_answer limit).indexes 1).first
    obtain ⟨depth, found, left, ⟨⟨told, kept, known, -, rfl, -, -, same⟩, extended⟩, run⟩ :=
      indexed.exists_run rfl
    have before : state.Remembers (fun ask => ask.indexes 0) [entry] := .indexes rfl rfl rfl
    have entries := known.entries.unique (before.keeps (.ofExtends extended))
    obtain ⟨p, rfl, isEntry⟩ := List.map_eq_singleton_iff.1 entries
    rw [same.2 (List.nodup_singleton _), entries] at run
    exact ⟨depth, left, run⟩
  · obtain ⟨depth, found, left, rfl, run⟩ := called.exists_run rfl
    exact ⟨depth, left, run⟩
  · have listed : state.Finds (Checker.properties 0) [] := by with_unfolding_all rfl
    have calls : state.Finds (Checker.calls 0) [call] := by with_unfolding_all rfl
    obtain ⟨isObject, compared⟩ := documented expanded
    refine ⟨isObject, fun alike => ?_⟩
    simpa using ((compared listed calls).1 base).1 (alike.trans isObject.symm)

end TypeGloss
