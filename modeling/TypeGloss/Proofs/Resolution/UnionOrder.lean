/-
# TypeGloss.Proofs.Resolution.UnionOrder — the members of a union, from left to right

A union that is written has one member for each of its leaves, in the order in which they stand in
the text, and equal ones are not merged: to ask for the members for the first time, at whatever
depth, is to read the types at the leaves one after the other (`State.IsUnread.outcome_members`).
What was read is kept (`State.IsUnread.finds`).

The members of the node that documents a union are what these members are resolved to, in the same
order, but for those that are resolved to nothing (`Made.Resolved.union`).
-/
import TypeGloss.Proofs.Checker.FlatUnions
import TypeGloss.Proofs.Checker.Operands
import TypeGloss.Proofs.Resolution.Callables

namespace TypeGloss

set_option autoImplicit false

open Answer (answer)

/-! ## Unions that have not been read -/

/-- A type is the union that is written at a node and read at a place, and nothing has been asked
about its members. -/
structure TypeRecord.IsUnread (r : TypeRecord) (node : Cursor) (place : Place) : Prop where
  category : r.category = .union
  shape : r.shape = .written
  node : r.node = some node
  place : r.place = some place
  unknown : r.cache.members = none
  idle : Part.members ∉ r.loading

/-- A type is in a state known to be the union at a node, and nothing has been asked about its
members. -/
def State.IsUnread (s : State) (t : TypeId) (node : Cursor) (place : Place) : Prop :=
  ∃ r, s.records[t]? = some r ∧ r.IsUnread node place

namespace State.IsUnread

variable {s later : State} {t : TypeId} {node : Cursor} {place : Place} {depth : Nat}
  {members : List TypeId}

/-- To look for the members is to read the types at the operands, one after the other. -/
theorem outcome_load (unread : s.IsUnread t node place) (depth : Nat) :
    outcome ((answer (depth + 1)).load? t .members) s =
      (outcome ((TypeSyntax.operands node.kind node).mapM fun leaf =>
        (answer depth).typeAt leaf (s.current place)) (s.mark t .members)).map some := by
  obtain ⟨r, known, is⟩ := unread
  have unknown : r.cache.get? .members = none := is.unknown
  have found : Answer.loader? (answer depth) t r .members =
      some (TypeSyntax.operandTypes (answer depth) node place) :=
    Answer.loader?_members is.category is.shape is.node is.place
  have read : outcome (TypeSyntax.operandTypes (answer depth) node place) (s.mark t .members) =
      outcome ((TypeSyntax.operands node.kind node).mapM fun leaf =>
        (answer depth).typeAt leaf (s.current place)) (s.mark t .members) := rfl
  have run := congrArg Prod.fst (Answer.run_load_of_find known unknown found is.idle)
  rw [read] at run
  refine run.trans ?_
  cases outcome ((TypeSyntax.operands node.kind node).mapM fun leaf =>
    (answer depth).typeAt leaf (s.current place)) (s.mark t .members) <;> rfl

/-- The members of a union that has not been read are read from its operands, in order. -/
theorem outcome_members (unread : s.IsUnread t node place) (depth : Nat) :
    outcome ((answer (depth + 1)).members t) s =
      outcome ((TypeSyntax.operands node.kind node).mapM fun leaf =>
        (answer depth).typeAt leaf (s.current place)) (s.mark t .members) := by
  have loaded := unread.outcome_load depth
  cases types : outcome ((TypeSyntax.operands node.kind node).mapM fun leaf =>
      (answer depth).typeAt leaf (s.current place)) (s.mark t .members) with
  | error fault =>
      rw [types] at loaded
      exact outcome_bind_error loaded
  | ok members =>
      rw [types] at loaded
      exact outcome_bind_ok loaded

/-- A reader who asks for the members of a union is told what the rules tell. -/
theorem outcome_unionMembers (unread : s.IsUnread t node place) :
    outcome (Checker.unionMembers t) s = outcome (Answer.ask.members t) s := by
  obtain ⟨r, known, is⟩ := unread
  have sorted := Check.has_category (State.tells_category known)
  have part : (Checker.partOf? [.union] t .members).run.run s =
      (Answer.ask.load? t .members).run.run s := by
    refine (run_bind_ok sorted).trans ?_
    rw [is.category]
    rfl
  have same := run_bind (Checker.partOf? [.union] t .members)
    (fun found => pure (found.getD [])) s
  rw [outcome, after, part] at same
  exact congrArg Prod.fst (same.trans (run_bind _ _ s).symm)

/-- The members that were told are told again, and the type is simple. -/
theorem finds (unread : s.IsUnread t node place)
    (told : outcome ((answer (depth + 1)).members t) s = .ok members)
    (extended : (after ((answer (depth + 1)).members t) s).Extends later) :
    later.Finds (Checker.simplified t) (some t) ∧
      later.Finds (Checker.unionMembers t) members := by
  have types := (unread.outcome_members depth).symm.trans told
  have loaded := unread.outcome_load depth
  rw [types] at loaded
  have same : after ((answer (depth + 1)).members t) s =
      after ((answer (depth + 1)).load? t .members) s := after_bind_ok loaded
  rw [same] at extended
  obtain ⟨r, known, is⟩ := unread
  have conservative := ((Answer.reliable_answer (depth + 1)).steady (.load t .members)).first
  obtain ⟨r', known', grows⟩ := ((conservative s).trans extended).records known
  have category : r'.category = .union := by rw [grows.facts, is.category]
  have kept := Answer.has_load ⟨s, loaded, extended⟩ (Answer.maxDepth - 1)
  have sorted := Check.has_category (State.tells_category known')
  refine ⟨congrArg Prod.fst (Structure.has_simplified_self known' (by rw [category]; decide) _), ?_⟩
  have part : later.Has (Checker.partOf? [.union] t .members) (some members) := by
    refine .bind sorted ?_
    rw [category]
    exact kept
  have members : later.Has (Checker.unionMembers t) members := part.bind (.pure _)
  exact congrArg Prod.fst members

end State.IsUnread

/-- A union that is read for the first time is new. -/
theorem isUnread_of_typeThrough {node : Cursor} (isUnion : node.kind = "union_type")
    {place : Place} {via : Option AliasRef} {depth : Nat} {s : State} {t : TypeId}
    (returned : outcome ((answer (depth + 1)).typeThrough via node place) s = .ok t)
    (new : (after ((answer depth).aliasText? via) s).interned[Key.ofNode node place via .plain]? =
      none) :
    (after ((answer (depth + 1)).typeThrough via node place) s).IsUnread t node place := by
  have rule : (answer (depth + 1)).typeThrough via node place =
      TypeSyntax.structured (answer depth) .union none node place via := by
    change TypeSyntax.ofNode (answer depth) node place via = _
    unfold TypeSyntax.ofNode
    simp only [isUnion]
    rfl
  rw [rule, TypeSyntax.structured] at returned ⊢
  obtain ⟨_, complete, -⟩ := outcome_bind_eq_ok returned
  rw [Check.complete_of_none (Check.blanks_of_complete complete), pure_bind] at returned ⊢
  obtain ⟨label, labelled, made⟩ := outcome_bind_eq_ok returned
  rw [after_bind_ok labelled]
  let fresh : TypeRecord :=
    { category := .union, label, name := via.map fun a => a.binding.name, node := some node,
      place := some place, via,
      symbol := via.map fun _ => Symbol.ofType via node place.source.path, shape := .written }
  have run := Check.run_intern_of_none new fresh
  cases (congrArg Prod.fst run).symm.trans made
  have left := congrArg Prod.snd run
  exact ⟨fresh, (congrArg (fun left : State => left.records[_]?) left).trans
    Array.getElem?_push_size, ⟨rfl, rfl, rfl, rfl, rfl, List.not_mem_nil⟩⟩

/-! ## Nodes of unions -/

namespace Made

variable {plan : Plan} {s : State} {cuts : Prop} {levels : Nat} {below : Below} {t : TypeId}
  {enclosing : Option Declaration}

/-- What is expanded into the node of a union is a union. -/
theorem Expanded.union {context : Context} {category : Category} {header : Header}
    {nodes : List Node}
    (made : Expanded plan s below t context category (.union header nodes)) :
    Union s below t context (.union header nodes) := by
  cases category with
  | union => exact made
  | object => cases made with
    | object _ _ made => cases made
    | callable _ _ _ made => cases made
  | array => cases made
  | _ => cases made

/-- The members of the node that documents a union are what its members are resolved to, in their
order, but for those that are resolved to nothing, which are those that come to nothing. -/
theorem Resolved.union {header : Header} {nodes : List Node} {u : TypeId} {members : List TypeId}
    (resolved : Resolved plan s cuts levels t enclosing (some (.union header nodes)))
    (simple : s.Finds (Checker.simplified t) (some u))
    (joined : s.Finds (Checker.unionMembers u) members) :
    ∃ fewer results, levels = fewer + 1 ∧
      List.Forall₂ (fun member result => Resolved plan s cuts fewer member none result ∧
        (result = none ↔ s.Finds (Checker.simplified member) none)) members results ∧
      nodes = results.filterMap id := by
  obtain ⟨fewer, u', category, context, rfl, simple', made⟩ := resolved.expanded rfl
  cases simple'.unique simple
  cases made.union with
  | @mk members' results joined' each =>
      cases joined'.unique joined
      exact ⟨fewer, results, rfl, each.imp fun member result inside =>
        ⟨inside, inside.eq_none_iff⟩, rfl⟩

end Made

/-- Let a union be written at a node, with any nesting of operators and parentheses. Its leaves are
the operands that are no unions themselves, from left to right. The type that is read at the node is
new, unless it was made before. When its members are asked for the first time, at whatever depth,
the types at the leaves are read one after the other, and there is one member for each leaf: nothing
else is done, and equal ones stay apart. The same members are told from then on. And whenever a type
that comes to the union is resolved to the node of a union, its members are what these members are
resolved to, in the same order, but for those that come to nothing. -/
theorem union_members_in_order {node : Cursor} (isUnion : node.kind = "union_type")
    (place : Place) :
    let leaves := TypeSyntax.operands "union_type" node
    (∀ leaf, leaf ∈ leaves ↔ Cursor.HasLeaf "union_type" node leaf) ∧
    leaves.Pairwise Cursor.StandsBefore ∧
    (∀ {depth : Nat} {via : Option AliasRef} {s : State} {t : TypeId},
      outcome ((answer (depth + 1)).typeThrough via node place) s = .ok t →
      (after ((answer depth).aliasText? via) s).interned[Key.ofNode node place via .plain]? =
        none →
      (after ((answer (depth + 1)).typeThrough via node place) s).IsUnread t node place) ∧
    ∀ {s : State} {t : TypeId}, s.IsUnread t node place →
      outcome (Checker.unionMembers t) s = outcome (Answer.ask.members t) s ∧
      ∀ depth : Nat,
        let types := leaves.mapM fun leaf => (answer depth).typeAt leaf (s.current place)
        outcome ((answer (depth + 1)).members t) s = outcome types (s.mark t .members) ∧
        ∀ {members : List TypeId}, outcome ((answer (depth + 1)).members t) s = .ok members →
          List.Forall₂ (fun leaf member => (after types (s.mark t .members)).Recalls
            ((answer depth).typeAt leaf (s.current place)) member) leaves members ∧
          ∀ {later : State}, (after ((answer (depth + 1)).members t) s).Extends later →
            later.Finds (Checker.simplified t) (some t) ∧
            later.Finds (Checker.unionMembers t) members ∧
            ∀ {plan : Plan} {remaining : Nat} {whole : TypeId} {enclosing : Option Declaration}
              {resolution : Resolution} {header : Header} {nodes : List Node},
              later.Finds (Checker.simplified whole) (some t) →
              resolution.checker.Lawful .free →
              outcome (Resolution.resolve plan remaining whole enclosing) resolution =
                .ok (some (.union header nodes)) →
              (after (Resolution.resolve plan remaining whole enclosing)
                resolution).checker.Extends later →
              ∃ fewer results, remaining = fewer + 1 ∧
                List.Forall₂ (fun member result =>
                  Made.Resolved plan later True fewer member none result ∧
                    (result = none ↔ later.Finds (Checker.simplified member) none))
                  members results ∧
                nodes = results.filterMap id := by
  intro leaves
  refine ⟨fun leaf => TypeSyntax.mem_operands_iff node, TypeSyntax.operands_pairwise _ node,
    isUnread_of_typeThrough isUnion, fun {s t} unread => ⟨unread.outcome_unionMembers, ?_⟩⟩
  intro depth types
  have reading : outcome ((answer (depth + 1)).members t) s =
      outcome types (s.mark t .members) := by
    have run := unread.outcome_members depth
    rwa [isUnion] at run
  refine ⟨reading, fun {members} told => ⟨?_, fun {later} extended => ?_⟩⟩
  · have conservative (leaf : Cursor) :=
      ((Answer.reliable_answer depth).typeAt leaf (s.current place) 0).first
    exact forall₂_of_recalls_mapM conservative
      ⟨s.mark t .members, reading.symm.trans told, .refl _⟩
  · obtain ⟨simple, joined⟩ := unread.finds told extended
    refine ⟨simple, joined, fun comes lawful returned resolving => ?_⟩
    exact ((Resolution.resolve_made _ _ _ _).holds _ lawful returned resolving).union comes joined

/-! ### A union in parentheses, with the same literal twice

`"a" | (/**/ "b" | "a")` -/

namespace NestedUnion

open LostIndex (path piece standard)

/-- A token of the source, which has one line. -/
def token (text : String) (start stop : Nat) : Tree :=
  .node ⟨text, text, start, stop, ⟨0, start⟩, ⟨0, stop⟩, false, false, none⟩ []

def literal (text : String) (start : Nat) : Tree :=
  piece "literal_type" text start (start + 3) [piece "string" text start (start + 3) []]

def inner : Tree :=
  piece "union_type" "\"b\" | \"a\"" 12 21 [literal "\"b\"" 12, token "|" 16 17, literal "\"a\"" 18]

def parentheses : Tree :=
  piece "parenthesized_type" "(/**/ \"b\" | \"a\")" 6 22
    [token "(" 6 7, piece "comment" "/**/" 7 11 [], inner, token ")" 21 22]

def whole : Tree :=
  piece "union_type" "\"a\" | (/**/ \"b\" | \"a\")" 0 22
    [literal "\"a\"" 0, token "|" 4 5, parentheses]

def node : Cursor := .ofTree whole

def place : Place := .top ⟨path, whole, .ok {}⟩

/-- The union, of which some members may have been found. -/
def union (members : Option (List TypeId)) : TypeRecord :=
  { category := .union, node := some node, place := some place, shape := .written,
    label := some whole.text, cache := { members } }

def text (value : String) : TypeRecord :=
  { category := .literal, label := some (Text.quote value), primitive := some .string,
    value := .text value }

def key (value : String) : Key := .literal .string (.ofValue (.text value))

/-- The literals that have been made. -/
def literals : Std.HashMap Key TypeId := (({} : Std.HashMap Key TypeId).insert (key "a") 1).insert
  (key "b") 2

def state (members : Option (List TypeId)) : State :=
  { sources := [(path, place.source)], interned := literals,
    records := #[union members, text "a", text "b"] }

theorem isUnread : (state none).IsUnread 0 node place :=
  ⟨union none, rfl, rfl, rfl, rfl, rfl, rfl, List.not_mem_nil⟩

/-- The leaves of the union, each with its way up. -/
def leaves : List Cursor :=
  [⟨literal "\"a\"" 0, [⟨whole, 0⟩]⟩,
    ⟨literal "\"b\"" 12, [⟨inner, 0⟩, ⟨parentheses, 2⟩, ⟨whole, 2⟩]⟩,
    ⟨literal "\"a\"" 18, [⟨inner, 2⟩, ⟨parentheses, 2⟩, ⟨whole, 2⟩]⟩]

theorem operands_node : TypeSyntax.operands "union_type" node = leaves := by
  with_unfolding_all rfl

/-- A literal that has been made is found. -/
theorem has_literal {s : State} {value : String} {t : TypeId}
    (made : s.interned[key value]? = some t) : s.Has (Check.literal (.text value) .string) t :=
  (run_bind_ok rfl).trans (Check.run_intern_of_some made _)

theorem literals_a : literals[key "a"]? = some 1 := by
  rw [literals, Std.HashMap.getElem?_insert, if_neg (by decide), Std.HashMap.getElem?_insert_self]

theorem literals_b : literals[key "b"]? = some 2 := by
  rw [literals, Std.HashMap.getElem?_insert_self]

/-- The types at the leaves are found where the literals have been made. -/
theorem has_types {s : State} (made : s.interned = literals) (depth : Nat) (place : Place) :
    s.Has (leaves.mapM fun leaf => (answer (depth + 1)).typeAt leaf place) [1, 2, 1] := by
  have a : s.Has (Check.literal (.text "a") .string) 1 := has_literal (made ▸ literals_a)
  have b : s.Has (Check.literal (.text "b") .string) 2 := has_literal (made ▸ literals_b)
  have reads : (leaves.map fun leaf => (answer (depth + 1)).typeAt leaf place) =
      ["a", "b", "a"].map fun value => Check.literal (.text value) .string := by
    with_unfolding_all rfl
  have each : List.Forall₂ (fun x t => s.Has x t)
      (leaves.map fun leaf => (answer (depth + 1)).typeAt leaf place) [1, 2, 1] :=
    reads ▸ .cons a (.cons b (.cons a .nil))
  exact .mapM (List.forall₂_map_left_iff.1 each)

theorem after_members (depth : Nat) :
    after ((answer (depth + 2)).members 0) (state none) = state (some [1, 2, 1]) := by
  have read : ((state none).mark 0 .members).Has
      (TypeSyntax.operandTypes (answer (depth + 1)) node place) [1, 2, 1] := by
    refine .bind rfl ?_
    change State.Has _ ((TypeSyntax.operands "union_type" node).mapM _) _
    rw [operands_node]
    exact has_types rfl depth _
  have known : (state none).records[(0 : TypeId)]? = some (union none) := rfl
  have unknown : (union none).cache.get? .members = none := rfl
  have found : Answer.loader? (answer (depth + 1)) 0 (union none) .members =
      some (TypeSyntax.operandTypes (answer (depth + 1)) node place) :=
    Answer.loader?_members rfl rfl rfl rfl
  have run := Answer.run_load_of_find known unknown found List.not_mem_nil
  rw [outcome, after, read] at run
  have loaded : outcome ((answer (depth + 2)).load? 0 .members) (state none) =
      .ok (some [1, 2, 1]) := congrArg Prod.fst run
  refine (after_bind_ok loaded).trans ?_
  exact congrArg Prod.snd run

theorem text_lawful (value : String) : (text value).Lawful .free where
  facts := {
    node := by simp [text]
    place := by simp [text]
    bindings := by simp [text]
    symbol := by simp [text]
    shape := trivial
    utility := by simp [text]
    computed := by simp [text]
    object := by simp [text]
    library := by simp [text] }
  cache := Cache.lawful_empty

theorem state_lawful (members : Option (List TypeId)) : (state members).Lawful .free where
  sources {path source} _ := source.obeys_free
  records {t r} known := by
    have among : r ∈ (state members).records := Array.mem_of_getElem? known
    simp only [state, List.mem_toArray, List.mem_cons, List.not_mem_nil, or_false] at among
    have cache : Cache.Lawful .free { members } := by
      cases members with
      | none => exact Cache.lawful_empty
      | some found => exact Cache.lawful_empty.set .members trivial
    rcases among with rfl | rfl | rfl
    · exact .of_written rfl (by rintro known ⟨⟩) rfl cache
    · exact text_lawful "a"
    · exact text_lawful "b"

/-- A node of a union with three members. -/
def hasThree : Node → Bool
  | .union _ [_, _, _] => true
  | _ => false

theorem exists_of_hasThree {tree : Node} (three : hasThree tree = true) :
    ∃ header first second third, tree = .union header [first, second, third] := by
  unfold hasThree at three
  split at three
  · exact ⟨_, _, _, _, rfl⟩
  · cases three

theorem exists_union : ∃ header first second third,
    outcome (Resolution.resolve standard 3 0 none) ⟨state (some [1, 2, 1]), {}⟩ =
      .ok (some (.union header [first, second, third])) := by
  obtain ⟨tree, returned, three⟩ :
      ∃ tree, outcome (Resolution.resolve standard 3 0 none) ⟨state (some [1, 2, 1]), {}⟩ =
        .ok (some tree) ∧ hasThree tree = true := LostIndex.exists_tree (by decide +kernel)
  obtain ⟨header, first, second, third, rfl⟩ := exists_of_hasThree three
  exact ⟨header, first, second, third, returned⟩

/-- The state in which the union has been resolved. -/
def resolved : State :=
  (after (Resolution.resolve standard 3 0 none) ⟨state (some [1, 2, 1]), {}⟩).checker

/-- Three nodes are all that three results are. -/
theorem results_of_three {a b c : Option Node} {first second third : Node}
    (same : [first, second, third] = [a, b, c].filterMap id) :
    a = some first ∧ b = some second ∧ c = some third := by
  cases a <;> cases b <;> cases c <;> simp_all

end NestedUnion

open NestedUnion in
/-- The literal that is written twice is a member twice, before and behind the other one. -/
theorem union_members_in_order_twice :
    node.kind = "union_type" ∧ (state none).IsUnread 0 node place ∧
      outcome (Checker.unionMembers 0) (state none) = .ok [1, 2, 1] ∧
      ∃ header first second third,
        outcome (Resolution.resolve LostIndex.standard 3 0 none) ⟨state (some [1, 2, 1]), {}⟩ =
          .ok (some (.union header [first, second, third])) ∧
        Made.Resolved LostIndex.standard resolved True 2 1 none (some first) ∧
        Made.Resolved LostIndex.standard resolved True 2 2 none (some second) ∧
        Made.Resolved LostIndex.standard resolved True 2 1 none (some third) := by
  obtain ⟨-, -, -, read⟩ := @union_members_in_order node rfl place
  obtain ⟨asked, depths⟩ := read isUnread
  obtain ⟨reading, told⟩ := depths 1199
  have types : ((state none).mark 0 .members).Has (leaves.mapM fun leaf =>
      (answer 1199).typeAt leaf ((state none).current place)) [1, 2, 1] := has_types rfl 1198 _
  rw [operands_node] at reading
  have returned := reading.trans (congrArg Prod.fst types)
  have yields := Resolution.resolve_made LostIndex.standard 3 0 none
  have extended : (after ((answer 1200).members 0) (state none)).Extends resolved := by
    rw [after_members]
    exact yields.extended ⟨state (some [1, 2, 1]), {}⟩ (state_lawful _)
  obtain ⟨simple, -, resolutions⟩ := (told returned).2 extended
  obtain ⟨header, first, second, third, made⟩ := exists_union
  obtain ⟨fewer, results, same, each, nodes⟩ :=
    resolutions simple (state_lawful _) made (.refl _)
  obtain rfl : 2 = fewer := Nat.succ.inj same
  obtain ⟨a, _, ⟨one, -⟩, others, rfl⟩ := List.forall₂_cons_left_iff.1 each
  obtain ⟨b, _, ⟨two, -⟩, last, rfl⟩ := List.forall₂_cons_left_iff.1 others
  obtain ⟨c, _, ⟨three, -⟩, end_, rfl⟩ := List.forall₂_cons_left_iff.1 last
  obtain rfl := List.forall₂_nil_left_iff.1 end_
  obtain ⟨rfl, rfl, rfl⟩ := results_of_three nodes
  exact ⟨rfl, isUnread, asked.trans returned, header, first, second, third, made, one, two, three⟩

end TypeGloss
