/-
# TypeGloss.Proofs.Checker.FlatUnions — unions of literals, as they are written or made

A *flat* type is a literal or a union of literals. The members of a union that is written are
found when they are first asked for, and asking makes the literals that are not there yet. So
what is told of such a type here is told of the state that is left, in which it has been looked
at (`State.Literals`), whether or not it had been before (`State.Flat`).

Two things are done with flat types. Their members are compared, which comes to whether they are
the same literals (`ensures_compared`); and unions of them are made, which have each member
once, in the order in which it first appears (`IsUpheld.unionOfTypes`).

A state is only relied on for what it has under the keys of the types that are made here
(`State.KeepsKeys`), and to make a type keeps it so.
-/
import Mathlib.Data.List.Induction
import TypeGloss.Proofs.Checker.Reads
import TypeGloss.Proofs.Checker.Simplifying
import TypeGloss.Proofs.Checker.Verdicts
import TypeGloss.Proofs.Matching

namespace TypeGloss

set_option autoImplicit false

open Answer (answer)

/-! ## Lists -/

section Lists

variable {α : Type} [BEq α] [LawfulBEq α]

theorem eraseDups_concat_of_mem {items : List α} {item : α} (there : item ∈ items) :
    (items ++ [item]).eraseDups = items.eraseDups := by
  simp [List.eraseDups_append, List.removeAll, there]

theorem eraseDups_concat_of_not_mem {items : List α} {item : α} (new : item ∉ items) :
    (items ++ [item]).eraseDups = items.eraseDups ++ [item] := by
  simp [List.eraseDups_append, List.removeAll, new, List.eraseDups_cons]

theorem nodup_eraseDups (items : List α) : items.eraseDups.Nodup := by
  induction items using List.reverseRecOn with
  | nil => exact .nil
  | append_singleton items item ih =>
      by_cases there : item ∈ items
      · rwa [eraseDups_concat_of_mem there]
      · rw [eraseDups_concat_of_not_mem there]
        refine List.nodup_append.2 ⟨ih, List.pairwise_singleton _ _, fun other among last here => ?_⟩
        rintro rfl
        exact there (List.mem_singleton.1 here ▸ List.mem_eraseDups.1 among)

/-- Adding what is not there yet, item by item, leaves every item once. -/
theorem foldl_insert_eq_eraseDups (items : List α) :
    items.foldl (fun known m => if known.contains m then known else known ++ [m]) [] =
      items.eraseDups := by
  induction items using List.reverseRecOn with
  | nil => rfl
  | append_singleton items item ih =>
      rw [List.foldl_append, ih]
      by_cases there : item ∈ items
      · simp [eraseDups_concat_of_mem there, there]
      · simp [eraseDups_concat_of_not_mem there, there]

theorem filter_eraseDups (p : α → Bool) (items : List α) :
    items.eraseDups.filter p = (items.filter p).eraseDups := by
  match items with
  | [] => rfl
  | item :: rest =>
      have shorter := List.length_filter_le (fun other => !other == item) rest
      rw [List.eraseDups_cons, List.filter_cons, List.filter_cons, filter_eraseDups]
      have swap : (rest.filter fun other => !other == item).filter p =
          (rest.filter p).filter fun other => !other == item := by
        simp only [List.filter_filter, Bool.and_comm]
      split
      · rw [List.eraseDups_cons, swap]
      · next refused =>
          rw [swap, List.filter_eq_self.2]
          intro other among
          have passed := (List.mem_filter.1 among).2
          have different : other ≠ item := fun same => refused (same ▸ passed)
          simpa using different
termination_by items.length
decreasing_by simp; omega

/-- The items that are kept, and another one in place of each that is not: without the other
one they are the items that are kept. -/
theorem filter_eraseDups_map {keep : α → Bool} {other : α} {items : List α}
    (new : other ∉ items) :
    ((items.map fun item => if keep item then item else other).eraseDups).filter (· != other) =
      (items.filter keep).eraseDups := by
  rw [filter_eraseDups]
  congr 1
  induction items with
  | nil => rfl
  | cons item rest ih =>
      obtain ⟨different, later⟩ := List.ne_and_not_mem_of_not_mem_cons new
      rw [List.map_cons, List.filter_cons, List.filter_cons, ih later]
      cases keep item with
      | true => simp [Ne.symm different]
      | false => simp

/-- The replacement is among the results exactly if some item is not kept. -/
theorem mem_eraseDups_map_iff {keep : α → Bool} {other : α} {items : List α}
    (new : other ∉ items) :
    other ∈ (items.map fun item => if keep item then item else other).eraseDups ↔
      ∃ item ∈ items, keep item = false := by
  rw [List.mem_eraseDups, List.mem_map]
  constructor
  · rintro ⟨item, among, same⟩
    refine ⟨item, among, ?_⟩
    cases kept : keep item with
    | true =>
        rw [kept, if_pos rfl] at same
        exact absurd (same ▸ among) new
    | false => rfl
  · rintro ⟨item, among, dropped⟩
    exact ⟨item, among, by simp [dropped]⟩

theorem eraseDups_of_all_eq {other : α} {items : List α} (inhabited : items ≠ [])
    (all : ∀ item ∈ items, item = other) : items.eraseDups = [other] := by
  match items with
  | item :: rest =>
      obtain ⟨rfl, others⟩ := List.forall_mem_cons.1 all
      have none : rest.filter (fun later => !later == item) = [] :=
        List.filter_eq_nil_iff.2 fun later among => by simp [others later among]
      rw [List.eraseDups_cons, none]
      rfl

end Lists

/-! ## Later states -/

/-- What a type is, and the members that it was found to have, are the same later on. -/
def State.Retains (s later : State) : Prop :=
  ∀ ⦃t : TypeId⦄ ⦃r : TypeRecord⦄, s.records[t]? = some r → ∃ r', later.records[t]? = some r' ∧
    r'.toTypeFacts = r.toTypeFacts ∧
    ∀ members, r.cache.members = some members → r'.cache.members = some members

namespace State.Retains

variable {s middle later : State}

theorem ofExtends (extended : s.Extends later) : s.Retains later := by
  intro t r known
  obtain ⟨r', known', grows⟩ := extended.records known
  refine ⟨r', known', grows.facts, fun members kept => ?_⟩
  have content : r.cache.get? .members = some members := kept
  exact grows.kept content

theorem trans (first : s.Retains middle) (second : middle.Retains later) : s.Retains later := by
  intro t r known
  obtain ⟨r', known', facts, kept⟩ := first known
  obtain ⟨r'', known'', facts', kept'⟩ := second known'
  exact ⟨r'', known'', facts'.trans facts, fun members there => kept' members (kept members there)⟩

/-- A change of one type that leaves alone what it is and what members it has. -/
theorem update (s : State) (t : TypeId) {f : TypeRecord → TypeRecord}
    (facts : ∀ r, (f r).toTypeFacts = r.toTypeFacts)
    (kept : ∀ r members, s.records[t]? = some r → r.cache.members = some members →
      (f r).cache.members = some members) : s.Retains (s.update t f) := by
  intro u r known
  rw [State.Extends.records_update]
  split
  · next same =>
      subst same
      exact ⟨f r, by rw [known]; rfl, facts r, fun members => kept r members known⟩
  · exact ⟨r, known, rfl, fun _ there => there⟩

theorem unmark (s : State) (t : TypeId) (part : Part) : s.Retains (s.unmark t part) :=
  update s t (fun _ => rfl) fun _ _ _ there => there

theorem keepSimplified (s : State) (t : TypeId) (content : Option TypeId) :
    s.Retains (s.keepPart t .simplified content) :=
  update s t (fun _ => rfl) fun _ _ _ there => there

/-- What is said of the facts of a type stays true. -/
theorem record (retained : s.Retains later) {t : TypeId} {P : TypeFacts → Prop}
    (there : ∃ r, s.records[t]? = some r ∧ P r.toTypeFacts) :
    ∃ r, later.records[t]? = some r ∧ P r.toTypeFacts := by
  obtain ⟨r, known, holds⟩ := there
  obtain ⟨r', known', facts, -⟩ := retained known
  exact ⟨r', known', facts ▸ holds⟩

end State.Retains

/-- New types were made, and nothing has happened to the others. -/
structure State.Adds (s later : State) : Prop extends s.Extends later where
  same : ∀ {t : TypeId} {r : TypeRecord}, s.records[t]? = some r → later.records[t]? = some r

theorem State.Adds.refl (s : State) : s.Adds s := ⟨.refl s, id⟩

theorem State.Adds.trans {s middle later : State} (first : s.Adds middle)
    (second : middle.Adds later) : s.Adds later :=
  ⟨first.toExtends.trans second.toExtends, fun known => second.same (first.same known)⟩

theorem Check.intern_adds (key : Key) {fresh : TypeRecord} (idle : fresh.loading = [])
    (s : State) : s.Adds (after (Check.intern key fresh) s) := by
  refine ⟨Check.intern_conservative key idle s, fun {t r} known => ?_⟩
  cases made : s.interned[key]? with
  | some u => rwa [after, Check.run_intern_of_some made]
  | none =>
      obtain ⟨bound, -⟩ := Array.getElem?_eq_some_iff.1 known
      rw [after, Check.run_intern_of_none made, Array.getElem?_push, if_neg (Nat.ne_of_lt bound),
        known]

/-! ## Unions that are made -/

/-- A type is what is made for a key, as far as unions of literals go. -/
def Key.Fits (r : TypeRecord) : Key → Prop
  | .union members => r.category = .union ∧ r.cache.members = some members
  | .literal p _ => r.category = .literal ∧ r.primitive = some p
  | .primitive p => r.category = .primitive ∧ r.primitive = some p
  | _ => True

/-- Under every key a state has what was made for it. -/
def State.KeepsKeys (s : State) : Prop :=
  ∀ ⦃key : Key⦄ ⦃t : TypeId⦄, s.interned[key]? = some t →
    ∃ r, s.records[t]? = some r ∧ key.Fits r

namespace State.KeepsKeys

variable {s later : State}

theorem ofRetains (keeps : s.KeepsKeys) (retained : s.Retains later)
    (interned : later.interned = s.interned) : later.KeepsKeys := by
  intro key t made
  rw [interned] at made
  obtain ⟨r, known, fits⟩ := keeps made
  obtain ⟨r', known', facts, kept⟩ := retained known
  refine ⟨r', known', ?_⟩
  cases key with
  | union members => exact ⟨by rw [facts]; exact fits.1, kept _ fits.2⟩
  | literal p _ => exact ⟨by rw [facts]; exact fits.1, by rw [facts]; exact fits.2⟩
  | primitive p => exact ⟨by rw [facts]; exact fits.1, by rw [facts]; exact fits.2⟩
  | _ => trivial

/-- Interning a type with its own key keeps the keys apart. -/
theorem intern (keeps : s.KeepsKeys) {key : Key} {fresh : TypeRecord} (fits : key.Fits fresh)
    (idle : fresh.loading = []) : (after (Check.intern key fresh) s).KeepsKeys := by
  intro other t made
  have old {u : TypeId} (there : s.interned[other]? = some u) :
      ∃ r, (after (Check.intern key fresh) s).records[u]? = some r ∧ other.Fits r := by
    obtain ⟨r, known, fits⟩ := keeps there
    exact ⟨r, (Check.intern_adds key idle s).same known, fits⟩
  cases known : s.interned[key]? with
  | some u =>
      rw [after, Check.run_intern_of_some known] at made
      exact old made
  | none =>
      rw [after, Check.run_intern_of_none known, Std.HashMap.getElem?_insert] at made
      split at made
      · next same =>
          cases made
          cases beq_iff_eq.1 same
          rw [after, Check.run_intern_of_none known]
          exact ⟨fresh, Array.getElem?_push_size, fits⟩
      · exact old made

end State.KeepsKeys

/-- There is no value of a type. -/
def State.IsNever (s : State) (t : TypeId) : Prop :=
  ∃ r, s.records[t]? = some r ∧ r.category = .primitive ∧ r.primitive = some .never

/-- What the union of types is: `never` for none, the type itself for one. -/
def State.Unites (s : State) (t : TypeId) : List TypeId → Prop
  | [] => s.IsNever t
  | [m] => t = m
  | members => ∃ r, s.records[t]? = some r ∧ r.category = .union ∧ r.cache.members = some members

theorem State.Retains.isNever {s later : State} (retained : s.Retains later) {t : TypeId}
    (never : s.IsNever t) : later.IsNever t :=
  retained.record (P := fun facts => facts.category = .primitive ∧ facts.primitive = some .never)
    never

/-- Members that a union was made of stay its members. -/
theorem State.Retains.unites {s later : State} (retained : s.Retains later) {t : TypeId}
    {members : List TypeId} (unites : s.Unites t members) : later.Unites t members := by
  match members with
  | [] => exact retained.isNever unites
  | [m] => exact unites
  | first :: second :: rest =>
      obtain ⟨r, known, isUnion, kept⟩ := unites
      obtain ⟨r', known', facts, kept'⟩ := retained known
      exact ⟨r', known', by rw [facts]; exact isUnion, kept' _ kept⟩

/-- A property of states that is kept where new types are made. -/
structure IsUpheld (inv : State → Prop) : Prop where
  keeps : ∀ {s : State}, inv s → s.KeepsKeys
  adds : ∀ {s later : State}, inv s → s.Adds later → later.KeepsKeys → inv later

/-- Types that are no unions are members of their union as they are. -/
theorem comes_unionMembers {inv : State → Prop} {types : List TypeId} (found : List TypeId)
    (plain : ∀ s, inv s → ∀ t ∈ types, ∃ r, s.records[t]? = some r ∧ r.category ≠ .union) :
    Comes inv (fun ask => ask.unionMembers pure found types)
      (types.foldl (fun known m => if known.contains m then known else known ++ [m]) found) := by
  induction types generalizing found with
  | nil => exact .pure found
  | cons t rest ih =>
      have single : Comes inv (fun ask => ask.alternatives t) [t] := by
        refine Ensures.ofRun fun s here => ⟨[t], s, fun limit => ?_, rfl, here⟩
        obtain ⟨r, known, other⟩ := plain s here t List.mem_cons_self
        have category : (Check.category t).run.run s = (.ok r.category, s) :=
          Check.has_category (State.tells_category known)
        rw [Ask.alternatives, run_bind_ok category, if_neg other]
        rfl
      simp only [Ask.unionMembers, pure_bind, List.foldl_cons]
      exact single.bind (ih _ fun s here u among => plain s here u (List.mem_cons_of_mem _ among))

namespace IsUpheld

variable {inv : State → Prop} (upheld : IsUpheld inv)

include upheld

/-- A type that is made is the one of its key. -/
theorem intern {key : Key} {fresh : TypeRecord} (fits : key.Fits fresh)
    (idle : fresh.loading = []) :
    Ensures inv (fun _ => Check.intern key fresh) fun t left =>
      inv left ∧ left.interned[key]? = some t := by
  refine Ensures.ofRun fun s here => ?_
  have kept := upheld.adds here (Check.intern_adds key idle s)
    ((upheld.keeps here).intern fits idle)
  cases known : s.interned[key]? with
  | some t =>
      refine ⟨t, s, fun _ => Check.run_intern_of_some known fresh, ?_, known⟩
      rwa [after, Check.run_intern_of_some known] at kept
  | none =>
      rw [after, Check.run_intern_of_none known] at kept
      exact ⟨_, _, fun _ => Check.run_intern_of_none known fresh, kept,
        Std.HashMap.getElem?_insert_self⟩

theorem never : Ensures inv (fun _ => Check.primitive .never) fun t left =>
    inv left ∧ left.interned[Key.primitive .never]? = some t :=
  upheld.intern ⟨rfl, rfl⟩ rfl

/-- The union of types that are no unions has each of them once, in their order. -/
theorem unionOfTypes {types : List TypeId}
    (plain : ∀ s, inv s → ∀ t ∈ types, ∃ r, s.records[t]? = some r ∧ r.category ≠ .union) :
    Ensures inv (fun ask => ask.unionOfTypes types) fun t left =>
      inv left ∧ left.Unites t types.eraseDups := by
  refine (comes_unionMembers [] plain).then_ ?_
  rw [foldl_insert_eq_eraseDups]
  match types.eraseDups with
  | [] =>
      exact upheld.never.consequence (fun _ here => here) fun t left made =>
        ⟨made.1, upheld.keeps made.1 made.2⟩
  | [m] => exact Ensures.pure fun _ here => ⟨here, rfl⟩
  | first :: second :: rest =>
      have fits : (Key.union (first :: second :: rest)).Fits
          { category := .union, shape := .union,
            cache := { members := some (first :: second :: rest) } } := ⟨rfl, rfl⟩
      exact (upheld.intern fits rfl).consequence (fun _ here => here) fun t left made =>
        ⟨made.1, upheld.keeps made.1 made.2⟩

end IsUpheld

/-! ## Literals -/

/-- A literal type: a value of one of the keywords that have literals. -/
def TypeFacts.IsLiteral (facts : TypeFacts) : Prop :=
  facts.category = .literal ∧ ∃ p ∈ facts.primitive, p ≠ .any ∧ p ≠ .unknown ∧ p ≠ .never

/-- A node that is read as a literal, with or without parentheses around it. -/
inductive IsLiteralNode : Cursor → Prop where
  | literal {node : Cursor} {value : Value} {p : Primitive} {label : String}
      (form : Form.ofNode node = .literal) (reads : TypeSyntax.literal node = Check.literal value p)
      (spelled : Check.literalText p value = .ok label)
      (keyword : p ≠ .any ∧ p ≠ .unknown ∧ p ≠ .never) : IsLiteralNode node
  | wrapped {node inner : Cursor} (form : Form.ofNode node = .wrapper (some inner))
      (inside : IsLiteralNode inner) : IsLiteralNode node

namespace State

variable {s later : State} {t m : TypeId} {members : List TypeId}

/-- A type is in a state known to be a literal. -/
def IsLiteral (s : State) (m : TypeId) : Prop :=
  ∃ r, s.records[m]? = some r ∧ r.IsLiteral

/-- A type is a literal, or a union of literals whose members have been looked at. -/
inductive Literals (s : State) : TypeId → List TypeId → Prop where
  | single {t : TypeId} (is : s.IsLiteral t) : Literals s t [t]
  | union {t : TypeId} {r : TypeRecord} {members : List TypeId} (known : s.records[t]? = some r)
      (isUnion : r.category = .union) (unnamed : r.primitive = none)
      (kept : r.cache.members = some members) (inhabited : members ≠ [])
      (each : ∀ m ∈ members, s.IsLiteral m) : Literals s t members

/-- A type is a literal or a union of literals. If it is a union that is written and has not
been looked at, its members are written as literals. -/
inductive Flat (s : State) (t : TypeId) : Prop where
  | found {members : List TypeId} (known : s.Literals t members)
  | written {r : TypeRecord} {node : Cursor} {place : Place} (known : s.records[t]? = some r)
      (isUnion : r.category = .union) (unnamed : r.primitive = none) (shape : r.shape = .written)
      (at_ : r.node = some node) (in_ : r.place = some place) (unknown : r.cache.members = none)
      (idle : .members ∉ r.loading) (inhabited : TypeSyntax.operands node.kind node ≠ [])
      (each : ∀ operand ∈ TypeSyntax.operands node.kind node, IsLiteralNode operand)

theorem Retains.isLiteral (retained : s.Retains later) (is : s.IsLiteral m) : later.IsLiteral m :=
  retained.record is

theorem Retains.literals (retained : s.Retains later) (found : s.Literals t members) :
    later.Literals t members := by
  cases found with
  | single is => exact .single (retained.isLiteral is)
  | union known isUnion unnamed kept inhabited each =>
      obtain ⟨r', known', facts, kept'⟩ := retained known
      exact .union known' (by rw [facts]; exact isUnion) (by rw [facts]; exact unnamed)
        (kept' _ kept) inhabited fun m among => retained.isLiteral (each m among)

theorem Literals.isLiteral (found : s.Literals t members) (among : m ∈ members) :
    s.IsLiteral m := by
  cases found with
  | single is => rwa [List.mem_singleton.1 among]
  | union _ _ _ _ _ each => exact each m among

theorem Literals.ne_nil (found : s.Literals t members) : members ≠ [] := by
  cases found with
  | single => exact List.cons_ne_nil _ _
  | union _ _ _ _ inhabited => exact inhabited

end State

/-! ### Literals that are looked at -/

/-- What is written as a literal is a literal. -/
theorem IsUpheld.typeAt {inv : State → Prop} (upheld : IsUpheld inv) {node : Cursor}
    (isLiteral : IsLiteralNode node) (place : Place) :
    Ensures inv (fun ask => ask.typeAt node place) fun m left => inv left ∧ left.IsLiteral m := by
  induction isLiteral with
  | @literal node value p label form reads spelled keyword =>
      refine Ensures.asked ?_
      simp only [Answer.step, Form.read_ofNode, form, Form.read, reads, Check.literal, spelled,
        Check.ofResult, pure_bind]
      have fits : (Key.literal p (.ofValue value)).Fits
          { category := .literal, label := some label, primitive := some p, value } := ⟨rfl, rfl⟩
      refine (upheld.intern fits rfl).consequence (fun _ here => here) fun m left made => ?_
      obtain ⟨r, known, category, primitive⟩ := upheld.keeps made.1 made.2
      exact ⟨made.1, r, known, category, p, primitive, keyword⟩
  | @wrapped node inner form _ ih =>
      refine Ensures.asked ?_
      simp only [Answer.step, Form.read_ofNode, form, Form.read]
      exact ih

/-- The types of the operands of a union that is written. -/
def TypeSyntax.operandTypes (ask : Ask) (node : Cursor) (kept : Place) : CheckM (List TypeId) := do
  let place ← Check.upToDate kept
  (operands node.kind node).mapM fun operand => ask.typeAt operand place

/-- A union that was written is loaded by reading its operands. -/
theorem Answer.loader?_members {ask : Ask} {t : TypeId} {r : TypeRecord} {node : Cursor}
    {place : Place} (isUnion : r.category = .union) (shape : r.shape = .written)
    (at_ : r.node = some node) (in_ : r.place = some place) :
    loader? ask t r .members = some (TypeSyntax.operandTypes ask node place) := by
  simp [loader?, shape, written?, isUnion, syntaxOf, at_, in_, Check.need,
    TypeSyntax.operandTypes]

namespace State

variable {s : State} {t : TypeId}

theorem KeepsKeys.mark (keeps : s.KeepsKeys) (t : TypeId) (part : Part) :
    (s.mark t part).KeepsKeys :=
  keeps.ofRetains (.update s t (fun _ => rfl) fun _ _ _ there => there) rfl

theorem isUpheld_adds (s : State) : IsUpheld fun later => s.Adds later ∧ later.KeepsKeys where
  keeps here := here.2
  adds here added keeps := ⟨here.1.trans added, keeps⟩

/-- The operands of a union that are written as literals are literals. -/
theorem ensures_operandTypes (keeps : s.KeepsKeys) {node : Cursor}
    (inhabited : TypeSyntax.operands node.kind node ≠ [])
    (each : ∀ operand ∈ TypeSyntax.operands node.kind node, IsLiteralNode operand)
    (place : Place) :
    Ensures (· = s) (fun ask => TypeSyntax.operandTypes ask node place) fun members left =>
      (s.Adds left ∧ left.KeepsKeys) ∧ members ≠ [] ∧ ∀ m ∈ members, left.IsLiteral m := by
  have place : Ensures (· = s) (fun _ => Check.upToDate place) fun _ left =>
      s.Adds left ∧ left.KeepsKeys := by
    refine Ensures.ofRun fun later here => ⟨_, later, fun _ => rfl, ?_⟩
    exact here ▸ ⟨.refl later, here ▸ keeps⟩
  refine place.bind fun place => ?_
  have all := Ensures.mapM (fun operand among => s.isUpheld_adds.typeAt (each operand among) place)
    (fun limit operand => ((Answer.reliable_answer limit).typeAt operand place 0).first)
    fun _ _ _ _ extended is => (Retains.ofExtends extended).isLiteral is
  refine all.consequence (fun _ here => here) fun members left ⟨kept, fares⟩ => ?_
  refine ⟨kept, ?_, fun m among => ?_⟩
  · rintro rfl
    exact inhabited (List.forall₂_nil_right_iff.1 fares)
  · obtain ⟨operand, -, is⟩ := exists_of_mem_right fares among
    exact is

/-- The members of a union that is written are looked at: its record is the only one that
changes. -/
theorem looked_at {inside : State} {r : TypeRecord} (members : List TypeId)
    (known : s.records[t]? = some r) (unknown : r.cache.members = none)
    (added : (s.mark t .members).Adds inside) (keeps : inside.KeepsKeys) :
    let left := (inside.unmark t .members).keepPart t .members members
    inside.Retains left ∧ left.KeepsKeys ∧
      (∃ r', left.records[t]? = some r' ∧ r'.toTypeFacts = r.toTypeFacts ∧
        r'.cache.members = some members) ∧
      ∀ {u : TypeId} {r' : TypeRecord}, u ≠ t → s.records[u]? = some r' →
        left.records[u]? = some r' := by
  intro left
  have marked : inside.records[t]? = some { r with loading := .members :: r.loading } := by
    refine added.same ?_
    simp [State.mark, State.Extends.records_update, known]
  have retained : inside.Retains left := by
    refine (Retains.unmark inside t .members).trans (.update _ t (fun _ => rfl) ?_)
    intro r' members' known' kept
    simp only [State.unmark, State.Extends.records_update, if_pos, marked, Option.map_some,
      Option.some.injEq] at known'
    subst known'
    cases unknown.symm.trans kept
  refine ⟨retained, keeps.ofRetains retained rfl, ?_, fun {u r'} different known' => ?_⟩
  · refine ⟨{ r with cache := { r.cache with members := some members } }, ?_, rfl, rfl⟩
    simp [left, State.keepPart, State.unmark, State.Extends.records_update, marked, Cache.set]
  · have same : inside.records[u]? = some r' := by
      refine added.same ?_
      simp [State.mark, State.Extends.records_update, Ne.symm different, known']
    simp [left, State.keepPart, State.unmark, State.Extends.records_update, Ne.symm different, same]

/-- Whether or not a union of literals has been looked at, asking for its members comes to
literals, and leaves other flat types flat. -/
theorem ensures_members (keeps : s.KeepsKeys) (flat : s.Flat t)
    (union : ∃ r, s.records[t]? = some r ∧ r.category = .union) :
    Ensures (· = s) (fun ask => ask.members t) fun members left =>
      left.KeepsKeys ∧ left.Literals t members ∧ s.Extends left ∧ ∀ u, s.Flat u → left.Flat u := by
  cases flat with
  | found literals =>
      cases literals with
      | single is =>
          obtain ⟨r, known, category, -⟩ := is
          obtain ⟨r', known', category'⟩ := union
          cases known.symm.trans known'
          cases category.symm.trans category'
      | union known isUnion unnamed kept inhabited each =>
          have onward (later : State) (same : later = s) : s.Extends later := same ▸ .refl s
          refine (Comes.members onward known kept).consequence (fun _ here => here) ?_
          rintro _ left ⟨rfl, rfl⟩
          exact ⟨keeps, .union known isUnion unnamed kept inhabited each, .refl _, fun _ => id⟩
  | @written r node place known isUnion unnamed shape at_ in_ unknown idle inhabited each =>
      have content : r.cache.get? .members = none := unknown
      have found := Ensures.load known content idle
        (fun ask => Answer.loader?_members isUnion shape at_ in_)
        (ensures_operandTypes (keeps.mark t .members) inhabited each place)
      refine Ensures.bind (found.growing fun limit =>
        ((Answer.reliable_answer limit).load? t .members).first) fun result => ?_
      refine .pure ?_
      rintro left ⟨⟨members, inside, rfl, ⟨⟨added, kept⟩, some, literals⟩, rfl⟩, extended⟩
      obtain ⟨retained, keeps', ⟨r', known', facts, listed⟩, others⟩ :=
        looked_at members known unknown added kept
      have looked : State.Literals _ t members := .union known' (by rw [facts]; exact isUnion)
        (by rw [facts]; exact unnamed) listed some fun m among =>
          retained.isLiteral (literals m among)
      refine ⟨keeps', looked, extended, fun u flat => ?_⟩
      by_cases same : u = t
      · rw [same]
        exact .found looked
      · cases flat with
        | found known => exact .found ((Retains.ofExtends extended).literals known)
        | written known isUnion unnamed shape at_ in_ unknown idle inhabited each =>
            exact .written (others same known) isUnion unnamed shape at_ in_ unknown idle inhabited
              each

/-- A flat type is a literal or a union. -/
theorem Flat.cases (flat : s.Flat t) : s.IsLiteral t ∨
    ∃ r, s.records[t]? = some r ∧ r.category = .union ∧ r.primitive = none := by
  cases flat with
  | found literals =>
      cases literals with
      | single is => exact .inl is
      | union known isUnion unnamed => exact .inr ⟨_, known, isUnion, unnamed⟩
  | written known isUnion unnamed => exact .inr ⟨_, known, isUnion, unnamed⟩

theorem Flat.adds {later : State} (flat : s.Flat t) (added : s.Adds later) : later.Flat t := by
  cases flat with
  | found literals => exact .found ((Retains.ofExtends added.toExtends).literals literals)
  | written known isUnion unnamed shape at_ in_ unknown idle inhabited each =>
      exact .written (added.same known) isUnion unnamed shape at_ in_ unknown idle inhabited each

/-! ### Literals that are compared -/

/-- Two types are the same literal. -/
def sameLiteral (s : State) (m w : TypeId) : Bool :=
  m == w ||
    match s.records[m]?, s.records[w]? with
    | some r, some r' => Assignability.toLiteral r.toTypeFacts r'.toTypeFacts
    | _, _ => false

/-- A literal is among others. -/
def hasLiteral (s : State) (literals : List TypeId) (m : TypeId) : Bool :=
  literals.any (s.sameLiteral m)

/-- Two types are flat, whether or not they have been looked at. -/
structure Ready (s : State) (t u : TypeId) : Prop where
  keeps : s.KeepsKeys
  first : s.Flat t
  second : s.Flat u

variable {later : State} {u m w : TypeId} {literals : List TypeId}

theorem Retains.sameLiteral (retained : s.Retains later) (is : s.IsLiteral m)
    (is' : s.IsLiteral w) : later.sameLiteral m w = s.sameLiteral m w := by
  obtain ⟨r, known, -⟩ := is
  obtain ⟨r', known', -⟩ := is'
  obtain ⟨q, there, facts, -⟩ := retained known
  obtain ⟨q', there', facts', -⟩ := retained known'
  simp only [State.sameLiteral, known, known', there, there', facts, facts']

/-- Which literals are listed does not change in a later state. -/
theorem Retains.hasLiteral (retained : s.Retains later) (is : s.IsLiteral m)
    (each : ∀ w ∈ literals, s.IsLiteral w) :
    later.hasLiteral literals m = s.hasLiteral literals m := by
  rw [State.hasLiteral, State.hasLiteral, Bool.eq_iff_iff, List.any_eq_true, List.any_eq_true]
  refine exists_congr fun w => and_congr_right fun among => ?_
  rw [retained.sameLiteral is (each w among)]

/-- Two literals are compared by their values. -/
theorem form_literal {r r' : TypeRecord} (known : s.records[m]? = some r) (is : r.IsLiteral)
    (known' : s.records[w]? = some r') (is' : r'.IsLiteral) :
    Assignability.form m w r.toTypeFacts r'.toTypeFacts = .known (s.sameLiteral m w) := by
  obtain ⟨category, p, named, any, unknown, never⟩ := is
  obtain ⟨category', p', named', any', unknown', never'⟩ := is'
  rw [Option.mem_def] at named named'
  simp only [State.sameLiteral, known, known', Assignability.form]
  by_cases same : m = w
  · simp [same]
  · simp [same, named, named', any', unknown', never, category, category',
      Assignability.categoryForm]

/-- Literals are assignable to each other if they are the same. -/
theorem comes_literal (is : s.IsLiteral m) (is' : s.IsLiteral w) :
    Comes (· = s) (fun ask => ask.assignable m w) (s.sameLiteral m w) := by
  obtain ⟨r, known, is⟩ := is
  obtain ⟨r', known', is'⟩ := is'
  have onward (later : State) (same : later = s) : s.Extends later := same ▸ .refl s
  refine Assignability.comes_assignable onward known known' ?_
  rw [form_literal known is known' is']
  exact .pure _

/-- A literal is assignable to a flat type if it is among its literals. -/
theorem ensures_compared (t u m : TypeId) :
    Ensures (fun s => s.Ready t u ∧ s.IsLiteral m) (fun ask => ask.assignable m u)
      fun verdict left => (left.Ready t u ∧ left.IsLiteral m) ∧
        ∃ literals, left.Literals u literals ∧ verdict = left.hasLiteral literals m := by
  refine .ofEach fun s here => ?_
  obtain ⟨ready, is⟩ := here
  rcases ready.second.cases with is' | ⟨r', known', isUnion, unnamed⟩
  · refine (comes_literal is is').consequence (fun _ here => here) ?_
    rintro _ left ⟨rfl, rfl⟩
    exact ⟨⟨ready, is⟩, [u], .single is', by simp [State.hasLiteral]⟩
  · obtain ⟨r, known, isLiteral⟩ := is
    have onward (later : State) (same : later = s) : s.Extends later := same ▸ .refl s
    have different : m ≠ u := by
      rintro rfl
      cases known.symm.trans known'
      cases isLiteral.1.symm.trans isUnion
    have inhabited : r.primitive ≠ some .never := by
      obtain ⟨-, p, named, -, -, never⟩ := isLiteral
      rw [Option.mem_def] at named
      simpa [named] using never
    refine Ensures.asked ?_
    simp only [Answer.step, Assignability.assignable_eq_byForm]
    refine (Comes.facts onward known).then_ ((Comes.facts onward known').then_ ?_)
    rw [Assignability.form_intoUnion different inhabited isUnion unnamed]
    refine (ensures_members ready.keeps ready.second ⟨r', known', isUnion⟩).bind fun literals => ?_
    refine .ofEach fun later there => ?_
    obtain ⟨keeps, found, extended, flat⟩ := there
    have is := (Retains.ofExtends extended).isLiteral ⟨r, known, isLiteral⟩
    have any := Comes.anyM fun w among => comes_literal is (found.isLiteral among)
    refine any.consequence (fun _ here => here) ?_
    rintro _ left ⟨rfl, rfl⟩
    exact ⟨⟨⟨keeps, flat t ready.first, flat u ready.second⟩, is⟩, literals, found, rfl⟩

/-- The alternatives of a flat type are its literals. -/
theorem ensures_alternatives (t u : TypeId) :
    Ensures (fun s => s.Ready t u) (fun ask => ask.alternatives t) fun literals left =>
      left.Ready t u ∧ left.Literals t literals := by
  refine .ofEach fun s ready => ?_
  have onward (later : State) (same : later = s) : s.Extends later := same ▸ .refl s
  rcases ready.first.cases with is | ⟨r, known, isUnion, unnamed⟩
  · obtain ⟨r, known, isLiteral⟩ := is
    refine (Comes.category onward known).then_ ?_
    simp only [isLiteral.1, reduceCtorEq, if_false]
    exact .pure fun later same => same ▸ ⟨ready, .single ⟨r, known, isLiteral⟩⟩
  · refine (Comes.category onward known).then_ ?_
    simp only [isUnion, if_true]
    refine (ensures_members ready.keeps ready.first ⟨r, known, isUnion⟩).consequence
      (fun _ here => here) fun literals left there => ?_
    obtain ⟨keeps, found, -, flat⟩ := there
    exact ⟨⟨keeps, flat t ready.first, flat u ready.second⟩, found⟩

/-- A flat type is simple. -/
theorem comes_simplified {inv : State → Prop} (flat : ∀ s, inv s → s.Flat t) :
    Comes inv (fun ask => ask.simplified t) (some t) := by
  refine Ensures.asked (Ensures.ofRun fun s here => ⟨_, s, fun limit => ?_, rfl, here⟩)
  have plain : ∃ r, s.records[t]? = some r ∧ r.category ≠ .computed := by
    rcases (flat s here).cases with ⟨r, known, is, -⟩ | ⟨r, known, isUnion, -⟩
    · exact ⟨r, known, by simp [is]⟩
    · exact ⟨r, known, by simp [isUnion]⟩
  obtain ⟨r, known, other⟩ := plain
  change s.Has (Structure.simplifiedIn (answer limit) Structure.maxSteps t) (some t)
  rw [Structure.maxSteps, Structure.simplifiedIn]
  refine .bind (Check.has_category (State.tells_category known)) ?_
  rw [if_pos other]
  exact .pure _

theorem Literals.unique {others : List TypeId} (found : s.Literals t literals)
    (again : s.Literals t others) : literals = others := by
  cases found with
  | single is =>
      cases again with
      | single => rfl
      | union known isUnion =>
          obtain ⟨r, known', category, -⟩ := is
          cases known'.symm.trans known
          cases category.symm.trans isUnion
  | union known isUnion _ kept =>
      cases again with
      | single is =>
          obtain ⟨r, known', category, -⟩ := is
          cases known'.symm.trans known
          cases category.symm.trans isUnion
      | union known' _ _ kept' =>
          cases known.symm.trans known'
          exact Option.some.inj (kept.symm.trans kept')

/-- The union of types that are no unions, made where nothing else happens. -/
theorem ensures_unionOfTypes (keeps : s.KeepsKeys) {types : List TypeId}
    (plain : ∀ t ∈ types, ∃ r, s.records[t]? = some r ∧ r.category ≠ .union) :
    Ensures (· = s) (fun ask => ask.unionOfTypes types) fun t left =>
      (s.Adds left ∧ left.KeepsKeys) ∧ left.Unites t types.eraseDups := by
  refine (s.isUpheld_adds.unionOfTypes fun later here t among => ?_).consequence
    (fun later same => same ▸ ⟨.refl later, same ▸ keeps⟩) fun _ _ => id
  obtain ⟨r, known, other⟩ := plain t among
  exact ⟨r, here.1.same known, other⟩

end State

end TypeGloss
