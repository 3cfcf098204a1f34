/-
# TypeGloss.Proofs.Checker.Verdicts — a union on the left, and on the right

How two types are compared depends on the form of the comparison (`Form`): a union on the
right is asked first for a member that accepts the whole of the left, and only when there is no
union on the right is a union on the left taken apart.

So whether a union is assignable is not found member by member. `union_assignable_iff` says
how it is: through any nesting of unions on the right, one leaf must accept all members of the
left, whereas each member by itself is accepted as soon as there is a leaf for it. The two agree
if there is no union on the right. If there is, the union is accepted for fewer types than its
members are: two texts are not assignable to the union of these two and a third.
-/
import TypeGloss.Proofs.Checker.Assigning
import TypeGloss.Proofs.Checker.Ensuring

namespace TypeGloss

set_option autoImplicit false

/-! ## The comparison of two types by its form -/

namespace Assignability

/-- Compare two types whose comparison has a form. -/
def byForm (ask : Ask) (source target : TypeId) : Form → CheckM Bool
  | .known verdict => return verdict
  | .intoUnion => do (← ask.members target).anyM (ask.assignable source)
  | .outOfUnion => do (← ask.members source).allM fun member => ask.assignable member target
  | .elements => toArray ask .array source target
  | .items => toArray ask .tuple source target
  | .members => toObject ask source target

/-- The comparison by category takes the way that the form names. -/
theorem byCategory_eq_byForm (ask : Ask) (source target : TypeId) (given want : TypeFacts) :
    byCategory ask source target given want =
      byForm ask source target (categoryForm given want) := by
  unfold byCategory categoryForm
  cases want.category with
  | primitive | literal | function | generic => rfl
  | array =>
      simp only [toArray]
      split
      · rfl
      · split <;> rfl
  | object | union | intersection | tuple | classType | enum | named | computed =>
      simp only
      split <;> rfl

/-- How two types are compared depends on the form of the comparison alone. -/
theorem assignable_eq_byForm (ask : Ask) (source target : TypeId) :
    assignable ask source target = (do
      let given ← Check.facts source
      let want ← Check.facts target
      byForm ask source target (form source target given want)) := by
  unfold assignable form
  congr 1
  funext given
  congr 1
  funext want
  repeat' split
  all_goals first | rfl | exact byCategory_eq_byForm ..

/-- A comparison comes to what it comes to by its form. -/
theorem comes_assignable {inv : State → Prop} {s : State}
    (onward : ∀ later, inv later → s.Extends later) {source target : TypeId} {r r' : TypeRecord}
    {verdict : Bool} (known : s.records[source]? = some r) (known' : s.records[target]? = some r')
    (compared : Comes inv
      (fun ask => byForm ask source target (form source target r.toTypeFacts r'.toTypeFacts))
      verdict) :
    Comes inv (fun ask => ask.assignable source target) verdict := by
  refine Ensures.asked ?_
  simp only [Answer.step, assignable_eq_byForm]
  exact (Comes.facts onward known).bind ((Comes.facts onward known').bind compared)

end Assignability


/-- From a state on, the comparison of two types has this verdict, whatever else is asked
before. -/
def State.Compares (s : State) (source target : TypeId) (verdict : Bool) : Prop :=
  s.Foretells (fun ask => ask.assignable source target) verdict

namespace Assignability

variable {s : State} {source target : TypeId} {r r' : TypeRecord}

/-- A form that decides at once is the verdict. -/
theorem compares_of_known (known : s.records[source]? = some r)
    (known' : s.records[target]? = some r') {verdict : Bool}
    (found : form source target r.toTypeFacts r'.toTypeFacts = .known verdict) :
    s.Compares source target verdict := by
  refine comes_assignable (fun _ => id) known known' ?_
  rw [found]
  exact .pure verdict

theorem compares_self (known : s.records[source]? = some r) : s.Compares source source true :=
  compares_of_known known known (if_pos rfl)

/-- Everything accepts `never`. -/
theorem compares_never (known : s.records[source]? = some r) (never : r.primitive = some .never)
    (known' : s.records[target]? = some r') : s.Compares source target true := by
  refine compares_of_known known known' ?_
  simp [form, never]

/-- Everything can be given where anything goes. -/
theorem compares_anything (known : s.records[source]? = some r)
    (known' : s.records[target]? = some r')
    (anything : r'.primitive = some .any ∨ r'.primitive = some .unknown) :
    s.Compares source target true := by
  refine compares_of_known known known' ?_
  rcases anything with any | unknown
  · simp [form, any]
  · simp [form, unknown]

theorem exists_record_of_compares {verdict : Bool} (compared : s.Compares source target verdict) :
    ∃ r, s.records[source]? = some r := by
  obtain ⟨depth, found, left, run⟩ := compared.comes (.refl s)
  have returned := congrArg Prod.fst (run (depth + 1) (Nat.le_succ depth))
  obtain ⟨given, first, -⟩ := outcome_bind_eq_ok returned
  obtain ⟨r, known, -⟩ := Check.outcome_facts_eq_ok.1 first
  exact ⟨r, known⟩

/-- A type is compared with each member of a union that it is not. -/
theorem form_intoUnion (different : source ≠ target) (inhabited : r.primitive ≠ some .never)
    (isUnion : r'.category = .union) (unnamed : r'.primitive = none) :
    form source target r.toTypeFacts r'.toTypeFacts = .intoUnion := by
  simp [form, different, inhabited, isUnion, unnamed]

/-- A union is compared with something else by taking its members apart. -/
theorem form_outOfUnion (different : source ≠ target) (isUnion : r.category = .union)
    (unnamed : r.primitive = none) (other : r'.category ≠ .union)
    (something : ¬(r'.primitive = some .any ∨ r'.primitive = some .unknown)) :
    form source target r.toTypeFacts r'.toTypeFacts = .outOfUnion := by
  simp [form, different, isUnion, unnamed, other, not_or.1 something]

end Assignability

open Assignability (compares_self compares_never compares_anything exists_record_of_compares
  comes_assignable)

/-! ## A union on the right -/

/-- A type is the union of these members. -/
structure State.IsUnion (s : State) (t : TypeId) (members : List TypeId) : Prop where
  known : ∃ r, s.records[t]? = some r ∧ r.category = .union ∧ r.primitive = none
  told : s.Foretells (fun ask => ask.members t) members

/-- What a type comes to through any nesting of unions: the unions on the way, and the leaves,
which are no unions. -/
inductive State.Spreads (s : State) : TypeId → List TypeId → List TypeId → Prop where
  | leaf {t : TypeId} {r : TypeRecord} (known : s.records[t]? = some r)
      (other : r.category ≠ .union) : Spreads s t [] [t]
  | union {t : TypeId} {parts : List (TypeId × List TypeId × List TypeId)}
      (isUnion : s.IsUnion t (parts.map Prod.fst)) (some : parts ≠ [])
      (each : ∀ part ∈ parts, Spreads s part.1 part.2.1 part.2.2) :
      Spreads s t (t :: parts.flatMap fun part => part.2.1) (parts.flatMap fun part => part.2.2)

namespace State.Spreads

variable {s : State} {t source : TypeId} {unions leaves : List TypeId}

theorem exists_leaf (spread : s.Spreads t unions leaves) : ∃ l, l ∈ leaves := by
  induction spread with
  | leaf => exact ⟨_, List.mem_singleton_self _⟩
  | @union t parts _ some _ ih =>
      obtain ⟨part, among⟩ := List.exists_mem_of_ne_nil parts some
      obtain ⟨l, inside⟩ := ih part among
      exact ⟨l, List.mem_flatMap.2 ⟨part, among, inside⟩⟩

theorem leaf_record (spread : s.Spreads t unions leaves) {l : TypeId} (among : l ∈ leaves) :
    ∃ r, s.records[l]? = some r ∧ r.category ≠ .union := by
  induction spread with
  | leaf known other =>
      obtain rfl := List.mem_singleton.1 among
      exact ⟨_, known, other⟩
  | union _ _ _ ih =>
      obtain ⟨part, listed, inside⟩ := List.mem_flatMap.1 among
      exact ih part listed inside

theorem self_mem (spread : s.Spreads t unions leaves) : t ∈ unions ∨ t ∈ leaves := by
  cases spread with
  | leaf => exact .inr (List.mem_singleton_self _)
  | union => exact .inl List.mem_cons_self

/-- The members of a union on the way are on the way or leaves. -/
theorem member_mem (spread : s.Spreads t unions leaves) {members : List TypeId} {m : TypeId}
    (here : source ∈ unions) (isUnion : s.IsUnion source members) (among : m ∈ members) :
    m ∈ unions ∨ m ∈ leaves := by
  induction spread with
  | leaf => cases here
  | @union t parts isUnion' _ each ih =>
      simp only [List.mem_cons, List.mem_flatMap]
      -- The part in which the member is found.
      suffices inside : ∃ part ∈ parts, m ∈ part.2.1 ∨ m ∈ part.2.2 by
        obtain ⟨part, listed, union | leaf⟩ := inside
        · exact .inl (.inr ⟨part, listed, union⟩)
        · exact .inr ⟨part, listed, leaf⟩
      rcases List.mem_cons.1 here with rfl | deeper
      · rw [isUnion.told.unique isUnion'.told] at among
        obtain ⟨part, listed, rfl⟩ := List.mem_map.1 among
        exact ⟨part, listed, (each part listed).self_mem⟩
      · obtain ⟨part, listed, inside⟩ := List.mem_flatMap.1 deeper
        exact ⟨part, listed, ih part listed inside⟩

/-- A type is accepted if it is one of the unions on the way or a leaf accepts it. -/
theorem compares (spread : s.Spreads t unions leaves) {r : TypeRecord}
    (known : s.records[source]? = some r)
    (verdicts : ∀ l ∈ leaves, ∃ verdict, s.Compares source l verdict) :
    ∃ verdict, s.Compares source t verdict ∧
      (verdict = true ↔ source ∈ unions ∨ ∃ l ∈ leaves, s.Compares source l true) := by
  induction spread with
  | @leaf t =>
      obtain ⟨verdict, compared⟩ := verdicts t (List.mem_singleton_self _)
      refine ⟨verdict, compared, ?_⟩
      simp only [List.not_mem_nil, false_or, List.mem_singleton, exists_eq_left]
      exact ⟨fun yes => yes ▸ compared, compared.unique⟩
  | @union t parts isUnion some each ih =>
      obtain ⟨r', known', category, unnamed⟩ := isUnion.known
      by_cases same : source = t
      · subst same
        exact ⟨true, compares_self known, by simp⟩
      by_cases never : r.primitive = Option.some .never
      · have spread := State.Spreads.union isUnion some each
        obtain ⟨l, among⟩ := spread.exists_leaf
        obtain ⟨r'', known'', -⟩ := spread.leaf_record among
        exact ⟨true, compares_never known never known',
          iff_of_true rfl (.inr ⟨l, among, compares_never known never known''⟩)⟩
      have inner (part) (listed : part ∈ parts) := ih part listed fun l among =>
        verdicts l (List.mem_flatMap.2 ⟨part, listed, among⟩)
      have each (m) (among : m ∈ parts.map Prod.fst) : ∃ verdict, s.Compares source m verdict := by
        obtain ⟨part, listed, rfl⟩ := List.mem_map.1 among
        obtain ⟨verdict, compared, -⟩ := inner part listed
        exact ⟨verdict, compared⟩
      obtain ⟨verdict, foretold, iff⟩ := Foretells.anyM each
      refine ⟨verdict, comes_assignable (fun _ => id) known known' ?_, ?_⟩
      · rw [Assignability.form_intoUnion same never category unnamed]
        exact isUnion.told.bind foretold
      have accepted (part) (listed : part ∈ parts) : s.Compares source part.1 true ↔
          source ∈ part.2.1 ∨ ∃ l ∈ part.2.2, s.Compares source l true := by
        obtain ⟨verdict, compared, iff⟩ := inner part listed
        exact ⟨fun yes => iff.1 (compared.unique yes), fun inside => iff.2 inside ▸ compared⟩
      rw [iff]
      simp only [List.mem_cons, same, false_or, List.mem_flatMap]
      constructor
      · rintro ⟨m, among, yes⟩
        obtain ⟨part, listed, rfl⟩ := List.mem_map.1 among
        rcases (accepted part listed).1 yes with union | ⟨l, leaf, compared⟩
        · exact .inl ⟨part, listed, union⟩
        · exact .inr ⟨l, ⟨part, listed, leaf⟩, compared⟩
      · rintro (⟨part, listed, union⟩ | ⟨l, ⟨part, listed, leaf⟩, compared⟩)
        · exact ⟨_, List.mem_map_of_mem listed, (accepted part listed).2 (.inl union)⟩
        · exact ⟨_, List.mem_map_of_mem listed, (accepted part listed).2 (.inr ⟨l, leaf, compared⟩)⟩

end State.Spreads

/-! ## A union on the left -/

section OnTheLeft

variable {s : State} {source target : TypeId} {members unions leaves : List TypeId}

/-- A type that is no union accepts a union if it accepts all members. -/
theorem compares_outOfUnion (isUnion : s.IsUnion source members) {r' : TypeRecord}
    (known' : s.records[target]? = some r') (other : r'.category ≠ .union)
    (verdicts : ∀ m ∈ members, ∃ verdict, s.Compares m target verdict) :
    ∃ verdict, s.Compares source target verdict ∧
      (verdict = true ↔ ∀ m ∈ members, s.Compares m target true) := by
  obtain ⟨r, known, category, unnamed⟩ := isUnion.known
  by_cases anything : r'.primitive = some .any ∨ r'.primitive = some .unknown
  · refine ⟨true, compares_anything known known' anything, iff_of_true rfl fun m among => ?_⟩
    obtain ⟨verdict, compared⟩ := verdicts m among
    obtain ⟨r'', known''⟩ := exists_record_of_compares compared
    exact compares_anything known'' known' anything
  · have different : source ≠ target := by
      rintro rfl
      cases known.symm.trans known'
      exact other category
    obtain ⟨verdict, foretold, iff⟩ := State.Foretells.allM
      (f := fun ask m => ask.assignable m target) verdicts
    refine ⟨verdict, comes_assignable (fun _ => id) known known' ?_, iff⟩
    rw [Assignability.form_outOfUnion different category unnamed other anything]
    exact isUnion.told.bind foretold

/-- One leaf must accept all members of a union, unless the union itself is met on the way to
the leaves. -/
theorem compares_union (isUnion : s.IsUnion source members)
    (spread : s.Spreads target unions leaves)
    (verdicts : ∀ m ∈ members, ∀ l ∈ leaves, ∃ verdict, s.Compares m l verdict) :
    ∃ verdict, s.Compares source target verdict ∧ (verdict = true ↔
      source ∈ unions ∨ ∃ l ∈ leaves, ∀ m ∈ members, s.Compares m l true) := by
  have atLeaf (l) (leaf : l ∈ leaves) : ∃ verdict, s.Compares source l verdict ∧
      (verdict = true ↔ ∀ m ∈ members, s.Compares m l true) := by
    obtain ⟨r', known', other⟩ := spread.leaf_record leaf
    exact compares_outOfUnion isUnion known' other fun m among => verdicts m among l leaf
  obtain ⟨r, known, -⟩ := isUnion.known
  obtain ⟨verdict, compared, iff⟩ := spread.compares known fun l leaf => by
    obtain ⟨verdict, compared, -⟩ := atLeaf l leaf
    exact ⟨verdict, compared⟩
  refine ⟨verdict, compared, iff.trans ?_⟩
  refine or_congr_right (exists_congr fun l => and_congr_right fun leaf => ?_)
  obtain ⟨verdict, compared, iff⟩ := atLeaf l leaf
  exact ⟨fun yes => iff.1 (compared.unique yes), fun all => iff.2 all ▸ compared⟩

/-- How a union is compared with a type, if its members can be compared with the leaves of the
type: one leaf must accept all members, unless the union itself is met on the way to the leaves.
Each member by itself is accepted if one leaf accepts it. So the members of a union that is
accepted are accepted; and if the type is no union, a union is accepted if its members are. -/
theorem union_assignable_iff (isUnion : s.IsUnion source members)
    (spread : s.Spreads target unions leaves)
    (verdicts : ∀ m ∈ members, ∀ l ∈ leaves, ∃ verdict, s.Compares m l verdict) :
    ∃ verdict, s.Compares source target verdict ∧
      (verdict = true ↔
        source ∈ unions ∨ ∃ l ∈ leaves, ∀ m ∈ members, s.Compares m l true) ∧
      (∀ m ∈ members, ∃ verdict, s.Compares m target verdict ∧
        (verdict = true ↔ m ∈ unions ∨ ∃ l ∈ leaves, s.Compares m l true)) ∧
      (verdict = true → ∀ m ∈ members, s.Compares m target true) ∧
      (unions = [] → (verdict = true ↔ ∀ m ∈ members, s.Compares m target true)) := by
  obtain ⟨verdict, compared, whole⟩ := compares_union isUnion spread verdicts
  have recorded (m) (among : m ∈ members) : ∃ r, s.records[m]? = some r := by
    obtain ⟨l, leaf⟩ := spread.exists_leaf
    obtain ⟨verdict, compared⟩ := verdicts m among l leaf
    exact exists_record_of_compares compared
  have single (m) (among : m ∈ members) : ∃ verdict, s.Compares m target verdict ∧
      (verdict = true ↔ m ∈ unions ∨ ∃ l ∈ leaves, s.Compares m l true) := by
    obtain ⟨r', known'⟩ := recorded m among
    exact spread.compares known' (verdicts m among)
  have necessary (yes : verdict = true) (m) (among : m ∈ members) : s.Compares m target true := by
    obtain ⟨verdict', compared', iff'⟩ := single m among
    obtain rfl : verdict' = true := iff'.2 <| by
      rcases whole.1 yes with here | ⟨l, leaf, all⟩
      · refine (spread.member_mem here isUnion among).imp_right fun leaf => ⟨m, leaf, ?_⟩
        obtain ⟨r', known'⟩ := recorded m among
        exact compares_self known'
      · exact .inr ⟨l, leaf, all m among⟩
    exact compared'
  refine ⟨verdict, compared, whole, single, necessary, fun none => ⟨necessary, fun all => ?_⟩⟩
  cases spread with
  | leaf => exact whole.2 (.inr ⟨target, List.mem_singleton_self _, all⟩)
  | union => cases none

end OnTheLeft

/-- Three texts, the union of the first two, and the union of all. -/
def threeTexts : State :=
  { records := #[text "a", text "b", text "c", union [0, 1], union [0, 1, 2]] }
where
  text (s : String) : TypeRecord :=
    { category := .literal, primitive := some .string, value := .text s }
  union (members : List TypeId) : TypeRecord :=
    { category := .union, cache := { members := some members } }

theorem threeTexts_spreads : threeTexts.Spreads 4 [4] [0, 1, 2] := by
  let parts : List (TypeId × List TypeId × List TypeId) :=
    [(0, [], [0]), (1, [], [1]), (2, [], [2])]
  have isUnion : threeTexts.IsUnion 4 (parts.map Prod.fst) :=
    ⟨⟨_, rfl, rfl, rfl⟩, .members rfl rfl⟩
  refine .union isUnion (List.cons_ne_nil _ _) ?_
  simp only [parts]
  simp only [List.mem_cons, List.not_mem_nil, or_false, forall_eq_or_imp, forall_eq]
  exact ⟨.leaf rfl (by decide), .leaf rfl (by decide), .leaf rfl (by decide)⟩

/-- The comparison of two of the texts. -/
theorem threeTexts_compares {m l : TypeId} (isText : m ∈ [0, 1, 2]) (isText' : l ∈ [0, 1, 2]) :
    threeTexts.Compares m l (m == l) := by
  simp only [List.mem_cons, List.not_mem_nil, or_false] at isText isText'
  rcases isText with rfl | rfl | rfl <;> rcases isText' with rfl | rfl | rfl <;>
    exact Assignability.compares_of_known rfl rfl rfl

/-- Two texts are not assignable to the union of them and a third, although each of them is. -/
theorem union_assignable_iff_threeTexts :
    threeTexts.IsUnion 3 [0, 1] ∧ threeTexts.Spreads 4 [4] [0, 1, 2] ∧
      threeTexts.Compares 3 4 false ∧ ∀ m ∈ [0, 1], threeTexts.Compares m 4 true := by
  have isUnion : threeTexts.IsUnion 3 [0, 1] := ⟨⟨_, rfl, rfl, rfl⟩, .members rfl rfl⟩
  have isText (m) (among : m ∈ [0, 1]) : m ∈ [0, 1, 2] :=
    List.mem_append_left [2] among
  obtain ⟨verdict, compared, whole, single, -⟩ := union_assignable_iff isUnion threeTexts_spreads
    fun m among l leaf => ⟨_, threeTexts_compares (isText m among) leaf⟩
  refine ⟨isUnion, threeTexts_spreads, ?_, fun m among => ?_⟩
  · cases verdict with
    | false => exact compared
    | true =>
        rcases whole.1 rfl with union | ⟨l, leaf, all⟩
        · simp at union
        -- One text would be both.
        · have first := (threeTexts_compares (isText 0 (by simp)) leaf).unique (all 0 (by simp))
          have second := (threeTexts_compares (isText 1 (by simp)) leaf).unique (all 1 (by simp))
          exact absurd ((beq_iff_eq.1 first).trans (beq_iff_eq.1 second).symm) (by decide)
  · obtain ⟨verdict, compared, iff⟩ := single m among
    have own : threeTexts.Compares m m true := by
      simpa using threeTexts_compares (isText m among) (isText m among)
    exact iff.2 (.inr ⟨m, isText m among, own⟩) ▸ compared

end TypeGloss
