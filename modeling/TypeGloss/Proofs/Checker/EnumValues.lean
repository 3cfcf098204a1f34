/-
# TypeGloss.Proofs.Checker.EnumValues — the values of enum members

The members of an enum are listed part by part. A member without an initializer has zero if it is
the first, and one more than the member before it if that one is an integer. A member with an
initializer should have the value that the initializer has where the earlier members are constants,
and those of them that were not evaluated denote nothing.

But a member that was not evaluated is listed with null, and null is what its name means in the
initializers after it. So an initializer that reads such a member can have a value all the same, and
the members after it go on from there. Those are the only members whose value is not the promised
one (`Adds.resting`); `Enum.run_members` says that the list is made by these rules.
-/
import TypeGloss.Proofs.Checker.Steady
import TypeGloss.Proofs.Evaluation.Monotone
import TypeGloss.Proofs.Evaluation.Withheld

namespace TypeGloss

set_option autoImplicit false

namespace Enum

open Expression

/-! ## Rules -/

/-- A member with the value that it is listed with; `evaluated` tells whether this is the value
that the member has by its initializer, or by those that it counts on from. -/
structure Entry where
  name : String
  value : Value
  evaluated : Bool

/-- A member as it is listed. -/
def Entry.listed (entry : Entry) : String × Value := (entry.name, entry.value)

/-- The names whose last member was not evaluated. -/
def unevaluated (entries : List Entry) : List String :=
  Entries.names ((Entries.ofList (entries.map fun entry => (entry.name, entry.evaluated))).filter
    fun item => !item.2)

/-- The parts of a body that are members without an initializer. -/
def plainMembers : List String := ["property_identifier", "string", "number"]

/-- A part of a body is named so. -/
def Named (part : Cursor) (name : String) : Prop :=
  ∃ node, nameNode? part = some node ∧ Literal.memberName node.focus = .ok name

/-- The initializer of a member. -/
def initializer? (part : Cursor) : Option Tree :=
  (part.field? "value").map Cursor.focus

/-- What names mean in the initializer of a member: the earlier members are constants. -/
def contextAt (program : Program) (source : Source) (part : Cursor)
    (earlier : List (String × Value)) : Expression.Context where
  lookup := some (Lookup.initializersAt program source part)
  constants := Entries.ofList (Value.constants earlier)

section Rules

variable (program : Program) (source : Source)

/-- What names mean in the initializer of a member after others, as these are listed. -/
def listedContext (entries : List Entry) (part : Cursor) : Expression.Context :=
  contextAt program source part (entries.map Entry.listed)

/-- The same, but members that were not evaluated denote nothing. -/
def promisedContext (entries : List Entry) (part : Cursor) : Expression.Context :=
  (listedContext program source entries part).withhold (unevaluated entries)

/-- A member has a value though it was not evaluated: its initializer reads members before it that
were not evaluated either, and has this value with null for them. -/
structure Rests (entries : List Entry) (part : Cursor) (v : Value) : Prop where
  assigned : part.kind = "enum_assignment"
  promised : value? (promisedContext program source entries part) (initializer? part) = .ok none
  listed : value? (listedContext program source entries part) (initializer? part) = .ok (some v)
  reads : ∃ t, initializer? part = some t ∧
    Expression.Reads (listedContext program source entries part) (unevaluated entries)
      (maxDepth + 1) [] t

/-- What one part of a body adds to the members before it. -/
inductive Adds (entries : List Entry) (part : Cursor) : List Entry → Prop where
  | other (isOther : part.kind ∉ "enum_assignment" :: plainMembers) : Adds entries part []
  | first {name : String} (plain : part.kind ∈ plainMembers) (named : Named part name)
      (isFirst : entries = []) : Adds entries part [⟨name, .integer 0, true⟩]
  | next {name : String} {last : Entry} {n : Int} (plain : part.kind ∈ plainMembers)
      (named : Named part name) (before : entries.getLast? = some last)
      (isInteger : last.value = .integer n) :
      Adds entries part [⟨name, .integer (n + 1), last.evaluated⟩]
  | stuck {name : String} {last : Entry} (plain : part.kind ∈ plainMembers)
      (named : Named part name) (before : entries.getLast? = some last)
      (noInteger : ∀ n, last.value ≠ .integer n) : Adds entries part [⟨name, .null, false⟩]
  | evaluated {name : String} {v : Value} (assigned : part.kind = "enum_assignment")
      (named : Named part name)
      (promised : value? (promisedContext program source entries part) (initializer? part) =
        .ok (some v)) : Adds entries part [⟨name, v, true⟩]
  | unresolved {name : String} (assigned : part.kind = "enum_assignment") (named : Named part name)
      (promised : value? (promisedContext program source entries part) (initializer? part) =
        .ok none)
      (listed : value? (listedContext program source entries part) (initializer? part) =
        .ok none) : Adds entries part [⟨name, .null, false⟩]
  | resting {name : String} {v : Value} (rests : Rests program source entries part v)
      (named : Named part name) : Adds entries part [⟨name, v, false⟩]

/-- The members of a body, in the order of its parts. -/
inductive Lists : List Cursor → List Entry → Prop where
  | nil : Lists [] []
  | snoc {parts : List Cursor} {entries new : List Entry} {part : Cursor}
      (earlier : Lists parts entries) (adds : Adds program source entries part new) :
      Lists (parts ++ [part]) (entries ++ new)

end Rules

/-! ## One part -/

section Runs

variable {program : Program} {source : Source} {part : Cursor} {s : State}

theorem memberName_timeless (part : Cursor) : Timeless (memberName part) := by
  unfold memberName
  cases nameNode? part with
  | none => exact .throw _
  | some node => exact Check.ofResult_timeless _

theorem outcome_memberName {name : String} :
    outcome (memberName part) s = .ok name ↔ Named part name := by
  unfold memberName Named
  cases nameNode? part with
  | none =>
      refine iff_of_false (fun returned => ?_) ?_
      · cases returned
      · rintro ⟨node, found, -⟩
        cases found
  | some node =>
      simp only [Check.need, pure_bind, Check.outcome_ofResult, Option.some.injEq, exists_eq_left']

theorem initialized_timeless (source : Source) (part : Cursor) (earlier : List (String × Value)) :
    Timeless (initialized source part earlier) :=
  Check.program_timeless.bind fun _ => (Check.ofResult_timeless _).bind fun _ => .pure _

/-- An initializer whose value stays open stands for null. -/
theorem outcome_initialized {earlier : List (String × Value)} {v : Value} :
    outcome (initialized source part earlier) s = .ok v ↔
      ∃ result, value? (contextAt s.toProgram source part earlier) (initializer? part) =
        .ok result ∧ v = result.getD .null := by
  unfold initialized
  rw [Check.program_timeless.outcome_bind_iff]
  constructor
  · rintro ⟨program, asked, rest⟩
    cases asked
    obtain ⟨result, given, rest⟩ := (Check.ofResult_timeless _).outcome_bind_iff.1 rest
    cases rest
    exact ⟨result, (Check.outcome_ofResult _ s).symm.trans given, rfl⟩
  · rintro ⟨result, given, rfl⟩
    refine ⟨s.toProgram, rfl, (Check.ofResult_timeless _).outcome_bind_iff.2 ⟨result, ?_, rfl⟩⟩
    exact (Check.outcome_ofResult _ s).trans given

theorem addMember_timeless (source : Source) (members : List (String × Value)) (part : Cursor) :
    Timeless (addMember source members part) := by
  unfold addMember
  split
  · exact (memberName_timeless part).bind fun _ =>
      (initialized_timeless source part members).bind fun _ => .pure _
  · split
    · exact (memberName_timeless part).bind fun _ => .pure _
    · exact .pure _

/-- A member with an initializer is listed with the value that this has by the earlier members as
they are listed, and null if it has none. -/
theorem outcome_addMember_assigned {members found : List (String × Value)}
    (assigned : part.kind = "enum_assignment") :
    outcome (addMember source members part) s = .ok found ↔ ∃ name result, Named part name ∧
      value? (contextAt s.toProgram source part members) (initializer? part) = .ok result ∧
      found = members ++ [(name, result.getD .null)] := by
  simp only [addMember, assigned, beq_self_eq_true, if_true,
    (memberName_timeless part).outcome_bind_iff,
    (initialized_timeless source part members).outcome_bind_iff, outcome_memberName,
    outcome_initialized]
  constructor
  · rintro ⟨name, named, _, ⟨result, given, rfl⟩, returned⟩
    cases returned
    exact ⟨name, result, named, given, rfl⟩
  · rintro ⟨name, result, named, given, rfl⟩
    exact ⟨name, named, _, ⟨result, given, rfl⟩, rfl⟩

/-- A member without an initializer gets the number that follows. -/
theorem outcome_addMember_plain {members found : List (String × Value)}
    (plain : part.kind ∈ plainMembers) :
    outcome (addMember source members part) s = .ok found ↔ ∃ name, Named part name ∧
      found = members ++ [(name, following members)] := by
  have unassigned : part.kind ≠ "enum_assignment" := by
    intro same
    rw [same] at plain
    exact absurd plain (by decide)
  have isPlain : ["property_identifier", "string", "number"].contains part.kind = true :=
    List.contains_iff_mem.2 plain
  simp only [addMember, beq_eq_false_iff_ne.2 unassigned, Bool.false_eq_true, if_false, isPlain,
    if_true, (memberName_timeless part).outcome_bind_iff, outcome_memberName]
  constructor
  · rintro ⟨name, named, returned⟩
    cases returned
    exact ⟨name, named, rfl⟩
  · rintro ⟨name, named, rfl⟩
    exact ⟨name, named, rfl⟩

theorem addMember_other {members : List (String × Value)}
    (isOther : part.kind ∉ "enum_assignment" :: plainMembers) :
    addMember source members part = pure members := by
  obtain ⟨unassigned, noPlain⟩ := not_or.1 (mt List.mem_cons.2 isOther)
  have isNone : ["property_identifier", "string", "number"].contains part.kind = false :=
    Bool.eq_false_iff.2 (mt List.contains_iff_mem.1 noPlain)
  simp only [addMember, beq_eq_false_iff_ne.2 unassigned, Bool.false_eq_true, if_false, isNone]

/-- What a member without an initializer is listed with. -/
theorem following_listed (entries : List Entry) :
    following (entries.map Entry.listed) =
      match entries.getLast? with
      | none => .integer 0
      | some last => match last.value with
        | .integer n => .integer (n + 1)
        | _ => .null := by
  cases entries using List.reverseRecOn with
  | nil => rfl
  | append_singleton entries last _ =>
      rw [List.getLast?_concat, List.map_append, List.map_singleton]
      unfold following
      split
      · next none => simp at none
      · rw [List.getLast?_concat]
        obtain ⟨name, value, evaluated⟩ := last
        cases value <;> rfl

variable {entries : List Entry} {found : List (String × Value)}

theorem Adds.of_plain {name : String} (plain : part.kind ∈ plainMembers)
    (named : Named part name) : ∃ new, Adds program source entries part new ∧
      new.map Entry.listed = [(name, following (entries.map Entry.listed))] := by
  rw [following_listed]
  cases before : entries.getLast? with
  | none => exact ⟨_, .first plain named (List.getLast?_eq_none_iff.1 before), rfl⟩
  | some last =>
      by_cases isInteger : ∃ n, last.value = .integer n
      · obtain ⟨n, isInteger⟩ := isInteger
        refine ⟨_, .next plain named before isInteger, ?_⟩
        simp [Entry.listed, isInteger]
      · refine ⟨_, .stuck plain named before (not_exists.1 isInteger), ?_⟩
        have nothing : (match last.value with
            | .integer n => Value.integer (n + 1)
            | _ => .null) = .null := by
          split
          · next n same => exact absurd ⟨n, same⟩ isInteger
          · rfl
        simp [Entry.listed, nothing]

/-- An initializer has its promised value, or none either way, or the member rests on others. -/
theorem Adds.of_assigned {name : String} {result : Option Value}
    (assigned : part.kind = "enum_assignment") (named : Named part name)
    (listed : value? (listedContext program source entries part) (initializer? part) =
      .ok result) : ∃ new, Adds program source entries part new ∧
        new.map Entry.listed = [(name, result.getD .null)] := by
  have promised : value? (promisedContext program source entries part) (initializer? part) =
        .ok result ∨
      value? (promisedContext program source entries part) (initializer? part) = .ok none ∧
        ∃ t, initializer? part = some t ∧
          Expression.Reads (listedContext program source entries part) (unevaluated entries)
            (maxDepth + 1) [] t := by
    cases initializer : initializer? part with
    | none =>
        rw [initializer] at listed
        exact .inl listed
    | some t =>
        rw [initializer] at listed
        refine (value?_withheld _ (unevaluated entries) t).imp (fun same => same.trans listed) ?_
        rintro ⟨promised, reads⟩
        exact ⟨promised, t, rfl, reads⟩
  rcases promised with promised | ⟨promised, reads⟩
  · cases result with
    | none => exact ⟨_, .unresolved assigned named promised listed, rfl⟩
    | some v => exact ⟨_, .evaluated assigned named promised, rfl⟩
  · cases result with
    | none => exact ⟨_, .unresolved assigned named promised listed, rfl⟩
    | some v => exact ⟨_, .resting ⟨assigned, promised, listed, reads⟩ named, rfl⟩

/-- The promised value of an initializer is its value by the listed members too. -/
theorem listed_of_promised {v : Value}
    (promised : value? (promisedContext program source entries part) (initializer? part) =
      .ok (some v)) :
    value? (listedContext program source entries part) (initializer? part) = .ok (some v) := by
  cases initializer : initializer? part with
  | none =>
      rw [initializer] at promised
      cases promised
  | some t =>
      rw [initializer] at promised
      rcases value?_withheld (listedContext program source entries part) (unevaluated entries) t
        with same | ⟨nothing, -⟩
      · exact same.symm.trans promised
      · cases promised.symm.trans nothing

/-- One part adds what the rules say, and that it does without failing. -/
theorem outcome_addMember :
    outcome (addMember source (entries.map Entry.listed) part) s = .ok found ↔
      ∃ new, Adds s.toProgram source entries part new ∧
        found = (entries ++ new).map Entry.listed := by
  simp only [List.map_append]
  constructor
  · intro returned
    by_cases assigned : part.kind = "enum_assignment"
    · obtain ⟨name, result, named, given, rfl⟩ := (outcome_addMember_assigned assigned).1 returned
      obtain ⟨new, adds, listed⟩ := Adds.of_assigned assigned named given
      exact ⟨new, adds, by rw [listed]⟩
    · by_cases plain : part.kind ∈ plainMembers
      · obtain ⟨name, named, rfl⟩ := (outcome_addMember_plain plain).1 returned
        obtain ⟨new, adds, listed⟩ := Adds.of_plain plain named
        exact ⟨new, adds, by rw [listed]⟩
      · have isOther := mt List.mem_cons.1 (not_or.2 ⟨assigned, plain⟩)
        rw [addMember_other isOther] at returned
        cases returned
        exact ⟨[], .other isOther, (List.append_nil _).symm⟩
  · rintro ⟨new, adds, rfl⟩
    cases adds with
    | other isOther =>
        rw [addMember_other isOther]
        exact congrArg Except.ok (List.append_nil _).symm
    | first plain named isFirst =>
        refine (outcome_addMember_plain plain).2 ⟨_, named, ?_⟩
        rw [following_listed, isFirst]
        rfl
    | next plain named before isInteger =>
        refine (outcome_addMember_plain plain).2 ⟨_, named, ?_⟩
        simp only [following_listed, before, isInteger]
        rfl
    | @stuck name last plain named before noInteger =>
        refine (outcome_addMember_plain plain).2 ⟨_, named, ?_⟩
        rw [following_listed, before]
        obtain ⟨_, value, _⟩ := last
        cases value with
        | integer n => exact absurd rfl (noInteger n)
        | _ => rfl
    | evaluated assigned named promised =>
        have listed := listed_of_promised promised
        exact (outcome_addMember_assigned assigned).2 ⟨_, _, named, listed, rfl⟩
    | unresolved assigned named _ listed =>
        exact (outcome_addMember_assigned assigned).2 ⟨_, _, named, listed, rfl⟩
    | resting rests named =>
        exact (outcome_addMember_assigned rests.assigned).2 ⟨_, _, named, rests.listed, rfl⟩

/-! ## All parts -/

/-- The last part of a body adds to what the parts before it list. -/
theorem Lists.concat_iff {parts : List Cursor} {all : List Entry} :
    Lists program source (parts ++ [part]) all ↔ ∃ entries new, Lists program source parts entries ∧
      Adds program source entries part new ∧ all = entries ++ new := by
  refine ⟨fun lists => ?_, fun ⟨entries, new, earlier, adds, same⟩ => same ▸ .snoc earlier adds⟩
  generalize split : parts ++ [part] = whole at lists
  cases lists with
  | nil => simp at split
  | snoc earlier adds =>
      obtain ⟨rfl, rfl⟩ := List.append_singleton_inj.1 split
      exact ⟨_, _, earlier, adds, rfl⟩

theorem foldlM_timeless (source : Source) (parts : List Cursor) (members : List (String × Value)) :
    Timeless (parts.foldlM (addMember source) members) :=
  .foldlM (addMember_timeless source) parts members

/-- The fold over a body lists exactly the entries of its parts. -/
theorem outcome_foldlM {parts : List Cursor} :
    outcome (parts.foldlM (addMember source) []) s = .ok found ↔
      ∃ entries, Lists s.toProgram source parts entries ∧ found = entries.map Entry.listed := by
  -- What a member is listed with depends on those before it, so the last one is taken off.
  induction parts using List.reverseRecOn generalizing found with
  | nil =>
      constructor
      · intro returned
        cases returned
        exact ⟨[], .nil, rfl⟩
      · rintro ⟨entries, lists, rfl⟩
        generalize none : ([] : List Cursor) = parts at lists
        cases lists with
        | nil => rfl
        | snoc earlier adds => simp at none
  | append_singleton parts part ih =>
      rw [List.foldlM_append, (foldlM_timeless source parts []).outcome_bind_iff]
      simp only [List.foldlM_cons, List.foldlM_nil, bind_pure, ih, Lists.concat_iff]
      constructor
      · rintro ⟨members, ⟨entries, lists, rfl⟩, returned⟩
        obtain ⟨new, adds, rfl⟩ := outcome_addMember.1 returned
        exact ⟨_, ⟨entries, new, lists, adds, rfl⟩, rfl⟩
      · rintro ⟨_, ⟨entries, new, lists, adds, rfl⟩, rfl⟩
        exact ⟨_, ⟨entries, lists, rfl⟩, outcome_addMember.2 ⟨new, adds, rfl⟩⟩

/-- If no member rests on others, those that were not evaluated have no value. -/
theorem Lists.null_of_not_rests {parts : List Cursor} (lists : Lists program source parts entries)
    (never : ∀ before part after earlier v, parts = before ++ part :: after →
      Lists program source before earlier → ¬Rests program source earlier part v) :
    ∀ entry ∈ entries, entry.evaluated = false → entry.value = .null := by
  induction lists with
  | nil => simp
  | @snoc parts entries new part earlier adds ih =>
      have before := ih fun before other after earlier v split =>
        never before other (after ++ [part]) earlier v (by rw [split]; simp)
      intro entry among
      rcases List.mem_append.1 among with among | among
      · exact before entry among
      · cases adds with
        | other => simp at among
        | first | evaluated =>
            obtain rfl := List.mem_singleton.1 among
            simp
        | stuck | unresolved =>
            obtain rfl := List.mem_singleton.1 among
            exact fun _ => rfl
        | next plain named last isInteger =>
            obtain rfl := List.mem_singleton.1 among
            intro unevaluated
            have null := before _ (List.mem_of_getLast? last) unevaluated
            rw [isInteger] at null
            cases null
        | resting rests => exact absurd rests (never parts part [] entries _ (by simp) earlier)

end Runs

end Enum

/-- The members of an enum are listed by the rules, and the checker learns nothing on the way. A
member has the value that it is promised unless its initializer reads a member that was not
evaluated, or it counts on from such a member. If no initializer has a value by reading one of
them, every member that was not evaluated is null. -/
theorem enum_members_listed (source : Source) (node : Cursor) (s : State) :
    after (Enum.members source node) s = s ∧
    (∀ found, outcome (Enum.members source node) s = .ok found ↔
      ∃ entries, Enum.Lists s.toProgram source (Enum.body node) entries ∧
        found = entries.map Enum.Entry.listed) ∧
    ∀ entries, Enum.Lists s.toProgram source (Enum.body node) entries →
      (∀ before part after earlier v, Enum.body node = before ++ part :: after →
        Enum.Lists s.toProgram source before earlier →
          ¬Enum.Rests s.toProgram source earlier part v) →
      ∀ entry ∈ entries, entry.evaluated = false → entry.value = .null :=
  ⟨(Enum.foldlM_timeless source (Enum.body node) []).unchanged s, fun _ => Enum.outcome_foldlM,
    fun _ lists never => lists.null_of_not_rests never⟩

/-! ### A member that rests on another

`enum E { A = f(), B = A || 5, C }` -/

namespace RestingMember

open Enum
open Expression.Switches (node)

def first : Tree :=
  node "enum_assignment" "A = f()" none
    [node "property_identifier" "A" (some "name"), node "call_expression" "f()" (some "value")]

/-- The initializer of the second member. -/
def either : Tree :=
  node "binary_expression" "A || 5" (some "value")
    [node "identifier" "A" (some "left"), node "||" "||" (some "operator"),
      node "number" "5" (some "right")]

def second : Tree :=
  node "enum_assignment" "B = A || 5" none [node "property_identifier" "B" (some "name"), either]

def third : Tree := node "property_identifier" "C"

def tree : Tree :=
  node "enum_declaration" "enum E { A = f(), B = A || 5, C }" none
    [node "identifier" "E" (some "name"),
      node "enum_body" "{ A = f(), B = A || 5, C }" (some "body") [first, second, third]]

def source : Source := ⟨"a.ts", tree, .ok {}⟩

def enum : Cursor := .ofTree tree

/-- The member at an index. -/
def part (index : Nat) : Cursor := (body enum).getD index enum

theorem named (index : Nat) (name : String) (known : (nameNode? (part index)).map
    (fun node => Literal.memberName node.focus) = some (.ok name)) : Named (part index) name := by
  obtain ⟨node, found, text⟩ := Option.map_eq_some_iff.1 known
  exact ⟨node, found, text⟩

/-- The second member reads the first, which was not evaluated, and has a value. -/
theorem rests : Rests {} source [⟨"A", .null, false⟩] (part 1) (.integer 5) where
  assigned := rfl
  promised := by with_unfolding_all rfl
  listed := by with_unfolding_all rfl
  reads := by
    refine ⟨either, rfl, _, _, _, "A", .deeper (.left rfl rfl) .here, .identifier rfl, ?_, ?_⟩
    · decide
    · decide

theorem lists : Lists {} source (body enum)
    [⟨"A", .null, false⟩, ⟨"B", .integer 5, false⟩, ⟨"C", .integer 6, false⟩] := by
  have one : Lists {} source [part 0] [⟨"A", .null, false⟩] :=
    .snoc .nil (.unresolved rfl (named 0 "A" rfl) (by with_unfolding_all rfl)
      (by with_unfolding_all rfl))
  have two : Lists {} source [part 0, part 1] [⟨"A", .null, false⟩, ⟨"B", .integer 5, false⟩] :=
    .snoc one (.resting rests (named 1 "B" rfl))
  have three : Adds {} source [⟨"A", .null, false⟩, ⟨"B", .integer 5, false⟩] (part 2)
      [⟨"C", .integer (5 + 1), (Entry.mk "B" (.integer 5) false).evaluated⟩] :=
    .next (by decide) (named 2 "C" rfl) rfl rfl
  exact .snoc two three

end RestingMember

open RestingMember in
/-- The second member has a value though the first, which its initializer reads, has none, and the
third counts on from there. -/
theorem enum_members_listed_resting :
    outcome (Enum.members source enum) {} =
      .ok [("A", .null), ("B", .integer 5), ("C", .integer 6)] ∧
    Enum.Rests {} source [⟨"A", .null, false⟩] (part 1) (.integer 5) := by
  obtain ⟨-, returns, -⟩ := enum_members_listed source enum {}
  exact ⟨(returns _).2 ⟨_, lists, rfl⟩, rests⟩

end TypeGloss
