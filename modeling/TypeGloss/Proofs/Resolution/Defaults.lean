/-
# TypeGloss.Proofs.Resolution.Defaults — object defaults one after the other

An object default is pushed down to the properties below a node, and further down where its
entries are objects themselves. `Node.Gains` says what that can do to a tree: a node
without a default may get one, the node itself and those of its properties that are below it in
this way, and that is all. No default that is there is replaced, no other field of any node is
changed, and the properties stay as many as they are and in their order.

So of two object defaults that are pushed down one after the other, the first has precedence. The
result is that of their merge, the first written over the second (`Node.pushDefaults_merged`).
Entries are taken whole: a property that has got an object gets nothing from the second default,
neither for itself nor for what is below it, just as writing an entry replaces the whole of it.
-/
import TypeGloss.Proofs.Resolution.Pushing

namespace TypeGloss.Node

set_option autoImplicit false

variable {node : Node} {first second defaults more : Entries Value}

/-! ## What a property takes -/

/-- What a property takes of two tables, of which one was written over the other. -/
theorem taken?_putAll (nodup : (Entries.names more).Nodup) (node : Node) :
    taken? (Entries.putAll defaults more) node = (taken? more node).or (taken? defaults node) := by
  unfold taken?
  split
  · rfl
  · cases node.header.name with
    | none => rfl
    | some name => exact Entries.find?_putAll name defaults nodup

theorem takeDefault_congr (same : taken? defaults node = taken? more node) :
    node.takeDefault defaults = node.takeDefault more := by
  rw [takeDefault, takeDefault, same]

/-- A property that has taken a default has one. -/
theorem hasDefault_takeDefault {v : Value} (taken : taken? defaults node = some v) :
    (node.takeDefault defaults).hasDefault = true := by
  rw [takeDefault, taken]
  cases v <;> simp only [hasDefault, withDefault, header_mapHeader, Option.isSome_some]

/-- A property with a default takes no other. -/
theorem takeDefault_of_hasDefault (has : node.hasDefault = true) (defaults : Entries Value) :
    node.takeDefault defaults = node :=
  takeDefault_of_none (by rw [taken?, if_pos has])

/-- Defaults taken one after the other are the defaults of both, the second before the first. -/
theorem takeDefault_takeDefault (nodup : (Entries.names first).Nodup) (node : Node) :
    (node.takeDefault first).takeDefault second =
      node.takeDefault (Entries.putAll second first) := by
  have merged : taken? (Entries.putAll second first) node =
      (taken? first node).or (taken? second node) := taken?_putAll nodup node
  cases taken : taken? first node with
  | some v =>
      rw [taken, Option.some_or, ← taken] at merged
      rw [takeDefault_of_hasDefault (hasDefault_takeDefault taken), takeDefault_congr merged]
  | none =>
      rw [taken, Option.none_or] at merged
      rw [takeDefault_of_none taken, takeDefault_congr merged]

theorem takeDefault_idem (node : Node) :
    (node.takeDefault defaults).takeDefault defaults = node.takeDefault defaults := by
  cases taken : taken? defaults node with
  | some v => exact takeDefault_of_hasDefault (hasDefault_takeDefault taken) defaults
  | none => rw [takeDefault_of_none taken, takeDefault_of_none taken]

/-! ## What becomes of a tree -/

theorem withFields_withFields (fields others : List Node) (node : Node) :
    (node.withFields fields).withFields others = node.withFields others := by
  cases node <;> rfl

theorem fields_of_hasFields_eq_false (without : node.hasFields = false) : node.fields = [] := by
  cases node <;> first | rfl | cases without

/-- Defaults are pushed down once and then again. -/
theorem pushDefaults_pushDefaults (node : Node) :
    (node.pushDefaults first).pushDefaults second =
      node.withFields (node.fields.map fun p => (p.takeDefault first).takeDefault second) := by
  rw [pushDefaults_eq first, pushDefaults_eq second, withFields_withFields]
  cases has : node.hasFields with
  | true => rw [fields_withFields has, List.map_map]; rfl
  | false =>
      have none : (node.withFields (node.fields.map (takeDefault first))).fields = [] :=
        fields_of_hasFields_eq_false (by rw [hasFields_withFields, has])
      rw [none, fields_of_hasFields_eq_false has, List.map_nil, List.map_nil]

/-- A node has got a default, if it had none, and so have properties of it, each in its place. -/
inductive Gains : Node → Node → Prop where
  | mk {node : Node} {fields : List Node} (given : Option Value)
      (each : List.Forall₂ Gains node.fields fields) :
      Gains node ((node.withFields fields).mapHeader fun header =>
        { header with default := header.default.or given })

theorem mapHeader_congr {f g : Header → Header} (same : f node.header = g node.header) :
    node.mapHeader f = node.mapHeader g := by
  cases node <;> simp only [mapHeader, header] at same ⊢ <;> rw [same]

namespace Gains

/-- Properties have gained, and the node itself has nothing new. -/
theorem of_fields {fields : List Node} (each : List.Forall₂ Gains node.fields fields) :
    node.Gains (node.withFields fields) := by
  have gains := Gains.mk none each
  have kept : ((node.withFields fields).mapHeader fun header =>
      { header with default := header.default.or none }) = node.withFields fields := by
    rw [mapHeader_congr (g := id) (by rw [Option.or_none]; rfl), mapHeader_id]
  rwa [kept] at gains

/-- A node without a default gets one, after its properties. -/
theorem withDefault {fields : List Node} (each : List.Forall₂ Gains node.fields fields)
    (bare : node.header.default = none) (v : Value) :
    node.Gains ((node.withFields fields).withDefault v) := by
  have gains := Gains.mk (some v) each
  rwa [mapHeader_congr (g := fun header => { header with default := some v })
    (by rw [header_withFields, bare, Option.none_or])] at gains

theorem of_takeDefault
    (pushed : ∀ defaults, List.Forall₂ Gains node.fields (node.fields.map (takeDefault defaults))) :
    node.Gains (node.takeDefault defaults) := by
  have unchanged (v : Value) : node.withDefault v = (node.pushDefaults []).withDefault v := by
    rw [pushDefaults_nil]
  cases taken : taken? defaults node with
  | none =>
      have gains := of_fields (pushed [])
      rw [← pushDefaults_eq, pushDefaults_nil] at gains
      rwa [takeDefault_of_none taken]
  | some v =>
      have bare : node.header.default = none := by
        cases has : node.hasDefault with
        | true => rw [taken?, if_pos has] at taken; cases taken
        | false => exact Option.isSome_eq_false_iff.1 has |> Option.isNone_iff_eq_none.1
      by_cases object : ∃ more, v = .object more
      · obtain ⟨more, rfl⟩ := object
        rw [takeDefault_of_object taken, pushDefaults_eq]
        exact withDefault (pushed more) bare _
      · have plain : ∀ more, v ≠ .object more := fun more same => object ⟨more, same⟩
        rw [takeDefault_of_value taken plain, unchanged, pushDefaults_eq]
        exact withDefault (pushed []) bare v

end Gains

theorem mem_children_of_mem_fields {child : Node} (among : child ∈ node.fields) :
    child ∈ node.children := by
  cases node with
  | object header properties indexes => exact List.mem_append_left _ among
  | intersection header properties => exact among
  | _ => cases among

theorem gains_takeDefault (node : Node) : ∀ defaults, node.Gains (node.takeDefault defaults) := by
  induction node using childrenInduction with
  | step node ih =>
      refine fun defaults => .of_takeDefault fun entries => ?_
      rw [List.forall₂_map_right_iff, List.forall₂_same]
      exact fun property among => ih property (mem_children_of_mem_fields among) entries

theorem gains_pushDefaults (defaults : Entries Value) (node : Node) :
    node.Gains (node.pushDefaults defaults) := by
  rw [pushDefaults_eq]
  refine .of_fields ?_
  rw [List.forall₂_map_right_iff, List.forall₂_same]
  exact fun property _ => gains_takeDefault property defaults

/-- Two object defaults that are pushed down one after the other are one, in which the first is
written over the second; so pushing one down again changes nothing. All that becomes of the tree
is that nodes below it have defaults that had none. -/
theorem pushDefaults_merged (node : Node) (first second : Entries Value)
    (nodup : (Entries.names first).Nodup) :
    (node.pushDefaults first).pushDefaults second =
        node.pushDefaults (Entries.putAll second first) ∧
      (node.pushDefaults first).pushDefaults first = node.pushDefaults first ∧
      (node.pushDefaults first).header = node.header ∧
      node.Gains (node.pushDefaults first) := by
  refine ⟨?_, ?_, header_pushDefaults first node, gains_pushDefaults first node⟩
  · rw [pushDefaults_pushDefaults, pushDefaults_eq]
    simp only [takeDefault_takeDefault nodup]
  · rw [pushDefaults_pushDefaults, pushDefaults_eq]
    simp only [takeDefault_idem]

namespace Layered

/-- A property of that name. -/
def leaf (name : String) (default : Option Value) : Node :=
  .primitive { kind := .number, type := "number", name := some name, default := default } .null

/-- An object type of that name, with these properties. -/
def group (name : String) (default : Option Value) (properties : List Node) : Node :=
  .object { kind := .object, type := "Size", name := some name, default := default } properties none

/-- The parameter `p: { size: { x: number, y: number }, depth: number, scale = 4 }`. -/
def parameter : Node :=
  group "p" none
    [group "size" none [leaf "x" none, leaf "y" none], leaf "depth" none,
      leaf "scale" (some (.integer 4))]

/-- The default `{ size: { x: 1 }, scale: 5 }`. -/
def given : Entries Value := [("size", .object [("x", .integer 1)]), ("scale", .integer 5)]

/-- The default `{ depth: 3, size: { y: 2 } }`. -/
def further : Entries Value := [("depth", .integer 3), ("size", .object [("y", .integer 2)])]

end Layered

open Layered in
/-- The first default decides about `size` as a whole, so that `y` stays without one; the second
one is left with `depth`. -/
theorem pushDefaults_merged_layered :
    (Entries.names given).Nodup ∧
      (parameter.pushDefaults given).pushDefaults further =
        group "p" none
          [group "size" (some (.object [("x", .integer 1)]))
              [leaf "x" (some (.integer 1)), leaf "y" none],
            leaf "depth" (some (.integer 3)), leaf "scale" (some (.integer 4))] := by
  have nodup : (Entries.names given).Nodup := by decide
  exact ⟨nodup, (pushDefaults_merged parameter given further nodup).1.trans rfl⟩

end TypeGloss.Node
