/-
# TypeGloss.Proofs.Checker.Renaming — type syntax with other names in it

One node is another *renamed* if both are built in the same way, of the same kinds of nodes
with the same words in them, except that where the first has the name of a type, the second
may have another one. Which name may stand for which is a `Naming`. A signature declares type
parameters of its own: inside it these stand for themselves and no other name stands for one of
them, so they hide what is outside and nothing is captured (`Naming.under`).

What a rule looks for in a node it finds in the renamed node, and what it finds there is
renamed again: a part, a field, the operands of a union, the parameters of a signature. And
the two nodes are read in the same way (`Form.Renamed`).

Only the syntax of types is meant. Nothing in it is the type of a value, has an initial value
or a body.
-/
import TypeGloss.Proofs.Checker.Reads
import TypeGloss.Proofs.Matching

namespace TypeGloss

set_option autoImplicit false

variable {α β : Type}

/-! ## Names -/

/-- Which name may stand for which. -/
abbrev Naming := String → String → Prop

/-- Names that are declared inside stand for themselves, and no other name for one of them. -/
def Naming.under (names : Naming) (own : List String) : Naming := fun a b =>
  a ∈ own ∧ b = a ∨ a ∉ own ∧ b ∉ own ∧ names a b

namespace Grammar

/-- Syntax of types that has type parameters of its own. -/
def signatures : List String := ["function_type", "call_signature", "method_signature"]

/-- Syntax that has the types inside it in its text. -/
def typing : List String :=
  annotations ++ tupleMembers ++ signatures ++
    ["parenthesized_type", "readonly_type", "generic_type", "type_arguments", "array_type",
      "tuple_type", "optional_type", "rest_type", "union_type", "intersection_type", "object_type",
      "interface_body", "property_signature", "index_signature", "mapped_type_clause",
      "formal_parameters", "type_parameters", "type_parameter", "constraint", "index_type_query",
      "lookup_type", "conditional_type", "type_predicate", "type_predicate_annotation", "asserts",
      "asserts_annotation"]

end Grammar

/-- No syntax of these kinds has type parameters of its own. -/
theorem Grammar.apart_of_mem {kinds : List String} {kind : String} (listed : kind ∈ kinds)
    (apart : ∀ k ∈ kinds, signatures.contains k = false) : signatures.contains kind = false :=
  apart kind listed

/-- The names of a node's own type parameters. -/
def Cursor.ownNames (n : Cursor) : List String :=
  (Reference.typeParameters n).map (·.name)

/-- Which name may stand for which inside a node. -/
def Naming.inside (names : Naming) (n : Cursor) : Naming :=
  if Grammar.signatures.contains n.kind then names.under n.ownNames else names

theorem Naming.inside_eq_self {names : Naming} {n : Cursor}
    (plain : Grammar.signatures.contains n.kind = false) : names.inside n = names := by
  rw [inside, if_neg (by simpa using plain)]

/-! ## Renamed nodes -/

/-- The node itself has nothing to do with values, and it is built as type syntax is. -/
structure Cursor.IsTyping (n : Cursor) : Prop where
  kind : ["type_query", "default_type", "variable_declarator"].contains n.kind = false
  values : ∀ name ∈ ["value", "body", "parameter"], n.field? name = none
  /-- What declares or applies a name has it in the field for that. -/
  headed : ["generic_type", "type_parameter", "mapped_type_clause"].contains n.kind = true →
    (n.field? "name").isSome = true
  /-- What is applied has arguments. -/
  applied : n.kind = "generic_type" → ∃ holder,
    n.fieldOr? "type_arguments" ["type_arguments"] = some holder ∧
      holder.kind = "type_arguments" ∧ holder.parts ≠ []
  /-- Parameters stand in a list of them. -/
  listed : n.mark.field = some "parameters" → n.kind = "formal_parameters"

/-- Does the text of a node stay as it is? -/
def Cursor.KeepsText (n : Cursor) : Prop :=
  n.mark.field = some "name" ∨ n.mark.field = some "pattern" ∨
    ("type_identifier" :: Grammar.typing).contains n.kind = false

/-- The second node is the first with names of types in it that stand for others. -/
inductive Cursor.Renamed : Naming → Cursor → Cursor → Prop where
  | node {names : Naming} {n n' : Cursor} (kind : n'.kind = n.kind)
      (named : n'.mark.named = n.mark.named) (field : n'.mark.field = n.mark.field)
      (text : n.KeepsText → n'.text = n.text)
      (name : n.kind = "type_identifier" → names n.text n'.text)
      (typing : n.IsTyping) (typing' : n'.IsTyping)
      (count : n.children.length = n'.children.length)
      (copied : ("type_identifier" :: Grammar.typing).contains n.kind = false →
        ∀ {c c' : Cursor}, (c, c') ∈ n.children.zip n'.children → c'.text = c.text)
      (inside : ∀ {c c' : Cursor}, (c, c') ∈ n.children.zip n'.children →
        Renamed (names.inside n) c c') :
      Renamed names n n'

namespace Cursor.Renamed

variable {names : Naming} {n n' : Cursor}

theorem kind (renamed : Renamed names n n') : n'.kind = n.kind := by
  cases renamed; assumption

theorem field (renamed : Renamed names n n') : n'.mark.field = n.mark.field := by
  cases renamed; assumption

theorem isTyping (renamed : Renamed names n n') : n.IsTyping := by
  cases renamed; assumption

theorem isTyping' (renamed : Renamed names n n') : n'.IsTyping := by
  cases renamed; assumption

theorem text (renamed : Renamed names n n') (keeps : n.KeepsText) : n'.text = n.text := by
  cases renamed with
  | node _ _ _ text => exact text keeps

theorem name (renamed : Renamed names n n') (isName : n.kind = "type_identifier") :
    names n.text n'.text := by
  cases renamed with
  | node _ _ _ _ name => exact name isName

/-! ### What is found in renamed nodes -/

theorem children (renamed : Renamed names n n') :
    List.Forall₂ (Renamed (names.inside n)) n.children n'.children := by
  cases renamed with
  | node _ _ _ _ _ _ _ count _ inside => exact List.forall₂_iff_zip.2 ⟨count, inside⟩

theorem named (renamed : Renamed names n n') :
    List.Forall₂ (Renamed (names.inside n)) n.named n'.named := by
  refine forall₂_filter renamed.children fun child => ?_
  cases child with
  | node _ named => exact named.symm

theorem parts (renamed : Renamed names n n') :
    List.Forall₂ (Renamed (names.inside n)) n.parts n'.parts :=
  forall₂_filter renamed.named fun child => by rw [child.kind]

theorem lastPart? (renamed : Renamed names n n') :
    Option.Rel (Renamed (names.inside n)) n.lastPart? n'.lastPart? :=
  rel_getLast? renamed.parts

theorem field? (renamed : Renamed names n n') (name : String) :
    Option.Rel (Renamed (names.inside n)) (n.field? name) (n'.field? name) :=
  rel_find? renamed.children fun child => by rw [child.field]

theorem first? (renamed : Renamed names n n') (kinds : List String) :
    Option.Rel (Renamed (names.inside n)) (n.first? kinds) (n'.first? kinds) :=
  rel_find? renamed.named fun child => by rw [child.kind]

/-- Fields of a renamed node are renamings, by name or by kind. -/
theorem fieldOr? (renamed : Renamed names n n') (name : String) (kinds : List String) :
    Option.Rel (Renamed (names.inside n)) (n.fieldOr? name kinds) (n'.fieldOr? name kinds) :=
  rel_or (renamed.field? name) (renamed.first? kinds)

theorem ofKinds (renamed : Renamed names n n') (kinds : List String) :
    List.Forall₂ (Renamed (names.inside n)) (n.ofKinds kinds) (n'.ofKinds kinds) :=
  forall₂_filter renamed.named fun child => by rw [child.kind]

end Cursor.Renamed

theorem Cursor.map_focus_childrenFrom (parent : Tree) (above : List Step) (index : Nat)
    (trees : List Tree) : (childrenFrom parent above index trees).map Cursor.focus = trees := by
  induction trees generalizing index with
  | nil => rfl
  | cons t rest ih => rw [childrenFrom, List.map_cons, ih]

theorem Cursor.map_focus_children (n : Cursor) : n.children.map Cursor.focus = n.focus.children :=
  map_focus_childrenFrom ..

namespace Cursor.Renamed

variable {names : Naming} {n n' : Cursor}

theorem hasToken (renamed : Renamed names n n') (kinds : List String) :
    n'.hasToken kinds = n.hasToken kinds := by
  rw [Cursor.hasToken, Cursor.hasToken, Tree.hasToken, Tree.hasToken, ← map_focus_children,
    ← map_focus_children, List.any_map, List.any_map]
  have aligned := renamed.children
  generalize n.children = cs at aligned
  generalize n'.children = cs' at aligned
  induction aligned with
  | nil => rfl
  | cons head _ ih =>
      have same := head.kind
      rw [List.any_cons, List.any_cons, ih]
      simp only [Function.comp_apply]
      rw [Cursor.kind, Cursor.kind] at same
      rw [same]

theorem keepsText_of_field {c : Cursor} {name : String} (found : n.field? name = some c)
    (fixed : name = "name" ∨ name = "pattern") : c.KeepsText := by
  have field := List.find?_some found
  rw [beq_iff_eq] at field
  rcases fixed with rfl | rfl
  · exact .inl field
  · exact .inr (.inl field)

end Cursor.Renamed

/-! ### Parentheses and operands -/

theorem Cursor.unwrapParens_of_cons {c inner : Cursor} {rest : List Cursor}
    (wrapped : c.kind = "parenthesized_type") (inside : c.parts = inner :: rest) :
    c.unwrapParens = inner.unwrapParens := by
  rw [unwrapParens.eq_def c, if_pos (beq_iff_eq.2 wrapped)]
  split
  · next empty =>
      rw [inside] at empty
      cases empty
  · next found =>
      rw [inside] at found
      cases found
      rfl

theorem Cursor.unwrapParens_of_nil {c : Cursor} (empty : c.parts = []) : c.unwrapParens = c := by
  rw [unwrapParens.eq_def c]
  split
  · split
    · rfl
    · next found =>
        rw [empty] at found
        cases found
  · rfl

/-- Nodes that are related stay so without their parentheses, if all that is related is of one kind
and what stands in parentheses is related part by part. -/
theorem Cursor.rel_unwrapParens {R : Cursor → Cursor → Prop}
    (kind : ∀ {c c' : Cursor}, R c c' → c'.kind = c.kind)
    (parts : ∀ {c c' : Cursor}, R c c' → c.kind = "parenthesized_type" →
      List.Forall₂ R c.parts c'.parts)
    {c c' : Cursor} (related : R c c') : R c.unwrapParens c'.unwrapParens := by
  fun_induction Cursor.unwrapParens c generalizing c' with
  | case1 c wrapped empty =>
      have aligned := parts related (beq_iff_eq.1 wrapped)
      rw [empty] at aligned
      rwa [unwrapParens_of_nil (List.forall₂_nil_left_iff.1 aligned)]
  | case2 c wrapped inner rest inside ih =>
      have aligned := parts related (beq_iff_eq.1 wrapped)
      rw [inside] at aligned
      obtain ⟨inner', rest', head, -, inside'⟩ := List.forall₂_cons_left_iff.1 aligned
      rw [unwrapParens_of_cons ((kind related).trans (beq_iff_eq.1 wrapped)) inside']
      exact ih head
  | case3 c bare =>
      rw [unwrapParens.eq_def c', kind related, if_neg bare]
      exact related

/-- The operands of a union are those of its parts that are unions, and its other parts. -/
theorem TypeSyntax.operands_eq (kind : String) (node : Cursor) :
    operands kind node = node.parts.flatMap fun child =>
      if child.unwrapParens.kind == kind then operands kind child.unwrapParens else [child] := by
  rw [operands]
  simp only [List.flatMap_subtype, List.unattach_attach]

namespace Cursor.Renamed

variable {names : Naming} {n n' : Cursor}

theorem unwrapParens (renamed : Renamed names n n') :
    Renamed names n.unwrapParens n'.unwrapParens := by
  refine Cursor.rel_unwrapParens (fun related => related.kind) (fun related wrapped => ?_) renamed
  have parts := related.parts
  rwa [Naming.inside_eq_self (by simp [wrapped, Grammar.signatures])] at parts

end Cursor.Renamed

/-- The operands of a union or an intersection are renamed. -/
theorem Cursor.Renamed.operands {names : Naming} {kind : String}
    (plain : Grammar.signatures.contains kind = false) {n n' : Cursor}
    (renamed : Renamed names n n') (isKind : n.kind = kind) :
    List.Forall₂ (Renamed names) (TypeSyntax.operands kind n) (TypeSyntax.operands kind n') := by
  have parts := renamed.parts
  rw [Naming.inside_eq_self (isKind ▸ plain)] at parts
  rw [TypeSyntax.operands_eq, TypeSyntax.operands_eq]
  refine List.rel_flatMap ((List.forall₂_and_left _ _).2 ⟨fun child among => among, parts⟩) ?_
  rintro child child' ⟨among, related⟩
  have inner := related.unwrapParens
  simp only [inner.kind]
  split
  · next same => exact operands plain inner (beq_iff_eq.1 same)
  · exact .cons related .nil
termination_by sizeOf n.focus
decreasing_by
  have bound := Cursor.sizeOf_unwrapParens_le child
  have part := Cursor.sizeOf_lt_of_mem_parts among
  omega

/-! ### Words -/

section Words

variable {names : Naming} {n n' : Cursor}

/-- Texts made of aligned parts are equal if each pair of parts gives the same. -/
theorem mapM_eq_of_forall₂ {f : α → Result String} {g : β → Result String} {as : List α}
    {bs : List β} (aligned : List.Forall₂ (fun a b => g b = f a) as bs) :
    bs.mapM g = as.mapM f := by
  induction aligned with
  | nil => rfl
  | cons head _ ih => rw [List.mapM_cons, List.mapM_cons, head, ih]

theorem Cursor.map_focus_named (n : Cursor) : n.named.map Cursor.focus = n.focus.named := by
  rw [Cursor.named, Tree.named, ← map_focus_children, List.filter_map]
  rfl

/-- What has no types in it has the same words in it. -/
theorem Cursor.Renamed.words (renamed : Renamed names n n')
    (plain : ("type_identifier" :: Grammar.typing).contains n.kind = false) :
    List.Forall₂ (fun c c' => Renamed (names.inside n) c c' ∧ c'.text = c.text) n.children
      n'.children := by
  cases renamed with
  | node _ _ _ _ _ _ _ count copied inside =>
      exact List.forall₂_iff_zip.2 ⟨count, fun among => ⟨inside among, copied plain among⟩⟩

/-- A node without types in it has the same words below it. -/
theorem Cursor.Renamed.namedWords (renamed : Renamed names n n')
    (plain : ("type_identifier" :: Grammar.typing).contains n.kind = false) :
    List.Forall₂ (fun c c' => Renamed (names.inside n) c c' ∧ c'.text = c.text) n.named
      n'.named := by
  refine forall₂_filter (renamed.words plain) ?_
  rintro c c' ⟨related, -⟩
  cases related with
  | node _ named => exact named.symm

/-- Where no names are, renaming keeps the text of every part. -/
theorem Cursor.Renamed.partWords (renamed : Renamed names n n')
    (plain : ("type_identifier" :: Grammar.typing).contains n.kind = false) :
    List.Forall₂ (fun c c' => Renamed (names.inside n) c c' ∧ c'.text = c.text) n.parts
      n'.parts :=
  forall₂_filter (renamed.namedWords plain) fun child => by rw [child.1.kind]

/-- Where no names are, renaming keeps the text of every field. -/
theorem Cursor.Renamed.wordAt (renamed : Renamed names n n')
    (plain : ("type_identifier" :: Grammar.typing).contains n.kind = false) (name : String) :
    Option.Rel (fun c c' => Renamed (names.inside n) c c' ∧ c'.text = c.text) (n.field? name)
      (n'.field? name) :=
  rel_find? (renamed.words plain) fun child => by rw [child.1.field]

/-- The value of a string literal depends on its fragments alone, given its text. -/
theorem Literal.stringValue_eq_of_fragments {t t' : Tree} (same : t'.text = t.text)
    (fragments : List.Forall₂ (fun f f' => fragmentValue f' = fragmentValue f) t.named t'.named) :
    stringValue t' = stringValue t := by
  unfold stringValue
  generalize t.named = fs at fragments
  generalize t'.named = fs' at fragments
  cases fragments with
  | nil => simp only [same]
  | cons head tail =>
      have texts := mapM_eq_of_forall₂ (.cons head tail)
      simp only [texts]

/-- Renaming keeps the values of string literals. -/
theorem Cursor.Renamed.stringValue (renamed : Renamed names n n') (same : n'.text = n.text)
    (plain : ("type_identifier" :: Grammar.typing).contains n.kind = false) :
    Literal.stringValue n'.focus = Literal.stringValue n.focus := by
  refine Literal.stringValue_eq_of_fragments same ?_
  rw [← map_focus_named, ← map_focus_named, List.forall₂_map_left_iff, List.forall₂_map_right_iff]
  refine (renamed.namedWords plain).imp ?_
  rintro c c' ⟨related, word⟩
  have kind : c'.focus.kind = c.focus.kind := related.kind
  have word : c'.focus.text = c.focus.text := word
  rw [Literal.fragmentValue, Literal.fragmentValue, kind, word]

/-- The name of a member is the same. -/
theorem Cursor.Renamed.memberName (renamed : Renamed names n n') (keeps : n'.text = n.text)
    (plain : n.kind = "string" → ("type_identifier" :: Grammar.typing).contains n.kind = false) :
    Literal.memberName n'.focus = Literal.memberName n.focus := by
  have kind : n'.focus.kind = n.focus.kind := renamed.kind
  have text : n'.focus.text = n.focus.text := keeps
  have named : n'.focus.mark.named = n.focus.mark.named := by
    cases renamed with
    | node _ named => exact named
  unfold Literal.memberName
  rw [kind, text, named]
  split
  · next isString =>
      rw [Bool.and_eq_true, beq_iff_eq] at isString
      exact renamed.stringValue keeps (plain isString.1)
  · rfl

/-- A literal is the same type. -/
theorem Cursor.Renamed.literal (renamed : Renamed names n n') (isLiteral : n.kind = "literal_type") :
    TypeSyntax.literal n' = TypeSyntax.literal n := by
  have plain : ("type_identifier" :: Grammar.typing).contains n.kind = false := by
    rw [isLiteral]
    decide
  have text : n'.text = n.text := renamed.text (.inr (.inr plain))
  have parts := renamed.partWords plain
  unfold TypeSyntax.literal
  generalize n.parts = cs at parts
  generalize n'.parts = cs' at parts
  cases parts with
  | nil => rfl
  | @cons child child' _ _ head _ =>
      obtain ⟨related, word⟩ := head
      simp only [related.kind, word, text]
      split
      case h_1 isString => rw [related.stringValue word (by rw [isString]; decide)]
      case h_7 isUnary =>
        have plain : ("type_identifier" :: Grammar.typing).contains child.kind = false := by
          rw [isUnary]
          decide
        have operator := related.wordAt plain "operator"
        have argument := rel_filter (related.wordAt plain "argument")
          (p := (·.kind == "number")) (q := (·.kind == "number")) fun found => by
            rw [found.1.kind]
        have sign : TypeGloss.textOf (child'.field? "operator") =
            TypeGloss.textOf (child.field? "operator") := by
          generalize child.field? "operator" = found at operator
          generalize child'.field? "operator" = found' at operator
          cases operator with
          | none => rfl
          | some same => exact same.2
        rw [sign]
        generalize (child.field? "argument").filter (·.kind == "number") = found at argument
        generalize (child'.field? "argument").filter (·.kind == "number") = found' at argument
        cases argument with
        | none => rfl
        | some same => simp only [same.2]
      all_goals rfl

end Words

/-! ## How renamed nodes are read -/

/-- The ways in which a node and a renamed one are read. -/
inductive Form.Renamed (names : Naming) (n n' : Cursor) : Form → Form → Prop where
  | wrapper {inner inner' : Option Cursor}
      (inside : Option.Rel (Cursor.Renamed names) inner inner') :
      Renamed names n n' (.wrapper inner) (.wrapper inner')
  | primitive (p : Primitive) : Renamed names n n' (.primitive p) (.primitive p)
  | named (text : String) : Renamed names n n' (.named text) (.named text)
  | keyword (same : n'.text = n.text) : Renamed names n n' .keyword .keyword
  | literal (same : TypeSyntax.literal n' = TypeSyntax.literal n) :
      Renamed names n n' .literal .literal
  | template (same : n'.text = n.text) : Renamed names n n' .template .template
  /-- A name without arguments, which may be another one. -/
  | name {a b : String} (stands : names a b) : Renamed names n n' (.simple a []) (.simple b [])
  | simple (name : String) {args args' : List Cursor} (some : args ≠ [])
      (inside : List.Forall₂ (Cursor.Renamed names) args args') :
      Renamed names n n' (.simple name args) (.simple name args')
  | dotted {name name' : Cursor} {args args' : List Cursor} (text : name'.text = name.text)
      (inside : List.Forall₂ (Cursor.Renamed names) args args') :
      Renamed names n n' (.dotted name args) (.dotted name' args')
  | structured (category : Category) (ownSymbol : Bool) :
      Renamed names n n' (.structured category ownSymbol) (.structured category ownSymbol)
  | array (inside : List.Forall₂ (Cursor.Renamed names) n.parts n'.parts) :
      Renamed names n n' .array .array
  | rendered : Renamed names n n' .rendered .rendered

namespace Cursor.Renamed

variable {names : Naming} {n n' : Cursor}

/-- A name with arguments is renamed only in the arguments. -/
theorem generic (renamed : Renamed names n n') (isGeneric : n.kind = "generic_type") :
    Form.Renamed names n n' (Form.ofGeneric n) (Form.ofGeneric n') := by
  have plain : names.inside n = names := Naming.inside_eq_self (by rw [isGeneric]; decide)
  obtain ⟨holder, found, isHolder, some⟩ := renamed.isTyping.applied isGeneric
  have headed := renamed.isTyping.headed (by rw [isGeneric]; decide)
  obtain ⟨nameNode, field⟩ := Option.isSome_iff_exists.1 headed
  have heads := renamed.field? "name"
  have holders := renamed.fieldOr? "type_arguments" ["type_arguments"]
  rw [plain, field] at heads
  rw [plain, found] at holders
  obtain ⟨nameNode', field', head⟩ := exists_of_rel_some heads
  obtain ⟨holder', found', inside⟩ := exists_of_rel_some holders
  have args := inside.parts
  rw [Naming.inside_eq_self (by rw [isHolder]; decide)] at args
  have text : nameNode'.text = nameNode.text := head.text (keepsText_of_field field (.inl rfl))
  have byField : n.fieldOr? "name" ["type_identifier", "nested_type_identifier"] =
      Option.some nameNode := by rw [Cursor.fieldOr?, field, Option.some_or]
  have byField' : n'.fieldOr? "name" ["type_identifier", "nested_type_identifier"] =
      Option.some nameNode' := by rw [Cursor.fieldOr?, field', Option.some_or]
  unfold Form.ofGeneric
  simp only [byField, byField', found, found', Option.map_some, Option.getD_some,
    Option.filter_some, head.kind]
  by_cases nested : (nameNode.kind == "nested_type_identifier") = true
  · rw [if_pos nested, if_pos nested]
    exact .dotted text args
  · rw [if_neg nested, if_neg nested]
    simp only [TypeGloss.textOf, Option.map_some, Option.getD_some, text]
    exact .simple _ some args

/-- The member that makes an object type a mapped type is renamed. -/
theorem mappedSignature? (renamed : Renamed names n n')
    (plain : Grammar.signatures.contains n.kind = false) :
    Option.Rel (Renamed names) (TypeSyntax.mappedSignature? n) (TypeSyntax.mappedSignature? n') := by
  have members := renamed.ofKinds ["index_signature"]
  rw [Naming.inside_eq_self plain] at members
  exact rel_find? members fun member => (isSome_of_rel (member.first? _)).symm

/-- A node is read in the same way as the renamed one. -/
theorem form (renamed : Renamed names n n') :
    Form.Renamed names n n' (Form.ofNode n) (Form.ofNode n') := by
  have isText (plain : ("type_identifier" :: Grammar.typing).contains n.kind = false) :
      n'.text = n.text := renamed.text (.inr (.inr plain))
  unfold Form.ofNode
  dsimp only
  rw [renamed.kind]
  split
  · next wrapped =>
      have inner := renamed.lastPart?
      have listed : n.kind ∈ Grammar.annotations ++ ["parenthesized_type", "readonly_type"] := by
        simpa using wrapped
      rw [Naming.inside_eq_self (Grammar.apart_of_mem listed (by decide))] at inner
      exact .wrapper inner
  · split
    · exact .primitive _
    · split
      · exact .primitive _
      · split
        case h_1 isKeyword => exact .keyword (isText (by rw [isKeyword]; decide))
        case h_2 isLiteral => exact .literal (renamed.literal isLiteral)
        case h_3 isTemplate => exact .template (isText (by rw [isTemplate]; decide))
        case h_4 => exact .named _
        case h_5 => exact .primitive _
        case h_6 isName => exact .name (renamed.name isName)
        case h_7 isName =>
          refine .dotted (isText ?_) .nil
          rw [isName]
          decide
        case h_8 isGeneric => exact renamed.generic isGeneric
        case h_9 isObject =>
          have plain : Grammar.signatures.contains n.kind = false := by rw [isObject]; decide
          rw [isSome_of_rel (renamed.mappedSignature? plain)]
          split
          · exact .structured _ _
          · exact .structured _ _
        case h_10 isArray =>
          have parts := renamed.parts
          rw [Naming.inside_eq_self (by rw [isArray]; decide)] at parts
          exact .array parts
        case h_15 isQuery =>
          have other := renamed.isTyping.kind
          rw [isQuery] at other
          cases other
        case h_19 isVariable =>
          rw [isText (by rw [isVariable]; decide)]
          exact .named _
        case h_20 => exact .rendered
        all_goals exact .structured _ _

end Cursor.Renamed

/-! ### Type parameters -/

theorem Reference.fallback?_eq_none {n : Cursor} (typing : n.IsTyping)
    (inside : ∀ child ∈ n.named, child.IsTyping) : fallback? n = none := by
  have first : n.first? ["default_type"] = none := by
    refine List.find?_eq_none.2 fun child among => ?_
    have other := (inside child among).kind
    intro isDefault
    rw [List.contains_iff_mem, List.mem_singleton] at isDefault
    rw [isDefault] at other
    cases other
  rw [fallback?, Cursor.fieldOr?, typing.values "value" (by decide), first]
  rfl

/-- Two type parameters of one name, neither of which has a default. -/
structure Reference.TypeParameter.Alike (u u' : Reference.TypeParameter) : Prop where
  name : u'.name = u.name
  fallback : u.fallback = none
  fallback' : u'.fallback = none

namespace Cursor.Renamed

variable {names : Naming} {n n' : Cursor}

theorem isTyping_named (renamed : Renamed names n n') : ∀ child ∈ n.named, child.IsTyping :=
  forall_left_of_forall₂ renamed.named isTyping

theorem isTyping'_named (renamed : Renamed names n n') : ∀ child ∈ n'.named, child.IsTyping :=
  forall_left_of_forall₂ renamed.named.flip isTyping'

/-- The type parameters that a node declares are declared by the renamed node. -/
theorem typeParameters (renamed : Renamed names n n') :
    List.Forall₂ Reference.TypeParameter.Alike (Reference.typeParameters n)
      (Reference.typeParameters n') := by
  have holders := renamed.fieldOr? "type_parameters" ["type_parameters"]
  unfold Reference.typeParameters
  generalize n.fieldOr? "type_parameters" ["type_parameters"] = holder at holders
  generalize n'.fieldOr? "type_parameters" ["type_parameters"] = holder' at holders
  cases holders with
  | none => exact .nil
  | some related =>
      rw [List.forall₂_map_left_iff, List.forall₂_map_right_iff]
      have listed := (List.forall₂_and_left _ _).2
        ⟨fun parameter among => among, related.ofKinds ["type_parameter"]⟩
      refine listed.imp ?_
      rintro u u' ⟨among, parameter⟩
      have isParameter : u.kind = "type_parameter" := by
        simpa using (List.mem_filter.1 among).2
      have headed := parameter.isTyping.headed (by rw [isParameter]; decide)
      obtain ⟨nameNode, field⟩ := Option.isSome_iff_exists.1 headed
      have heads := parameter.field? "name"
      rw [field] at heads
      obtain ⟨nameNode', field', head⟩ := exists_of_rel_some heads
      refine ⟨?_, Reference.fallback?_eq_none parameter.isTyping parameter.isTyping_named,
        Reference.fallback?_eq_none parameter.isTyping' parameter.isTyping'_named⟩
      simp only [Cursor.fieldOr?, field, field', Option.some_or, TypeGloss.textOf, Option.map_some,
        Option.getD_some]
      exact head.text (keepsText_of_field field (.inl rfl))

end Cursor.Renamed

end TypeGloss
