/-
# TypeGloss.Proofs.Checker.Returns — the return statements of a body

What stands in a body is found with a stack. The node on top is taken off, and its children are put
on in its place, the last of them first (`Signature.gather`). This is a traversal: what a stack
leads to is what its nodes are visited for, from the top of the stack down, where to visit a node is
to list the node and then to visit its children (`Signature.gather_eq_flatMap_visit`).

A node inside another is inside one child of it only (`Cursor.Holds.through`). So a traversal comes
to the wanted nodes for which everything between them and the body is entered, and to no others
(`Signature.mem_flatMap_visit_iff`), and if it does not enter what it wants, it comes to each after
those that stand before it (`Signature.pairwise_flatMap_visit`).

A return statement is a body's *own* if no other return statement and no function, method or class
stands between the two (`Signature.IsOwnReturn`). `Signature.returns_in_order` says that these are
the ones that are found.
-/
import Mathlib.Logic.Relation
import TypeGloss.Proofs.Checker.Operands

namespace TypeGloss

set_option autoImplicit false

/-! ## Inside a node -/

namespace Cursor

variable {c d e : Cursor}

/-- A node stands inside another: children, of any kind, lead down to it. -/
def Holds : Cursor → Cursor → Prop :=
  Relation.TransGen fun c d => d ∈ c.children

theorem Holds.sizeOf_lt (holds : c.Holds d) : sizeOf d.focus < sizeOf c.focus := by
  induction holds with
  | single child => exact sizeOf_lt_of_mem_children child
  | tail _ child ih => exact Nat.lt_trans (sizeOf_lt_of_mem_children child) ih

theorem not_holds_self (c : Cursor) : ¬c.Holds c :=
  fun holds => absurd holds.sizeOf_lt (Nat.lt_irrefl _)

theorem Holds.isPrefix_path (holds : c.Holds d) : c.path <+: d.path := by
  induction holds with
  | single child => exact path_prefix_of_mem_children child
  | tail _ child ih => exact ih.trans (path_prefix_of_mem_children child)

/-- A node is a child of one node only. -/
theorem parent_unique (child : e ∈ c.children) (child' : e ∈ d.children) : c = d := by
  obtain ⟨i, above⟩ := above_of_mem_childrenFrom child
  obtain ⟨j, above'⟩ := above_of_mem_childrenFrom child'
  obtain ⟨step, higher⟩ := List.cons.inj (above.symm.trans above')
  cases c
  cases d
  rw [Cursor.mk.injEq]
  exact ⟨congrArg Step.parent step, higher⟩

/-- One way only leads down to a node: what stands between the two ends of it is the child through
which it goes, or inside that child. -/
theorem Holds.through {child between : Cursor} (among : child ∈ c.children)
    (way : Relation.ReflTransGen (fun c d => d ∈ c.children) child d) (below : c.Holds between)
    (above : Relation.ReflTransGen (fun c d => d ∈ c.children) between d) :
    Relation.ReflTransGen (fun c d => d ∈ c.children) child between := by
  -- The last steps of both ways are the same; the way is followed upward from its end.
  induction way with
  | refl =>
      rcases Relation.ReflTransGen.cases_tail above with rfl | ⟨parent, higher, last⟩
      · exact .refl
      · obtain rfl : parent = c := parent_unique last among
        exact absurd (below.trans_left higher) parent.not_holds_self
  | @tail middle d deeper child' ih =>
      rcases Relation.ReflTransGen.cases_tail above with rfl | ⟨parent, higher, last⟩
      · exact deeper.tail child'
      · obtain rfl : parent = middle := parent_unique last child'
        exact ih higher

theorem StandsBefore.ne (before : c.StandsBefore d) : c ≠ d := by
  rintro rfl
  obtain ⟨shared, i, j, rest, others, lt, way, way'⟩ := before
  have same : i :: rest = j :: others := List.append_cancel_left (way.symm.trans way')
  exact absurd (List.cons.inj same).1 (Nat.ne_of_lt lt)

/-- The named children of a node stand one after the other. -/
theorem named_pairwise (c : Cursor) : c.named.Pairwise StandsBefore :=
  (childrenFrom_pairwise c.focus c.above 0 c.focus.children).filter _

end Cursor

namespace Signature

variable {wanted entered : Cursor → Bool} {body node : Cursor}

/-! ## Traversals -/

/-- What a traversal lists at a node: the node if it is wanted, and then, if it is entered, what it
lists at the named children, one after the other. -/
def visit (wanted entered : Cursor → Bool) (node : Cursor) : List Cursor :=
  (if wanted node then [node] else []) ++
    if entered node then
      node.named.attach.flatMap fun ⟨child, _isChild⟩ => visit wanted entered child
    else []
termination_by sizeOf node.focus
decreasing_by exact Cursor.sizeOf_lt_of_mem_named _isChild

/-- A node is wanted itself, or nodes below it are if it is entered. -/
theorem visit_eq (wanted entered : Cursor → Bool) (node : Cursor) :
    visit wanted entered node =
      (if wanted node then [node] else []) ++
        if entered node then node.named.flatMap (visit wanted entered) else [] := by
  rw [visit, List.flatMap_subtype fun _ _ => rfl, List.unattach_attach]

/-- A stack leads to what is listed at its nodes, from the top of it down. -/
theorem gather_eq_flatMap_visit (stack : Array Cursor) :
    gather wanted entered stack = stack.toList.reverse.flatMap (visit wanted entered) := by
  -- Induction on the rounds: a node that is taken off is listed with what its children are visited
  -- for, whether they stand on the stack or below the node.
  induction stack using gather.induct entered with
  | case1 stack none =>
      obtain rfl := Array.back?_eq_none_iff.1 none
      rw [gather_empty]
      rfl
  | case2 stack node top ih =>
      obtain ⟨below, rfl⟩ := Array.back?_eq_some_iff.1 top
      rw [Array.pop_push, dite_eq_ite] at ih
      have order : (below.push node).toList.reverse = node :: below.toList.reverse := by simp
      rw [gather_push, ih, order, List.flatMap_cons, visit_eq wanted entered node,
        List.append_assoc]
      cases entered node <;> simp

/-- A traversal of a body comes to a node: the node is wanted, and everything between it and the
body is entered. Punctuation is neither listed nor entered. -/
structure IsReached (wanted entered : Cursor → Bool) (body node : Cursor) : Prop where
  isWanted : wanted node = true
  isNamed : node.mark.named = true
  inside : body.Holds node
  between : ∀ between, body.Holds between → between.Holds node →
    between.mark.named = true ∧ entered between = true

theorem IsReached.child {child : Cursor} (among : child ∈ body.named)
    (isWanted : wanted child = true) : IsReached wanted entered body child where
  isWanted := isWanted
  isNamed := (List.mem_filter.1 among).2
  inside := .single (List.mem_filter.1 among).1
  between between below above := by
    have way := Cursor.Holds.through (List.mem_filter.1 among).1 .refl below above.to_reflTransGen
    exact absurd (above.trans_left way) between.not_holds_self

/-- What is reached from an entered child is reached from its parent. -/
theorem IsReached.deeper {child : Cursor} (among : child ∈ body.named)
    (isEntered : entered child = true) (reached : IsReached wanted entered child node) :
    IsReached wanted entered body node where
  isWanted := reached.isWanted
  isNamed := reached.isNamed
  inside := .head (List.mem_filter.1 among).1 reached.inside
  between between below above := by
    obtain ⟨isChild, isNamed⟩ := List.mem_filter.1 among
    have way := Cursor.Holds.through isChild reached.inside.to_reflTransGen below
      above.to_reflTransGen
    rcases Relation.reflTransGen_iff_eq_or_transGen.1 way with rfl | way
    · exact ⟨isNamed, isEntered⟩
    · exact reached.between between way above

/-- A node is reached as a wanted child, or through a child that is entered. -/
theorem isReached_iff :
    IsReached wanted entered body node ↔ ∃ child ∈ body.named,
      wanted child = true ∧ node = child ∨
        entered child = true ∧ IsReached wanted entered child node := by
  constructor
  · intro reached
    obtain ⟨child, isChild, way⟩ := Relation.TransGen.head'_iff.1 reached.inside
    rcases Relation.reflTransGen_iff_eq_or_transGen.1 way with rfl | way
    · exact ⟨node, List.mem_filter.2 ⟨isChild, reached.isNamed⟩, .inl ⟨reached.isWanted, rfl⟩⟩
    · obtain ⟨isNamed, isEntered⟩ := reached.between child (.single isChild) way
      have rest : IsReached wanted entered child node :=
        ⟨reached.isWanted, reached.isNamed, way, fun between below =>
          reached.between between (.head isChild below)⟩
      exact ⟨child, List.mem_filter.2 ⟨isChild, isNamed⟩, .inr ⟨isEntered, rest⟩⟩
  · rintro ⟨child, among, ⟨isWanted, rfl⟩ | ⟨isEntered, reached⟩⟩
    · exact .child among isWanted
    · exact .deeper among isEntered reached

/-- What is listed at the children of a body is what a traversal of the body comes to. -/
theorem mem_flatMap_visit_iff (body : Cursor) :
    node ∈ body.named.flatMap (visit wanted entered) ↔ IsReached wanted entered body node := by
  rw [List.mem_flatMap, isReached_iff]
  refine exists_congr fun child => and_congr_right fun among => ?_
  have smaller := Cursor.sizeOf_lt_of_mem_named among
  rw [visit_eq, List.mem_append]
  refine or_congr ?_ ?_
  · cases wanted child <;> simp
  · split
    · next isEntered => simp [isEntered, mem_flatMap_visit_iff child]
    · next passed => simp [passed]
termination_by sizeOf body.focus

theorem path_prefix_of_mem_visit (among : node ∈ visit wanted entered body) :
    body.path <+: node.path := by
  rw [visit_eq, List.mem_append] at among
  rcases among with here | deeper
  · split at here
    · exact List.mem_singleton.1 here ▸ List.prefix_rfl
    · exact absurd here List.not_mem_nil
  · split at deeper
    · exact ((mem_flatMap_visit_iff body).1 deeper).inside.isPrefix_path
    · exact absurd deeper List.not_mem_nil

/-- A traversal that enters nothing it wants lists each node after those that stand before it. -/
theorem pairwise_flatMap_visit (apart : ∀ node, wanted node = true → entered node = false)
    (body : Cursor) :
    (body.named.flatMap (visit wanted entered)).Pairwise Cursor.StandsBefore := by
  rw [List.pairwise_flatMap]
  refine ⟨fun child among => ?_, body.named_pairwise.imp ?_⟩
  · have smaller := Cursor.sizeOf_lt_of_mem_named among
    rw [visit_eq]
    cases isWanted : wanted child with
    | true => simp [apart child isWanted]
    | false =>
        simp only [Bool.false_eq_true, if_false, List.nil_append]
        split
        · exact pairwise_flatMap_visit apart child
        · exact .nil
  · intro child other before node among node' there
    exact before.inside (path_prefix_of_mem_visit among) (path_prefix_of_mem_visit there)
termination_by sizeOf body.focus

/-! ## Yield expressions -/

/-- A yield expression is a body's own if no function, method or class stands between the two. Other
yield expressions may stand between them. -/
theorem mem_ownYields_iff :
    node ∈ ownYields body ↔
      IsReached (·.kind == "yield_expression") (fun between => !opensScope between) body node := by
  rw [ownYields, gather_eq_flatMap_visit, List.reverse_reverse, mem_flatMap_visit_iff]

/-! ## Return statements -/

/-- The return statements that a node leads to, by recursion: the node itself if it is one, none if
the returns inside it are its own, and otherwise those of its children, one after the other. -/
def returnsAt (node : Cursor) : List Cursor :=
  if node.kind = "return_statement" then [node]
  else if node.kind ∈ Grammar.scopeBoundaries then []
  else node.named.attach.flatMap fun ⟨child, _isChild⟩ => returnsAt child
termination_by sizeOf node.focus
decreasing_by exact Cursor.sizeOf_lt_of_mem_named _isChild

/-- The returns of a node: itself, none behind a boundary, else those of its children in order. -/
theorem returnsAt_eq (node : Cursor) :
    returnsAt node =
      if node.kind = "return_statement" then [node]
      else if node.kind ∈ Grammar.scopeBoundaries then []
      else node.named.flatMap returnsAt := by
  rw [returnsAt, List.flatMap_subtype fun _ _ => rfl, List.unattach_attach]

/-- The recursion is the traversal that enters neither return statements nor nodes with returns of
their own. -/
theorem visit_isReturn (node : Cursor) : visit isReturn sharesReturns node = returnsAt node := by
  have inside : node.named.flatMap (visit isReturn sharesReturns) =
      node.named.flatMap returnsAt :=
    List.flatMap_congr fun child among =>
      have := Cursor.sizeOf_lt_of_mem_named among
      visit_isReturn child
  rw [visit_eq, inside, returnsAt_eq]
  by_cases is : node.kind = "return_statement"
  · simp [isReturn, sharesReturns, is]
  · by_cases opens : node.kind ∈ Grammar.scopeBoundaries <;>
      simp [isReturn, sharesReturns, opensScope, is, opens]
termination_by sizeOf node.focus

/-- A return statement is a body's own: it stands in the body, and between the two there is no
punctuation, no other return statement, and no function, method or class. A parser reports nothing
inside punctuation, so in its trees there is none between. -/
structure IsOwnReturn (body statement : Cursor) : Prop where
  isReturn : statement.kind = "return_statement"
  isNamed : statement.mark.named = true
  inside : body.Holds statement
  between : ∀ between, body.Holds between → between.Holds statement →
    between.mark.named = true ∧ between.kind ≠ "return_statement" ∧
      between.kind ∉ Grammar.scopeBoundaries

theorem isReached_iff_isOwnReturn {statement : Cursor} :
    IsReached isReturn sharesReturns body statement ↔ IsOwnReturn body statement := by
  have shares (node : Cursor) : sharesReturns node = true ↔
      node.kind ≠ "return_statement" ∧ node.kind ∉ Grammar.scopeBoundaries := by
    simp [sharesReturns, isReturn, opensScope]
  constructor
  · rintro ⟨is, isNamed, inside, between⟩
    refine ⟨beq_iff_eq.1 is, isNamed, inside, fun node below above => ?_⟩
    exact (between node below above).imp_right (shares node).1
  · rintro ⟨is, isNamed, inside, between⟩
    refine ⟨beq_iff_eq.2 is, isNamed, inside, fun node below above => ?_⟩
    exact (between node below above).imp_right (shares node).2

/-- The stack comes to the return statements that the recursion comes to: to those that are the
body's own, to each of them once and after those that stand before it. What it tells of each is the
first named child that is no comment, if there is one. -/
theorem returns_in_order (body : Cursor) :
    ownReturns body = body.named.flatMap returnsAt ∧
      returned body = (ownReturns body).map
        (fun statement => statement.named.find? (·.kind != "comment")) ∧
      (ownReturns body).Pairwise Cursor.StandsBefore ∧ (ownReturns body).Nodup ∧
      ∀ statement, statement ∈ ownReturns body ↔ IsOwnReturn body statement := by
  have listed : ownReturns body = body.named.flatMap (visit isReturn sharesReturns) := by
    rw [ownReturns, gather_eq_flatMap_visit, List.reverse_reverse]
  have apart (node : Cursor) (is : isReturn node = true) : sharesReturns node = false := by
    simp [sharesReturns, is]
  have ordered : (ownReturns body).Pairwise Cursor.StandsBefore :=
    listed ▸ pairwise_flatMap_visit apart body
  refine ⟨?_, ?_, ordered, ordered.imp Cursor.StandsBefore.ne, fun statement => ?_⟩
  · exact listed.trans (List.flatMap_congr fun child _ => visit_isReturn child)
  · exact List.map_congr_left fun statement _ => List.head?_filter
  · rw [listed, mem_flatMap_visit_iff, isReached_iff_isOwnReturn]

end Signature

namespace Callback

def named (kind : String) (start stop : Nat) (children : List Outline) : Outline :=
  .node kind start stop true false none children

/-- A body with three return statements, one of them in a function inside. -/
def body : Cursor :=
  .ofTree <| Tree.ofOutline "{ if (a) return 1; f(() => { return 2 }); return }" <|
    named "statement_block" 0 50
      [named "if_statement" 2 18
        [named "parenthesized_expression" 5 8 [named "identifier" 6 7 []],
         named "return_statement" 9 18 [named "number" 16 17 []]],
       named "expression_statement" 19 41
        [named "call_expression" 19 40
          [named "identifier" 19 20 [],
           named "arguments" 20 40
            [named "arrow_function" 21 39
              [named "formal_parameters" 21 23 [],
               named "statement_block" 27 39
                [named "return_statement" 29 37 [named "number" 36 37 []]]]]]],
       named "return_statement" 42 48 []]

example : (Signature.returned body).map (Option.map Cursor.text) = [some "1", none] := by
  decide +kernel

end Callback

end TypeGloss
