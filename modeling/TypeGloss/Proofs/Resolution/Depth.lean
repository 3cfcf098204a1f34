/-
# TypeGloss.Proofs.Resolution.Depth — no tree is nested deeper than the settings allow

Types may refer to each other without end, and an alias applied to ever larger
arguments is a new type each time, so a guard against cycles does not bound a tree.
The settings do: `resolve` is given the number of types that may still be nested, every
builder passes on one less, and at zero only references are left.

`resolveType_nesting` says so of every tree, for every state of the checker and every
filter, also for settings that are zero or negative: then a tree is a primitive or a
reference.
-/
import TypeGloss.Proofs.Resolution.Comparison
import TypeGloss.Proofs.Run

namespace TypeGloss

set_option autoImplicit false

/-- Runs compared by nothing but what the first returns. -/
def Comparison.results : Comparison where
  follows P x _ := ∀ resolution a, outcome x resolution = .ok a → P a
  done holds := by
    intro resolution a returned
    cases returned
    exact holds
  andThen first rest := by
    intro resolution b returned
    obtain ⟨a, before, later⟩ := outcome_bind_eq_ok returned
    exact rest a (first resolution a before) _ b later
  asked _ := fun _ _ _ => trivial

namespace Resolution

/-- A bracket returns what the computation inside it returns. -/
theorem outcome_expanding {α : Type} (t : TypeId) (body : Bool → ResolveM α)
    (resolution : Resolution) :
    outcome (ResolveM.expanding t body) resolution =
      outcome (body (resolution.guard.enter t).1)
        { resolution with guard := (resolution.guard.enter t).2 } := rfl

theorem outcome_run {α : Type} (body : ResolveM α) (state : State) :
    outcome (run body) state = outcome body { checker := state } := rfl

/-- What a resolution returns has no more types nested than may be. -/
theorem resolve_shallow (plan : Plan) (remaining : Nat) (t : TypeId)
    (enclosing : Option Declaration) (resolution : Resolution) (result : Option Node)
    (returned : outcome (resolve plan remaining t enclosing) resolution = .ok result) :
    Node.MaybeShallow remaining result := by
  refine resolve_follows .results ?_ plan remaining t enclosing resolution result returned
  intro α P t first second each resolution a returned
  rw [outcome_expanding] at returned
  exact each _ _ a returned

/-- A resolved tree is no deeper than the plan allows. -/
theorem resolveType_shallow (plan : Plan) (t : TypeId) (declaration : Option Declaration)
    (state : State) (tree : Node)
    (returned : outcome (resolveType plan t declaration) state = .ok (some tree)) :
    tree.Shallow plan.settings.maxDepth.toNat := by
  obtain ⟨result, resolved, rooted⟩ := outcome_bind_eq_ok returned
  rw [outcome_run] at resolved
  have shallow := resolve_shallow plan _ t declaration _ result resolved
  cases declaration with
  | none =>
      cases rooted
      exact shallow
  | some declaration =>
      cases result with
      | none => cases rooted
      | some node =>
          cases rooted
          exact (Node.shallow_mapHeader _).2 shallow

/-- Every expanded node of a tree has fewer nodes above it than the settings allow, so
that a way from the root down has at most one node more than that. -/
theorem resolveType_nesting (plan : Plan) (t : TypeId) (declaration : Option Declaration)
    (state : State) (tree : Node)
    (returned : outcome (resolveType plan t declaration) state = .ok (some tree)) :
    (∀ above node, tree.Occurs above node → node.isExpanded = true →
      (above : Int) < max plan.settings.maxDepth 0) ∧
    ∀ rest : List Node,
      (tree :: rest).IsChain (fun parent child => child ∈ parent.children) →
        ((tree :: rest).length : Int) ≤ max plan.settings.maxDepth 0 + 1 := by
  have shallow := resolveType_shallow plan t declaration state tree returned
  constructor
  · intro above node occurs expanded
    have fewer := shallow above node occurs expanded
    omega
  · intro rest way
    have short := shallow.length_le rest way
    omega

/-- Three array types, each the element type of the one before it. -/
def arraysInCircle : State :=
  { records := #[arrayOf 1, arrayOf 2, arrayOf 0] }
where
  arrayOf (element : TypeId) : TypeRecord :=
    { category := .array, label := some "Array", shape := .array,
      cache := { element := some element } }

/-- Two arrays are nested where two may be, and the third, which no cycle has closed
yet, is a reference. -/
theorem resolveType_nesting_arraysInCircle :
    ∃ outer inner leaf : Header,
      let tree := Node.array outer (.array inner (.reference leaf))
      outcome (resolveType ⟨{ maxDepth := 2 }, fun _ => true⟩ 0 none) arraysInCircle =
          .ok (some tree) ∧
        (∀ above node, tree.Occurs above node → node.isExpanded = true →
          (above : Int) < max 2 0) ∧
        ∀ rest : List Node,
          (tree :: rest).IsChain (fun parent child => child ∈ parent.children) →
            ((tree :: rest).length : Int) ≤ max 2 0 + 1 :=
  ⟨_, _, _, rfl, resolveType_nesting ⟨{ maxDepth := 2 }, fun _ => true⟩ 0 none arraysInCircle _ rfl⟩

end Resolution

end TypeGloss
