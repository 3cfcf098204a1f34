/-
# TypeGloss.Proofs.Lookup.Agreement — names mean the same in programs that agree

Two programs *agree* if they have the same settings and the same source under each path. The
order in which the paths were registered, and which checker the programs belong to, does not
matter: every name means the same in both.
-/
import TypeGloss.Checker

namespace TypeGloss

set_option autoImplicit false

/-- Two programs have the same settings, and the same source under each path. -/
structure Program.Agrees (program other : Program) : Prop where
  settings : other.settings = program.settings
  sources : ∀ path, Entries.find? path other.sources = Entries.find? path program.sources

variable {program other : Program}

namespace Lookup

theorem module?_of_agrees (agrees : program.Agrees other) (importer specifier : String) :
    module? other importer specifier = module? program importer specifier := by
  simp only [module?, agrees.settings, agrees.sources]

/-- Programs that agree hand a name on to the same files. -/
theorem firstPassed_of_agrees (agrees : program.Agrees other) (source : Source) (name : String)
    (search : Source → String → List Visit → Result Trail) (reexports : List Module.Reexport)
    (seen : List Visit) :
    firstPassed other source name search reexports seen =
      firstPassed program source name search reexports seen := by
  induction reexports generalizing seen with
  | nil => rfl
  | cons reexport rest ih => simp only [firstPassed, module?_of_agrees agrees, ih]

/-- The two ways to look up a name call each other, so they are compared together, by
induction on the number of steps. -/
theorem searches_of_agrees (agrees : program.Agrees other) (steps : Nat) :
    within other steps = within program steps ∧ exported other steps = exported program steps := by
  induction steps with
  | zero =>
      constructor <;> funext source name space seen
      · rw [within, within]
      · rw [exported, exported]
  | succ steps ih =>
      constructor <;> funext source name space seen
      · rw [within, within]
        simp only [module?_of_agrees agrees, ih.2]
      · rw [exported, exported]
        simp only [firstPassed_of_agrees agrees, ih.1, ih.2]

/-- Programs that agree find the same by every name. -/
theorem find?_of_agrees (agrees : program.Agrees other) (source : Source) (name : String)
    (space : Space) : find? other source name space = find? program source name space := by
  simp only [find?, (searches_of_agrees agrees maxSteps).1]

/-- The constant in view depends on what programs agree on alone. -/
theorem constantInView?_of_agrees (agrees : program.Agrees other) (source : Source)
    (node : Cursor) (name : String) :
    constantInView? other source node name = constantInView? program source node name := by
  simp only [constantInView?, find?_of_agrees agrees]

/-- Programs that agree have the same initializers in view. -/
theorem initializersAt_of_agrees (agrees : program.Agrees other) (source : Source)
    (node : Cursor) : initializersAt other source node = initializersAt program source node := by
  funext name
  simp only [initializersAt, constantInView?_of_agrees agrees]

end Lookup

/-- Programs that agree have the same constant in view. -/
theorem Checker.constantIn?_of_agrees (agrees : program.Agrees other)
    (declaration : Declaration) (name : String) :
    constantIn? other declaration name = constantIn? program declaration name := by
  simp only [constantIn?, agrees.sources, Lookup.constantInView?_of_agrees agrees]

end TypeGloss
