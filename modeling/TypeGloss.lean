import TypeGloss.Category
import TypeGloss.Checker
import TypeGloss.Checker.Answer
import TypeGloss.Checker.Assignability
import TypeGloss.Checker.Computed
import TypeGloss.Checker.Conditional
import TypeGloss.Checker.Enum
import TypeGloss.Checker.Inference
import TypeGloss.Checker.Lookup
import TypeGloss.Checker.Member
import TypeGloss.Checker.Query
import TypeGloss.Checker.Reference
import TypeGloss.Checker.Render
import TypeGloss.Checker.Signature
import TypeGloss.Checker.Store
import TypeGloss.Checker.Structure
import TypeGloss.Checker.Symbol
import TypeGloss.Checker.TypeSyntax
import TypeGloss.CommandLine
import TypeGloss.Comment
import TypeGloss.Component
import TypeGloss.CycleGuard
import TypeGloss.Directory
import TypeGloss.Documentation.Document
import TypeGloss.Documentation.Node
import TypeGloss.Documentation.Piece
import TypeGloss.Documentation.Schema
import TypeGloss.Entries
import TypeGloss.Evaluation.Declarators
import TypeGloss.Evaluation.Expression
import TypeGloss.Evaluation.Operators
import TypeGloss.Evaluation.Pattern
import TypeGloss.Fault
import TypeGloss.Filter
import TypeGloss.Filter.Fields
import TypeGloss.Json
import TypeGloss.Lenient
import TypeGloss.Library
import TypeGloss.Main
import TypeGloss.Module.Candidates
import TypeGloss.Module.Scope
import TypeGloss.Number.Binary
import TypeGloss.Number.Layout
import TypeGloss.Number.Reader
import TypeGloss.Number.Shortest
import TypeGloss.Path
import TypeGloss.Primitive
import TypeGloss.Proofs.Checker.Alike
import TypeGloss.Proofs.Checker.AlikeMembers
import TypeGloss.Proofs.Checker.AlikeNames
import TypeGloss.Proofs.Checker.AlikeParts
import TypeGloss.Proofs.Checker.AlikeTypes
import TypeGloss.Proofs.Checker.AlikeValues
import TypeGloss.Proofs.Checker.Assigning
import TypeGloss.Proofs.Checker.Bindings
import TypeGloss.Proofs.Checker.ClassBodies
import TypeGloss.Proofs.Checker.Computing
import TypeGloss.Proofs.Checker.Constituents
import TypeGloss.Proofs.Checker.Denotation
import TypeGloss.Proofs.Checker.Ensuring
import TypeGloss.Proofs.Checker.EnumValues
import TypeGloss.Proofs.Checker.Exclusion
import TypeGloss.Proofs.Checker.Expansion
import TypeGloss.Proofs.Checker.Findings
import TypeGloss.Proofs.Checker.Extending
import TypeGloss.Proofs.Checker.FlatUnions
import TypeGloss.Proofs.Checker.FunctionUses
import TypeGloss.Proofs.Checker.Generics
import TypeGloss.Proofs.Checker.Growing
import TypeGloss.Proofs.Checker.Growth
import TypeGloss.Proofs.Checker.Inheritance
import TypeGloss.Proofs.Checker.Inquiry
import TypeGloss.Proofs.Checker.Instantiation
import TypeGloss.Proofs.Checker.InterfaceBodies
import TypeGloss.Proofs.Checker.InterfaceMembers
import TypeGloss.Proofs.Checker.MappedUtilities
import TypeGloss.Proofs.Checker.Memory
import TypeGloss.Proofs.Checker.Offset
import TypeGloss.Proofs.Checker.Operands
import TypeGloss.Proofs.Checker.Parts
import TypeGloss.Proofs.Checker.Quoting
import TypeGloss.Proofs.Checker.Reads
import TypeGloss.Proofs.Checker.Recursion
import TypeGloss.Proofs.Checker.Renaming
import TypeGloss.Proofs.Checker.Request
import TypeGloss.Proofs.Checker.Returns
import TypeGloss.Proofs.Checker.Settling
import TypeGloss.Proofs.Checker.Simplifying
import TypeGloss.Proofs.Checker.Sound
import TypeGloss.Proofs.Checker.SoundMembers
import TypeGloss.Proofs.Checker.SoundNames
import TypeGloss.Proofs.Checker.SoundParts
import TypeGloss.Proofs.Checker.SoundTypes
import TypeGloss.Proofs.Checker.SoundValues
import TypeGloss.Proofs.Checker.Sources
import TypeGloss.Proofs.Checker.Spelling
import TypeGloss.Proofs.Checker.Steady
import TypeGloss.Proofs.Checker.SteadyNames
import TypeGloss.Proofs.Checker.SteadyTypes
import TypeGloss.Proofs.Checker.SteadyValues
import TypeGloss.Proofs.Checker.Substitution
import TypeGloss.Proofs.Checker.SyntaxErrors
import TypeGloss.Proofs.Checker.Unfolding
import TypeGloss.Proofs.Checker.Unions
import TypeGloss.Proofs.Checker.Utilities
import TypeGloss.Proofs.Checker.Verdicts
import TypeGloss.Proofs.Comment
import TypeGloss.Proofs.Comment.Inside
import TypeGloss.Proofs.Documentation.Everywhere
import TypeGloss.Proofs.Documentation.Injective
import TypeGloss.Proofs.Documentation.Layout
import TypeGloss.Proofs.Documentation.Lifting
import TypeGloss.Proofs.Documentation.Nesting
import TypeGloss.Proofs.Documentation.PlainData
import TypeGloss.Proofs.Entries
import TypeGloss.Proofs.Enumeration
import TypeGloss.Proofs.Evaluation.Bitwise
import TypeGloss.Proofs.Evaluation.Distinct
import TypeGloss.Proofs.Evaluation.Equality
import TypeGloss.Proofs.Evaluation.Failure
import TypeGloss.Proofs.Evaluation.Integers
import TypeGloss.Proofs.Evaluation.Merging
import TypeGloss.Proofs.Evaluation.Monotone
import TypeGloss.Proofs.Evaluation.Outcome
import TypeGloss.Proofs.Evaluation.Refusal
import TypeGloss.Proofs.Evaluation.Script
import TypeGloss.Proofs.Evaluation.Soundness
import TypeGloss.Proofs.Evaluation.Spelling
import TypeGloss.Proofs.Evaluation.Values
import TypeGloss.Proofs.Evaluation.Withheld
import TypeGloss.Proofs.Lookup.Agreement
import TypeGloss.Proofs.Lookup.Graph
import TypeGloss.Proofs.Lookup.Reachability
import TypeGloss.Proofs.Lookup.Search
import TypeGloss.Proofs.Lookup.Shadowing
import TypeGloss.Proofs.Lookup.Termination
import TypeGloss.Proofs.Matching
import TypeGloss.Proofs.Module.Candidates
import TypeGloss.Proofs.Module.Declared
import TypeGloss.Proofs.Module.Induction
import TypeGloss.Proofs.Module.Reading
import TypeGloss.Proofs.Module.Tables
import TypeGloss.Proofs.Number.Finite
import TypeGloss.Proofs.Path.Canonical
import TypeGloss.Proofs.Path.Parts
import TypeGloss.Proofs.Resolution.Account
import TypeGloss.Proofs.Resolution.Accounting
import TypeGloss.Proofs.Resolution.Alike
import TypeGloss.Proofs.Resolution.Callables
import TypeGloss.Proofs.Resolution.Comparison
import TypeGloss.Proofs.Resolution.Cycle
import TypeGloss.Proofs.Resolution.Defaults
import TypeGloss.Proofs.Resolution.Depth
import TypeGloss.Proofs.Resolution.Extending
import TypeGloss.Proofs.Resolution.Filtering
import TypeGloss.Proofs.Resolution.History
import TypeGloss.Proofs.Resolution.Interned
import TypeGloss.Proofs.Resolution.Invalidation
import TypeGloss.Proofs.Resolution.Layout
import TypeGloss.Proofs.Resolution.Location
import TypeGloss.Proofs.Resolution.Made
import TypeGloss.Proofs.Resolution.Making
import TypeGloss.Proofs.Resolution.Privacy
import TypeGloss.Proofs.Resolution.Pushing
import TypeGloss.Proofs.Resolution.Stability
import TypeGloss.Proofs.Resolution.UnionOrder
import TypeGloss.Proofs.Resolution.Yield
import TypeGloss.Proofs.Run
import TypeGloss.Proofs.Text.Lines
import TypeGloss.Proofs.Text.Pieces
import TypeGloss.Proofs.Tree.Errors
import TypeGloss.Proofs.Tree.Law
import TypeGloss.Proofs.Tree.Literal
import TypeGloss.Proofs.Tree.Order
import TypeGloss.Proofs.Tree.Token
import TypeGloss.Resolution
import TypeGloss.Resolution.Builder
import TypeGloss.Resolution.Context
import TypeGloss.Resolution.Defaults
import TypeGloss.Resolution.Metadata
import TypeGloss.Session
import TypeGloss.Session.Description
import TypeGloss.Settings
import TypeGloss.Text.Blank
import TypeGloss.Text.CapitalTable
import TypeGloss.Text.CodePoint
import TypeGloss.Text.HiddenTable
import TypeGloss.Text.Letter
import TypeGloss.Text.Quoted
import TypeGloss.Text.WordTable
import TypeGloss.Tree.Basic
import TypeGloss.Tree.Cursor
import TypeGloss.Tree.Literal
import TypeGloss.Tree.Stored
import TypeGloss.Value
