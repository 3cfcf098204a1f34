/-
# TypeGloss.Proofs.Resolution.Interned — what stands under the keys of a checker

The theorems about unions and about keys as properties are about states that have under a key
what was made for it, as far as each of them asks: unions with their members and the type
without values (`State.KeepsUnions`), literals and unions of them (`State.KeepsKeys`), texts
(`State.KeepsTexts`). All of it is a part of `State.Keyed`, which a new checker has and every
request keeps, so that it holds in each state that a checker can come to, whatever it was asked
before and whichever requests failed.
-/
import TypeGloss.Proofs.Checker.Exclusion
import TypeGloss.Proofs.Checker.MappedUtilities
import TypeGloss.Proofs.Checker.Unions
import TypeGloss.Proofs.Resolution.Accounting

namespace TypeGloss

set_option autoImplicit false

variable {s : State}

/-- Only one value is kept under the key of a text. -/
theorem LiteralKey.ofValue_eq_text_iff {value : Value} {key : String} :
    LiteralKey.ofValue value = .text key ↔ value = .text key := by
  cases value <;> simp [LiteralKey.ofValue]

theorem Key.Made.fits {key : Key} {r : TypeRecord} (made : key.Made r) : key.Fits r := by
  cases key with
  | union members => exact made
  | literal p value => exact ⟨made.1, made.2.1⟩
  | primitive p => exact made
  | _ => trivial

namespace State.Keyed

variable (keyed : s.Keyed)

include keyed

theorem keepsUnions : s.KeepsUnions where
  union made := keyed.made made
  never made := keyed.made made

theorem keepsKeys : s.KeepsKeys := by
  intro key t made
  obtain ⟨r, known, is⟩ := keyed.made made
  exact ⟨r, known, is.fits⟩

theorem keepsTexts : s.KeepsTexts := by
  intro key t made
  obtain ⟨r, known, category, primitive, value⟩ := keyed.made made
  exact ⟨r, known, category, primitive, LiteralKey.ofValue_eq_text_iff.1 value⟩

end State.Keyed

/-- Whatever a checker was asked and told, under its keys it has what was made for them. -/
theorem State.keeps_through (identity : Nat) (settings : SourceSettings) (history : List Event) :
    (State.through { identity, settings } history).KeepsUnions ∧
      (State.through { identity, settings } history).KeepsKeys ∧
      (State.through { identity, settings } history).KeepsTexts :=
  have keyed := State.Keyed.reachable identity settings history
  ⟨keyed.keepsUnions, keyed.keepsKeys, keyed.keepsTexts⟩

end TypeGloss
