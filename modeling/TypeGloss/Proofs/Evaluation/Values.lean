/-
# TypeGloss.Proofs.Evaluation.Values — what is computed with values

The functions of the evaluator that work on values, one by one, against the meaning of
constant expressions. On values in which all numbers are integers,

* what is not truthy is falsy, and values without parts are strictly equal only to themselves;
* a spelling is the text of a value, for arrays in arrays too (`reads_of_spelling`);
* entries that are written one after the other make the object that the definitions make
  (`assembles_ofList`);
* literals and keys are read as they are spelled;
* operators yield what the language says they yield, as long as their operands are of the kinds
  that are explained.
-/
import Mathlib.Data.List.Induction
import TypeGloss.Proofs.Evaluation.Outcome
import TypeGloss.Proofs.Evaluation.Spelling

namespace TypeGloss.Script

set_option autoImplicit false

open Evaluation

/-! ## Objects, truth, equality -/

/-- Writing definitions one after the other makes the object that they make. -/
theorem assembles_ofList (definitions : List (String × Value)) :
    Assembles definitions (Entries.ofList definitions) := by
  induction definitions using List.reverseRec with
  | nil => exact ⟨rfl, fun _ => rfl⟩
  | append_singleton earlier last ih =>
      have listed : last.1 ∈ Entries.names (Entries.ofList earlier) ↔
          last.1 ∈ (earlier.map Prod.fst).reverse := by
        rw [ih.names, List.mem_reverse, List.mem_dedup]
      refine ⟨?_, fun key => ?_⟩
      · rw [Entries.ofList_concat, Entries.names_put]
        simp only [List.map_append, List.map_cons, List.map_nil, List.reverse_append,
          List.reverse_cons, List.reverse_nil, List.nil_append, List.singleton_append]
        split
        · next there => rw [List.dedup_cons_of_mem (listed.1 there), ih.names]
        · next absent =>
            rw [List.dedup_cons_of_notMem (mt listed.2 absent), List.reverse_cons, ih.names]
      · rw [Entries.ofList_concat, Entries.find?_put, ih.last, List.reverse_append]
        simp only [List.reverse_cons, List.reverse_nil, List.nil_append, List.singleton_append,
          Entries.find?, eq_comm]

theorem truthy_eq_false_iff {v : Value} (whole : IsWhole v) : v.truthy = false ↔ IsFalsy v := by
  constructor
  · intro falsy
    cases whole with
    | null => exact .null
    | flag b =>
        obtain rfl : b = false := falsy
        exact .flag
    | integer n =>
        obtain rfl : n = 0 := by simpa [Value.truthy] using falsy
        exact .zero
    | text s =>
        obtain rfl : s = "" := by simpa [Value.truthy] using falsy
        exact .empty
    | list each => simp [Value.truthy] at falsy
    | object each => simp [Value.truthy] at falsy
  · intro falsy
    cases falsy <;> rfl

theorem truthy_iff {v : Value} (whole : IsWhole v) : v.truthy = true ↔ ¬ IsFalsy v := by
  rw [← truthy_eq_false_iff whole, Bool.not_eq_false]

theorem amountAgree_flag (a b : Bool) :
    Value.amountAgree (.flag a) (.flag b) = true ↔ a = b := by
  cases a <;> cases b <;> decide

theorem strictlyEqual_iff {v w : Value} (first : IsPrimitive v) (second : IsPrimitive w) :
    v.strictlyEqual w = true ↔ v = w := by
  cases first with
  | null => cases second <;> simp [Value.strictlyEqual, Value.isNumber, Value.agree, Value.sameKind]
  | flag a =>
      cases second with
      | flag b =>
          simp [Value.strictlyEqual, Value.isNumber, Value.agree, Value.sameKind, amountAgree_flag]
      | _ => simp [Value.strictlyEqual, Value.isNumber, Value.sameKind]
  | integer m =>
      cases second with
      | integer n =>
          simp [Value.strictlyEqual, Value.isNumber, Value.compare?, Value.amount?,
            Value.Amount.compare?]
      | _ => simp [Value.strictlyEqual, Value.isNumber, Value.sameKind]
  | text s =>
      cases second with
      | text t => simp [Value.strictlyEqual, Value.isNumber, Value.agree, Value.sameKind]
      | _ => simp [Value.strictlyEqual, Value.isNumber, Value.sameKind]

/-! ## Texts -/

theorem integerText_eq (n : Int) : Number.integerText n = toString n := by
  cases n with
  | ofNat n =>
      have nonnegative : ¬ Int.ofNat n < 0 := by simp
      rw [Number.integerText, if_neg nonnegative]
      rfl
  | negSucc n =>
      have negative : Int.negSucc n < 0 := Int.negSucc_lt_zero n
      rw [Number.integerText, if_pos negative]
      rw [String.ofList_cons]
      rfl

theorem joinWith_eq (separator : String) (texts : List String) :
    Text.joinWith separator texts = separator.intercalate texts := by
  induction texts with
  | nil => rfl
  | cons s rest ih =>
      cases rest with
      | nil => simp [Text.joinWith]
      | cons t more =>
        simp [Text.joinWith, ih]

/-- Items are put into words one after the other; null and what is missing are empty. -/
theorem spellings_cons {item : Value} {rest : List Value} {found : List (Option String)}
    (spelled : Value.spellings (item :: rest) = .ok found) :
    ∃ part parts, found = part :: parts ∧ Value.spellings rest = .ok parts ∧
      (item = .null ∧ part = some "" ∨ item ≠ .null ∧ item.spelling = .ok part) := by
  by_cases present : item = .null
  · subst present
    rw [Value.spellings] at spelled
    obtain ⟨_, ⟨⟩, spelled⟩ := Result.bind_eq_ok.1 spelled
    obtain ⟨parts, more, last⟩ := Result.bind_eq_ok.1 spelled
    exact ⟨_, _, (Except.ok.inj last).symm, more, .inl ⟨rfl, rfl⟩⟩
  · rw [Value.spellings.eq_3 _ _ present] at spelled
    obtain ⟨part, first, spelled⟩ := Result.bind_eq_ok.1 spelled
    obtain ⟨parts, more, last⟩ := Result.bind_eq_ok.1 spelled
    exact ⟨_, _, (Except.ok.inj last).symm, more, .inr ⟨present, first⟩⟩

mutual

/-- A value is spelled as its text. -/
theorem reads_of_spelling {s : String} : (v : Value) → IsWhole v →
    v.spelling = .ok (some s) → Reads v s
  | .null, _, spelled => by
      simp only [Value.spelling, Except.ok.injEq, Option.some.injEq] at spelled
      subst spelled
      exact .null
  | .flag b, _, spelled => by
      simp only [Value.spelling, Except.ok.injEq, Option.some.injEq] at spelled
      subst spelled
      exact .flag b
  | .text t, _, spelled => by
      simp only [Value.spelling, Except.ok.injEq, Option.some.injEq] at spelled
      subst spelled
      exact .text t
  | .integer n, _, spelled => by
      simp only [Value.spelling, Value.integerSpelling, integerText_eq] at spelled
      split at spelled
      · simp [Except.map] at spelled
      · simp only [Except.map, Except.ok.injEq, Option.some.injEq] at spelled
        subst spelled
        exact .integer n
  | .list items, whole, spelled => by
      cases whole with
      | list each =>
          simp only [Value.spelling] at spelled
          obtain ⟨found, parts, spelled⟩ := Result.bind_eq_ok.1 spelled
          split at spelled
          · next texts all =>
              simp only [Except.ok.injEq, Option.some.injEq] at spelled
              subst spelled
              rw [joinWith_eq]
              exact .list (readsAll_of_spellings items each parts all)
          · simp at spelled
  | .object entries, _, spelled => by simp [Value.spelling] at spelled
  | .number x, whole, _ => by cases whole
  | .notNumber mark, whole, _ => by cases whole

/-- Items that all have texts are read as these texts. -/
theorem readsAll_of_spellings {found : List (Option String)} {texts : List String} :
    (items : List Value) → (∀ v ∈ items, IsWhole v) → Value.spellings items = .ok found →
      found.mapM id = some texts → ReadsAll items texts
  | [], _, spelled, all => by
      simp only [Value.spellings, Except.ok.injEq] at spelled
      subst spelled
      simp at all
      subst all
      exact .nil
  | item :: rest, each, spelled, all => by
      obtain ⟨whole, others⟩ := List.forall_mem_cons.1 each
      obtain ⟨part, parts, rfl, more, first⟩ := spellings_cons spelled
      simp only [List.mapM_cons, id, Option.bind_eq_bind, Option.bind_eq_some_iff,
        Option.pure_def, Option.some.injEq] at all
      obtain ⟨text, rfl, tail, remaining, rfl⟩ := all
      have last := readsAll_of_spellings rest others more remaining
      rcases first with ⟨rfl, empty⟩ | ⟨present, first⟩
      · obtain rfl : text = "" := Option.some.inj empty
        exact .null last
      · exact .cons present (reads_of_spelling item whole first) last

end

/-! ## Literals -/

theorem fragmentValue_piece {t : Tree} {s : String} (piece : SpellsPiece t s) :
    Literal.fragmentValue t = .ok s := by
  cases piece with
  | fragment kind => simp [Literal.fragmentValue, kind]
  | escape kind denotes =>
      have decoded := Literal.decodeEscapeChars_denotes denotes
      simp [Literal.fragmentValue, kind, Literal.decodeEscape, decoded, Except.map]

theorem mapM_fragmentValue {nodes : List Tree} {texts : List String}
    (each : List.Forall₂ SpellsPiece nodes texts) :
    nodes.mapM Literal.fragmentValue = .ok texts := by
  induction each with
  | nil => rfl
  | cons piece _ ih => simp [fragmentValue_piece piece, ih, bind, Except.bind, pure, Except.pure]

theorem stringValue_text {t : Tree} {s : String} (spelled : SpellsText t s) :
    Literal.stringValue t = .ok s := by
  cases spelled with
  | empty kind bare quotes =>
      rcases quotes with quotes | quotes <;> rw [Literal.stringValue, bare, quotes] <;> rfl
  | pieces kind some each =>
      rw [Literal.stringValue]
      split
      · contradiction
      · simp [mapM_fragmentValue each, bind, Except.bind, pure, Except.pure]

theorem SpellsText.kind {t : Tree} {s : String} (spelled : SpellsText t s) : t.kind = "string" := by
  cases spelled <;> assumption

theorem propertyKey?_key {t : Tree} {s : String} (spelled : SpellsKey t s) :
    Literal.propertyKey? t = .ok (some s) := by
  cases spelled with
  | identifier kind => simp [Literal.propertyKey?, kind]
  | text spelled => simp [Literal.propertyKey?, spelled.kind, stringValue_text spelled, Except.map]

/-- A key gives no other name than the one it spells. -/
theorem entryKey_key {below : Tree → Evaluation Value} {t : Tree} {key other : String}
    (labelled : SpellsKey t key) (given : Gives (Expression.entryKey below (some t)) other) : other = key := by
  have kind : t.kind ≠ "computed_property_name" := by
    cases labelled with
    | identifier kind => simp [kind]
    | text spelled => simp [spelled.kind]
  simp only [Expression.entryKey, beq_iff_eq, kind, if_false, propertyKey?_key labelled, ofResult_ok_bind,
    gives_ofOption, Option.some.injEq] at given
  exact given.symm

/-! ## Operators -/

section Operators

variable {scope : Scope}

/-- An operator on one operand yields what it gives. -/
theorem unary_yields {operator : Unary} {e : Term} {v w : Value} (fits : Fits scope (.unary operator e))
    (value : Yields scope e v) (given : Gives (Operators.unary operator.sign v) w) :
    Yields scope (.unary operator e) w := by
  cases operator with
  | not =>
      obtain rfl : Value.flag (!v.truthy) = w := gives_pure.1 given
      refine .not value ?_
      rw [Bool.not_eq_true', truthy_eq_false_iff value.isWhole]
  | minus =>
      obtain ⟨n, nonzero, rfl⟩ := fits.suits v value
      obtain rfl : Value.integer (-n) = w := gives_pure.1 given
      exact .minus value nonzero

/-- Two operands, one of them a text, are joined as the separate semantics joins them. -/
theorem concat_yields {a b : Term} {v w result : Value} (left : Yields scope a v)
    (right : Yields scope b w) (oneText : (∃ s, v = .text s) ∨ ∃ s, w = .text s)
    (given : Gives (Operators.concat v w) result) : Yields scope (.binary .plus a b) result := by
  simp only [Operators.concat, gives_bind, gives_ofResult] at given
  obtain ⟨before, first, after, second, joined⟩ := given
  split at joined
  · rw [gives_pure] at joined
    subst joined
    exact .plus left right oneText (reads_of_spelling v left.isWhole first)
      (reads_of_spelling w right.isWhole second)
  · simp at joined

/-- A sum yields what it gives, whether it joins texts or adds numbers. -/
theorem add_yields {a b : Term} {v w result : Value} (fits : Fits scope (.binary .plus a b))
    (left : Yields scope a v) (right : Yields scope b w)
    (given : Gives (Operators.add v w) result) : Yields scope (.binary .plus a b) result := by
  have oneText := fits.suits v w left right
  have joined : Operators.add v w = Operators.concat v w := by
    rcases oneText with ⟨s, rfl⟩ | ⟨s, rfl⟩
    · simp [Operators.add, Value.isNumber]
    · cases v <;> simp [Operators.add, Value.isNumber]
  exact concat_yields left right oneText (joined ▸ given)

/-- The left operand decides or leaves the decision to the right one, as the language
says. -/
theorem decides_or_passes {operator : Binary} {v : Value} (whole : IsWhole v)
    {found : Option Value} (given : Operators.shortCircuit? operator.sign v = some found) :
    (found = some v ∧ Decides operator v) ∨ (found = none ∧ Passes operator v) := by
  cases operator with
  | and =>
      simp only [Operators.shortCircuit?, Binary.sign, Option.some.injEq] at given
      split at given
      · next truthy => exact .inr ⟨given.symm, .and ((truthy_iff whole).1 truthy)⟩
      · next falsy =>
          exact .inl ⟨given.symm, .and ((truthy_eq_false_iff whole).1 (by simpa using falsy))⟩
  | or =>
      simp only [Operators.shortCircuit?, Binary.sign, Option.some.injEq] at given
      split at given
      · next truthy => exact .inl ⟨given.symm, .or ((truthy_iff whole).1 truthy)⟩
      · next falsy =>
          exact .inr ⟨given.symm, .or ((truthy_eq_false_iff whole).1 (by simpa using falsy))⟩
  | orElse =>
      simp only [Operators.shortCircuit?, Binary.sign, Option.some.injEq] at given
      split at given
      · exact .inr ⟨given.symm, .orElse⟩
      · next present => exact .inl ⟨given.symm, .orElse present⟩
  | same => simp [Operators.shortCircuit?, Binary.sign] at given
  | differ => simp [Operators.shortCircuit?, Binary.sign] at given
  | plus => simp [Operators.shortCircuit?, Binary.sign] at given

/-- An operator that needs both operands. -/
theorem binary_yields {operator : Binary} {a b : Term} {v w result : Value}
    (fits : Fits scope (.binary operator a b)) (left : Yields scope a v)
    (right : Yields scope b w) (both : Operators.shortCircuit? operator.sign v = none)
    (given : Gives (Operators.binary operator.sign v w) result) :
    Yields scope (.binary operator a b) result := by
  cases operator with
  | and => simp [Operators.shortCircuit?, Binary.sign] at both
  | or => simp [Operators.shortCircuit?, Binary.sign] at both
  | orElse => simp [Operators.shortCircuit?, Binary.sign] at both
  | same =>
      have primitive := fits.suits v w left right
      simp [Operators.binary, Binary.sign] at given
      subst given
      exact .same left right primitive (strictlyEqual_iff primitive.1 primitive.2)
  | differ =>
      have primitive := fits.suits v w left right
      simp [Operators.binary, Binary.sign] at given
      subst given
      exact .differ left right primitive (strictlyEqual_iff primitive.1 primitive.2)
  | plus => exact add_yields fits left right given

end Operators

end TypeGloss.Script
