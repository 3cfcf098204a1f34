/-
# TypeGloss.Proofs.Evaluation.Integers — integer literals, exact and rounded

An integer literal is a `Numeral`; a big integer is a numeral with an `n` behind it. There are
two readers. The one for expressions, `numberValue`, narrows: up to the greatest safe integer a
literal is its value, and above that it is the nearest floating-point number
(`numberValue_exact`). The one for types, `numberLiteral`, does not narrow a big integer.

Both take the same digits from the text: underscores do not count, and no digit of a base is
taken for its mark, for the `n`, or for the point or exponent of a decimal. So they agree on a
big integer exactly if it is a safe one, and beyond that only the type is exact
(`bigInteger_values`).
-/
import TypeGloss.Proofs.Evaluation.Outcome
import TypeGloss.Proofs.Tree.Token

namespace TypeGloss

set_option autoImplicit false

namespace Literal

/-- The number that an integer is rounded to: the nearest one, or infinity if there is none. -/
def rounded (n : Nat) : Float :=
  (Number.ofInteger? n).getD (1.0 / 0.0)

theorem ofInteger_of_lt {n : Nat} (large : Value.maxSafeInteger < n) :
    ofInteger (n : Int) = .number (rounded n) := by
  have unsafe' : Value.isSafe n = false := by simp [Value.isSafe, large]
  rw [ofInteger, unsafe']
  rfl

theorem ofInteger_eq_integer_iff {n : Nat} :
    ofInteger (n : Int) = .integer n ↔ n ≤ Value.maxSafeInteger := by
  refine ⟨fun kept => ?_, ofInteger_of_le⟩
  by_contra large
  rw [ofInteger_of_lt (not_le.1 large)] at kept
  cases kept

/-! ## Expressions -/

/-- Digits that are not too many, in a literal with an `n` or without. -/
theorem length_le_of_not_isOverlong {cs suffix : List Char} {ds : List Nat}
    (separated : Separated 10 cs ds) (suffixed : suffix = [] ∨ suffix = ['n'])
    (readable : ¬ IsOverlong (cs ++ suffix)) : ds.length ≤ Fault.digitLimit := by
  refine not_lt.1 fun long => readable ⟨cs, ds, separated, long, ?_⟩
  rcases suffixed with rfl | rfl
  · exact .inl (List.append_nil cs)
  · exact .inr rfl

/-- A numeral, with an `n` or without, is read as its value, rounded if it is not safe. -/
theorem numberValue_suffixed {text : String} {cs suffix : List Char} {n : Nat}
    (numeral : Numeral cs n) (written : text.toList = cs ++ suffix)
    (suffixed : suffix = [] ∨ suffix = ['n']) (readable : ¬ IsOverlong text.toList) :
    numberValue text = .ok (ofInteger n) := by
  rw [written] at readable
  cases numeral with
  | zero =>
      have separated : Separated 10 ['0'] [0] := .last ⟨by decide, .inl rfl⟩
      exact numberValue_decimal written suffixed separated (by decide)
  | decimal separated _ =>
      exact numberValue_decimal written suffixed separated
        (length_le_of_not_isOverlong separated suffixed readable)
  | marked marks separated => exact numberValue_marked written suffixed marks separated

/-- Up to the greatest safe integer, an integer literal is read as its value. The literal of
a larger integer, unless it has more digits than are read, is a floating-point number. -/
theorem numberValue_exact {text : String} {n : Nat} (numeral : Numeral text.toList n) :
    (n ≤ Value.maxSafeInteger → numberValue text = .ok (.integer n)) ∧
      (Value.maxSafeInteger < n → ¬ IsOverlong text.toList →
        numberValue text = .ok (.number (rounded n))) := by
  refine ⟨numberValue_numeral numeral, fun large readable => ?_⟩
  rw [numberValue_suffixed numeral (List.append_nil _).symm (.inl rfl) readable,
    ofInteger_of_lt large]

namespace Separated

variable {base : Nat}

/-- There are no more digits than characters. -/
theorem length_le {cs : List Char} {ds : List Nat} (separated : Separated base cs ds) :
    ds.length ≤ cs.length := by
  induction separated with
  | last => exact Nat.le_refl _
  | next _ _ ih => exact Nat.succ_le_succ ih
  | apart _ _ ih => exact Nat.le_succ_of_le (Nat.succ_le_succ ih)

/-- Digits in small letters, with nothing in between. -/
theorem ofDigits {ds : List Nat} (some : ds ≠ []) (small : ∀ d ∈ ds, d < base) :
    Separated base (ds.map Nat.digitChar) ds := by
  induction ds with
  | nil => exact absurd rfl some
  | cons d rest ih =>
      obtain ⟨first, others⟩ := List.forall_mem_cons.1 small
      have digit : IsDigit base (Nat.digitChar d) d := ⟨first, .inl rfl⟩
      cases rest with
      | nil => exact .last digit
      | cons => exact .next digit (ih (by simp) others)

end Separated

/-- A literal of no more characters than digits are read is not overlong. -/
theorem IsOverlong.lt_length {cs : List Char} (overlong : IsOverlong cs) :
    Fault.digitLimit < cs.length := by
  obtain ⟨digits, ds, separated, long, written⟩ := overlong
  have bounded := separated.length_le
  rcases written with rfl | rfl
  · omega
  · rw [List.length_append]
    omega

/-- Hexadecimal digits that could be taken for an exponent and a mark, and the second integer
above the safe ones. -/
theorem numberValue_exact_hexadecimal :
    Numeral "0XfE_b".toList 4075 ∧ numberValue "0XfE_b" = .ok (.integer 4075) ∧
      Numeral "0x20000000000001".toList 9007199254740993 ∧
      ¬ IsOverlong "0x20000000000001".toList ∧
      numberValue "0x20000000000001" = .ok (.number (rounded 9007199254740993)) := by
  have spelled : "0XfE_b".toList = ['0', 'X', 'f', 'E', '_', 'b'] := by decide
  have spelled' : "0x20000000000001".toList =
      '0' :: 'x' :: [2, 0, 0, 0, 0, 0, 0, 0, 0, 0, 0, 0, 0, 1].map Nat.digitChar := by decide
  have small : Numeral "0XfE_b".toList 4075 := by
    have digits : Separated 16 ['f', 'E', '_', 'b'] [15, 14, 11] :=
      .next ⟨by decide, .inl rfl⟩ (.apart ⟨by decide, .inr rfl⟩ (.last ⟨by decide, .inl rfl⟩))
    rw [spelled]
    exact .marked (.hexadecimal (.inr rfl)) digits
  have large : Numeral "0x20000000000001".toList 9007199254740993 := by
    rw [spelled']
    exact .marked (.hexadecimal (.inl rfl)) (.ofDigits (by decide) (by decide))
  have readable : ¬ IsOverlong "0x20000000000001".toList := fun overlong =>
    absurd overlong.lt_length (by decide)
  exact ⟨small, (numberValue_exact small).1 (by decide), large, readable,
    (numberValue_exact large).2 (by decide) readable⟩

/-! ## Types -/

/-- Digits that do not start with a zero are decimal where no base is asked for. -/
theorem takeMark_leading {c : Char} {cs : List Char} {d : Nat} (digit : IsDigit 10 c d)
    (leading : d ≠ 0) : Number.takeMark 0 (c :: cs) = (10, c :: cs, false) := by
  have notZero : c ≠ '0' := by
    rintro rfl
    have value : Number.digit? '0' = some d := (digit.plain (by omega)).value
    exact leading (Option.some.inj (value.symm.trans (by decide)))
  unfold Number.takeMark
  split <;> simp_all

/-- Digits behind the mark of a base are taken in that base where no base is asked for. -/
theorem takeMark_marked {mark : Char} {base : Nat} {cs : List Char} {ds : List Nat}
    (marks : Marks mark base) (digits : List.Forall₂ (IsDigit base) cs ds) :
    Number.takeMark 0 ('0' :: mark :: cs) = (base, cs, false) := by
  obtain ⟨marked, known, -, -, -⟩ := marks.markedBase?
  have separators :=
    forall_digits digits fun digit => (digit.plain (le_of_mem_bases known)).separator
  simp only [Number.takeMark, marked, decide_true, Bool.true_or, if_true]
  -- No underscore is left to be dropped behind the mark.
  split
  · exact absurd rfl (separators '_' List.mem_cons_self)
  · rfl

theorem Marks.isPadding {mark : Char} {base : Nat} (marks : Marks mark base) :
    Number.isPadding mark = false := by
  rcases marks with letter | letter | letter <;> rcases letter with rfl | rfl <;> decide

/-- A literal with the suffix is the integer read from the digits before it. -/
theorem numberLiteral_suffixed {text : String} {cs : List Char} {n : Int}
    (written : text.toList = cs ++ ['n'])
    (read : Number.readInteger 0 (String.ofList (cs.filter (· != '_'))) = .ok n) :
    numberLiteral text = .ok (.integer n, true) := by
  simp [numberLiteral, written, read, bind, Except.bind, pure, Except.pure]

/-- A big integer in a type is its value, however large it is. -/
theorem numberLiteral_bigInteger {text : String} {cs : List Char} {n : Nat}
    (numeral : Numeral cs n) (written : text.toList = cs ++ ['n'])
    (readable : ¬ IsOverlong text.toList) : numberLiteral text = .ok (.integer n, true) := by
  refine numberLiteral_suffixed written ?_
  rw [written] at readable
  cases numeral with
  | zero => rfl
  | @decimal c cs d ds separated leading =>
      have short := length_le_of_not_isOverlong separated (.inr rfl) readable
      have digits := separated.digits (by omega)
      have unpadded := forall_digits digits fun digit => (digit.plain (by omega)).padding
      have unsigned := takeSign_digits (by omega) digits
      generalize (c :: cs).filter (· != '_') = plain at *
      cases digits with
      | cons digit others =>
          exact readInteger_of_takeMark (by decide) unpadded unsigned
            (takeMark_leading digit leading) (.cons digit others) (by simp) (fun _ => short) nofun
  | @marked mark base cs ds marks separated =>
      obtain ⟨-, known, notDecimal, -, -⟩ := marks.markedBase?
      have digits := separated.digits (le_of_mem_bases known)
      have plain := forall_digits digits fun digit => (digit.plain (le_of_mem_bases known)).padding
      rw [marks.filter_eq]
      refine readInteger_of_takeMark known ?_ rfl (takeMark_marked marks digits) digits
        separated.ne_nil (fun decimal => absurd decimal notDecimal) nofun
      exact List.forall_mem_cons.2 ⟨by decide, List.forall_mem_cons.2 ⟨marks.isPadding, plain⟩⟩

end Literal

open Evaluation Literal

namespace Expression

/-- A number in an expression is what its text is read as. -/
theorem evaluate_number {context : Context} {depth : Nat} {resolving : List String} {t : Tree}
    (kind : t.kind = "number") {v : Value} :
    Gives (evaluate context (depth + 1) resolving t) v ↔ numberValue t.text = .ok v := by
  simp [evaluate, evaluateNode, kind]

end Expression

/-- A big integer in a type is its value. In an expression, and as the key of a property, the
same text has that value too exactly if it is a safe integer; above, it is rounded. -/
theorem Literal.bigInteger_values {text : String} {cs : List Char} {n : Nat}
    (numeral : Numeral cs n) (written : text.toList = cs ++ ['n'])
    (readable : ¬ IsOverlong text.toList) :
    numberLiteral text = .ok (.integer n, true) ∧
      ∃ v, numberValue text = .ok v ∧ (v = .integer n ↔ n ≤ Value.maxSafeInteger) ∧
        (Value.maxSafeInteger < n → v = .number (rounded n)) ∧
        ∀ t : Tree, t.kind = "number" → t.text = text →
          propertyKey? t = .ok (some v.keyText) ∧
          ∀ (context : Expression.Context) (depth : Nat) (resolving : List String),
            Gives (Expression.evaluate context (depth + 1) resolving t) v := by
  have read := numberValue_suffixed numeral written (.inr rfl) readable
  refine ⟨numberLiteral_bigInteger numeral written readable, ofInteger n, read,
    ofInteger_eq_integer_iff, ofInteger_of_lt, ?_⟩
  rintro t kind rfl
  refine ⟨?_, fun context depth resolving => (Expression.evaluate_number kind).2 read⟩
  simp [propertyKey?, kind, read, Except.map]

/-- The second integer above the safe ones, as a big integer. -/
theorem Literal.bigInteger_values_past :
    Numeral "9007199254740993".toList 9007199254740993 ∧
      ¬ IsOverlong "9007199254740993n".toList ∧
      numberLiteral "9007199254740993n" = .ok (.integer 9007199254740993, true) ∧
      numberValue "9007199254740993n" = .ok (.number (rounded 9007199254740993)) := by
  let ds := [9, 0, 0, 7, 1, 9, 9, 2, 5, 4, 7, 4, 0, 9, 9, 3]
  have spelled : "9007199254740993".toList = ds.map Nat.digitChar := by decide
  have digits : Separated 10 (ds.map Nat.digitChar) ds := .ofDigits (by decide) (by decide)
  have numeral : Numeral "9007199254740993".toList 9007199254740993 := by
    rw [spelled]
    exact .decimal digits (by decide)
  have readable : ¬ IsOverlong "9007199254740993n".toList := fun overlong =>
    absurd overlong.lt_length (by decide)
  obtain ⟨exact', v, read, -, past, -⟩ := bigInteger_values numeral (by decide) readable
  rw [past (by decide)] at read
  exact ⟨numeral, readable, exact', read⟩

end TypeGloss
