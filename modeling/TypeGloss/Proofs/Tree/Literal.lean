/-
# TypeGloss.Proofs.Tree.Literal — literals are read as they are written

The grammar of literals, apart from the functions that read them:

* `IsDigit base c d`: the character `c` is the digit `d`, a letter in either case;
* `Separated`: digits, some of them with an underscore in between;
* `Numeral cs n`: the characters are an integer literal of the value `n`, in decimal
  without a leading zero or in a base that a letter marks;
* `Denotes cs c`: the characters are an escape sequence for the character `c`.

A digit sequence is read as the number it denotes in its base (`readInteger_digits`), and
from that numerals (`numberValue_numeral`) and escapes (`decodeEscapeChars_denotes`).
-/
import Mathlib.Data.List.Forall2
import Mathlib.Data.Nat.Digits.Defs
import Mathlib.Tactic.Ring
import TypeGloss.Tree.Literal

namespace TypeGloss

set_option autoImplicit false

namespace Literal

/-! ## Digits -/

/-- The character is a digit of the base. -/
def IsDigit (base : Nat) (c : Char) (d : Nat) : Prop :=
  d < base ∧ (c = Nat.digitChar d ∨ c = (Nat.digitChar d).toUpper)

/-- What tells the digits from all other characters that have a meaning in a numeral. -/
structure Plain (c : Char) (d : Nat) : Prop where
  value : Number.digit? c = some d
  padding : Number.isPadding c = false
  sign : c ≠ '-' ∧ c ≠ '+'
  separator : c ≠ '_'
  suffix : c ≠ 'n'
  point : c ≠ '.'

/-- What holds of a digit in small letters and in capitals holds of it however it is written. -/
theorem forall_digitChars {base : Nat} {P : Nat → Char → Prop}
    (small : ∀ d < base, P d (Nat.digitChar d))
    (capital : ∀ d < base, P d (Nat.digitChar d).toUpper) :
    ∀ d < base, ∀ c ∈ [Nat.digitChar d, (Nat.digitChar d).toUpper], P d c := by
  intro d bounded c written
  rcases List.mem_pair.1 written with rfl | rfl
  · exact small d bounded
  · exact capital d bounded

/-- Every digit is read back from its character, in both cases. -/
theorem plain_digits : ∀ d < 16, ∀ c ∈ [Nat.digitChar d, (Nat.digitChar d).toUpper],
    Number.digit? c = some d ∧ Number.isPadding c = false ∧ (c ≠ '-' ∧ c ≠ '+') ∧
      c ≠ '_' ∧ c ≠ 'n' ∧ c ≠ '.' :=
  forall_digitChars (by decide) (by decide)

theorem marked_digits : ∀ base ∈ [2, 8, 10, 16], ∀ d < base,
    ∀ c ∈ [Nat.digitChar d, (Nat.digitChar d).toUpper], Number.markedBase? c ≠ some base := by
  have small : ∀ base ∈ [2, 8, 10, 16], ∀ d < base,
      Number.markedBase? (Nat.digitChar d) ≠ some base := by decide
  have capital : ∀ base ∈ [2, 8, 10, 16], ∀ d < base,
      Number.markedBase? (Nat.digitChar d).toUpper ≠ some base := by decide
  exact fun base known => forall_digitChars (small base known) (capital base known)

theorem decimal_digits : ∀ d < 10, ∀ c ∈ [Nat.digitChar d, (Nat.digitChar d).toUpper],
    Number.markedBase? c = none ∧ c ≠ 'e' ∧ c ≠ 'E' :=
  forall_digitChars (by decide) (by decide)

namespace IsDigit

variable {base d : Nat} {c : Char}

theorem mem (digit : IsDigit base c d) : c ∈ [Nat.digitChar d, (Nat.digitChar d).toUpper] := by
  simpa using digit.2

theorem plain (small : base ≤ 16) (digit : IsDigit base c d) : Plain c d := by
  have below : d < 16 := lt_of_lt_of_le digit.1 small
  obtain ⟨value, padding, sign, separator, suffix, point⟩ := plain_digits d below c digit.mem
  exact ⟨value, padding, sign, separator, suffix, point⟩

theorem digitIn? (small : base ≤ 16) (digit : IsDigit base c d) :
    Number.digitIn? base c = some d := by
  simp [Number.digitIn?, (digit.plain small).value, digit.1]

end IsDigit

/-- Bases that numerals are written in. -/
def bases : List Nat := [2, 8, 10, 16]

theorem le_of_mem_bases {base : Nat} (known : base ∈ bases) : base ≤ 16 := by
  revert base
  decide

/-! ## Reading digits -/

section Digits

variable {base : Nat} {cs : List Char} {ds : List Nat}

/-- What every digit satisfies, every character of a digit sequence does. -/
theorem forall_digits {P : Char → Prop} (digits : List.Forall₂ (IsDigit base) cs ds)
    (each : ∀ {c d}, IsDigit base c d → P c) : ∀ c ∈ cs, P c := by
  have both := digits.imp fun c d digit => And.intro (each digit) digit
  exact ((List.forall₂_and_left cs ds).1 both).1

theorem takeDigits_digits (small : base ≤ 16) (digits : List.Forall₂ (IsDigit base) cs ds)
    (inside : Bool) : Number.takeDigits base inside cs = (ds, []) := by
  induction digits generalizing inside with
  | nil => rfl
  | @cons c d rest more digit _ ih =>
      have separator : c ≠ '_' := (digit.plain small).separator
      unfold Number.takeDigits
      split
      · simp_all
      · simp_all
      · simp_all
      · next same =>
          obtain ⟨rfl, rfl⟩ := List.cons.inj same
          simp [digit.digitIn? small, ih, Number.consDigit]

theorem trimPadding_of_forall (unpadded : ∀ c ∈ cs, Number.isPadding c = false) :
    Number.trimPadding cs = cs := by
  have front : cs.dropWhile Number.isPadding = cs := by
    cases cs with
    | nil => rfl
    | cons c rest => simp [unpadded c]
  have back : cs.reverse.dropWhile Number.isPadding = cs.reverse := by
    cases backward : cs.reverse with
    | nil => rfl
    | cons c rest =>
        have among : c ∈ cs := by
          rw [← List.mem_reverse, backward]
          exact List.mem_cons_self
        simp [unpadded c among]
  simp [Number.trimPadding, Text.dropTail, front, back]

theorem foldl_digits (base start : Nat) (ds : List Nat) :
    ds.foldl (fun n d => n * base + d) start =
      start * base ^ ds.length + Nat.ofDigits base ds.reverse := by
  induction ds generalizing start with
  | nil => simp
  | cons d rest ih =>
      rw [List.foldl_cons, ih, List.reverse_cons, Nat.ofDigits_append, List.length_reverse,
        Nat.ofDigits_singleton, List.length_cons]
      ring

theorem ofDigits_eq (base : Nat) (ds : List Nat) :
    Number.ofDigits base ds = Nat.ofDigits base ds.reverse := by
  simp [Number.ofDigits, foldl_digits]

theorem takeSign_digits (small : base ≤ 16) (digits : List.Forall₂ (IsDigit base) cs ds) :
    Number.takeSign cs = (false, cs) := by
  cases digits with
  | nil => rfl
  | cons digit _ =>
      obtain ⟨noMinus, noPlus⟩ := (digit.plain small).sign
      unfold Number.takeSign
      split <;> simp_all

/-- No digit of a base is the letter that marks it, so a zero in front is only a zero. -/
theorem takeMark_digits (known : base ∈ bases) (digits : List.Forall₂ (IsDigit base) cs ds) :
    Number.takeMark base cs = (base, cs, false) := by
  have positive : base ≠ 0 := by
    rintro rfl
    exact absurd known (by decide)
  unfold Number.takeMark
  split
  · next mark rest =>
      cases digits with
      | cons _ others =>
          cases others with
          | cons digit _ =>
              have unmarked : Number.markedBase? mark ≠ some base :=
                marked_digits base known _ digit.1 mark digit.mem
              cases marked : Number.markedBase? mark with
              | none => simp [positive]
              | some other =>
                  have differs : base ≠ other := fun same => unmarked (same ▸ marked)
                  simp [positive, differs]
  · simp [positive]
  · simp [positive]

/-- An integer is read as the number that its digits denote, most significant digit first, in
the base that is taken for it. -/
theorem readInteger_of_takeMark {asked : Nat} {text : List Char} {onlyZero : Bool}
    (known : base ∈ bases) (unpadded : ∀ c ∈ text, Number.isPadding c = false)
    (unsigned : Number.takeSign text = (false, text))
    (taken : Number.takeMark asked text = (base, cs, onlyZero))
    (digits : List.Forall₂ (IsDigit base) cs ds) (nonempty : ds ≠ [])
    (readable : base = 10 → ds.length ≤ Fault.digitLimit)
    (allowed : onlyZero = true → Nat.ofDigits base ds.reverse = 0) :
    Number.readInteger asked (String.ofList text) = .ok (Nat.ofDigits base ds.reverse : Nat) := by
  have unlimited : (!Number.isUnlimited base && decide (ds.length > Fault.digitLimit)) = false := by
    by_cases decimal : base = 10
    · simp [readable decimal]
    · have others : ∀ base ∈ bases, base ≠ 10 → Number.isUnlimited base = true := by decide
      simp [others base known decimal]
  have passes : (onlyZero && Nat.ofDigits base ds.reverse != 0) = false := by
    cases onlyZero with
    | false => rfl
    | true => simp [allowed rfl]
  simp [Number.readInteger, trimPadding_of_forall unpadded, unsigned, taken,
    takeDigits_digits (le_of_mem_bases known) digits, unlimited, nonempty, ofDigits_eq, passes,
    Number.signed]

/-- Digits are read as the number that they denote. -/
theorem readInteger_digits (known : base ∈ bases) (digits : List.Forall₂ (IsDigit base) cs ds)
    (nonempty : ds ≠ []) (readable : base = 10 → ds.length ≤ Fault.digitLimit) :
    Number.readInteger base (String.ofList cs) = .ok (Nat.ofDigits base ds.reverse : Nat) := by
  have small : base ≤ 16 := le_of_mem_bases known
  exact readInteger_of_takeMark known
    (forall_digits digits fun digit => (digit.plain small).padding) (takeSign_digits small digits)
    (takeMark_digits known digits) digits nonempty readable nofun

end Digits

/-! ## Numerals -/

/-- Digits of a base, with single underscores between some of them. -/
inductive Separated (base : Nat) : List Char → List Nat → Prop where
  | last {c : Char} {d : Nat} (digit : IsDigit base c d) : Separated base [c] [d]
  | next {c : Char} {d : Nat} {cs : List Char} {ds : List Nat} (digit : IsDigit base c d)
      (rest : Separated base cs ds) : Separated base (c :: cs) (d :: ds)
  | apart {c : Char} {d : Nat} {cs : List Char} {ds : List Nat} (digit : IsDigit base c d)
      (rest : Separated base cs ds) : Separated base (c :: '_' :: cs) (d :: ds)

/-- Letters that mark a base after a zero. -/
inductive Marks : Char → Nat → Prop where
  | binary {c : Char} (letter : c = 'b' ∨ c = 'B') : Marks c 2
  | octal {c : Char} (letter : c = 'o' ∨ c = 'O') : Marks c 8
  | hexadecimal {c : Char} (letter : c = 'x' ∨ c = 'X') : Marks c 16

/-- Integer literals and their values: in decimal, where only zero starts with a zero, and in
a base that is marked. -/
inductive Numeral : List Char → Nat → Prop where
  | zero : Numeral ['0'] 0
  | decimal {c : Char} {cs : List Char} {d : Nat} {ds : List Nat}
      (digits : Separated 10 (c :: cs) (d :: ds)) (leading : d ≠ 0) :
      Numeral (c :: cs) (Nat.ofDigits 10 (d :: ds).reverse)
  | marked {mark : Char} {base : Nat} {cs : List Char} {ds : List Nat} (marks : Marks mark base)
      (digits : Separated base cs ds) : Numeral ('0' :: mark :: cs) (Nat.ofDigits base ds.reverse)

namespace Separated

variable {base : Nat} {cs : List Char} {ds : List Nat}

/-- Underscores do not count. -/
theorem digits (small : base ≤ 16) (separated : Separated base cs ds) :
    List.Forall₂ (IsDigit base) (cs.filter (· != '_')) ds := by
  induction separated with
  | last digit =>
      have kept := (digit.plain small).separator
      simpa [kept] using digit
  | next digit rest ih =>
      have kept := (digit.plain small).separator
      simpa [kept] using ⟨digit, ih⟩
  | apart digit rest ih =>
      have kept := (digit.plain small).separator
      simpa [kept] using ⟨digit, ih⟩

theorem ne_nil (separated : Separated base cs ds) : ds ≠ [] := by
  cases separated <;> simp

end Separated

/-- A decimal numeral that does not start with a zero is at least as long as its number is
large. -/
theorem pow_length_le {d : Nat} (leading : d ≠ 0) (ds : List Nat) :
    10 ^ ds.length ≤ Nat.ofDigits 10 (d :: ds).reverse := by
  rw [← ofDigits_eq]
  have unfolded := foldl_digits 10 d ds
  have most : 1 * 10 ^ ds.length ≤ d * 10 ^ ds.length :=
    Nat.mul_le_mul_right _ (Nat.one_le_iff_ne_zero.2 leading)
  simp only [Number.ofDigits, List.foldl_cons, Nat.zero_mul, Nat.zero_add]
  omega

theorem getLast?_ne_of_forall {cs : List Char} {c : Char} (each : ∀ other ∈ cs, other ≠ c) :
    cs.getLast? ≠ some c := by
  intro last
  exact each c (List.mem_of_getLast? last) rfl

/-- A letter that marks a base is neither a separator nor a suffix. -/
theorem Marks.markedBase? {mark : Char} {base : Nat} (marks : Marks mark base) :
    Number.markedBase? mark = some base ∧ base ∈ bases ∧ base ≠ 10 ∧ mark ≠ '_' ∧ mark ≠ 'n' := by
  rcases marks with letter | letter | letter <;> rcases letter with rfl | rfl <;> decide

/-- Separators are left out of the digits alone. -/
theorem Marks.filter_eq {mark : Char} {base : Nat} (marks : Marks mark base) (cs : List Char) :
    ('0' :: mark :: cs).filter (· != '_') = '0' :: mark :: cs.filter (· != '_') := by
  have kept := marks.markedBase?.2.2.2.1
  simp [kept]

theorem ofInteger_of_le {n : Nat} (small : n ≤ Value.maxSafeInteger) :
    ofInteger (n : Int) = .integer n := by
  simp [ofInteger, Value.isSafe, small]

theorem isDecimal_digits {cs : List Char} {ds : List Nat}
    (digits : List.Forall₂ (IsDigit 10) cs ds) : isDecimal cs = false := by
  have plain := forall_digits digits fun digit =>
    And.intro (digit.plain (by omega)).point (decimal_digits _ digit.1 _ digit.mem).2
  simp only [isDecimal, List.any_eq_false]
  intro c among
  simp [plain c among]

theorem bareNumeral_of_ne {cs : List Char} (unmarked : ∀ c ∈ cs.filter (· != '_'), c ≠ 'n') :
    bareNumeral cs = cs.filter (· != '_') := by
  rw [bareNumeral]
  exact if_neg (getLast?_ne_of_forall unmarked)

/-- Digits alone, with an `n` or without, are their own bare numeral. -/
theorem bareNumeral_of_suffix {cs suffix : List Char}
    (plain : ∀ c ∈ cs.filter (· != '_'), c ≠ 'n') (suffixed : suffix = [] ∨ suffix = ['n']) :
    bareNumeral (cs ++ suffix) = cs.filter (· != '_') := by
  rcases suffixed with rfl | rfl
  · rw [List.append_nil]
    exact bareNumeral_of_ne plain
  · simp [bareNumeral]

/-- A number without marks is the integer of its digits. -/
theorem numberValue_eq_of_digits {text : String} {cs : List Char} {ds : List Nat}
    (digits : List.Forall₂ (IsDigit 10) cs ds) (bare : bareNumeral text.toList = cs) :
    numberValue text = (Number.readInteger 10 (String.ofList cs)).map ofInteger := by
  have unmarked : markedBase? cs = none := by
    unfold markedBase?
    split
    · next mark rest =>
        cases digits with
        | cons _ others =>
            cases others with
            | cons digit _ => exact (decimal_digits _ digit.1 _ digit.mem).1
    · rfl
  simp only [numberValue, bare, unmarked, isDecimal_digits digits, Bool.false_eq_true, if_false]

/-- Decimal digits, with an `n` or without, are read as the number they denote. -/
theorem numberValue_decimal {text : String} {cs suffix : List Char} {ds : List Nat}
    (written : text.toList = cs ++ suffix) (suffixed : suffix = [] ∨ suffix = ['n'])
    (separated : Separated 10 cs ds) (short : ds.length ≤ Fault.digitLimit) :
    numberValue text = .ok (ofInteger (Nat.ofDigits 10 ds.reverse : Nat)) := by
  have digits := separated.digits (by omega)
  have plain := forall_digits digits fun digit => (digit.plain (by omega)).suffix
  have bare : bareNumeral text.toList = cs.filter (· != '_') :=
    written ▸ bareNumeral_of_suffix plain suffixed
  rw [numberValue_eq_of_digits digits bare,
    readInteger_digits (by decide) digits separated.ne_nil fun _ => short]
  rfl

/-- Digits of a marked base, with an `n` or without, are read as the number they denote. -/
theorem numberValue_marked {text : String} {mark : Char} {base : Nat} {cs suffix : List Char}
    {ds : List Nat} (written : text.toList = '0' :: mark :: cs ++ suffix)
    (suffixed : suffix = [] ∨ suffix = ['n']) (marks : Marks mark base)
    (separated : Separated base cs ds) :
    numberValue text = .ok (ofInteger (Nat.ofDigits base ds.reverse : Nat)) := by
  obtain ⟨marked, known, notDecimal, -, unmarked⟩ := marks.markedBase?
  have digits := separated.digits (le_of_mem_bases known)
  have plain := forall_digits digits fun digit => (digit.plain (le_of_mem_bases known)).suffix
  have bare : bareNumeral ('0' :: mark :: cs ++ suffix) = '0' :: mark :: cs.filter (· != '_') := by
    rw [← marks.filter_eq]
    refine bareNumeral_of_suffix ?_ suffixed
    rw [marks.filter_eq]
    exact List.forall_mem_cons.2 ⟨by decide, List.forall_mem_cons.2 ⟨unmarked, plain⟩⟩
  have read := readInteger_digits known digits separated.ne_nil fun decimal =>
    absurd decimal notDecimal
  rw [numberValue, written, bare]
  simp only [markedBase?, marked, List.drop_succ_cons, List.drop_zero, read, Except.map]

/-- An integer literal that is no larger than the greatest safe integer is read as its
value. -/
theorem numberValue_numeral {text : String} {n : Nat} (numeral : Numeral text.toList n)
    (small : n ≤ Value.maxSafeInteger) : numberValue text = .ok (.integer n) := by
  generalize written : text.toList = cs at numeral
  cases numeral with
  | zero =>
      have read : numberValue (String.ofList ['0']) = .ok (.integer 0) := by rfl
      rwa [← written, String.ofList_toList] at read
  | @decimal c cs d ds separated leading =>
      -- A decimal numeral that is small has few digits, since it does not start with a zero.
      have short : (d :: ds).length ≤ Fault.digitLimit := by
        have bound := (pow_length_le leading ds).trans small
        have few : ds.length < 17 := by
          by_contra long
          have power : 10 ^ 17 ≤ 10 ^ ds.length := Nat.pow_le_pow_right (by omega) (by omega)
          have limit : Value.maxSafeInteger < 10 ^ 17 := by decide
          omega
        have limit : Fault.digitLimit = 4300 := rfl
        rw [List.length_cons]
        omega
      rw [← List.append_nil (c :: cs)] at written
      rw [numberValue_decimal written (.inl rfl) separated short, ofInteger_of_le small]
  | @marked mark base cs ds marks separated =>
      rw [← List.append_nil ('0' :: mark :: cs)] at written
      rw [numberValue_marked written (.inl rfl) marks separated, ofInteger_of_le small]

/-! ## Escapes -/

/-- Letters that denote a control character after a backslash. -/
def controls : List (Char × Char) :=
  [('n', '\n'), ('t', '\t'), ('r', '\r'), ('b', '\x08'), ('f', '\x0c'), ('v', '\x0b'),
   ('0', '\x00')]

/-- Characters that end a line of a source text. -/
def lineTerminators : List Char := ['\n', '\r', '\u2028', '\u2029']

/-- A character that stands for itself after a backslash: no digit, no end of a line and none
of the letters that begin another escape. -/
def StandsForItself (c : Char) : Prop :=
  ¬ c.isDigit ∧ c ∉ lineTerminators ∧ c ∉ controls.map Prod.fst ∧ c ≠ 'x' ∧ c ≠ 'u'

/-- A code point that is a character. -/
def IsCharacter (n : Nat) : Prop :=
  n < 0x110000 ∧ Text.isSurrogate n = false

/-- Escape sequences and the characters they denote. -/
inductive Denotes : List Char → Char → Prop where
  | control {letter c : Char} (listed : (letter, c) ∈ controls) : Denotes ['\\', letter] c
  | two {a b : Char} {m n : Nat} (first : IsDigit 16 a m) (second : IsDigit 16 b n) :
      Denotes ['\\', 'x', a, b] (Char.ofNat (16 * m + n))
  | four {cs : List Char} {ds : List Nat} (digits : List.Forall₂ (IsDigit 16) cs ds)
      (length : cs.length = 4) (valid : IsCharacter (Nat.ofDigits 16 ds.reverse)) :
      Denotes ('\\' :: 'u' :: cs) (Char.ofNat (Nat.ofDigits 16 ds.reverse))
  | braced {cs : List Char} {ds : List Nat} (digits : List.Forall₂ (IsDigit 16) cs ds)
      (nonempty : cs ≠ []) (valid : IsCharacter (Nat.ofDigits 16 ds.reverse)) :
      Denotes ('\\' :: 'u' :: '{' :: cs ++ ['}']) (Char.ofNat (Nat.ofDigits 16 ds.reverse))
  | itself {c : Char} (stands : StandsForItself c) : Denotes ['\\', c] c

theorem shortEscape?_controls : ∀ pair ∈ controls, shortEscape? [pair.1] = some pair.2 := by
  decide

theorem ofCodePoint_character {n : Nat} (valid : IsCharacter n) :
    ofCodePoint (n : Int) = .ok (Char.ofNat n) := by
  obtain ⟨inRange, notHalf⟩ := valid
  have nonnegative : ¬ (n : Int) < 0 := by omega
  have below : ¬ (n : Int) ≥ 0x110000 := by omega
  simp [ofCodePoint, nonnegative, below, Text.ofCodePoint, notHalf]

/-- An escape with hexadecimal digits denotes the character of that number. -/
theorem decodeEscapeChars_digits {sequence cs : List Char} {ds : List Nat}
    (short : shortEscape? (sequence.drop 1) = none)
    (code : codeDigits? (sequence.drop 1) = some cs)
    (digits : List.Forall₂ (IsDigit 16) cs ds) (nonempty : cs ≠ [])
    (valid : IsCharacter (Nat.ofDigits 16 ds.reverse)) :
    decodeEscapeChars sequence = .ok [Char.ofNat (Nat.ofDigits 16 ds.reverse)] := by
  have some : ds ≠ [] := by
    rintro rfl
    exact nonempty (List.forall₂_nil_right_iff.1 digits)
  have read := readInteger_digits (by decide) digits some (by simp)
  simp only [decodeEscapeChars, short, code, read]
  simp [bind, Except.bind, ofCodePoint_character valid, pure, Except.pure]

theorem codeDigits?_four {cs : List Char} {ds : List Nat}
    (digits : List.Forall₂ (IsDigit 16) cs ds) (length : cs.length = 4) :
    codeDigits? ('u' :: cs) = some cs := by
  have noBrace := forall_digits digits (P := (· ≠ '{')) fun digit => by
    have all : ∀ d < 16, ∀ c ∈ [Nat.digitChar d, (Nat.digitChar d).toUpper], c ≠ '{' :=
      forall_digitChars (by decide) (by decide)
    exact all _ digit.1 _ digit.mem
  unfold codeDigits?
  split
  · simp_all
  · simp_all
  · simp_all
  · simp_all

/-- An escape sequence is read as the character it denotes. -/
theorem decodeEscapeChars_denotes {sequence : List Char} {c : Char}
    (denotes : Denotes sequence c) : decodeEscapeChars sequence = .ok [c] := by
  cases denotes with
  | @control letter _ listed =>
      have short : shortEscape? [letter] = some c := shortEscape?_controls _ listed
      simp [decodeEscapeChars, short]
  | @two a b m n first second =>
      have digits : List.Forall₂ (IsDigit 16) [a, b] [m, n] := .cons first (.cons second .nil)
      have value : Nat.ofDigits 16 [m, n].reverse = 16 * m + n := by
        simp [Nat.ofDigits]
        omega
      have valid : IsCharacter (Nat.ofDigits 16 [m, n].reverse) := by
        have small : 16 * m + n < 256 := by
          have := first.1
          have := second.1
          omega
        have low : ¬ Text.surrogateStart ≤ 16 * m + n := by
          rw [Text.surrogateStart]
          omega
        rw [value]
        exact ⟨by omega, by simp [Text.isSurrogate, low]⟩
      rw [← value]
      exact decodeEscapeChars_digits rfl rfl digits (by simp) valid
  | four digits length valid =>
      have nonempty : ∀ {cs : List Char}, cs.length = 4 → cs ≠ [] := by
        rintro _ four rfl
        simp at four
      have long : ∀ cs : List Char, cs.length = 4 → shortEscape? ('u' :: cs) = none := by
        intro cs four
        unfold shortEscape?
        split <;> simp_all
      exact decodeEscapeChars_digits (long _ length) (codeDigits?_four digits length) digits
        (nonempty length) valid
  | @braced cs ds digits nonempty valid =>
      have code : codeDigits? ('u' :: '{' :: cs ++ ['}']) = some cs := by
        simp [codeDigits?]
      have long : shortEscape? ('u' :: '{' :: cs ++ ['}']) = none := by
        simp [shortEscape?]
      exact decodeEscapeChars_digits long code digits nonempty valid
  | itself stands =>
      obtain ⟨-, -, uncontrolled, notX, notU⟩ := stands
      have short : shortEscape? [c] = none := by
        unfold shortEscape?
        split <;> simp_all [controls]
      have code : codeDigits? [c] = none := by
        unfold codeDigits?
        split <;> simp_all
      simp [decodeEscapeChars, short, code]

end Literal

end TypeGloss
