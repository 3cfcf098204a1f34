/-
# TypeGloss.Proofs.Tree.Token — every token of the grammar can be read

The tokens of number literals and of escape sequences, as the grammar of the language has
them, whatever their values are: `Numeric` has integers in all bases, with leading zeros, as
big integers, and decimals with a point or an exponent; `Escape` has the escapes of code
points, halves of surrogate pairs included, and those of single characters.

Escapes are always read (`decodeEscapeChars_of_escape`). So are numbers, with one exception: a
decimal integer with more digits than are read at once (`numberValue_fails_iff`).
-/
import TypeGloss.Proofs.Tree.Literal

namespace TypeGloss.Literal

set_option autoImplicit false

/-! ## Number tokens -/

/-- Decimal digits, with single underscores between some of them, or none at all. -/
def Run (cs : List Char) (ds : List Nat) : Prop :=
  cs = [] ∧ ds = [] ∨ Separated 10 cs ds

/-- The exponent of a decimal, if it has one. -/
inductive Exponent : List Char → Prop where
  | none : Exponent []
  | plain {mark : Char} {cs : List Char} {ds : List Nat} (letter : mark = 'e' ∨ mark = 'E')
      (digits : Separated 10 cs ds) : Exponent (mark :: cs)
  | signed {mark sign : Char} {cs : List Char} {ds : List Nat} (letter : mark = 'e' ∨ mark = 'E')
      (isSign : sign = '+' ∨ sign = '-') (digits : Separated 10 cs ds) :
      Exponent (mark :: sign :: cs)

/-- Number literals. -/
inductive Numeric : List Char → Prop where
  | integer {cs : List Char} {ds : List Nat} (digits : Separated 10 cs ds) : Numeric cs
  | marked {mark : Char} {base : Nat} {cs : List Char} {ds : List Nat} (marks : Marks mark base)
      (digits : Separated base cs ds) : Numeric ('0' :: mark :: cs)
  | bigInteger {cs : List Char} {ds : List Nat} (digits : Separated 10 cs ds) :
      Numeric (cs ++ ['n'])
  | bigMarked {mark : Char} {base : Nat} {cs : List Char} {ds : List Nat} (marks : Marks mark base)
      (digits : Separated base cs ds) : Numeric ('0' :: mark :: cs ++ ['n'])
  | pointed {whole fraction exponent : List Char} {ws fs : List Nat} (first : Run whole ws)
      (second : Run fraction fs) (filled : ws ≠ [] ∨ fs ≠ []) (last : Exponent exponent) :
      Numeric (whole ++ ('.' :: (fraction ++ exponent)))
  | scientific {whole exponent : List Char} {ws : List Nat} (first : Separated 10 whole ws)
      (last : Exponent exponent) (filled : exponent ≠ []) : Numeric (whole ++ exponent)

/-- Decimal integers, big or not, with more digits than are read. -/
def IsOverlong (cs : List Char) : Prop :=
  ∃ digits ds, Separated 10 digits ds ∧ Fault.digitLimit < ds.length ∧
    (cs = digits ∨ cs = digits ++ ['n'])

/-! ## Integers -/

section Integers

variable {base : Nat} {cs : List Char} {ds : List Nat}

/-- More digits than the limit are not read. -/
theorem readInteger_overlong (digits : List.Forall₂ (IsDigit 10) cs ds)
    (long : Fault.digitLimit < ds.length) :
    Number.readInteger 10 (String.ofList cs) = .error (.tooManyDigits ds.length) := by
  have unpadded := forall_digits digits fun digit => (digit.plain (by omega)).padding
  have limited : (!Number.isUnlimited 10 && decide (ds.length > Fault.digitLimit)) = true := by
    simp [Number.isUnlimited, long]
  simp [Number.readInteger, trimPadding_of_forall unpadded, takeSign_digits (by omega) digits,
    takeMark_digits (by decide : 10 ∈ bases) digits, takeDigits_digits (by omega) digits, limited]

end Integers

/-! ## Decimals -/

theorem digitValue?_digits : ∀ d < 10, ∀ c ∈ [Nat.digitChar d, (Nat.digitChar d).toUpper],
    Text.digitValue? c = some d :=
  forall_digitChars (by decide) (by decide)

/-- Digits are taken up to the first character that is none. -/
theorem takeDecimals_digits {cs rest : List Char} {ds : List Nat}
    (digits : List.Forall₂ (IsDigit 10) cs ds)
    (stops : ∀ c ∈ rest.head?, Text.digitValue? c = none) :
    Number.takeDecimals (cs ++ rest) = (ds, rest) := by
  induction digits with
  | nil =>
      cases rest with
      | nil => rfl
      | cons c rest => simp [Number.takeDecimals, stops c rfl]
  | cons digit _ ih =>
      have value := digitValue?_digits _ digit.1 _ digit.mem
      simp only [Number.takeDecimals, Prod.mk.injEq] at ih
      simp [Number.takeDecimals, value, ih]

/-- Characters of decimals: digits, the point, the letter of an exponent and its sign. -/
def IsDecimalChar (c : Char) : Prop :=
  (∃ d, IsDigit 10 c d) ∨ c ∈ ['.', 'e', 'E', '+', '-']

theorem IsDecimalChar.plain {c : Char} (decimal : IsDecimalChar c) :
    c ≠ 'n' ∧ Number.isPadding c = false ∧ Number.markedBase? c = none := by
  obtain ⟨d, digit⟩ | other := decimal
  · have plain := digit.plain (by omega)
    exact ⟨plain.suffix, plain.padding, (decimal_digits d digit.1 c digit.mem).1⟩
  · simp only [List.mem_cons, List.not_mem_nil, or_false] at other
    rcases other with rfl | rfl | rfl | rfl | rfl <;> decide

theorem Run.digits {cs : List Char} {ds : List Nat} (run : Run cs ds) :
    List.Forall₂ (IsDigit 10) (cs.filter (· != '_')) ds := by
  obtain ⟨rfl, rfl⟩ | separated := run
  · exact .nil
  · exact separated.digits (by omega)

/-- What an exponent is without its underscores: nothing, or its letter, a sign that may be
there, and digits. -/
inductive BareExponent : List Char → Prop where
  | absent : BareExponent []
  | present {mark : Char} {sign cs : List Char} {ds : List Nat} (letter : mark = 'e' ∨ mark = 'E')
      (signed : sign = [] ∨ sign = ['+'] ∨ sign = ['-']) (digits : List.Forall₂ (IsDigit 10) cs ds)
      (filled : ds ≠ []) : BareExponent (mark :: (sign ++ cs))

theorem Exponent.bare {cs : List Char} (exponent : Exponent cs) :
    BareExponent (cs.filter (· != '_')) := by
  cases exponent with
  | none => exact .absent
  | plain letter digits =>
      have kept := BareExponent.present letter (.inl rfl) (digits.digits (by omega)) digits.ne_nil
      rcases letter with rfl | rfl <;> simpa using kept
  | signed letter isSign digits =>
      rcases isSign with rfl | rfl
      · have kept := BareExponent.present letter (.inr (.inl rfl)) (digits.digits (by omega))
          digits.ne_nil
        rcases letter with rfl | rfl <;> simpa using kept
      · have kept := BareExponent.present letter (.inr (.inr rfl)) (digits.digits (by omega))
          digits.ne_nil
        rcases letter with rfl | rfl <;> simpa using kept

namespace BareExponent

variable {cs : List Char}

theorem read (exponent : BareExponent cs) : ∃ e, Number.exponent? cs = some e := by
  cases exponent with
  | absent => exact ⟨0, rfl⟩
  | @present mark sign cs ds letter signed digits filled =>
      have taken := @takeDecimals_digits cs [] ds digits (by simp)
      have unsigned : ∃ negative, Number.takeSign (sign ++ cs) = (negative, cs) := by
        rcases signed with rfl | rfl | rfl
        · exact ⟨false, takeSign_digits (by omega) digits⟩
        · exact ⟨false, rfl⟩
        · exact ⟨true, rfl⟩
      obtain ⟨negative, unsigned⟩ := unsigned
      rw [List.append_nil] at taken
      rcases letter with rfl | rfl <;> simp [Number.exponent?, unsigned, taken, filled]

theorem chars (exponent : BareExponent cs) : ∀ c ∈ cs, IsDecimalChar c := by
  cases exponent with
  | absent => simp
  | present letter signed digits filled =>
      intro c among
      rcases List.mem_cons.1 among with rfl | among
      · exact .inr (by rcases letter with rfl | rfl <;> decide)
      · rcases List.mem_append.1 among with inSign | inDigits
        · exact .inr (by rcases signed with rfl | rfl | rfl <;> simp_all)
        · exact .inl (forall_digits (P := fun c => ∃ d, IsDigit 10 c d) digits
          (fun digit => ⟨_, digit⟩) c inDigits)

/-- An exponent starts with no digit and with no point. -/
theorem stops (exponent : BareExponent cs) :
    (∀ c ∈ cs.head?, Text.digitValue? c = none) ∧ Number.takeFraction cs = ([], cs) := by
  cases exponent with
  | absent => exact ⟨by simp, rfl⟩
  | present letter signed digits filled =>
      rcases letter with rfl | rfl
      · exact ⟨by simp; decide, rfl⟩
      · exact ⟨by simp; decide, rfl⟩

end BareExponent

/-- Characters that only decimals have, and not all of them. -/
theorem isDecimal_of_mem {cs : List Char} {c : Char} (among : c ∈ cs)
    (telling : c = '.' ∨ c = 'e' ∨ c = 'E') : isDecimal cs = true := by
  simp only [isDecimal, List.any_eq_true]
  exact ⟨c, among, by simpa [or_assoc] using telling⟩

/-- A number literal is read as a decimal if it reads as one. -/
theorem numberValue_of_decimal {text : String} {ws fs : List Nat} {whole rest exponent : List Char}
    (bare : text.toList.filter (· != '_') = whole ++ rest)
    (chars : ∀ c ∈ whole ++ rest, IsDecimalChar c)
    (telling : ∃ c ∈ whole ++ rest, c = '.' ∨ c = 'e' ∨ c = 'E')
    (unsigned : Number.takeSign (whole ++ rest) = (false, whole ++ rest))
    (first : Number.takeDecimals (whole ++ rest) = (ws, rest))
    (second : Number.takeFraction rest = (fs, exponent)) (filled : ws ≠ [] ∨ fs ≠ [])
    (last : BareExponent exponent) : ∃ v, numberValue text = .ok v := by
  have plain (c : Char) (among : c ∈ whole ++ rest) := (chars c among).plain
  have same : bareNumeral text.toList = whole ++ rest := by
    rw [bareNumeral_of_ne (by simpa only [bare] using fun c among => (plain c among).1), bare]
  have unmarked : markedBase? (whole ++ rest) = none := by
    unfold markedBase?
    split
    · next mark more written => exact (plain mark (by simp [written])).2.2
    · rfl
  obtain ⟨c, among, telling⟩ := telling
  obtain ⟨e, exponent⟩ := last.read
  have unempty : (ws.isEmpty && fs.isEmpty) = false := by
    rcases filled with filled | filled <;> simp [filled]
  simp only [numberValue, same, unmarked, isDecimal_of_mem among telling, if_true]
  simp only [Number.readDecimal, String.toList_ofList,
    trimPadding_of_forall fun c among => (plain c among).2.1, unsigned, first, second, exponent,
    unempty, Bool.false_eq_true, if_false, Except.map]
  exact ⟨_, rfl⟩

theorem isDecimalChar_digits {cs : List Char} {ds : List Nat}
    (digits : List.Forall₂ (IsDigit 10) cs ds) : ∀ c ∈ cs, IsDecimalChar c :=
  forall_digits digits fun digit => .inl ⟨_, digit⟩

/-- Digits without a sign before them are not negative. -/
theorem takeSign_of_digits {cs rest : List Char} {ds : List Nat}
    (digits : List.Forall₂ (IsDigit 10) cs ds) (filled : ds ≠ []) :
    Number.takeSign (cs ++ rest) = (false, cs ++ rest) := by
  cases digits with
  | nil => exact absurd rfl filled
  | cons digit _ =>
      obtain ⟨noMinus, noPlus⟩ := (digit.plain (by omega)).sign
      unfold Number.takeSign
      split <;> simp_all

/-- A number with a point and digits on one of its sides has a value. -/
theorem numberValue_of_pointed {text : String} {whole fraction exponent : List Char}
    {ws fs : List Nat}
    (bare : text.toList.filter (· != '_') = whole ++ ('.' :: (fraction ++ exponent)))
    (first : List.Forall₂ (IsDigit 10) whole ws) (second : List.Forall₂ (IsDigit 10) fraction fs)
    (filled : ws ≠ [] ∨ fs ≠ []) (last : BareExponent exponent) :
    ∃ v, numberValue text = .ok v := by
  have chars : ∀ c ∈ whole ++ ('.' :: (fraction ++ exponent)), IsDecimalChar c := by
    intro c among
    rcases List.mem_append.1 among with inWhole | among
    · exact isDecimalChar_digits first c inWhole
    rcases List.mem_cons.1 among with rfl | among
    · exact .inr (by decide)
    rcases List.mem_append.1 among with inFraction | inExponent
    · exact isDecimalChar_digits second c inFraction
    · exact last.chars c inExponent
  have unsigned : Number.takeSign (whole ++ ('.' :: (fraction ++ exponent))) =
      (false, whole ++ ('.' :: (fraction ++ exponent))) := by
    by_cases empty : ws = []
    · subst empty
      rw [List.forall₂_nil_right_iff.1 first]
      rfl
    · exact takeSign_of_digits first empty
  refine numberValue_of_decimal bare chars ⟨'.', by simp, .inl rfl⟩ unsigned
    (takeDecimals_digits first ?_) ?_ filled last
  · intro c point
    obtain rfl : '.' = c := by simpa using point
    decide
  · exact takeDecimals_digits second last.stops.1

theorem numberValue_of_scientific {text : String} {whole exponent : List Char} {ws : List Nat}
    (bare : text.toList.filter (· != '_') = whole ++ exponent)
    (first : List.Forall₂ (IsDigit 10) whole ws) (filled : ws ≠ []) (last : BareExponent exponent)
    (telling : exponent ≠ []) : ∃ v, numberValue text = .ok v := by
  have chars : ∀ c ∈ whole ++ exponent, IsDecimalChar c := by
    intro c among
    rcases List.mem_append.1 among with inWhole | inExponent
    · exact isDecimalChar_digits first c inWhole
    · exact last.chars c inExponent
  have letter : ∃ c ∈ whole ++ exponent, c = '.' ∨ c = 'e' ∨ c = 'E' := by
    cases last with
    | absent => exact absurd rfl telling
    | @present mark _ _ _ letter => exact ⟨mark, by simp, .inr letter⟩
  exact numberValue_of_decimal bare chars letter (takeSign_of_digits first filled)
    (takeDecimals_digits first last.stops.1) last.stops.2 (.inl filled) last

theorem Exponent.filter_ne_nil {cs : List Char} (exponent : Exponent cs) (filled : cs ≠ []) :
    cs.filter (· != '_') ≠ [] := by
  cases exponent with
  | none => exact absurd rfl filled
  | plain letter _ | signed letter _ _ => rcases letter with rfl | rfl <;> simp

/-! ## Reading numbers -/

/-- An integer that is too long is refused. -/
theorem numberValue_overlong {text : String} (overlong : IsOverlong text.toList) :
    ∃ count, numberValue text = .error (.tooManyDigits count) := by
  obtain ⟨cs, ds, separated, long, written⟩ := overlong
  have digits := separated.digits (by omega)
  have plain := forall_digits digits fun digit => (digit.plain (by omega)).suffix
  obtain ⟨suffix, suffixed, written⟩ :
      ∃ suffix, (suffix = [] ∨ suffix = ['n']) ∧ text.toList = cs ++ suffix := by
    rcases written with written | written
    · exact ⟨[], .inl rfl, by simpa using written⟩
    · exact ⟨['n'], .inr rfl, written⟩
  have bare : bareNumeral text.toList = cs.filter (· != '_') :=
    written ▸ bareNumeral_of_suffix plain suffixed
  rw [numberValue_eq_of_digits digits bare, readInteger_overlong digits long]
  exact ⟨_, rfl⟩

/-- A number literal is read, unless it is a decimal integer that is too long. -/
theorem numberValue_fails_iff {text : String} (numeric : Numeric text.toList) :
    (∃ fault, numberValue text = .error fault) ↔ IsOverlong text.toList := by
  constructor
  · rintro ⟨fault, refused⟩
    by_contra short
    suffices ∃ v, numberValue text = .ok v by
      obtain ⟨v, read⟩ := this
      simp [read] at refused
    generalize written : text.toList = cs at numeric
    cases numeric with
    | integer digits =>
        have few := not_lt.1 fun long => short ⟨cs, _, digits, long, .inl written⟩
        exact ⟨_, numberValue_decimal (by simpa using written) (.inl rfl) digits few⟩
    | bigInteger digits =>
        have few := not_lt.1 fun long => short ⟨_, _, digits, long, .inr written⟩
        exact ⟨_, numberValue_decimal written (.inr rfl) digits few⟩
    | marked marks digits =>
        exact ⟨_, numberValue_marked (by simpa using written) (.inl rfl) marks digits⟩
    | bigMarked marks digits =>
        exact ⟨_, numberValue_marked written (.inr rfl) marks digits⟩
    | pointed first second filled last =>
        exact numberValue_of_pointed (by simp [written]) first.digits second.digits filled last.bare
    | scientific first last filled =>
        exact numberValue_of_scientific (by simp [written]) (first.digits (by omega))
          first.ne_nil last.bare (last.filter_ne_nil filled)
  · intro overlong
    obtain ⟨count, refused⟩ := numberValue_overlong overlong
    exact ⟨_, refused⟩

/-! ## Escape sequences -/

/-- Escape sequences. Whatever is no code point begins with another letter than theirs: a
character that stands for another or for itself, an octal number, or the end of a line. -/
inductive Escape : List Char → Prop where
  | letter {c : Char} {cs : List Char} (notHex : c ≠ 'x') (notUnicode : c ≠ 'u') :
      Escape ('\\' :: c :: cs)
  | two {cs : List Char} {ds : List Nat} (digits : List.Forall₂ (IsDigit 16) cs ds)
      (length : cs.length = 2) : Escape ('\\' :: 'x' :: cs)
  | four {cs : List Char} {ds : List Nat} (digits : List.Forall₂ (IsDigit 16) cs ds)
      (length : cs.length = 4) : Escape ('\\' :: 'u' :: cs)
  | braced {cs : List Char} {ds : List Nat} (digits : List.Forall₂ (IsDigit 16) cs ds)
      (filled : ds ≠ []) (inRange : Nat.ofDigits 16 ds.reverse < 0x110000) :
      Escape ('\\' :: 'u' :: '{' :: (cs ++ ['}']))

/-- Digits stand for less than the power of the base. -/
theorem ofDigits_lt {base : Nat} (large : 1 < base) {cs : List Char} {ds : List Nat}
    (digits : List.Forall₂ (IsDigit base) cs ds) :
    Nat.ofDigits base ds.reverse < base ^ cs.length := by
  rw [digits.length_eq, ← List.length_reverse]
  refine Nat.ofDigits_lt_base_pow_length large fun d among => ?_
  have bounded : ∀ d ∈ ds, d < base := by
    have both := digits.imp fun c d digit => And.intro digit.1 digit
    exact ((List.forall₂_and_left _ _).1 both.flip).1
  exact bounded d (List.mem_reverse.1 among)

/-- Digits in range are a code point, which is read. -/
theorem decodeEscapeChars_of_digits {sequence cs : List Char} {ds : List Nat}
    (short : shortEscape? (sequence.drop 1) = none)
    (code : codeDigits? (sequence.drop 1) = some cs)
    (digits : List.Forall₂ (IsDigit 16) cs ds) (filled : ds ≠ [])
    (inRange : Nat.ofDigits 16 ds.reverse < 0x110000) :
    ∃ decoded, decodeEscapeChars sequence = .ok decoded := by
  have read := readInteger_digits (by decide) digits filled (by simp)
  have nonnegative : ¬ ((Nat.ofDigits 16 ds.reverse : Nat) : Int) < 0 := by omega
  have below : ¬ ((Nat.ofDigits 16 ds.reverse : Nat) : Int) ≥ 0x110000 := by omega
  simp only [decodeEscapeChars, short, code, read]
  simp only [bind, Except.bind, ofCodePoint, nonnegative, below, if_false, pure, Except.pure]
  exact ⟨_, rfl⟩

/-- Every escape sequence is read. -/
theorem decodeEscapeChars_of_escape {cs : List Char} (escape : Escape cs) :
    ∃ decoded, decodeEscapeChars cs = .ok decoded := by
  cases escape with
  | @letter c rest notHex notUnicode =>
      have code : codeDigits? (c :: rest) = none := by
        unfold codeDigits?
        split <;> simp_all
      cases short : shortEscape? (c :: rest) <;> simp [decodeEscapeChars, short, code]
  | @two cs ds digits length =>
      have bound := ofDigits_lt (by omega) digits
      rw [length] at bound
      refine decodeEscapeChars_of_digits ?_ ?_ digits ?_ (by omega)
      · unfold shortEscape?
        split <;> simp_all
      · simp [codeDigits?, length]
      · rintro rfl
        simp [digits.length_eq] at length
  | @four cs ds digits length =>
      have bound := ofDigits_lt (by omega) digits
      rw [length] at bound
      refine decodeEscapeChars_of_digits ?_ (codeDigits?_four digits length) digits ?_ (by omega)
      · unfold shortEscape?
        split <;> simp_all
      · rintro rfl
        simp [digits.length_eq] at length
  | @braced cs ds digits filled inRange =>
      refine decodeEscapeChars_of_digits ?_ ?_ digits filled inRange
      · simp [shortEscape?]
      · simp [codeDigits?]

end TypeGloss.Literal
