/-
# TypeGloss.Lenient — scalars from what stands for them

What is given from outside need not have the exact kind that is wanted:

* a truth value may be a number that is zero or one, or one of the usual words;
* a whole number may be a truth value, a floating-point number without a fraction
  that fits into 64 bits, or a text.

A text is a whole number if it is one in plain decimal. If it is not, blanks around
it, one plus sign, zeros in front, a fraction of nothing but zeros and single
underscores are taken away, and what is left must be one.
-/
import TypeGloss.Number.Reader
import TypeGloss.Value

namespace TypeGloss.Lenient

set_option autoImplicit false

/-! ## Truth values -/

/-- Words for a truth value, in any case of letters. -/
def flagOfWord? (word : String) : Option Bool :=
  let lower := word.map Char.toLower
  if ["true", "t", "yes", "y", "on", "1"].contains lower then some true
  else if ["false", "f", "no", "n", "off", "0"].contains lower then some false
  else none

/-- A truth value, also as a number or a word. -/
def flag? : Value → Option Bool
  | .flag b => some b
  | .integer 1 => some true
  | .integer 0 => some false
  | .number x => if x == 1.0 then some true else if x == 0.0 then some false else none
  | .text s => flagOfWord? s
  | _ => none

/-! ## Whole numbers -/

/-- Blanks that may stand around a number: all but the information separators. -/
def isSpace (c : Char) : Bool :=
  Text.isBlank c && !(0x1C ≤ c.toNat && c.toNat ≤ 0x1F)

/-- An integer in plain decimal: no plus sign, and no zero in front of a digit. -/
def plainInteger? (cs : List Char) : Option Int :=
  let (negative, ds) := match cs with
    | '-' :: rest => (true, rest)
    | _ => (false, cs)
  let leads := ds.head? == some '0' && ds.length > 1
  if ds.isEmpty || leads || !ds.all Char.isDigit || ds.length > Fault.digitLimit then none
  else some (Number.signed negative (Number.ofDigits 10 (ds.map fun c => c.toNat - 0x30)))

/-- What follows the zeros at the start of a numeral, of which `last` is the latest
character. One character stays in front of a point and of the end. -/
def afterZeros (last : Char) : List Char → Option (List Char)
  | [] => some [last]
  | c :: rest =>
      if c = '0' || c = '_' then afterZeros c rest
      else if c = '.' then some (last :: c :: rest)
      else if c.isDigit then some (c :: rest)
      else none

/-- A numeral without the zeros in front of it. -/
def withoutZeros : List Char → Option (List Char)
  | [] => none
  | c :: rest =>
      if c = '0' then afterZeros c rest
      else if c.isDigit || c = '-' then some (c :: rest)
      else none

/-- A numeral without a fraction of zeros. -/
def withoutFraction (cs : List Char) : List Char :=
  let fraction := (cs.dropWhile (· != '.')).drop 1
  if !fraction.isEmpty && fraction.all (· == '0') then cs.takeWhile (· != '.') else cs

/-- Are there two underscores side by side? -/
def hasGap : List Char → Bool
  | '_' :: '_' :: _ => true
  | _ :: rest => hasGap rest
  | [] => false

/-- A numeral without the underscores inside it. -/
def withoutMarks (cs : List Char) : List Char :=
  if cs.head? = some '_' || cs.getLast? = some '_' || hasGap cs then cs
  else cs.filter (· != '_')

/-- A text without one plus sign in front. -/
def withoutPlus : List Char → List Char
  | '+' :: rest => rest
  | cs => cs

/-- The whole number that a text stands for. -/
def integerOfText? (text : String) : Option Int :=
  let cs := text.toList
  (plainInteger? cs).or do
    let bare := withoutPlus (Text.dropTail isSpace (cs.dropWhile isSpace))
    plainInteger? (withoutMarks (withoutFraction (← withoutZeros bare)))

/-- The bound below which a floating-point number may stand for a whole number. -/
def wordBound : Nat := Nat.pow 2 63

/-- A whole number, also as a truth value, a floating-point number or a text. -/
def integer? : Value → Option Int
  | .integer n => some n
  | .flag b => some (if b then 1 else 0)
  | .number x => (Number.toInteger? x).filter fun n => n.natAbs < wordBound
  | .text s => integerOfText? s
  | _ => none

/-! ## Texts -/

def text? : Value → Option String
  | .text s => some s
  | _ => none

/-- A text, or null for none. -/
def textOrNull? : Value → Option (Option String)
  | .null => some none
  | v => (text? v).map some

def texts? : Value → Option (List String)
  | .list items => items.mapM text?
  | _ => none

end TypeGloss.Lenient
