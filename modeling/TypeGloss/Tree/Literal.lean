/-
# TypeGloss.Tree.Literal — the values of literals

How the text of a literal is read:

* `unquote` drops a pair of equal quotes around a text;
* `decodeEscape` is the character that one escape sequence denotes; an escape that
  denotes none stands for the text after its backslash;
* `stringValue` puts the fragments of a string literal together;
* `numberValue` reads a number literal: underscores and a final `n` do not count,
  a marked base or plain digits give an integer, and an integer beyond
  `Value.maxSafeInteger` is rounded to a floating-point number;
* `numberLiteral` reads the literal of a literal type, where a final `n` makes an
  exact integer of any size.
-/
import TypeGloss.Number.Reader
import TypeGloss.Text.CodePoint
import TypeGloss.Tree.Basic
import TypeGloss.Value

namespace TypeGloss

set_option autoImplicit false

namespace Literal

/-! ## Strings -/

/-- Quotes that may stand around a text. -/
def isQuote (c : Char) : Bool := c = '"' || c = '\'' || c = '\x60'

/-- The characters between a pair of equal quotes; other text is left alone. -/
def unquoteChars (cs : List Char) : List Char :=
  match cs with
  | [] => cs
  | [_] => cs
  | mark :: rest =>
      if isQuote mark && rest.getLast? = some mark then rest.dropLast else cs

/-- A text without a pair of equal quotes around it. -/
def unquote (text : String) : String :=
  Text.onChars unquoteChars text

/-- The control character that a one-letter escape denotes. -/
def shortEscape? : List Char → Option Char
  | ['n'] => some '\n'
  | ['t'] => some '\t'
  | ['r'] => some '\r'
  | ['b'] => some '\x08'
  | ['f'] => some '\x0c'
  | ['v'] => some '\x0b'
  | ['0'] => some '\x00'
  | _ => none

/-- The hexadecimal digits of an escape that is written with a code point: between
braces after a `u`, four after a `u`, two after an `x`. -/
def codeDigits? : List Char → Option (List Char)
  | 'u' :: '{' :: rest =>
      if rest.getLast? = some '}' then some rest.dropLast
      else if rest.length = 3 then some ('{' :: rest)
      else none
  | 'u' :: rest => if rest.length = 4 then some rest else none
  | 'x' :: rest => if rest.length = 2 then some rest else none
  | _ => none

/-- The bound from which a number is not even tried as a code point. -/
def codeBound : Int := 0x80000000

def ofCodePoint (n : Int) : Result Char :=
  if n < 0 then .error (if n < -codeBound then .tooLarge else .codePointOutOfRange)
  else if n ≥ 0x110000 then .error (if n ≥ codeBound then .tooLarge else .codePointOutOfRange)
  else .ok (Text.ofCodePoint n.toNat)

/-- What an escape sequence, backslash included, denotes. -/
def decodeEscapeChars (sequence : List Char) : Result (List Char) :=
  let escape := sequence.drop 1
  match shortEscape? escape with
  | some c => .ok [c]
  | none =>
      match codeDigits? escape with
      | some digits => do
          let point ← Number.readInteger 16 (String.ofList digits)
          return [← ofCodePoint point]
      | none => .ok escape

/-- What an escape sequence, backslash included, denotes. -/
def decodeEscape (sequence : String) : Result String :=
  (decodeEscapeChars sequence.toList).map String.ofList

def fragmentValue (t : Tree) : Result String :=
  if t.kind == "escape_sequence" then decodeEscape t.text else .ok t.text

def stringValue (t : Tree) : Result String :=
  match t.named with
  | [] => .ok (unquote t.text)
  | fragments => do
      let texts ← fragments.mapM fragmentValue
      return String.join texts

/-! ## Numbers -/

/-- The base that the two leading characters of a numeral mark. -/
def markedBase? : List Char → Option Nat
  | '0' :: mark :: _ => Number.markedBase? mark
  | _ => none

/-- A numeral without underscores and without a final `n`. -/
def bareNumeral (cs : List Char) : List Char :=
  let plain := cs.filter (· != '_')
  if plain.getLast? = some 'n' then plain.dropLast else plain

/-- Does a numeral have a point or an exponent? -/
def isDecimal (cs : List Char) : Bool :=
  cs.any fun c => c = '.' || c = 'e' || c = 'E'

/-- An integer as the value of a number literal. Beyond all numbers it is infinity,
whatever its sign. -/
def ofInteger (n : Int) : Value :=
  if Value.isSafe n then .integer n
  else .number ((Number.ofInteger? n).getD (1.0 / 0.0))

def numberValue (text : String) : Result Value :=
  let raw := bareNumeral text.toList
  match markedBase? raw with
  | some base => (Number.readInteger base (String.ofList (raw.drop 2))).map ofInteger
  | none =>
      if isDecimal raw then (Number.readDecimal (String.ofList raw)).map Value.ofFloat
      else (Number.readInteger 10 (String.ofList raw)).map ofInteger

/-- The value of a literal in a type, and whether it is a big integer. -/
def numberLiteral (text : String) : Result (Value × Bool) :=
  let cs := text.toList
  if cs.getLast? = some 'n' then do
    let n ← Number.readInteger 0 (String.ofList (cs.dropLast.filter (· != '_')))
    return (.integer n, true)
  else do
    return (← numberValue text, false)

/-! ## Property names -/

/-- The key that the name of a property denotes in an evaluated object, unless it
is computed. -/
def propertyKey? (t : Tree) : Result (Option String) :=
  if t.kind == "string" then (stringValue t).map some
  else if t.kind == "number" then (numberValue t.text).map fun v => some v.keyText
  else if ["property_identifier", "shorthand_property_identifier_pattern",
      "private_property_identifier", "identifier"].contains t.kind then .ok (some t.text)
  else .ok none

def memberName (t : Tree) : Result String :=
  if t.kind == "string" && t.mark.named then stringValue t
  else if t.kind == "number" then (numberValue t.text).map Value.keyText
  else .ok t.text

end Literal

end TypeGloss
