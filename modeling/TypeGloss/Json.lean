/-
# TypeGloss.Json — reading JSON

`Json.parse?` reads a JSON text into a value: whole numbers become integers, other
numbers floating-point numbers, and of two entries of one name the later wins. The
words for the infinities and for what is not a number are accepted. Every reader
takes the text from where it stands and returns what it read with what is left.

Values are nested less deep than the text is long, which bounds the recursion.
-/
import TypeGloss.Number.Reader
import TypeGloss.Text.CodePoint
import TypeGloss.Value

namespace TypeGloss.Json

set_option autoImplicit false

/-- Blanks between tokens. -/
def isSpace (c : Char) : Bool := c = ' ' || c = '\t' || c = '\n' || c = '\r'

/-- Text without the blanks at its start. -/
def skip (cs : List Char) : List Char := cs.dropWhile isSpace

def after? (word : String) (cs : List Char) : Option (List Char) :=
  if word.toList.isPrefixOf cs then some (cs.drop word.length) else none

/-! ## Strings -/

/-- The number of four hexadecimal digits. -/
def hex4? : List Char → Option (Nat × List Char)
  | a :: b :: c :: d :: rest => do
      let digits ← [a, b, c, d].mapM (Number.digitIn? 16)
      return (Number.ofDigits 16 digits, rest)
  | _ => none

/-- The second half of a surrogate pair, in an escape of its own. -/
def lowHalf? : List Char → Option (Nat × List Char)
  | '\\' :: 'u' :: digits =>
      (hex4? digits).filter fun (low, _) => 0xDC00 ≤ low && low ≤ 0xDFFF
  | _ => none

/-- The character of an escape with hexadecimal digits: two surrogates make one. -/
def codePoint? (cs : List Char) : Option (Char × List Char) := do
  let (high, rest) ← hex4? cs
  let low := if 0xD800 ≤ high && high ≤ 0xDBFF then lowHalf? rest else none
  match low with
  | some (low, left) =>
      return (Text.ofCodePoint (0x10000 + (high - 0xD800) * 0x400 + (low - 0xDC00)), left)
  | none => return (Text.ofCodePoint high, rest)

def escape? (c : Char) : Option Char :=
  if c = '"' || c = '\\' || c = '/' then some c
  else if c = 'b' then some '\x08'
  else if c = 'f' then some '\x0c'
  else if c = 'n' then some '\n'
  else if c = 'r' then some '\r'
  else if c = 't' then some '\t'
  else none

/-- The rest of a string whose opening quote is read; `steps` bounds its length. -/
def stringTail? : Nat → List Char → Option (List Char × List Char)
  | 0, _ => none
  | _ + 1, [] => none
  | steps + 1, c :: rest =>
      if c = '"' then some ([], rest)
      else if c = '\\' then
        match rest with
        | 'u' :: digits => do
            let (point, more) ← codePoint? digits
            let (tail, left) ← stringTail? steps more
            return (point :: tail, left)
        | letter :: more => do
            let plain ← escape? letter
            let (tail, left) ← stringTail? steps more
            return (plain :: tail, left)
        | [] => none
      else if c.toNat < 0x20 then none
      else do
        let (tail, left) ← stringTail? steps rest
        return (c :: tail, left)

def string? : List Char → Option (String × List Char)
  | '"' :: rest => do
      let (text, left) ← stringTail? (rest.length + 1) rest
      return (String.ofList text, left)
  | _ => none

/-! ## Numbers -/

/-- ASCII digits at the start of a text. -/
def digits (cs : List Char) : List Char × List Char :=
  (cs.takeWhile Char.isDigit, cs.dropWhile Char.isDigit)

/-- The fraction of a number, point included. -/
def fraction (cs : List Char) : List Char × List Char :=
  match cs with
  | '.' :: rest =>
      match digits rest with
      | ([], _) => ([], cs)
      | (ds, left) => ('.' :: ds, left)
  | _ => ([], cs)

/-- The exponent of a number, mark included. -/
def exponent (cs : List Char) : List Char × List Char :=
  match cs with
  | mark :: rest =>
      if mark = 'e' || mark = 'E' then
        let (sign, unsigned) := match rest with
          | '+' :: more => (['+'], more)
          | '-' :: more => (['-'], more)
          | _ => ([], rest)
        match digits unsigned with
        | ([], _) => ([], cs)
        | (ds, left) => ('e' :: sign ++ ds, left)
      else ([], cs)
  | [] => ([], cs)

/-- A number: an integer unless it has a fraction or an exponent. -/
def number? (cs : List Char) : Option (Value × List Char) := do
  let (sign, unsigned) := match cs with
    | '-' :: rest => (['-'], rest)
    | _ => ([], cs)
  let (whole, afterWhole) ← match unsigned with
    | '0' :: rest => some (['0'], rest)
    | _ =>
        match digits unsigned with
        | ([], _) => none
        | found => some found
  let (part, afterPart) := fraction afterWhole
  let (power, left) := exponent afterPart
  let text := String.ofList (sign ++ whole ++ part ++ power)
  if part.isEmpty && power.isEmpty then
    return (.integer (← (Number.readInteger 10 text).toOption), left)
  else return (.number (← (Number.readDecimal text).toOption), left)

def word? (cs : List Char) : Option (Value × List Char) :=
  [("null", Value.null), ("true", .flag true), ("false", .flag false),
    ("NaN", .number (0.0 / 0.0)), ("Infinity", .number (1.0 / 0.0)),
    ("-Infinity", .number (-1.0 / 0.0))].findSome? fun (word, value) =>
      (after? word cs).map fun left => (value, left)

/-! ## Values -/

mutual

def value? : Nat → List Char → Option (Value × List Char)
  | 0, _ => none
  | steps + 1, cs =>
      match cs with
      | '"' :: _ => (string? cs).map fun (s, left) => (.text s, left)
      | '[' :: rest =>
          match skip rest with
          | ']' :: left => some (.list [], left)
          | first => do
              let (items, left) ← items? steps first
              return (.list items, left)
      | '{' :: rest =>
          match skip rest with
          | '}' :: left => some (.object [], left)
          | first => do
              let (entries, left) ← entries? steps first
              return (.object (Entries.ofList entries), left)
      | _ => (word? cs).or (number? cs)

/-- The items of a list up to its bracket. -/
def items? : Nat → List Char → Option (List Value × List Char)
  | 0, _ => none
  | steps + 1, cs => do
      let (item, rest) ← value? steps cs
      match skip rest with
      | ']' :: left => return ([item], left)
      | ',' :: more =>
          let (items, left) ← items? steps (skip more)
          return (item :: items, left)
      | _ => none

def entries? : Nat → List Char → Option (List (String × Value) × List Char)
  | 0, _ => none
  | steps + 1, cs => do
      let (name, rest) ← string? cs
      match skip rest with
      | ':' :: more =>
          let (value, afterValue) ← value? steps (skip more)
          match skip afterValue with
          | '}' :: left => return ([(name, value)], left)
          | ',' :: next =>
              let (entries, left) ← entries? steps (skip next)
              return ((name, value) :: entries, left)
          | _ => none
      | _ => none

end

def parse? (text : String) : Option Value :=
  let cs := skip text.toList
  match value? (2 * cs.length + 2) cs with
  | some (value, left) => if (skip left).isEmpty then some value else none
  | none => none

end TypeGloss.Json
