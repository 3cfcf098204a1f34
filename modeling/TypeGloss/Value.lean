/-
# TypeGloss.Value — values of constant expressions

A value is what a default, a literal type or an enum member evaluates to.
Integers and floating-point numbers are kept apart: a literal is an integer when
it is one and no larger than `maxSafeInteger`. Objects keep the order of their
keys.

* `agree` is equality of the content: numbers are compared by value, a truth
  value counts as zero or one, objects agree whatever the order of their keys.
  What is not a number agrees with nothing, except that two equal marks agree
  inside of lists and objects.
* `strictlyEqual` is what the equality operators answer: numbers by value,
  everything else only with its own kind.
* `compare?` orders two numbers exactly, with no rounding of integers.
* `spelling` is the text a value has inside a template or next to a plus sign.
-/
import TypeGloss.Entries
import TypeGloss.Number.Layout

namespace TypeGloss

set_option autoImplicit false

/-- A value of a constant expression. What is not a number has a mark that tells
where it comes from: `0` if it is the constant of that name, otherwise the constant
whose value it is. A `number` that is not one comes from a calculation and has no
mark. -/
inductive Value where
  | null
  | flag (b : Bool)
  | integer (n : Int)
  | number (x : Float)
  | notNumber (mark : Nat)
  | text (s : String)
  | list (items : List Value)
  | object (entries : List (String × Value))
  deriving Inhabited, Repr

namespace Value

/-- The largest integer up to which all integers are floating-point numbers. -/
def maxSafeInteger : Nat := Nat.pow 2 53 - 1

/-- Is the integer within `maxSafeInteger` of zero? -/
def isSafe (n : Int) : Bool :=
  n.natAbs ≤ maxSafeInteger

/-- What the constant that is not a number stands for. -/
def nan : Value := notNumber 0

/-- Floating-point numbers; what is not a number counts as one. -/
def float? : Value → Option Float
  | number x => some x
  | notNumber _ => some (0.0 / 0.0)
  | _ => none

/-- Numbers, integral or not; a truth value is none. -/
def isNumber : Value → Bool
  | integer _ => true
  | number _ => true
  | notNumber _ => true
  | _ => false

/-- A floating-point result as a value: an integer if it is a safe one. -/
def ofFloat (x : Float) : Value :=
  match Number.toInteger? x with
  | some n => if isSafe n then integer n else number x
  | none => number x

def truthy : Value → Bool
  | null => false
  | flag b => b
  | integer n => n != 0
  | number x => x != 0.0 && !x.isNaN
  | notNumber _ => false
  | text s => s != ""
  | list _ => true
  | object _ => true

/-! ## Comparison -/

/-- The numeric content of a number or a truth value. -/
inductive Amount where
  | whole (n : Int)
  | real (x : Float)

/-- The numeric content of a number or a truth value. -/
def amount? : Value → Option Amount
  | flag b => some (.whole (if b then 1 else 0))
  | integer n => some (.whole n)
  | v => v.float?.map .real

/-- The exact order of two amounts; `none` if one of them is not a number. -/
def Amount.compare? : Amount → Amount → Option Ordering
  | .whole a, .whole b => some (compare a b)
  | .whole a, .real y => Number.compareInteger a y
  | .real x, .whole b => (Number.compareInteger b x).map Ordering.swap
  | .real x, .real y =>
      if x < y then some .lt else if y < x then some .gt else if x == y then some .eq else none

def compare? (a b : Value) : Option Ordering :=
  match a.amount?, b.amount? with
  | some x, some y => x.compare? y
  | _, _ => none

/-- Two values with an amount that have the same one. -/
def amountAgree (a b : Value) : Bool :=
  a.compare? b == some .eq

mutual

/-- Values of one content. -/
def agree : Value → Value → Bool
  | null, other => match other with | null => true | _ => false
  | flag b, other => amountAgree (flag b) other
  | integer n, other => amountAgree (integer n) other
  | number x, other => amountAgree (number x) other
  | notNumber _, _ => false
  | text s, other => match other with | text t => s == t | _ => false
  | list items, other => match other with | list more => listAgree items more | _ => false
  | object entries, other =>
      match other with
      | object more => entries.length == more.length && entriesAgree entries more
      | _ => false

/-- Lists whose items agree one by one. -/
def listAgree : List Value → List Value → Bool
  | [], [] => true
  | a :: rest, b :: more => (sameMark a b || agree a b) && listAgree rest more
  | _, _ => false

/-- Every entry of the first table agrees with the second table's. -/
def entriesAgree : List (String × Value) → List (String × Value) → Bool
  | [], _ => true
  | (name, a) :: rest, table =>
      match Entries.find? name table with
      | some b => (sameMark a b || agree a b) && entriesAgree rest table
      | none => false

/-- Two values that are not numbers and come from one place. -/
def sameMark : Value → Value → Bool
  | notNumber m, other => match other with | notNumber n => m == n | _ => false
  | _, _ => false

end

/-- Values of one kind: a number goes with numbers, everything else with its own. -/
def sameKind : Value → Value → Bool
  | null, null => true
  | flag _, flag _ => true
  | integer _, integer _ => true
  | number _, number _ => true
  | notNumber _, notNumber _ => true
  | text _, text _ => true
  | list _, list _ => true
  | object _, object _ => true
  | _, _ => false

/-- What the equality operators answer. -/
def strictlyEqual (a b : Value) : Bool :=
  if a.isNumber && b.isNumber then a.compare? b == some .eq
  else a.agree b && a.sameKind b

/-! ## Text -/

/-- An integer in decimal, unless it is too long. -/
def integerSpelling (n : Int) : Result String :=
  if (Number.natChars n.natAbs).length > Fault.digitLimit then .error .tooLongToWrite
  else .ok (Number.integerText n)

/-- The spelling of a floating-point number: integers below 10 ^ 21 without a
point. -/
def floatSpelling (x : Float) : String :=
  if x.isNaN then "NaN"
  else if x.isInf then (if x > 0.0 then "Infinity" else "-Infinity")
  else
    match Number.toInteger? x with
    | some n =>
        if x.abs < 1e21 then Number.integerText n else Number.Layout.plain.render x
    | none => Number.Layout.plain.render x

mutual

/-- The text of a value inside a template or next to a plus sign. An object has
none (`none`), and a list with an object among its items is a fault. -/
def spelling : Value → Result (Option String)
  | text s => .ok (some s)
  | flag b => .ok (some (if b then "true" else "false"))
  | null => .ok (some "null")
  | integer n => (integerSpelling n).map some
  | number x => .ok (some (floatSpelling x))
  | notNumber _ => .ok (some "NaN")
  | list items => do
      let parts ← spellings items
      match parts.mapM id with
      | some texts => .ok (some (Text.joinWith "," texts))
      | none => .error .notText
  | object _ => .ok none

/-- The texts of list items; a null item is empty. -/
def spellings : List Value → Result (List (Option String))
  | [] => .ok []
  | item :: rest => do
      let part ← match item with
        | null => .ok (some "")
        | _ => spelling item
      return part :: (← spellings rest)

end

mutual

/-- The text of a value that names a property: a text as it is, everything else as it
is shown. -/
def keyText : Value → String
  | text s => s
  | null => "None"
  | flag b => if b then "True" else "False"
  | integer n => Number.integerText n
  | number x => Number.Layout.plain.render x
  | notNumber _ => Number.Layout.plain.nan
  | list items => "[" ++ Text.joinWith ", " (shownItems items) ++ "]"
  | object entries => "\x7b" ++ Text.joinWith ", " (shownEntries entries) ++ "\x7d"

def shownItems : List Value → List String
  | [] => []
  | text s :: rest => Text.shown s :: shownItems rest
  | item :: rest => keyText item :: shownItems rest

def shownEntries : List (String × Value) → List String
  | [] => []
  | (name, text s) :: rest => (Text.shown name ++ ": " ++ Text.shown s) :: shownEntries rest
  | (name, v) :: rest => (Text.shown name ++ ": " ++ keyText v) :: shownEntries rest

end

/-! ## Finite content -/

mutual

/-- The value with null in place of everything that is not finite. -/
def finite : Value → Value
  | number x => if x.isNaN || x.isInf then null else number x
  | notNumber _ => null
  | list items => list (finiteAll items)
  | object entries => object (finiteEntries entries)
  | v => v

/-- `finite` on list items. -/
def finiteAll : List Value → List Value
  | [] => []
  | item :: rest => finite item :: finiteAll rest

/-- `finite` on entries. -/
def finiteEntries : List (String × Value) → List (String × Value)
  | [] => []
  | (name, v) :: rest => (name, finite v) :: finiteEntries rest

end

/-! ## Marks -/

mutual

/-- The value as that of a constant: what is not a number and comes from a
calculation gets the next mark. The second part is the number of marks given. -/
def marked (given : Nat) : Value → Value × Nat
  | number x => if x.isNaN then (notNumber (given + 1), given + 1) else (number x, given)
  | list items =>
      let (items, given) := markedAll given items
      (list items, given)
  | object entries =>
      let (entries, given) := markedEntries given entries
      (object entries, given)
  | v => (v, given)

/-- `marked` on list items, one after the other. -/
def markedAll (given : Nat) : List Value → List Value × Nat
  | [] => ([], given)
  | item :: rest =>
      let (item, given) := marked given item
      let (rest, given) := markedAll given rest
      (item :: rest, given)

/-- `marked` on entries, one after the other. -/
def markedEntries (given : Nat) : List (String × Value) → List (String × Value) × Nat
  | [] => ([], given)
  | (name, v) :: rest =>
      let (v, given) := marked given v
      let (rest, given) := markedEntries given rest
      ((name, v) :: rest, given)

end

/-- Constants by name. What is not a number agrees with itself wherever one of them is
named, and with no other constant's. -/
def constants (entries : List (String × Value)) : List (String × Value) :=
  (markedEntries 0 entries).1

end Value

end TypeGloss
