/-
# TypeGloss.Evaluation.Operators — operators on values

What the operators of constant expressions compute. An operator that has no
answer for its operands is *unresolved*: `Evaluation` is a computation that may be
unresolved, which is not a fault, or fail with one.

* Arithmetic is that of floating-point numbers, and a result that is a safe
  integer becomes an integer again. A power with an exponent that is not a number
  is not a number, nor is one or minus one to an infinite power.
* Bitwise operators work on 32 bits: operands are taken modulo `2 ^ 32`, shift
  counts modulo 32, and the result is read as a signed word.
* A sum with a text on one side puts texts together.
-/
import TypeGloss.Value

namespace TypeGloss

set_option autoImplicit false

/-- A computation that may be unresolved or fail. -/
abbrev Evaluation := OptionT Result

namespace Evaluation

/-- The outcome of a computation that cannot be unresolved. -/
def ofResult {α : Type} (result : Result α) : Evaluation α :=
  OptionT.lift result

/-- The outcome of a computation that may be unresolved. -/
def ofOption {α : Type} (result : Option α) : Evaluation α :=
  OptionT.mk (.ok result)

/-- No answer. -/
def unresolved {α : Type} : Evaluation α :=
  ofOption none

end Evaluation

namespace Operators

open Evaluation

/-! ## Arithmetic -/

def toFloat : Value → Evaluation Float
  | .integer n =>
      match Number.ofInteger? n with
      | some x => pure x
      | none => ofResult (.error .tooLarge)
  | value => ofOption value.float?

/-- A quotient. Nothing divided by nothing is the constant that is not a number. -/
def quotient (x y : Float) : Value :=
  if y == 0.0 && (x == 0.0 || x.isNaN) then .nan else .ofFloat (x / y)

/-- The remainder of a division; without one, the constant that is not a number. -/
def remainder (x y : Float) : Value :=
  if y == 0.0 || x.isInf || x.isNaN || y.isNaN then .nan else .ofFloat (Number.remainder x y)

/-- A number to a power; without one, the constant that is not a number. -/
def power (base exponent : Float) : Value :=
  if exponent.isNaN || (base.abs == 1.0 && exponent.isInf) then .nan
  else
    let x := Float.pow base exponent
    if x.isNaN && !base.isNaN then .nan else .ofFloat x

def arithmetic? (operator : String) : Option (Float → Float → Value) :=
  match operator with
  | "+" => some fun x y => .ofFloat (x + y)
  | "-" => some fun x y => .ofFloat (x - y)
  | "*" => some fun x y => .ofFloat (x * y)
  | "/" => some quotient
  | "%" => some remainder
  | "**" => some power
  | _ => none

/-! ## Words of 32 bits -/

def word (n : Int) : BitVec 32 := BitVec.ofInt 32 n

/-- A shift count: the last five bits of a word. -/
def shiftCount (b : BitVec 32) : Nat := b.toNat % 32

def bitwise? (operator : String) : Option (BitVec 32 → BitVec 32 → BitVec 32) :=
  match operator with
  | "<<" => some fun a b => a <<< shiftCount b
  | ">>" => some fun a b => a.sshiftRight (shiftCount b)
  | "&" => some (· &&& ·)
  | "|" => some (· ||| ·)
  | "^" => some (· ^^^ ·)
  | _ => none

/-- The integer that a number is. -/
def wholeOf : Value → Evaluation Int
  | .integer n => do
      let _ ← toFloat (.integer n)
      return n
  | .number x => ofOption (Number.toInteger? x)
  | _ => unresolved

/-! ## Binary operators -/

/-- The order that a comparison sign accepts. -/
def comparison? (operator : String) : Option (Ordering → Bool) :=
  match operator with
  | "<" => some (· == .lt)
  | ">" => some (· == .gt)
  | "<=" => some (· != .gt)
  | ">=" => some (· != .lt)
  | _ => none

/-- Two texts put together, if both sides have one. -/
def concat (left right : Value) : Evaluation Value := do
  let before ← ofResult left.spelling
  let after ← ofResult right.spelling
  match before, after with
  | some a, some b => return .text (a ++ b)
  | _, _ => unresolved

def add (left right : Value) : Evaluation Value := do
  if left.isNumber && right.isNumber then
    return .ofFloat ((← toFloat left) + (← toFloat right))
  else
    match left, right with
    | .text _, _ => concat left right
    | _, .text _ => concat left right
    | _, _ => unresolved

/-- An operator on two numbers. -/
def numeric (operator : String) (left right : Value) : Evaluation Value := do
  match arithmetic? operator with
  | some f => return f (← toFloat left) (← toFloat right)
  | none =>
      match comparison? operator with
      | some accepts => return .flag ((left.compare? right).elim false accepts)
      | none =>
          match bitwise? operator with
          | some f =>
              let a ← wholeOf left
              let b ← wholeOf right
              return .integer (f (word a) (word b)).toInt
          | none => unresolved

def binary (operator : String) (left right : Value) : Evaluation Value :=
  if operator = "+" then add left right
  else if operator = "===" || operator = "==" then pure (.flag (left.strictlyEqual right))
  else if operator = "!==" || operator = "!=" then pure (.flag !(left.strictlyEqual right))
  else if left.isNumber && right.isNumber then numeric operator left right
  else unresolved

/-- An operator that may leave its right operand alone: the answer if the left
operand decides, else `none`. -/
def shortCircuit? (operator : String) (left : Value) : Option (Option Value) :=
  match operator with
  | "??" => some (match left with | .null => none | _ => some left)
  | "||" => some (if left.truthy then some left else none)
  | "&&" => some (if left.truthy then none else some left)
  | _ => none

def unary (operator : String) (value : Value) : Evaluation Value :=
  match operator, value with
  | "!", _ => pure (.flag !value.truthy)
  | "-", .integer n => pure (.integer (-n))
  | "-", .number x => pure (.number (-x))
  | "-", .notNumber _ => pure (.number (0.0 / 0.0))
  | "+", .integer n => pure (.integer n)
  | "+", .number x => pure (.number x)
  | "+", .notNumber mark => pure (.notNumber mark)
  | "~", .integer n => pure (.integer (-n - 1))
  | _, _ => unresolved

end Operators

end TypeGloss
