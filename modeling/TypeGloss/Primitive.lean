/-
# TypeGloss.Primitive — primitive types

The keyword types of the language. Each has a keyword and a kind of documentation
node.
-/
import TypeGloss.Documentation.Node

namespace TypeGloss

set_option autoImplicit false

/-- Primitive types. -/
inductive Primitive where
  | string
  | number
  | boolean
  | bigint
  | symbol
  | null
  | undefined
  | void
  | any
  | unknown
  | never
  | object
  deriving Repr, DecidableEq, Inhabited, Hashable

namespace Primitive

def text : Primitive → String
  | string => "string"
  | number => "number"
  | boolean => "boolean"
  | bigint => "bigint"
  | symbol => "symbol"
  | null => "null"
  | undefined => "undefined"
  | void => "void"
  | any => "any"
  | unknown => "unknown"
  | never => "never"
  | object => "object"

def all : List Primitive :=
  [string, number, boolean, bigint, symbol, null, undefined, void, any, unknown, never, object]

def ofText? (keyword : String) : Option Primitive :=
  all.find? (·.text == keyword)

def kind : Primitive → Kind
  | string => .string
  | number => .number
  | boolean => .boolean
  | bigint => .bigInt
  | symbol => .symbol
  | null => .null
  | undefined => .undefined
  | void => .void
  | any => .any
  | unknown => .unknown
  | never => .never
  | object => .objectKeyword

/-- The two types that stand for the absence of a value. -/
def isNullish : Primitive → Bool
  | null => true
  | undefined => true
  | _ => false

end Primitive

end TypeGloss
