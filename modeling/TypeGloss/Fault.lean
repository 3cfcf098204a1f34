/-
# TypeGloss.Fault — why a question has no answer

Every operation that can fail returns a `Fault`. A fault is a cause, with the
data that its message needs; the wording is in one place, `Fault.message`.

Three groups:

* the sources are at fault: a declaration with a syntax error, a declaration
  that no module has, a numeral or an escape that cannot be read;
* the caller is at fault: a handle of another checker, a source that was never
  registered, a declaration without syntax or of a kind that has no type, a
  field that a documentation node does not accept, an indentation that is no
  whole number, a name in a session that stands for nothing;
* a computation met a tree it has no rule for (`missingPart`, `emptySequence`,
  `notText`, `tooLarge`) or ran out of the steps it was given (`exhausted`).
-/
import TypeGloss.Text.Quoted

namespace TypeGloss

set_option autoImplicit false

/-- The causes of failure. -/
inductive Fault where
  /-- A declaration being resolved has a syntax error at a line and column. -/
  | malformed (path : String) (line column : Nat) (snippet : String)
  /-- No declaration of that name is visible in a file. -/
  | undeclared (path name : String)
  /-- A text is no integer in the given base; base zero reads the base off a
  leading mark. -/
  | notAnInteger (base : Nat) (text : String)
  /-- A text is no decimal number. -/
  | notANumber (text : String)
  /-- A decimal integer has more digits than are read. -/
  | tooManyDigits (count : Nat)
  /-- An integer has more decimal digits than are written. -/
  | tooLongToWrite
  /-- An escape denotes no code point. -/
  | codePointOutOfRange
  /-- A type handle was given to a checker that did not produce it. -/
  | foreignHandle
  /-- A declaration that stands for no syntax was asked for its type. -/
  | withoutSyntax (name : Option String)
  /-- A declaration of this kind has no type of its own. -/
  | unsupportedKind (kind : String)
  /-- A source was asked for that is not registered. -/
  | unknownSource (path : String)
  /-- A text names no category of types. -/
  | unknownCategory (name : String)
  /-- A field has a value of the wrong shape. -/
  | invalidField
  /-- A register, a member or a position that a session names is not there. -/
  | noSuchPart
  /-- A setting from the environment is no JSON. -/
  | unreadableSetting
  /-- A list with an entry that has no text was to be written as text. -/
  | notText
  /-- An indentation is no whole number. -/
  | notWhole
  /-- A part of the tree that a rule needs is not there. -/
  | missingPart
  /-- The first entry of an empty sequence was asked for. -/
  | emptySequence
  /-- A number is too large to convert. -/
  | tooLarge
  /-- The steps allowed for one question are used up. -/
  | exhausted
  deriving Repr, DecidableEq, Inhabited

namespace Fault

/-- The longest shown text in a message about an integer. -/
def shownLimit : Nat := 200

/-- The largest number of decimal digits that is read or written. -/
def digitLimit : Nat := 4300

def message : Fault → String
  | malformed path line column snippet =>
      s!"Syntax error in {path}:{line}:{column} " ++ Text.shown snippet
  | undeclared path name => "Declaration " ++ Text.shown name ++ " was not found in " ++ path
  | notAnInteger base text =>
      s!"invalid literal for int() with base {base}: " ++
        String.ofList ((Text.shownChars text.toList).take shownLimit)
  | notANumber text => "could not convert string to float: " ++ Text.shown text
  | tooManyDigits count =>
      s!"Exceeds the limit ({digitLimit} digits) for integer string conversion: value has {count} digits; use sys.set_int_max_str_digits() to increase the limit"
  | tooLongToWrite =>
      s!"Exceeds the limit ({digitLimit} digits) for integer string conversion; use sys.set_int_max_str_digits() to increase the limit"
  | codePointOutOfRange => "chr() arg not in range(0x110000)"
  | foreignHandle => "Type handle was not produced by this oracle"
  | withoutSyntax name =>
      "Declaration " ++ (name.map Text.shown).getD "None" ++ " has no syntax node"
  | unsupportedKind kind => "Unsupported declaration kind " ++ kind
  | unknownSource path => "Source " ++ Text.shown path ++ " is not registered"
  | unknownCategory name => Text.shown name ++ " is not a valid TypeCategory"
  | noSuchPart => "there is no such part"
  | invalidField => "a field has a value of the wrong shape"
  | unreadableSetting => "a setting is no JSON"
  | notText => "a list entry has no text"
  | notWhole => "an indentation is no whole number"
  | missingPart => "a part of the tree is missing"
  | emptySequence => "a sequence is empty"
  | tooLarge => "a number is too large to convert"
  | exhausted => "the steps allowed for one question are used up"

end Fault

/-- A computation that may fail with a cause. -/
abbrev Result (α : Type) := Except Fault α

end TypeGloss
