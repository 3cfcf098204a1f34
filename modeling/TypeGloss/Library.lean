/-
# TypeGloss.Library — names of the standard library

The types that the standard library of the language declares and that are known
without its sources: arrays, the utility types that change an object or filter a
union, generic types that are kept as they are, and plain types. A known type has
the library file that declares it.
-/
import TypeGloss.Entries

namespace TypeGloss.Library

set_option autoImplicit false

/-- The library file of everything that has no file of its own here. -/
def defaultFile : String := "lib.d.ts"

def arrayTypes : List String := ["Array", "ReadonlyArray"]

/-- Utility types that make an object out of an object. -/
def mappedUtilities : List String := ["Partial", "Required", "Readonly", "Pick", "Omit"]

/-- Utility types that drop members of a union. -/
def filteringUtilities : List String := ["NonNullable", "Exclude", "Extract"]

/-- Generic types that are documented with their arguments, and their files. -/
def genericTypes : Entries String := [
  ("Promise", "lib.es2015.promise.d.ts"),
  ("PromiseLike", "lib.es5.d.ts"),
  ("Awaited", "lib.es5.d.ts"),
  ("Record", "lib.es5.d.ts"),
  ("ReturnType", "lib.es5.d.ts"),
  ("Parameters", "lib.es5.d.ts"),
  ("InstanceType", "lib.es5.d.ts"),
  ("ConstructorParameters", "lib.es5.d.ts"),
  ("ThisParameterType", "lib.es5.d.ts"),
  ("OmitThisParameter", "lib.es5.d.ts"),
  ("Uppercase", "lib.es5.d.ts"),
  ("Lowercase", "lib.es5.d.ts"),
  ("Capitalize", "lib.es5.d.ts"),
  ("Uncapitalize", "lib.es5.d.ts"),
  ("Map", "lib.es2015.collection.d.ts"),
  ("Set", "lib.es2015.collection.d.ts"),
  ("WeakMap", "lib.es2015.collection.d.ts"),
  ("WeakSet", "lib.es2015.collection.d.ts"),
  ("ReadonlyMap", "lib.es2015.collection.d.ts"),
  ("ReadonlySet", "lib.es2015.collection.d.ts"),
  ("Iterable", "lib.es2015.iterable.d.ts"),
  ("Iterator", "lib.es2015.iterable.d.ts"),
  ("IterableIterator", "lib.es2015.iterable.d.ts"),
  ("AsyncIterable", "lib.es2018.asynciterable.d.ts"),
  ("AsyncIterator", "lib.es2018.asynciterable.d.ts"),
  ("AsyncIterableIterator", "lib.es2018.asynciterable.d.ts"),
  ("Generator", "lib.es2015.generator.d.ts"),
  ("AsyncGenerator", "lib.es2018.asyncgenerator.d.ts")]

/-- Types without arguments that are documented as references, and their files. -/
def plainTypes : Entries String := [
  ("Date", "lib.es5.d.ts"),
  ("Error", "lib.es5.d.ts"),
  ("RegExp", "lib.es5.d.ts"),
  ("Function", "lib.es5.d.ts"),
  ("Object", "lib.es5.d.ts"),
  ("String", "lib.es5.d.ts"),
  ("Number", "lib.es5.d.ts"),
  ("Boolean", "lib.es5.d.ts"),
  ("Symbol", "lib.es2015.symbol.d.ts"),
  ("BigInt", "lib.es2020.bigint.d.ts"),
  ("ArrayBuffer", "lib.es5.d.ts"),
  ("Uint8Array", "lib.es5.d.ts"),
  ("URL", "lib.dom.d.ts"),
  ("Request", "lib.dom.d.ts"),
  ("Response", "lib.dom.d.ts"),
  ("Headers", "lib.dom.d.ts"),
  ("HTMLElement", "lib.dom.d.ts"),
  ("Element", "lib.dom.d.ts"),
  ("Event", "lib.dom.d.ts")]

/-- The library file that declares a name. -/
def fileOf (name : String) : String :=
  ((Entries.find? name genericTypes).or (Entries.find? name plainTypes)).getD defaultFile

/-- The library file of a generic type that is known to be there. -/
def genericFile (name : String) : String :=
  (Entries.find? name genericTypes).getD defaultFile

/-- The library file of a plain type that is known to be there. -/
def plainFile (name : String) : String :=
  (Entries.find? name plainTypes).getD defaultFile

end TypeGloss.Library
