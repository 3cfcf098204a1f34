/-
# TypeGloss.Entries — keyed entries in the order they were first written

A table is a list of pairs. Writing a key that is there replaces its entry where
it stands; writing a new key appends. So the order of a table is the order in
which its keys were first written, which every listing shows.
-/

namespace TypeGloss

set_option autoImplicit false

/-- A table of entries by name. -/
abbrev Entries (α : Type) := List (String × α)

namespace Entries

variable {α : Type}

def find? (name : String) : Entries α → Option α
  | [] => none
  | (key, entry) :: rest => if key = name then some entry else find? name rest

def has (name : String) (table : Entries α) : Bool :=
  (find? name table).isSome

/-- Write an entry: in place if the name is there, else at the end. -/
def put (name : String) (entry : α) : Entries α → Entries α
  | [] => [(name, entry)]
  | (key, old) :: rest =>
      if key = name then (key, entry) :: rest else (key, old) :: put name entry rest

/-- Write all entries of another table, one after the other. -/
def putAll (table more : Entries α) : Entries α :=
  more.foldl (fun result item => put item.1 item.2 result) table

def erase (name : String) (table : Entries α) : Entries α :=
  table.filter (·.1 != name)

/-- Write an entry only if the name is not there. -/
def putNew (name : String) (entry : α) (table : Entries α) : Entries α :=
  if has name table then table else table ++ [(name, entry)]

/-- A table from pairs; of two entries of one name the later wins, at the place
of the first. -/
def ofList (items : List (String × α)) : Entries α :=
  putAll [] items

/-- The names, in order. -/
def names (table : Entries α) : List String :=
  table.map Prod.fst

/-- The entries without their names, in order. -/
def entries (table : Entries α) : List α :=
  table.map Prod.snd

end Entries

def Entries.append {α : Type} (name : String) (item : α) (table : Entries (List α)) :
    Entries (List α) :=
  Entries.put name ((Entries.find? name table).getD [] ++ [item]) table

end TypeGloss
