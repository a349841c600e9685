namespace Triage

/-! Ordered maps. A key that is written again keeps its place and takes the new
value; a removed key leaves the order of the others. -/

abbrev Entries (α : Type) := List (String × α)

namespace Entries

variable {α : Type}

def get? (key : String) (entries : Entries α) : Option α :=
  entries.lookup key

def contains (key : String) (entries : Entries α) : Bool :=
  entries.any (·.1 == key)

def insert (key : String) (value : α) : Entries α → Entries α
  | [] => [(key, value)]
  | (other, held) :: rest =>
      if other == key then (other, value) :: rest
      else (other, held) :: insert key value rest

def erase (key : String) : Entries α → Entries α
  | [] => []
  | (other, held) :: rest =>
      if other == key then rest else (other, held) :: erase key rest

def extend (entries more : Entries α) : Entries α :=
  more.foldl (fun held (key, value) => held.insert key value) entries

def ofList (entries : List (String × α)) : Entries α :=
  extend [] entries

def keys (entries : Entries α) : List String :=
  entries.map (·.1)

example : ofList [("a", 1), ("b", 2), ("a", 3)] = [("a", 3), ("b", 2)] := by decide

end Entries

end Triage
