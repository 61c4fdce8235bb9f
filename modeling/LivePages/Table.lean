/-! Named entries in the order of their insertion. All that a client lists by name is such a
table. -/

namespace LivePages

/-- A list of named entries that keeps the order of their first insertion. -/
abbrev Table (α : Type) := List (String × α)

namespace Table

variable {α : Type}

/-- Replaces the entry of that name in its place, or adds it at the end. -/
def insert (name : String) (entry : α) : Table α → Table α
  | [] => [(name, entry)]
  | (n, e) :: rest => if n = name then (name, entry) :: rest else (n, e) :: insert name entry rest

def get? (t : Table α) (name : String) : Option α := List.lookup name t

def contains (t : Table α) (name : String) : Bool := (t.get? name).isSome

def erase (t : Table α) (name : String) : Table α := t.filter fun entry => entry.1 ≠ name

def names (t : Table α) : List String := t.map Prod.fst

/-- The table of a list of entries; a repeated name keeps its first place and its last entry. -/
def ofList (entries : List (String × α)) : Table α :=
  entries.foldl (fun t (name, entry) => insert name entry t) []

end Table

end LivePages
