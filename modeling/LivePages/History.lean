/-! The paths that have been visited, and moving among them. -/

namespace LivePages

/-- How a navigation changes the history. -/
inductive NavigationKind where
  /-- Adds an entry. -/
  | push
  /-- Replaces the current entry. -/
  | replace
  /-- Moves to an entry that is already there. -/
  | pop
deriving DecidableEq, Inhabited

/-- The visited paths, the oldest first, and the position of the current one. -/
structure History where
  entries : List String
  index : Nat
deriving DecidableEq, Inhabited

namespace History

def empty : History := ⟨[], 0⟩

def current? (h : History) : Option String := h.entries[h.index]?

/-- Adds an entry after the current one, in place of all that were ahead. -/
def push (path : String) (h : History) : History :=
  let kept := if h.entries.isEmpty then [] else h.entries.take (h.index + 1)
  ⟨kept ++ [path], kept.length⟩

/-- Replaces the current entry, or adds the first one. -/
def replace (path : String) (h : History) : History :=
  if h.index < h.entries.length then { h with entries := h.entries.set h.index path }
  else ⟨h.entries ++ [path], h.entries.length⟩

/-- Moves to an entry, if there is one at that position. -/
def moveTo? (index : Nat) (h : History) : Option (String × History) :=
  (h.entries[index]?).map fun path => (path, { h with index })

/-- Moves back by one entry, if there is one. -/
def back? (h : History) : Option (String × History) :=
  if h.index = 0 then none else h.moveTo? (h.index - 1)

/-- Moves forward by one entry, if there is one. -/
def forward? (h : History) : Option (String × History) := h.moveTo? (h.index + 1)

/-- What a navigation to `path` leaves in the history. -/
def record (kind : NavigationKind) (path : String) (h : History) : History :=
  match kind with
  | .push => h.push path
  | .replace => h.replace path
  | .pop => h

end History

end LivePages
