import LivePages.Table
import LivePages.Toml.Basic

/-! The tables that the lines of a TOML text build up, and the rules against giving a thing
twice. -/

namespace LivePages.Toml

/-- A line that gives a key its value. -/
structure Entry where
  /-- The parts of the key before the last dot. -/
  path : List String
  key : String
  value : Toml
deriving Inhabited

/-- The header over a group of entries. -/
structure Header where
  path : List String
  key : String
  /-- Whether the header stands in double brackets. -/
  repeats : Bool
deriving Inhabited

/-- A header with the entries under it. -/
structure Section where
  header : Header
  entries : List Entry
deriving Inhabited

/-- Changes the table at a path, making the tables on the way that are missing. A dotted key goes
neither into a table in braces nor into one that has a header. -/
def modifyAt? (dotted : Bool)
    (change : TableOrigin → Table Toml → Option (Table Toml)) :
    List String → TableOrigin → Table Toml → Option (Table Toml)
  | [], origin, entries => change origin entries
  | key :: path, _, entries =>
    match entries.get? key with
    | none =>
      let origin := if dotted then TableOrigin.dotted else .implied
      (modifyAt? dotted change path origin []).map fun inner =>
        Table.insert key (.table origin inner) entries
    | some (.table origin inner) =>
      if origin = .braces ∨ (dotted ∧ origin = .header) then none
      else
        (modifyAt? dotted change path origin inner).map fun inner =>
          Table.insert key (.table origin inner) entries
    | some (.tables elements) =>
      match elements.getLast? with
      | none => none
      | some last =>
        (modifyAt? dotted change path .header last).map fun last =>
          Table.insert key (.tables (elements.dropLast ++ [last])) entries
    | some _ => none

/-- Adds an entry to a table. No key is given twice, and a table made by other means than dotted
keys does not take one. -/
def addEntry? (entries : Table Toml) (e : Entry) : Option (Table Toml) :=
  modifyAt? true (fun origin inner =>
    if (origin = .dotted) ≠ (e.path ≠ []) ∨ inner.contains e.key then none
    else some (Table.insert e.key e.value inner)) e.path .header entries

/-- The table of some entries after those it already has. -/
def addEntries? (start : Table Toml) (entries : List Entry) : Option (Table Toml) :=
  entries.foldlM addEntry? start

/-- Adds the table of a section. A header comes once, except in double brackets, where it starts a
new table each time. -/
def addSection? (root : Table Toml) (s : Section) : Option (Table Toml) :=
  modifyAt? false (fun _ parent =>
    match s.header.repeats, parent.get? s.header.key with
    | false, none => do
      let entries ← addEntries? [] s.entries
      return Table.insert s.header.key (.table .header entries) parent
    | false, some (.table .implied known) => do
      let entries ← addEntries? known s.entries
      return Table.insert s.header.key (.table .header entries) parent
    | true, none => do
      let entries ← addEntries? [] s.entries
      return Table.insert s.header.key (.tables [entries]) parent
    | true, some (.tables elements) => do
      let entries ← addEntries? [] s.entries
      return Table.insert s.header.key (.tables (elements ++ [entries])) parent
    | _, _ => none) s.header.path .header root

end LivePages.Toml
