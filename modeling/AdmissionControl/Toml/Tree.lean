import AdmissionControl.Settings.Document

namespace AdmissionControl.Toml

open Settings

-- How a table came about: by a header of its own, by the header of a table
-- inside it, or by a key with several parts.
inductive Origin where
  | header
  | implied
  | dotted
deriving DecidableEq

-- What a name stands for while a document is read. A finished value can no
-- longer be added to.
inductive Item where
  | value (value : Document)
  | table (origin : Origin) (entries : List (String × Item))
  | tables (elements : List (List (String × Item)))

abbrev Entries := List (String × Item)

structure Table where
  origin : Origin
  entries : Entries

namespace Table

def find? (name : String) (table : Table) : Option Item := table.entries.lookup name

def put (name : String) (item : Item) (table : Table) : Table :=
  { table with entries := table.entries.filter (·.1 != name) ++ [(name, item)] }

def erase (name : String) (table : Table) : Table :=
  { table with entries := table.entries.filter (·.1 != name) }

-- Changes the table at the end of a path. Tables on the way that are missing
-- are made, and of several tables the last is taken. A path with points in a
-- key leads through no table that has a header.
def change (made : Origin) (f : Table → Option Table) : List String → Table → Option Table
  | [], table => f table
  | name :: path, table =>
    match table.find? name with
    | none => do
      let child ← change made f path ⟨made, []⟩
      return table.put name (.table child.origin child.entries)
    | some (.value _) => none
    | some (.table origin entries) =>
      if made = .dotted ∧ origin = .header then none
      else do
        let child ← change made f path ⟨origin, entries⟩
        return table.put name (.table child.origin child.entries)
    | some (.tables elements) =>
      match elements.getLast? with
      | none => none
      | some entries => do
        let child ← change made f path ⟨.header, entries⟩
        return table.put name (.tables (elements.dropLast ++ [child.entries]))

-- The names on the way to the last name of a key, and that name.
def splitLast : List String → Option (List String × String)
  | [] => none
  | names => names.getLast?.map fun last => (names.dropLast, last)

-- A name is given once. A key with several parts ends in a table that was made
-- by such a key.
def assign (key : List String) (value : Document) (table : Table) : Option Table := do
  let (path, name) ← splitLast key
  let set (target : Table) : Option Table :=
    if (¬ path.isEmpty ∧ target.origin ≠ .dotted) ∨ (target.find? name).isSome then none
    else some (target.put name (.value value))
  change .dotted set path table

-- The table that a header opens, and what is left without it. A table that is
-- there already must have been implied.
def opened (key : List String) (root : Table) : Option (Table × Table) := do
  let (path, name) ← splitLast key
  let held ← lookupAt path name root
  match held with
  | none => return (⟨.header, []⟩, root)
  | some (.table .implied entries) =>
    let rest ← change .implied (fun parent => some (parent.erase name)) path root
    return (⟨.header, entries⟩, rest)
  | some _ => none
where
  lookupAt : List String → String → Table → Option (Option Item)
    | [], name, table => some (table.find? name)
    | step :: path, name, table =>
      match table.find? step with
      | none => some none
      | some (.value _) => none
      | some (.table origin entries) => lookupAt path name ⟨origin, entries⟩
      | some (.tables elements) =>
        match elements.getLast? with
        | none => none
        | some entries => lookupAt path name ⟨.header, entries⟩

-- Puts a table back at the place that its header names.
def close (key : List String) (table root : Table) : Option Table := do
  let (path, name) ← splitLast key
  change .implied (fun parent => some (parent.put name (.table table.origin table.entries)))
    path root

-- Adds a table to the tables that a doubled header names.
def append (key : List String) (table root : Table) : Option Table := do
  let (path, name) ← splitLast key
  let add (parent : Table) : Option Table :=
    match parent.find? name with
    | none => some (parent.put name (.tables [table.entries]))
    | some (.tables elements) => some (parent.put name (.tables (elements ++ [table.entries])))
    | some _ => none
  change .implied add path root

end Table

mutual

def Item.document : Item → Document
  | .value value => value
  | .table _ entries => .record (documents entries)
  | .tables elements => .sequence (records elements)

def documents : List (String × Item) → List (String × Document)
  | [] => []
  | (name, item) :: entries => (name, item.document) :: documents entries

def records : List (List (String × Item)) → List Document
  | [] => []
  | entries :: elements => .record (documents entries) :: records elements

end

end AdmissionControl.Toml
