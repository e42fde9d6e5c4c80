import AdmissionControl.Toml.Scalar
import AdmissionControl.Toml.Tree

namespace AdmissionControl.Toml

open Settings

mutual

-- One value. `depth` is how many levels of nesting are left, `fuel` bounds the
-- number of values and separators.
def value? (depth fuel : Nat) (cs : List Char) : Option (Document × List Char) :=
  match fuel with
  | 0 => none
  | fuel + 1 =>
    match cs with
    | '"' :: _ => (string? cs).map fun (text, rest) => (.text text, rest)
    | '\x27' :: _ => (string? cs).map fun (text, rest) => (.text text, rest)
    | '[' :: rest =>
      if depth = 0 then none
      else (items? (depth - 1) fuel rest).map fun (items, rest) => (.sequence items, rest)
    | '\x7b' :: rest =>
      if depth = 0 then none
      else
        match skipSpace rest with
        | '\x7d' :: rest => some (.record [], rest)
        | rest =>
          (pairs? (depth - 1) fuel rest ⟨.header, []⟩).map fun (table, rest) =>
            (.record (documents table.entries), rest)
    | cs => scalar? cs

-- The rest of an array. Line ends and comments may stand anywhere in it, and a
-- comma may follow the last item.
def items? (depth fuel : Nat) (cs : List Char) : Option (List Document × List Char) :=
  match fuel with
  | 0 => none
  | fuel + 1 =>
    match skipLines cs.length cs with
    | ']' :: rest => some ([], rest)
    | cs => do
      let (item, rest) ← value? depth fuel cs
      match skipLines rest.length rest with
      | ',' :: rest =>
        let (items, rest) ← items? depth fuel rest
        return (item :: items, rest)
      | ']' :: rest => return ([item], rest)
      | _ => none

-- The rest of a table on one line.
def pairs? (depth fuel : Nat) (cs : List Char) (table : Table) : Option (Table × List Char) :=
  match fuel with
  | 0 => none
  | fuel + 1 => do
    let (key, rest) ← key? cs
    match rest with
    | '=' :: rest =>
      let (value, rest) ← value? depth fuel (skipSpace rest)
      let table ← table.assign key value
      match skipSpace rest with
      | ',' :: rest => pairs? depth fuel rest table
      | '\x7d' :: rest => return (table, rest)
      | _ => none
    | _ => none

end

-- Where a document stands: everything before the current header, and the
-- current table with the header it belongs to.
structure Progress where
  root : Table
  current : Table
  header : Option (Bool × List String)

namespace Progress

def start : Progress := ⟨⟨.header, []⟩, ⟨.header, []⟩, none⟩

-- The whole document so far.
def closed (progress : Progress) : Option Table :=
  match progress.header with
  | none => some progress.current
  | some (false, key) => Table.close key progress.current progress.root
  | some (true, key) => Table.append key progress.current progress.root

def openTable (key : List String) (progress : Progress) : Option Progress := do
  let (current, root) ← Table.opened key (← progress.closed)
  return ⟨root, current, some (false, key)⟩

-- An empty table is added first, to see that it may be.
def openElement (key : List String) (progress : Progress) : Option Progress := do
  let root ← progress.closed
  let _ ← Table.append key ⟨.header, []⟩ root
  return ⟨root, ⟨.header, []⟩, some (true, key)⟩

def assign (key : List String) (value : Document) (progress : Progress) : Option Progress := do
  return { progress with current := ← progress.current.assign key value }

end Progress

-- A header, after its opening bracket.
def header? (cs : List Char) (progress : Progress) : Option (Progress × List Char) :=
  match cs with
  | '[' :: rest => do
    let (key, rest) ← key? rest
    match rest with
    | ']' :: ']' :: rest => return (← progress.openElement key, ← lineEnd? rest)
    | _ => none
  | rest => do
    let (key, rest) ← key? rest
    match rest with
    | ']' :: rest => return (← progress.openTable key, ← lineEnd? rest)
    | _ => none

def pair? (cs : List Char) (progress : Progress) : Option (Progress × List Char) := do
  let (key, rest) ← key? cs
  match rest with
  | '=' :: rest =>
    let (value, rest) ← value? (depthLimit - 1) (rest.length + 1) (skipSpace rest)
    return (← progress.assign key value, ← lineEnd? rest)
  | _ => none

-- A document line by line. Every line takes at least one character.
def lines? (fuel : Nat) (cs : List Char) (progress : Progress) : Option Progress :=
  match fuel with
  | 0 => if cs.isEmpty then some progress else none
  | fuel + 1 =>
    match skipSpace cs with
    | [] => some progress
    | '[' :: rest => do
      let (progress, rest) ← header? rest progress
      lines? fuel rest progress
    | '#' :: rest => do lines? fuel (← lineEnd? ('#' :: rest)) progress
    | c :: rest =>
      match newline? (c :: rest) with
      | some rest => lines? fuel rest progress
      | none => do
        let (progress, rest) ← pair? (c :: rest) progress
        lines? fuel rest progress

-- The document that a text spells. A mark of the byte order at its head is
-- passed over.
def parse? (text : String) : Option Document := do
  let cs :=
    match text.toList with
    | '\uFEFF' :: rest => rest
    | cs => cs
  let progress ← lines? (cs.length + 1) cs .start
  return .record (documents (← progress.closed).entries)

end AdmissionControl.Toml
