namespace LabStream

/-- How a table came about: in passing, on the way to another table; by keys with dots; under a
header of its own; or between braces. -/
inductive TableForm where
  | implied
  | dotted
  | headed
  | inlined
  deriving DecidableEq

/-- A value of a TOML document. A list knows whether its items are tables with headers. -/
inductive TomlValue where
  | text (value : String)
  | whole (value : Int)
  | float
  | bool (value : Bool)
  | moment
  | list (headed : Bool) (items : List TomlValue)
  | table (form : TableForm) (entries : List (String × TomlValue))

abbrev TomlEntries := List (String × TomlValue)

namespace TomlValue

def find? (entries : TomlEntries) (key : String) : Option TomlValue :=
  (entries.find? (·.1 == key)).map (·.2)

/-- Puts a value at a key, in place of one that is there. -/
def put (entries : TomlEntries) (key : String) (value : TomlValue) : TomlEntries :=
  if entries.any (·.1 == key) then entries.map fun e => if e.1 == key then (key, value) else e
  else entries ++ [(key, value)]

/-- Changes the table at the end of a path. Tables on the way are made when they are missing; with
`dotted` only those made by dotted keys may be entered. A list of headed tables stands for its last
item. The change is given the form of the table it changes. -/
def alter (dotted : Bool) (change : TableForm → TomlEntries → Option TomlEntries) :
    List String → TableForm → TomlEntries → Option TomlEntries
  | [], form, entries => change form entries
  | key :: path, _, entries =>
    match find? entries key with
    | none => do
      let form := if dotted then TableForm.dotted else .implied
      return entries ++ [(key, .table form (← alter dotted change path form []))]
    | some (.table form inner) =>
      if form = .inlined ∨ (dotted ∧ form = .headed) then none
      else do return put entries key (.table form (← alter dotted change path form inner))
    | some (.list true items) =>
      match items.getLast? with
      | some (.table form inner) => do
        if dotted then none
        let inner ← alter dotted change path form inner
        return put entries key (.list true (items.dropLast ++ [.table form inner]))
      | _ => none
    | some _ => none

/-- Adds a value under a key of one or more parts. A key with dots never enters a table that has a
header, and no key is given twice. -/
def assign (path : List String) (key : String) (value : TomlValue) (form : TableForm)
    (entries : TomlEntries) : Option TomlEntries :=
  alter (!path.isEmpty) (fun form entries =>
    if (!path.isEmpty && form ≠ .dotted) || (find? entries key).isSome then none
    else some (entries ++ [(key, value)])) path form entries

end TomlValue

/-- One line of a document: a header, the header of one more item of a list, or a key with its
value. -/
inductive TomlLine where
  | header (path : List String) (key : String)
  | item (path : List String) (key : String)
  | entry (path : List String) (key : String) (value : TomlValue)

/-- A document being read: the whole of it and the path of the table that is open. -/
structure TomlDocument where
  root : TomlEntries
  opened : List String

namespace TomlDocument

open TomlValue

def empty : TomlDocument := ⟨[], []⟩

/-- Opens the table of a header, which may be there only in passing. -/
def openTable (path : List String) (key : String) (doc : TomlDocument) : Option TomlDocument := do
  let root ← alter false (fun _ entries =>
    match find? entries key with
    | none => some (entries ++ [(key, .table .headed [])])
    | some (.table .implied inner) => some (put entries key (.table .headed inner))
    | some _ => none) path .headed doc.root
  return ⟨root, path ++ [key]⟩

/-- Opens a new table at the end of a list of headed tables. -/
def openItem (path : List String) (key : String) (doc : TomlDocument) : Option TomlDocument := do
  let root ← alter false (fun _ entries =>
    match find? entries key with
    | none => some (entries ++ [(key, .list true [.table .headed []])])
    | some (.list true items) => some (put entries key (.list true (items ++ [.table .headed []])))
    | some _ => none) path .headed doc.root
  return ⟨root, path ++ [key]⟩

def add (doc : TomlDocument) : TomlLine → Option TomlDocument
  | .header path key => doc.openTable path key
  | .item path key => doc.openItem path key
  | .entry path key value => do
    let root ← alter false (fun form entries => assign path key value form entries) doc.opened .headed
      doc.root
    return { doc with root }

end TomlDocument

end LabStream
