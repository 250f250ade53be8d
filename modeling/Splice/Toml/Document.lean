import Splice.Toml.Syntax

/-!
# TOML documents

What the statements of a document define. The definitions are kept flat, each at its address: the
keys that lead to it from the root, and numbers for the tables of a list. A statement may define an
address once; how an address has been defined decides what may still be added below it. The tables
between braces are resolved in the same way, and are closed afterwards.
-/

namespace Splice.Toml

/-- One step of an address. -/
inductive Step where
  /-- A key of a table. -/
  | key (name : Text)
  /-- A table of a list. -/
  | item (number : Nat)
  deriving DecidableEq, Repr

/-- The steps that lead to a definition from the root. -/
abbrev Address := List Step

/-- How an address has been defined. -/
inductive Definition where
  /-- A table with a header of its own. -/
  | headed
  /-- A table that headers of tables below it imply. -/
  | implied
  /-- A table that dotted keys imply. -/
  | dotted
  /-- A list of tables, with their number. -/
  | list (length : Nat)
  /-- A value. -/
  | value (value : Value)
  deriving Repr

/-- The definitions of a document, the latest first. -/
abbrev Definitions := List (Address × Definition)

namespace Definitions

/-- How an address has been defined. -/
def at? (definitions : Definitions) (address : Address) : Option Definition :=
  (definitions.find? fun entry => entry.1 = address).map Prod.snd

/-- Follows keys from a table, defining the tables that are missing on the way. Dotted keys do not
lead into tables with headers. A list stands for its last table. -/
def descend (definitions : Definitions) (isDotted : Bool) (address : Address) :
    List Text → Option (Definitions × Address)
  | [] => some (definitions, address)
  | name :: names =>
    let next := address ++ [.key name]
    match definitions.at? next with
    | none =>
      let definition := if isDotted then .dotted else .implied
      descend ((next, definition) :: definitions) isDotted next names
    | some (.list length) => definitions.descend isDotted (next ++ [.item (length - 1)]) names
    | some .headed => if isDotted then none else definitions.descend isDotted next names
    | some .implied | some .dotted => definitions.descend isDotted next names
    | some (.value _) => none

/-- Whether a table has been defined by dotted keys. -/
def isDotted (definitions : Definitions) (address : Address) : Bool :=
  match definitions.at? address with
  | some .dotted => true
  | _ => false

/-- Defines a value in the table at an address. -/
def define (definitions : Definitions) (address : Address) (path : List Text) (value : Value) :
    Option Definitions := do
  let name ← path.getLast?
  let (definitions, table) ← definitions.descend true address path.dropLast
  if definitions.isDotted table = path.dropLast.isEmpty then none
  else
    match definitions.at? (table ++ [.key name]) with
    | some _ => none
    | none => some ((table ++ [.key name], .value value) :: definitions)

/-- Defines what one statement says, below the header before it. -/
def apply (state : Definitions × Address) (statement : Statement) :
    Option (Definitions × Address) := do
  let (definitions, current) := state
  match statement with
  | .entry path value =>
    let definitions ← definitions.define current path value
    some (definitions, current)
  | .table path =>
    let name ← path.getLast?
    let (definitions, parent) ← definitions.descend false [] path.dropLast
    let address := parent ++ [.key name]
    match definitions.at? address with
    | none | some .implied => some ((address, .headed) :: definitions, address)
    | _ => none
  | .item path =>
    let name ← path.getLast?
    let (definitions, parent) ← definitions.descend false [] path.dropLast
    let address := parent ++ [.key name]
    match definitions.at? address with
    | none => some ((address, .list 1) :: definitions, address ++ [.item 0])
    | some (.list length) =>
      some ((address, .list (length + 1)) :: definitions, address ++ [.item length])
    | _ => none

/-- The definitions of a table between braces. -/
def ofEntries (entries : List (List Text × Value)) : Option Definitions :=
  entries.foldlM (fun (definitions : Definitions) (path, value) =>
    definitions.define [] path value) []

/-- The keys of the table at an address, each once, with their definitions. -/
def children (definitions : Definitions) (address : Address) : List (Text × Definition) :=
  let keys := definitions.filterMap fun (place, _) =>
    match address.isPrefixOf? place with
    | some [.key name] => some name
    | _ => none
  keys.eraseDups.filterMap fun name =>
    (definitions.at? (address ++ [.key name])).map fun definition => (name, definition)

end Definitions

mutual

/-- Whether all tables between braces in a value define each of their keys once. -/
def Value.isConsistent : Value → Bool
  | .string _ => true
  | .scalar _ => true
  | .array items => valuesConsistent items
  | .inline entries => (Definitions.ofEntries entries).isSome && entriesConsistent entries

/-- Whether all of several values are consistent. -/
def valuesConsistent : List Value → Bool
  | [] => true
  | value :: rest => value.isConsistent && valuesConsistent rest

/-- Whether the values of all entries are consistent. -/
def entriesConsistent : List (List Text × Value) → Bool
  | [] => true
  | (_, value) :: rest => value.isConsistent && entriesConsistent rest

end

/-- Whether the values in a statement are consistent. -/
def Statement.isConsistent : Statement → Bool
  | .entry _ value => value.isConsistent
  | .table _ | .item _ => true

/-- What a document defines, if it is well formed and defines nothing twice. -/
def parse? (text : Text) : Option Definitions := do
  let statements ← readDocument text
  if statements.all Statement.isConsistent then
    let (definitions, _) ← statements.foldlM Definitions.apply ([], [])
    some definitions
  else none

end Splice.Toml
