import ChatConsole.Toml.Value

/-! # TOML documents

A document is kept as the list of everything it defines, each with its full path. Every rule on what
may be defined twice is a rule about what already stands at a path: a key is never defined twice, a
header may only complete a table that came into being on the way to another one, and a dotted key
only goes through tables that dotted keys made.
-/

namespace ChatConsole.Toml

/-- One step of a path: a key, or the place of a table in an array of tables. -/
inductive Step
  | key (name : String)
  | place (n : Nat)
  deriving DecidableEq, Repr

abbrev Path := List Step

/-- What stands at a path. -/
inductive Item
  | value (v : Value)
  /-- A table; `implied` if only paths through it were written, `dotted` if a dotted key did so. -/
  | table (implied dotted : Bool)
  /-- An array of tables with the number of its tables. -/
  | tables (count : Nat)

/-- Everything that is defined, the newest first. -/
abbrev Document := List (Path × Item)

namespace Document

def at? (doc : Document) (path : Path) : Option Item :=
  (doc.find? fun entry => entry.1 == path).map (·.2)

/-- What the key at the top of the document stands for. -/
def top? (doc : Document) (name : String) : Option Item := doc.at? [.key name]

/-- Follows keys from a table on, and makes the tables that do not exist yet. -/
def descend (dotted : Bool) (path : Path) (doc : Document) : List String → Option (Path × Document)
  | [] => some (path, doc)
  | name :: rest =>
    let next := path ++ [.key name]
    match doc.at? next with
    | none => descend dotted next ((next, .table true dotted) :: doc) rest
    | some (.value _) => none
    | some (.tables count) => descend dotted (next ++ [.place (count - 1)]) doc rest
    | some (.table implied _) => if dotted && !implied then none else descend dotted next doc rest

/-- Whether a dotted key made the table at a path. The document itself was not made by any. -/
def isDotted (doc : Document) (path : Path) : Bool :=
  match doc.at? path with
  | some (.table _ dotted) => dotted
  | _ => false

/-- Defines a key of the table at `base`. -/
def define (base : Path) (keys : List String) (v : Value) (doc : Document) : Option Document := do
  let name ← keys.getLast?
  let parents := keys.dropLast
  let (path, doc) ← descend true base doc parents
  if !parents.isEmpty && !doc.isDotted path then none
  else
    let path := path ++ [.key name]
    match doc.at? path with
    | some _ => none
    | none => some ((path, .value v) :: doc)

/-- Begins the table of a header, and gives the path of its keys. -/
def beginTable (keys : List String) (doc : Document) : Option (Path × Document) := do
  let name ← keys.getLast?
  let (path, doc) ← descend false [] doc keys.dropLast
  let path := path ++ [.key name]
  match doc.at? path with
  | none | some (.table true false) => some (path, (path, .table false false) :: doc)
  | _ => none

/-- Begins a further table of an array of tables, and gives the path of its keys. -/
def beginPlace (keys : List String) (doc : Document) : Option (Path × Document) := do
  let name ← keys.getLast?
  let (path, doc) ← descend false [] doc keys.dropLast
  let path := path ++ [.key name]
  let count ← match doc.at? path with
    | none => some 0
    | some (.tables count) => some count
    | some _ => none
  some (path ++ [.place count],
    (path ++ [.place count], .table false false) :: (path, .tables (count + 1)) :: doc)

end Document

end ChatConsole.Toml
