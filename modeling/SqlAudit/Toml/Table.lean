import SqlAudit.Toml.Basic

/-!
Putting a document together. Keys may be paths, so that a table comes about in three ways: by its own
header, because a longer header passes through it, or because a dotted key does. A header completes a
table of the second kind only, and a dotted key extends only tables that no header names.
-/

namespace SqlAudit.Toml

inductive Origin
  | header
  | passed
  | dotted
  deriving DecidableEq, Repr

inductive Node
  | value (v : Toml)
  | table (origin : Origin) (entries : List (String × Node))
  | tables (items : List (List (String × Node)))

abbrev Entries := List (String × Node)

namespace Entries

def get? (es : Entries) (key : String) : Option Node := (es.find? (·.1 == key)).map (·.2)

def set (es : Entries) (key : String) (n : Node) : Entries :=
  es.map fun e => if e.1 == key then (key, n) else e

/-- Changes the table at a path, making the tables on the way; of several tables under one key the
last one counts. -/
def alter (isDotted : Bool) (f : Origin → Entries → Option Entries) :
    List String → Origin → Entries → Option Entries
  | [], origin, es => f origin es
  | key :: path, _, es =>
    match es.get? key with
    | none =>
      let origin := if isDotted then .dotted else .passed
      (alter isDotted f path origin []).map fun inner => es ++ [(key, .table origin inner)]
    | some (.value _) => none
    | some (.table origin inner) =>
      if isDotted && origin == .header then none
      else (alter isDotted f path origin inner).map fun inner => es.set key (.table origin inner)
    | some (.tables items) =>
      match items.reverse with
      | [] => none
      | last :: before =>
        (alter isDotted f path .header last).map fun last =>
          es.set key (.tables (last :: before).reverse)

/-- Adds the value of a key path; its last part must be new. -/
def put (es : Entries) (path : List String) (v : Toml) : Option Entries :=
  match path.reverse with
  | [] => none
  | key :: outer =>
    alter true (fun origin es =>
      if (origin == .dotted) == outer.isEmpty || (es.get? key).isSome then none
      else some (es ++ [(key, .value v)])) outer.reverse .header es

def putAll (es : Entries) (pairs : List (List String × Toml)) : Option Entries :=
  pairs.foldlM (fun es p => es.put p.1 p.2) es

end Entries

structure Section where
  path : List String
  adds : Bool
  pairs : List (List String × Toml)

namespace Entries

def openTable (pairs : List (List String × Toml)) (key : String) (es : Entries) : Option Entries :=
  match es.get? key with
  | none => (putAll [] pairs).map fun inner => es ++ [(key, .table .header inner)]
  | some (.table .passed inner) =>
    (putAll inner pairs).map fun inner => es.set key (.table .header inner)
  | some _ => none

def addTable (pairs : List (List String × Toml)) (key : String) (es : Entries) : Option Entries :=
  (putAll [] pairs).bind fun inner =>
    match es.get? key with
    | none => some (es ++ [(key, .tables [inner])])
    | some (.tables items) => some (es.set key (.tables (items ++ [inner])))
    | some _ => none

/-- Adds a section; one without a header belongs to the document itself. -/
def putSection (es : Entries) (s : Section) : Option Entries :=
  match s.path.reverse with
  | [] => es.putAll s.pairs
  | key :: outer =>
    alter false (fun _ => if s.adds then addTable s.pairs key else openTable s.pairs key)
      outer.reverse .header es

end Entries

mutual

def Node.toml : Node → Toml
  | .value v => v
  | .table _ entries => .table (Node.entries entries)
  | .tables items => .array (Node.rows items)

def Node.entries : List (String × Node) → List (String × Toml)
  | [] => []
  | (key, n) :: es => (key, Node.toml n) :: Node.entries es

def Node.rows : List (List (String × Node)) → List Toml
  | [] => []
  | es :: rest => .table (Node.entries es) :: Node.rows rest

end

def ofPairs? (pairs : List (List String × Toml)) : Option Toml :=
  (Entries.putAll [] pairs).map fun es => .table (Node.entries es)

def ofSections? (sections : List Section) : Option Toml :=
  (sections.foldlM Entries.putSection []).map fun es => .table (Node.entries es)

end SqlAudit.Toml
