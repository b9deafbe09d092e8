import SqlAudit.Catalog.OrderedMap
import SqlAudit.Sql.Selects
import SqlAudit.Sql.Walk
import SqlAudit.Text.Case

/-!
The names that a statement defines: the tables it names, their aliases, common tables, and the names
it gives to columns. All of them are read off the visits of the walk, in its order; whether an alias
is defined in the outer query is told by how many queries are entered where it stands.
-/

namespace SqlAudit.Names

open Sql Text

structure TableUse where
  schema : Option Ident
  table : Ident
  alias? : Option Ident
  deriving DecidableEq, Repr

structure TableText where
  schema : Option String
  name : String
  alias? : Option String
  deriving DecidableEq, Repr

namespace TableUse

def text (u : TableUse) : TableText :=
  ⟨u.schema.map (·.value), u.table.value, u.alias?.map (·.value)⟩

def ofPath (name : Path) (a : Option Ident) : List TableUse :=
  match name.reverse with
  | [] => []
  | [table] => [⟨none, table, a⟩]
  | table :: schema :: _ => [⟨some schema, table, a⟩]

end TableUse

namespace TableText

def same (a b : TableText) : Bool :=
  sameName a.name b.name && a.schema.map lower == b.schema.map lower

end TableText

inductive AliasKind
  | table
  | column
  deriving DecidableEq, Repr

structure AliasDefinition where
  name : Ident
  kind : AliasKind
  /-- Whether it is defined outside every nested query. -/
  outer : Bool
  deriving DecidableEq, Repr

end SqlAudit.Names

namespace SqlAudit.Sql.Visit

open Names Text

def uses : Visit → List TableUse
  | statement (.insert target a _ _ _) => TableUse.ofPath target a
  | factor (.table name a false _) => TableUse.ofPath name (a.map (·.name))
  | _ => []

/-- The alias of a source whose columns no catalog knows. -/
def opaqueAlias : Visit → Option TableAlias
  | factor (.table _ a true _) => a
  | factor (.derived _ a) => a
  | factor (.nested _ a) => a
  | factor (.function _ a) => a
  | _ => none

def columnLists : Visit → List TableAlias
  | enter q => q.ctes.map (·.header)
  | factor f => f.alias?.toList
  | _ => []

def ctes : Visit → List Ident
  | enter q => q.ctes.map (·.header.name)
  | _ => []

def items : Visit → List SelectItem
  | enter q => q.body.items
  | _ => []

/-- The names that are definitions without being aliases. -/
def targets : Visit → List Ident
  | enter q => q.ctes.flatMap fun c => c.header.name :: c.header.columns
  | v => v.columnLists.flatMap (·.columns)

def aliases (v : Visit) : List (Ident × AliasKind) :=
  (v.uses.filterMap (·.alias?)).map (·, .table) ++
    v.opaqueAlias.toList.map (fun a => (a.name, .table)) ++
    v.items.filterMap fun
      | .aliased _ name => some (name, .column)
      | _ => none

def starQualifiers (v : Visit) : List Ident :=
  v.items.filterMap fun
    | .qualifiedStar qualifier _ => qualifier.getLast?
    | _ => none

def depthAt (depth : Nat) : Visit → Nat
  | enter _ => depth + 1
  | leave => depth - 1
  | _ => depth

end SqlAudit.Sql.Visit

namespace SqlAudit.Names

open Sql Text

structure Symbols where
  uses : List TableUse
  /-- The texts of the uses, the first one of every table. -/
  tables : List TableText
  /-- The table that an alias in lower case stands for; the last definition counts. -/
  aliases : OrderedMap String
  derived : List String
  ctes : List String
  outputs : List String
  definitions : List AliasDefinition
  targets : List Position
  starQualifiers : List Ident
  deriving Repr

def distinctTexts (uses : List TableUse) : List TableText :=
  uses.foldl (fun ts u => if ts.any (·.same u.text) then ts else ts ++ [u.text]) []

def aliasTables (uses : List TableUse) : OrderedMap String :=
  uses.foldl (fun m u =>
    match u.alias? with
    | some a => m.insert (lower a.value) u.table.value
    | none => m) .empty

def definitionsFrom (depth : Nat) : List Visit → List AliasDefinition
  | [] => []
  | v :: vs =>
    let depth := v.depthAt depth
    v.aliases.map (fun a => ⟨a.1, a.2, depth ≤ 1⟩) ++ definitionsFrom depth vs

namespace Symbols

def ofVisits (visits : List Visit) : Symbols :=
  let uses := visits.flatMap Visit.uses
  let columns := (visits.flatMap Visit.columnLists).flatMap (·.columns)
  let columnAliases := (visits.flatMap Visit.aliases).filter (·.2 == .column)
  { uses
    tables := distinctTexts uses
    aliases := aliasTables uses
    derived := (visits.filterMap Visit.opaqueAlias).map fun a => lower a.name.value
    ctes := (visits.flatMap Visit.ctes).map fun i => lower i.value
    outputs := (columns ++ columnAliases.map (·.1)).map fun i => lower i.value
    definitions := Position.sortOn (·.name.range.start) (definitionsFrom 0 visits)
    targets := (visits.flatMap Visit.targets).filterMap Ident.key
    starQualifiers := visits.flatMap Visit.starQualifiers }

def collect (s : Statement) : Symbols := ofVisits s.visits

/-- Sources that may qualify a column without being named: those of upserts and triggers. -/
def pseudoTables : List String := ["excluded", "inserted", "deleted", "new", "old"]

def isCte (s : Symbols) (name : String) : Bool := s.ctes.contains (lower name)

def isTable (s : Symbols) (name : String) : Bool := s.tables.any (sameName ·.name name)

/-- Whether a name qualifies columns that no catalog knows. -/
def isOpaque (s : Symbols) (name : String) : Bool :=
  s.derived.contains (lower name) || s.ctes.contains (lower name) ||
    pseudoTables.contains (lower name)

def isQualifier (s : Symbols) (name : String) : Bool :=
  s.aliases.contains (lower name) || s.isOpaque name ||
    s.tables.any fun t => sameName t.name name || t.alias?.any (sameName · name)

def isAlias (s : Symbols) (name : String) : Bool :=
  s.aliases.contains (lower name) || s.derived.contains (lower name)

def isOutput (s : Symbols) (name : String) : Bool := s.outputs.contains (lower name)

end Symbols

end SqlAudit.Names
