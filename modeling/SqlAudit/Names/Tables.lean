import SqlAudit.Catalog.Provider
import SqlAudit.Finding
import SqlAudit.Lint.Words
import SqlAudit.Names.Symbols
import SqlAudit.Text.Distance

/-!
Checking the tables that a statement names. A common table is not looked up, nor is what may be a
keyword that is being typed. A table with a schema has to be in it where schemas are checked; any
other table may be in any schema.
-/

namespace SqlAudit.Names

open Sql Text

/-- The items whose key is not among those seen, each key once; items without a key all stay. -/
def firstByKey {α : Type} (key : α → Option Position) (seen : List Position) : List α → List α
  | [] => []
  | a :: as =>
    match key a with
    | none => a :: firstByKey key seen as
    | some k => if seen.contains k then firstByKey key seen as else a :: firstByKey key (k :: seen) as

def suggesting (f : Finding) (candidates : List String) (name : String) : Finding :=
  match nearest candidates name with
  | some candidate => f.withHelp ("Did you mean '" ++ candidate ++ "'?")
  | none => f

def holdsName (names : List String) (name : String) : Bool := names.any (sameName · name)

def inAnySchema (p : Provider) (name : String) : Bool :=
  p.schemaNames.any fun schema => ((p.tablesIn schema).getD []).any (sameName · name)

/-- The tables that may have been meant: those of the default schema, then those of every schema. -/
def knownTables (p : Provider) : List String :=
  p.defaultTables ++ p.schemaNames.flatMap fun schema => (p.tablesIn schema).getD []

def isExempt (s : Symbols) (u : TableUse) : Bool :=
  u.table.value.isEmpty || (u.schema.isNone && s.isCte u.table.value) ||
    Lint.isPartialKeyword u.table.value

def qualifiedTable (p : Provider) (schema table : Ident) : List Finding :=
  match p.tablesIn schema.value with
  | none =>
    [.error .invalidSchema schema.range ("Schema '" ++ schema.value ++ "' does not exist")]
  | some tables =>
    if holdsName tables table.value then []
    else [.error .tableNotFound table.range
      ("Table '" ++ schema.value ++ "." ++ table.value ++ "' not found")]

def plainTable (p : Provider) (table : Ident) : List Finding :=
  if holdsName p.defaultTables table.value || inAnySchema p table.value then []
  else [suggesting
    (.error .tableNotFound table.range ("Table '" ++ table.value ++ "' not found"))
    (knownTables p) table.value]

def tableVerdict (p : Provider) (checkSchemas : Bool) (s : Symbols) (u : TableUse) :
    List Finding :=
  if isExempt s u then []
  else
    match u.schema, checkSchemas with
    | some schema, true => qualifiedTable p schema u.table
    | _, _ => plainTable p u.table

def tableFindings (p : Provider) (checkSchemas : Bool) (s : Symbols) : List Finding :=
  (firstByKey (·.table.key) [] s.uses).flatMap (tableVerdict p checkSchemas s)

end SqlAudit.Names
