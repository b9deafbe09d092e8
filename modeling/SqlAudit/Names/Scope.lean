import SqlAudit.Catalog.Provider
import SqlAudit.Names.Symbols

/-!
The columns that a statement may name, as far as its tables are known: grouped by table, and grouped
by column. Keys are in lower case.
-/

namespace SqlAudit

def OrderedMap.push {α : Type} (m : OrderedMap (List α)) (key : String) (value : α) :
    OrderedMap (List α) :=
  m.insert key ((m.get? key).getD [] ++ [value])

namespace Names

open Text

structure Scope where
  tableColumns : OrderedMap (List ColumnInfo)
  tableAliases : OrderedMap String
  allColumns : OrderedMap (List ColumnInfo)
  deriving DecidableEq, Repr

namespace Scope

def empty : Scope := ⟨.empty, .empty, .empty⟩

def add (s : Scope) (t : TableText) (columns : List ColumnInfo) : Scope :=
  let aliases := match t.alias? with
    | some a => s.tableAliases.insert (lower a) t.name
    | none => s.tableAliases
  { tableColumns := s.tableColumns.insert (lower t.name) columns
    tableAliases := aliases.insert (lower t.name) t.name
    allColumns := columns.foldl (fun m c => m.push (lower c.name) c) s.allColumns }

/-- Adds a table whose columns are known, unless one of its name is there. -/
def extend (p : Provider) (s : Scope) (t : TableText) : Scope :=
  if s.tableColumns.contains (lower t.name) then s
  else
    match p.columns? t.schema t.name with
    | none => s
    | some columns => if columns.isEmpty then s else s.add t columns

def ofTables (p : Provider) (tables : List TableText) : Scope := tables.foldl (extend p) empty

def ofSymbols (p : Provider) (symbols : Symbols) : Scope :=
  symbols.aliases.entries.foldl (fun s a =>
    if s.tableColumns.contains (lower a.2) then
      { s with tableAliases := s.tableAliases.insertNew a.1 a.2 }
    else s) (ofTables p symbols.tables)

def hasTables (s : Scope) : Bool := !s.tableColumns.isEmpty

def columnsOf (s : Scope) (table : String) : Option (List ColumnInfo) :=
  s.tableColumns.get? (lower table)

def candidates (s : Scope) (column : String) : Option (List ColumnInfo) :=
  s.allColumns.get? (lower column)

/-- The tables that have a column of a name, each once. -/
def owners (s : Scope) (column : String) : List String :=
  ((s.candidates column).getD []).foldl
    (fun ts c => if ts.any (sameName · c.table) then ts else ts ++ [c.table]) []

end Scope

end Names

end SqlAudit
