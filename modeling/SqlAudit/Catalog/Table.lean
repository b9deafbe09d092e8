import SqlAudit.Catalog.Name
import SqlAudit.Catalog.OrderedMap

/-!
Tables and views as a catalog describes them. Columns keep their order and are stored under their
names as written; looking one up ignores letter case.
-/

namespace SqlAudit

inductive TableKind
  | table
  | view
  deriving DecidableEq, Repr, Inhabited

namespace TableKind

def label : TableKind → String
  | table => "table"
  | view => "view"

def all : List TableKind := [table, view]

end TableKind

structure ColumnDef where
  name : String
  type : String
  nullable : Bool := true
  isPrimaryKey : Bool := false
  default : Option String := none
  deriving DecidableEq, Repr, Inhabited

namespace ColumnDef

def of (name type : String) : ColumnDef := { name, type }

def notNull (c : ColumnDef) : ColumnDef := { c with nullable := false }

def primaryKey (c : ColumnDef) : ColumnDef := { c with isPrimaryKey := true, nullable := false }

end ColumnDef

structure TableDef where
  name : TableName
  kind : TableKind
  columns : OrderedMap ColumnDef
  deriving DecidableEq, Repr, Inhabited

namespace TableDef

def table (name : TableName) : TableDef := ⟨name, .table, .empty⟩

def view (name : TableName) : TableDef := ⟨name, .view, .empty⟩

/-- Adds a column; one stored under the very same name is replaced where it stands. -/
def addColumn (t : TableDef) (c : ColumnDef) : TableDef :=
  { t with columns := t.columns.insert c.name c }

def column? (t : TableDef) (name : String) : Option ColumnDef := t.columns.find? name

def hasColumn (t : TableDef) (name : String) : Bool := (t.column? name).isSome

def columnNames (t : TableDef) : List String := t.columns.keys

def dropColumn (t : TableDef) (name : String) : TableDef :=
  { t with columns := t.columns.eraseName name }

/-- Gives a column another name, which puts it behind the others. -/
def renameColumn (t : TableDef) (old new : String) : TableDef :=
  match t.columns.lookup? old with
  | some (key, c) => { t with columns := t.columns.erase key }.addColumn { c with name := new }
  | none => t

def markPrimaryKey (t : TableDef) (name : String) : TableDef :=
  { t with columns := ⟨markFirst name t.columns.entries⟩ }
where
  markFirst (name : String) : List (String × ColumnDef) → List (String × ColumnDef)
    | [] => []
    | e :: es =>
      if Text.sameName e.2.name name then (e.1, e.2.primaryKey) :: es
      else e :: markFirst name es

end TableDef

end SqlAudit
