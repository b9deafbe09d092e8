import SqlAudit.Catalog.Basic

/-!
What an audit may ask about the tables of a database. A catalog answers these questions; so may any
other source that does not change while an audit runs.
-/

namespace SqlAudit

structure ColumnInfo where
  table : String
  name : String
  type : String
  nullable : Bool
  deriving DecidableEq, Repr, Inhabited

structure Provider where
  schemaNames : List String
  defaultSchema : Option String
  defaultTables : List String
  /-- The tables of a schema, `none` where there is no such schema. -/
  tablesIn : (schema : String) → Option (List String)
  /-- The columns of a table given as `name` or as `schema.name`. -/
  columnsOf : (name : String) → Option (List ColumnInfo)
  columnsIn : (schema table : String) → Option (List ColumnInfo)

namespace Provider

def hasSchema (p : Provider) (name : String) : Bool := (p.tablesIn name).isSome

/-- The columns of a table: by its name alone, then within its schema, then within any schema. -/
def columns? (p : Provider) (schema : Option String) (table : String) :
    Option (List ColumnInfo) :=
  (p.columnsOf table).or <|
    (schema.bind fun s => p.columnsOf (s ++ "." ++ table)).or <|
      p.schemaNames.findSome? (p.columnsIn · table)

end Provider

namespace TableDef

def columnInfos (t : TableDef) : List ColumnInfo :=
  t.columns.values.map fun c => ⟨t.name.name, c.name, c.type, c.nullable⟩

end TableDef

namespace Schema

def tableNames (s : Schema) : List String := s.tables.values.map (·.name.name)

end Schema

namespace Catalog

def tablesIn (c : Catalog) (schema : String) : Option (List String) :=
  (c.schema? schema).map (·.tableNames)

def columnsOf (c : Catalog) (name : String) : Option (List ColumnInfo) :=
  (c.table? (.ofText name)).map (·.columnInfos)

def columnsIn (c : Catalog) (schema table : String) : Option (List ColumnInfo) :=
  ((c.schema? schema).bind (·.table? table)).map (·.columnInfos)

def provider (c : Catalog) : Provider where
  schemaNames := c.schemas.values.map (·.name)
  defaultSchema := (c.schema? c.defaultSchema).map (·.name)
  defaultTables := (c.tablesIn c.defaultSchema).getD []
  tablesIn := c.tablesIn
  columnsOf := c.columnsOf
  columnsIn := c.columnsIn

end Catalog

end SqlAudit
