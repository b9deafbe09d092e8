import SqlAudit.Catalog.Basic

/-!
The listing of a catalog: schema by schema and table by table, a line for every column.
-/

namespace SqlAudit.Listing

def column (key : String) (c : ColumnDef) : String :=
  "    - " ++ key ++ " " ++ c.type ++ (if c.nullable then " NULL" else " NOT NULL") ++
    (if c.isPrimaryKey then " PRIMARY KEY" else "") ++ "\n"

def kind : TableKind → String
  | .table => "Table"
  | .view => "View"

def table (key : String) (t : TableDef) : String :=
  "  " ++ kind t.kind ++ ": " ++ key ++ "\n" ++
    String.join (t.columns.entries.map fun e => column e.1 e.2)

def schema (key : String) (s : Schema) : String :=
  "\nSchema: " ++ key ++ "\n" ++ String.join (s.tables.entries.map fun e => table e.1 e.2)

def catalog (c : Catalog) : String :=
  "Schema Information:\n==================\n" ++
    String.join (c.schemas.entries.map fun e => schema e.1 e.2)

end SqlAudit.Listing
