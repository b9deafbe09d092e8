import SqlAudit.Catalog.Basic
import SqlAudit.Json.Decode

/-!
Catalogs in JSON, as they are saved and loaded. A column needs a name only; the kind of a table may
be left out for a table that is no view.
-/

namespace SqlAudit

namespace OrderedMap

variable {α : Type}

def toJson (encode : α → Json) (m : OrderedMap α) : Json :=
  .object (m.entries.map fun e => (e.1, encode e.2))

end OrderedMap

namespace TableName

def toJson (n : TableName) : Json :=
  .object [("schema", .ofOption .string n.schema), ("name", .string n.name)]

def ofJson? (j : Json) : Option TableName := do
  let fields ← j.record? ["schema", "name"]
  let schema ← Decoder.defaulted fields "schema" (Json.nullable Json.string?) none
  let name ← Decoder.required fields "name" Json.string?
  return ⟨schema, name⟩

end TableName

namespace ColumnDef

def toJson (c : ColumnDef) : Json :=
  let default := match c.default with
    | some text => [("default", Json.string text)]
    | none => []
  .object ([("name", .string c.name), ("data_type", .string c.type),
    ("nullable", .bool c.nullable), ("is_primary_key", .bool c.isPrimaryKey)] ++ default)

def ofJson? (j : Json) : Option ColumnDef := do
  let fields ← j.record? ["name", "data_type", "nullable", "is_primary_key", "default"]
  let name ← Decoder.required fields "name" Json.string?
  let type ← Decoder.defaulted fields "data_type" Json.string? ""
  let nullable ← Decoder.defaulted fields "nullable" Json.bool? true
  let isPrimaryKey ← Decoder.defaulted fields "is_primary_key" Json.bool? false
  let default ← Decoder.defaulted fields "default" (Json.nullable Json.string?) none
  return { name, type, nullable, isPrimaryKey, default }

end ColumnDef

namespace TableDef

def toJson (t : TableDef) : Json :=
  .object [("name", t.name.toJson), ("kind", .string t.kind.label),
    ("columns", t.columns.toJson ColumnDef.toJson)]

def ofJson? (j : Json) : Option TableDef := do
  let fields ← j.record? ["name", "kind", "columns"]
  let name ← Decoder.required fields "name" TableName.ofJson?
  let kind ← Decoder.defaulted fields "kind" (Json.choice? TableKind.all TableKind.label) .table
  let columns ← Decoder.required fields "columns" (Json.map? ColumnDef.ofJson?)
  return ⟨name, kind, columns⟩

end TableDef

namespace Schema

def toJson (s : Schema) : Json :=
  .object [("name", .string s.name), ("tables", s.tables.toJson TableDef.toJson)]

def ofJson? (j : Json) : Option Schema := do
  let fields ← j.record? ["name", "tables"]
  let name ← Decoder.required fields "name" Json.string?
  let tables ← Decoder.required fields "tables" (Json.map? TableDef.ofJson?)
  return ⟨name, tables⟩

end Schema

namespace Catalog

def toJson (c : Catalog) : Json :=
  .object [("schemas", c.schemas.toJson Schema.toJson),
    ("default_schema", .string c.defaultSchema)]

def ofJson? (j : Json) : Option Catalog := do
  let fields ← j.record? ["schemas", "default_schema"]
  let schemas ← Decoder.required fields "schemas" (Json.map? Schema.ofJson?)
  let defaultSchema ← Decoder.required fields "default_schema" Json.string?
  return ⟨schemas, defaultSchema⟩

end Catalog

end SqlAudit
