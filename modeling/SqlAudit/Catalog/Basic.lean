import SqlAudit.Catalog.Table

/-!
The catalog: schemas with their tables, in the order in which they came. Names are stored as written
and compared without regard to letter case; a table without a schema belongs to the default one.
-/

namespace SqlAudit

structure Schema where
  name : String
  tables : OrderedMap TableDef
  deriving DecidableEq, Repr, Inhabited

namespace Schema

def empty (name : String) : Schema := ⟨name, .empty⟩

def table? (s : Schema) (name : String) : Option TableDef := s.tables.find? name

/-- Puts a table behind the others, in the place of every table of that name. -/
def putTable (s : Schema) (t : TableDef) : Schema :=
  { s with tables := (s.tables.eraseName t.name.name).insert t.name.name t }

def dropTable (s : Schema) (name : String) : Schema :=
  { s with tables := s.tables.eraseName name }

end Schema

structure Catalog where
  schemas : OrderedMap Schema
  defaultSchema : String
  deriving DecidableEq, Repr, Inhabited

namespace Catalog

def schema? (c : Catalog) (name : String) : Option Schema := c.schemas.find? name

/-- The catalog with a schema of a name, an empty one if there was none. -/
def ensureSchema (c : Catalog) (name : String) : Catalog :=
  match c.schema? name with
  | some _ => c
  | none => { c with schemas := c.schemas.insert name (.empty name) }

def ofDefault (name : String) : Catalog := ensureSchema ⟨.empty, name⟩ name

def initial : Catalog := ofDefault "public"

def schemaName (c : Catalog) (n : TableName) : String := n.schema.getD c.defaultSchema

def table? (c : Catalog) (n : TableName) : Option TableDef :=
  (c.schema? (c.schemaName n)).bind (·.table? n.name)

def hasTable (c : Catalog) (n : TableName) : Bool := (c.table? n).isSome

def updateSchema (c : Catalog) (name : String) (f : Schema → Schema) : Catalog :=
  { c with schemas := c.schemas.update name f }

/-- Adds a table, in the place of every table of its name. -/
def addTable (c : Catalog) (t : TableDef) : Catalog :=
  let schema := c.schemaName t.name
  (c.ensureSchema schema).updateSchema schema (·.putTable t)

def updateTable (c : Catalog) (n : TableName) (f : TableDef → TableDef) : Catalog :=
  c.updateSchema (c.schemaName n) fun s => { s with tables := s.tables.update n.name f }

def dropTable (c : Catalog) (n : TableName) : Catalog :=
  c.updateSchema (c.schemaName n) (·.dropTable n.name)

/-- Whether dropping a table leaves its schema with fewer tables. -/
def dropsTable (c : Catalog) (n : TableName) : Bool :=
  match c.schema? (c.schemaName n) with
  | some s => (s.dropTable n.name).tables.size != s.tables.size
  | none => false

def tableNames (c : Catalog) : List TableName :=
  c.schemas.entries.flatMap fun s => s.2.tables.keys.map (.within s.1)

end Catalog

end SqlAudit
