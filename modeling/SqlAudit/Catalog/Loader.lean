import SqlAudit.Catalog.Basic
import SqlAudit.Catalog.Pieces
import SqlAudit.Finding
import SqlAudit.Sql.Read.Script

/-!
Building a catalog from scripts. A script that cannot be read as a whole is read statement by
statement, and what cannot be read is passed over; loading fails only where nothing could be read. A
statement on a table that is not there leaves a warning.
-/

namespace SqlAudit

open Sql Text

def TableName.ofPath (p : Path) : TableName :=
  match p.reverse with
  | [] => .plain ""
  | [name] => .plain name.value
  | name :: schema :: _ => .within schema.value name.value

namespace ColumnDef

def applyOption (c : ColumnDef) : ColumnOption → ColumnDef
  | .null => { c with nullable := true }
  | .notNull => c.notNull
  | .default text => { c with default := some text }
  | .primaryKey => c.primaryKey
  | .other => c

def ofSpec (s : ColumnSpec) : ColumnDef := s.options.foldl applyOption (.of s.name.value s.type)

end ColumnDef

namespace TableDef

def ofSpecs (name : TableName) (columns : List ColumnSpec) (keys : List Ident) : TableDef :=
  let columns := columns.foldl (fun t s => t.addColumn (.ofSpec s)) (table name)
  keys.foldl (fun t k => t.markPrimaryKey k.value) columns

def ofNames (name : TableName) (columns : List String) : TableDef :=
  columns.foldl (fun t c => t.addColumn (.of c "")) (view name)

/-- A change of a table's columns; a new name of the table itself is not a matter of its columns. -/
def applyChange (t : TableDef) : TableChange → TableDef
  | .addColumn column _ => t.addColumn (.ofSpec column)
  | .dropColumn name => t.dropColumn name.value
  | .renameColumn old new => t.renameColumn old.value new.value
  | .renameTable _ => t
  | .other => t

end TableDef

namespace Catalog

def columnNames (c : Catalog) (n : TableName) : List String :=
  match c.table? n with
  | some t => t.columnNames
  | none => []

/-- The columns that a star stands for: those of the first table of every source. -/
def starColumns (c : Catalog) (sources : List Source) : List String :=
  sources.flatMap fun s =>
    match s.factor with
    | .table name _ _ _ => c.columnNames (.ofPath name)
    | _ => []

def itemColumns (c : Catalog) (sources : List Source) : SelectItem → List String
  | .plain (.name id) => [id.value]
  | .plain (.path parts) => (parts.getLast?.map (·.value)).toList
  | .plain _ => []
  | .aliased _ name => [name.value]
  | .star _ => c.starColumns sources
  | .qualifiedStar qualifier _ => c.columnNames (.ofPath qualifier)

/-- The names that the body of a view gives to its columns: those of its first SELECT. -/
def bodyColumns (c : Catalog) : SetExpr → List String
  | .select s => s.items.flatMap (c.itemColumns s.sources)
  | .operation left _ => c.bodyColumns left
  | _ => []

/-- The new name of a table among changes; the last one counts. -/
def newName? (changes : List TableChange) : Option TableName :=
  (changes.filterMap fun
    | .renameTable name => some (TableName.ofPath name)
    | _ => none).getLast?

/-- Moves a table to a new name, in its own schema unless the name has one. -/
def moveTable (c : Catalog) (n new : TableName) : Catalog :=
  match c.table? n with
  | some t =>
    (c.dropTable n).addTable { t with name := ⟨new.schema.or t.name.schema, new.name⟩ }
  | none => c

def alterTable (c : Catalog) (n : TableName) (changes : List TableChange) : Catalog :=
  let changed := c.updateTable n fun t => changes.foldl TableDef.applyChange t
  match newName? changes with
  | some new => changed.moveTable n new
  | none => changed

end Catalog

structure Loader where
  dialect : Dialect
  catalog : Catalog
  warnings : List Finding
  deriving Repr

namespace Loader

def start (d : Dialect) : Loader :=
  ⟨d, .ofDefault (if d.defaultSchema.isEmpty then "default" else d.defaultSchema), []⟩

def onCatalog (l : Loader) (f : Catalog → Catalog) : Loader := { l with catalog := f l.catalog }

def missingTable (name : Path) : Finding :=
  (Finding.warning .tableNotFound ((name.getLast?.map Ident.range).getD .origin)
    ("ALTER TABLE references table '" ++ (TableName.ofPath name).render ++
      "' which was not found in schema")).withHelp
    "Ensure the CREATE TABLE statement appears before ALTER TABLE"

def viewColumns (c : Catalog) (columns : List Ident) (query : Option Query) : List String :=
  if columns.isEmpty then
    match query with
    | some q => c.bodyColumns q.body
    | none => []
  else columns.map (·.value)

def define (l : Loader) (query : Option Query) : Definition → Loader
  | .schema (some name) => l.onCatalog (·.ensureSchema name.value)
  | .schema none => l
  | .table name columns keys _ => l.onCatalog (·.addTable (.ofSpecs (.ofPath name) columns keys))
  | .view name columns _ =>
    l.onCatalog fun c => c.addTable (.ofNames (.ofPath name) (viewColumns c columns query))
  | .alter name changes =>
    if l.catalog.hasTable (.ofPath name) then l.onCatalog (·.alterTable (.ofPath name) changes)
    else { l with warnings := l.warnings ++ [missingTable name] }
  | .drop names => l.onCatalog fun c => names.foldl (fun c n => c.dropTable (.ofPath n)) c

def run (l : Loader) : Statement → Loader
  | .define definition _ query _ => l.define query definition
  | _ => l

def runAll (l : Loader) (statements : List Statement) : Loader := statements.foldl run l

def readable (d : Dialect) (pieces : List String) : List Statement :=
  pieces.flatMap fun piece =>
    match parse d (trimBlanks piece) with
    | .ok statements => statements
    | .error _ => []

def runPiece (d : Dialect) : Loader × Nat → String → Loader × Nat
  | (l, count), piece =>
    match parse d (trimBlanks piece) with
    | .ok statements => (l.runAll statements, count + statements.length)
    | .error _ => (l, count)

def runPieces (l : Loader) (pieces : List String) : Loader × Nat :=
  pieces.foldl (runPiece l.dialect) (l, 0)

/-- Loads a script in place: the loader that is left, and why loading fails if it does. Whether any
statement can be read is known only after all pieces have been run. -/
def loadInPlace (l : Loader) (script : String) : Loader × Option ReadError :=
  match parse l.dialect script with
  | .ok statements => (l.runAll statements, none)
  | .error e =>
    let (left, count) := l.runPieces (Catalog.pieces script)
    (left, if count = 0 ∧ isBlankText script.toList = false then some e else none)

def load (l : Loader) (script : String) : Except ReadError Loader :=
  match l.loadInPlace script with
  | (left, none) => .ok left
  | (_, some e) => .error e

theorem runPieces_eq (l : Loader) (pieces : List String) :
    l.runPieces pieces =
      (l.runAll (readable l.dialect pieces), (readable l.dialect pieces).length) := by
  have run (d : Dialect) (l : Loader) (count : Nat) :
      pieces.foldl (runPiece d) (l, count) =
        (l.runAll (readable d pieces), count + (readable d pieces).length) := by
    induction pieces generalizing l count with
    | nil => rfl
    | cons piece pieces ih =>
      rw [List.foldl_cons, runPiece, readable, List.flatMap_cons]
      cases parse d (trimBlanks piece) with
      | error e => exact ih l count
      | ok statements =>
        rw [ih, runAll, runAll, runAll, List.foldl_append, List.length_append, Nat.add_assoc]
        rfl
  rw [runPieces, run, Nat.zero_add]

theorem load_eq (l : Loader) (script : String) :
    l.load script =
      match parse l.dialect script with
      | .ok statements => .ok (l.runAll statements)
      | .error e =>
        let statements := readable l.dialect (Catalog.pieces script)
        if statements.isEmpty && !isBlankText script.toList then .error e
        else .ok (l.runAll statements) := by
  rw [load, loadInPlace]
  cases parse l.dialect script with
  | ok statements => rfl
  | error e =>
    simp only [runPieces_eq, List.length_eq_zero_iff, Bool.and_eq_true, List.isEmpty_iff,
      Bool.not_eq_true']
    by_cases fails : readable l.dialect (Catalog.pieces script) = [] ∧
        isBlankText script.toList = false
    · rw [if_pos fails, if_pos fails]
    · rw [if_neg fails, if_neg fails]

end Loader

inductive CatalogError
  | snapshot
  | script (error : ReadError)
  deriving DecidableEq, Repr

namespace CatalogError

def message : CatalogError → String
  | snapshot => "invalid catalog snapshot"
  | script error => "schema definition failed to parse: " ++ error.message

end CatalogError

end SqlAudit
