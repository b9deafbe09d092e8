import SqlAudit.Dialect
import SqlAudit.Names.Scope
import SqlAudit.Names.Tables

/-!
Checking the columns that a statement names. Names with a qualifier are looked up in the table that
the qualifier stands for, names without one in all tables of the statement. An identifier is told by
its place: one that is met again, or that is part of something else, is not checked again.
-/

namespace SqlAudit.Names

open Sql Text

structure ColumnCheck where
  provider : Provider
  symbols : Symbols
  scope : Scope
  dialect : Dialect
  warnAmbiguous : Bool

inductive Qualified
  | table (name : String)
  | unchecked
  | unknown
  deriving DecidableEq, Repr

namespace ColumnCheck

variable (c : ColumnCheck)

/-! ### Names with a qualifier -/

def qualified (qualifier : String) : Qualified :=
  match c.symbols.aliases.get? (lower qualifier) with
  | some table => .table table
  | none =>
    if !c.symbols.isQualifier qualifier && (c.scope.columnsOf qualifier).isNone then .unknown
    else if c.symbols.isOpaque qualifier && !c.symbols.isTable qualifier then .unchecked
    else .table qualifier

/-- The columns of a table, in the scope or else anywhere. -/
def columnsFor (table : String) : Option (List ColumnInfo) :=
  ((c.scope.columnsOf table).or (c.provider.columns? none table)).filter (!·.isEmpty)

def memberVerdict (table : String) (column : Ident) : List Finding :=
  if column.value.isEmpty || column.value == "*" then []
  else
    match c.columnsFor table with
    | none => []
    | some columns =>
      if columns.any (sameName ·.name column.value) then []
      else [suggesting
        (.error .columnNotFound column.range
          ("Column '" ++ column.value ++ "' not found in table '" ++ table ++ "'"))
        (columns.map (·.name)) column.value]

def unknownQualifier (qualifier : Ident) : Finding :=
  .error .tableNotFound qualifier.range
    ("Table or alias '" ++ qualifier.value ++ "' not found in query")

def qualifierVerdict (qualifier : Ident) : List Finding :=
  match c.qualified qualifier.value with
  | .unknown => [unknownQualifier qualifier]
  | _ => []

/-- What is to say about a path; its last two names are a qualifier and a column. -/
def pathVerdict (parts : Path) : List Finding :=
  match parts.reverse with
  | column :: qualifier :: _ =>
    match c.qualified qualifier.value with
    | .table table => c.memberVerdict table column
    | .unchecked => []
    | .unknown => [unknownQualifier qualifier]
  | _ => []

/-! ### Names without a qualifier -/

def isText (id : Ident) : Bool :=
  match id.quote with
  | some '\x27' => true
  | some '"' => c.dialect.doubleQuotesAreStrings
  | _ => false

def unknownName (id : Ident) : List Finding :=
  if c.symbols.isTable id.value then
    [.error .columnNotFound id.range
      ("'" ++ id.value ++ "' is a table name, not a column. Did you mean '" ++ id.value ++
        ".column_name'?")]
  else if c.scope.hasTables && Lint.looksLikeColumn id.value then
    [suggesting
      (.error .columnNotFound id.range
        ("Column '" ++ id.value ++ "' not found in any referenced table"))
      ((c.scope.allColumns.values.flatten).map (·.name)) id.value]
  else []

def knownName (id : Ident) : List Finding :=
  match c.scope.owners id.value with
  | first :: second :: more =>
    if c.warnAmbiguous then
      [(Finding.warning .ambiguousColumn id.range
        ("Column '" ++ id.value ++ "' is ambiguous, found in tables: " ++
          ", ".intercalate (first :: second :: more))).withHelp
        ("Qualify the column with a table name: " ++ first ++ "." ++ id.value)]
    else []
  | _ => []

/-- Whether a name is no column: a text, an alias, a common table, or a name of the statement. -/
def isNoColumn (id : Ident) : Bool :=
  c.isText id || id.value.isEmpty || id.value == "*" || c.symbols.isAlias id.value ||
    c.symbols.isCte id.value || c.symbols.isOutput id.value

def nameVerdict (id : Ident) : List Finding :=
  if c.isNoColumn id then []
  else if (c.scope.candidates id.value).isNone then c.unknownName id
  else c.knownName id

/-! ### Targets -/

inductive Target
  | column (table : String) (name : Ident)
  | path (parts : Path)
  deriving DecidableEq, Repr

def tableName (name : Path) : Option String := name.getLast?.map (·.value)

/-- The columns that a statement writes to: those an INSERT lists and those an UPDATE sets. -/
def targets : Statement → List Target
  | .insert target _ columns _ _ =>
    match tableName target with
    | some table => columns.map (.column table)
    | none => []
  | .update target names _ _ _ _ =>
    let table := match target.factor with
      | .table name _ _ _ => tableName name
      | _ => none
    names.flatMap fun
      | [column] => (table.map (Target.column · column)).toList
      | parts => [.path parts]
  | _ => []

def targetVerdict : Target → List Finding
  | .column table name => c.memberVerdict table name
  | .path parts => c.pathVerdict parts

def targetKey : Target → Option Position
  | .column _ name => name.key
  | .path _ => none

/-! ### The whole statement -/

/-- The places of names that are parts of something else. -/
def excluded (s : Statement) : List Position :=
  let uses := c.symbols.uses.flatMap fun u => u.table :: u.schema.toList ++ u.alias?.toList
  ((pathsOf s.visits).flatten ++ c.symbols.starQualifiers ++ uses ++
    c.symbols.definitions.map (·.name)).filterMap Ident.key ++ c.symbols.targets

def changeFilter : Statement → Option Expr
  | .update _ _ _ _ filter _ => filter
  | .delete _ _ filter _ => filter
  | _ => none

/-- The names without a qualifier in the order in which they are checked: those in items, those in
conditions on rows, then all. A name may come more than once. -/
def sweep (s : Statement) : List Ident :=
  s.selects.flatMap (fun select => namesOf (itemListVisits select.items)) ++
    s.selects.flatMap (fun select => namesOf (exprOptionVisits select.filter)) ++
    namesOf (exprOptionVisits (changeFilter s)) ++ namesOf s.visits

/-- The names to check: those that have a place, each once, without those at places seen before. -/
def namesToCheck (seen : List Position) (names : List Ident) : List Ident :=
  firstByKey Ident.key seen (names.filter (·.key.isSome))

def findings (s : Statement) : List Finding :=
  let written := firstByKey targetKey [] (targets s)
  let seen := c.excluded s ++ (targets s).filterMap targetKey
  (pathsOf s.visits).flatMap c.pathVerdict ++ c.symbols.starQualifiers.flatMap c.qualifierVerdict ++
    written.flatMap c.targetVerdict ++ (namesToCheck seen (sweep s)).flatMap c.nameVerdict

end ColumnCheck

def columnFindings (p : Provider) (dialect : Dialect) (warnAmbiguous : Bool) (symbols : Symbols)
    (s : Statement) : List Finding :=
  ColumnCheck.findings ⟨p, symbols, .ofSymbols p symbols, dialect, warnAmbiguous⟩ s

end SqlAudit.Names
