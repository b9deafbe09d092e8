import SqlAudit.Catalog.Loader
import SqlAudit.Proofs.Catalog.Separators

/-!
Reading a script piece by piece. What statements leave in a catalog does not depend on the places of
their names, so the pieces of a script leave what the whole leaves, if the script is cut where its
statements end and they read the same on their own.
-/

namespace SqlAudit

open Sql Text

/-! ### Definitions without places -/

def Sql.Ident.unplaced (i : Ident) : Ident := { i with place := none }

def Sql.ColumnSpec.unplaced (c : ColumnSpec) : ColumnSpec := { c with name := c.name.unplaced }

def unplacedPath (path : Path) : Path := path.map Ident.unplaced

def Sql.TableChange.unplaced : TableChange → TableChange
  | .addColumn column ifNotExists => .addColumn column.unplaced ifNotExists
  | .dropColumn name => .dropColumn name.unplaced
  | .renameColumn old new => .renameColumn old.unplaced new.unplaced
  | .renameTable name => .renameTable (unplacedPath name)
  | .other => .other

def Sql.Definition.unplaced : Definition → Definition
  | .schema name => .schema (name.map Ident.unplaced)
  | .table name columns keys ifNotExists =>
    .table (unplacedPath name) (columns.map ColumnSpec.unplaced) (keys.map Ident.unplaced) ifNotExists
  | .view name columns ifNotExists =>
    .view (unplacedPath name) (columns.map Ident.unplaced) ifNotExists
  | .alter name changes => .alter (unplacedPath name) (changes.map TableChange.unplaced)
  | .drop names => .drop (names.map unplacedPath)

/-- The columns that an item of a SELECT stands for: names of its own, or all columns of tables. -/
inductive ItemColumns
  | named (names : List String)
  | columnsOf (tables : List TableName)
  deriving DecidableEq

namespace ItemColumns

def starTable? (s : Source) : Option TableName :=
  match s.factor with
  | .table name _ _ _ => some (.ofPath name)
  | _ => none

def ofItem (sources : List Source) : SelectItem → ItemColumns
  | .plain (.name id) => .named [id.value]
  | .plain (.path parts) => .named (parts.getLast?.map (·.value)).toList
  | .plain _ => .named []
  | .aliased _ name => .named [name.value]
  | .star _ => .columnsOf (sources.filterMap starTable?)
  | .qualifiedStar qualifier _ => .columnsOf [.ofPath qualifier]

def ofBody : SetExpr → List ItemColumns
  | .select s => s.items.map (ofItem s.sources)
  | .operation left _ => ofBody left
  | _ => []

def names (c : Catalog) : ItemColumns → List String
  | .named names => names
  | .columnsOf tables => tables.flatMap c.columnNames

theorem starColumns_eq (c : Catalog) (sources : List Source) :
    c.starColumns sources = (sources.filterMap starTable?).flatMap c.columnNames := by
  unfold Catalog.starColumns
  induction sources with
  | nil => rfl
  | cons s sources ih =>
    rw [List.flatMap_cons, ih, List.filterMap_cons, starTable?]
    cases s.factor <;> rfl

theorem itemColumns_eq (c : Catalog) (sources : List Source) (item : SelectItem) :
    c.itemColumns sources item = (ofItem sources item).names c := by
  cases item with
  | plain e => cases e <;> rfl
  | aliased => rfl
  | star => exact starColumns_eq c sources
  | qualifiedStar qualifier => simp [Catalog.itemColumns, ofItem, names]

theorem bodyColumns_eq (c : Catalog) (body : SetExpr) :
    c.bodyColumns body = (ofBody body).flatMap (names c) := by
  fun_induction ofBody body with
  | case1 s =>
    rw [Catalog.bodyColumns, List.flatMap_map]
    congr 1
    funext item
    exact itemColumns_eq c s.sources item
  | case2 left _ ih => rw [Catalog.bodyColumns, ih]
  | case3 body hselect hoperation =>
    rw [Catalog.bodyColumns]
    · rfl
    · exact hselect
    · exact hoperation

end ItemColumns

/-- What a statement defines, without places, and the columns that its query has for a view. -/
def Sql.Statement.defined? : Statement → Option (Definition × Option (List ItemColumns))
  | .define definition _ body _ =>
    some (definition.unplaced, body.map fun q => ItemColumns.ofBody q.body)
  | _ => none

def definitions (statements : List Statement) : List (Definition × Option (List ItemColumns)) :=
  statements.filterMap Statement.defined?

/-! ### What definitions leave in a catalog -/

theorem TableName.ofPath_unplaced (path : Path) : ofPath (unplacedPath path) = ofPath path := by
  rw [ofPath, ofPath, unplacedPath, ← List.map_reverse]
  cases path.reverse with
  | nil => rfl
  | cons name names => cases names <;> rfl

theorem TableDef.ofSpecs_unplaced (name : TableName) (columns : List ColumnSpec)
    (keys : List Ident) :
    ofSpecs name (columns.map ColumnSpec.unplaced) (keys.map Ident.unplaced) =
      ofSpecs name columns keys := by
  rw [ofSpecs, ofSpecs, List.foldl_map, List.foldl_map]
  rfl

theorem TableDef.applyChange_unplaced (t : TableDef) (change : TableChange) :
    t.applyChange change.unplaced = t.applyChange change := by
  cases change <;> rfl

namespace Catalog

theorem newName?_unplaced (changes : List TableChange) :
    newName? (changes.map TableChange.unplaced) = newName? changes := by
  rw [newName?, newName?, List.filterMap_map]
  congr 2
  funext change
  cases change with
  | renameTable name => exact congrArg some (TableName.ofPath_unplaced name)
  | addColumn | dropColumn | renameColumn | other => rfl

theorem alterTable_unplaced (c : Catalog) (n : TableName) (changes : List TableChange) :
    c.alterTable n (changes.map TableChange.unplaced) = c.alterTable n changes := by
  have hchanges : ∀ t : TableDef, (changes.map TableChange.unplaced).foldl TableDef.applyChange t =
      changes.foldl TableDef.applyChange t := by
    intro t
    rw [List.foldl_map]
    congr 1
    funext t change
    exact t.applyChange_unplaced change
  simp only [alterTable, hchanges, newName?_unplaced]

end Catalog

namespace Loader

theorem viewColumns_eq (c : Catalog) (columns : List Ident) (query : Option Query) :
    viewColumns c columns query =
      if columns.isEmpty then
        ((query.map fun q => ItemColumns.ofBody q.body).getD []).flatMap (ItemColumns.names c)
      else columns.map (·.value) := by
  unfold viewColumns
  cases query with
  | none => rfl
  | some q => simp only [ItemColumns.bodyColumns_eq, Option.map_some, Option.getD_some]

theorem viewColumns_unplaced (c : Catalog) (columns : List Ident) (query : Option Query) :
    viewColumns c (columns.map Ident.unplaced) query = viewColumns c columns query := by
  unfold viewColumns
  rw [List.isEmpty_map, List.map_map]
  rfl

theorem define_unplaced (l : Loader) (query : Option Query) (definition : Definition) :
    (l.define query definition.unplaced).catalog = (l.define query definition).catalog := by
  cases definition with
  | schema name => cases name <;> rfl
  | table name columns keys ifNotExists =>
    simp only [Definition.unplaced, define, onCatalog, TableName.ofPath_unplaced,
      TableDef.ofSpecs_unplaced]
  | view name columns ifNotExists =>
    simp only [Definition.unplaced, define, onCatalog, TableName.ofPath_unplaced,
      viewColumns_unplaced]
  | alter name changes =>
    simp only [Definition.unplaced, define, onCatalog, TableName.ofPath_unplaced]
    split
    · exact Catalog.alterTable_unplaced _ _ changes
    · rfl
  | drop names =>
    simp only [Definition.unplaced, define, onCatalog, List.foldl_map, TableName.ofPath_unplaced]

theorem define_query (l : Loader) {query query' : Option Query} (definition : Definition)
    (h : (query.map fun q => ItemColumns.ofBody q.body) =
      query'.map fun q => ItemColumns.ofBody q.body) :
    (l.define query definition).catalog = (l.define query' definition).catalog := by
  cases definition with
  | view name columns ifNotExists => simp only [define, onCatalog, viewColumns_eq, h]
  | schema name => cases name <;> rfl
  | table | alter | drop => rfl

theorem define_congr {l l' : Loader} (h : l.catalog = l'.catalog) (query : Option Query)
    (definition : Definition) :
    (l.define query definition).catalog = (l'.define query definition).catalog := by
  cases definition with
  | schema name => cases name <;> simp only [define, onCatalog, h]
  | table | view | drop => simp only [define, onCatalog, h]
  | alter name changes =>
    simp only [define, onCatalog, h]
    split <;> rfl

theorem run_eq_self {s : Statement} (h : s.defined? = none) (l : Loader) : l.run s = l := by
  cases s with
  | define => cases h
  | query | insert | update | delete | explain | prepare | other => rfl

theorem runAll_eq_self {statements : List Statement} (h : ∀ s ∈ statements, s.defined? = none)
    (l : Loader) : l.runAll statements = l := by
  induction statements with
  | nil => rfl
  | cons s statements ih =>
    rw [List.forall_mem_cons] at h
    rw [runAll, List.foldl_cons, run_eq_self h.1]
    exact ih h.2

/-- A statement leaves what any statement with its definition leaves. -/
theorem run_defined {l l' : Loader} {s s' : Statement} (catalogs : l.catalog = l'.catalog)
    (h : s.defined? = s'.defined?) : (l.run s).catalog = (l'.run s').catalog := by
  cases hs : s.defined? with
  | none => rw [run_eq_self hs, run_eq_self (h.symm.trans hs), catalogs]
  | some d =>
    have hs' := h.symm.trans hs
    cases s with
    | query | insert | update | delete | explain | prepare | other => cases hs
    | define definition operands query tail =>
      cases s' with
      | query | insert | update | delete | explain | prepare | other => cases hs'
      | define definition' operands' query' tail' =>
        obtain ⟨hdefinition, hquery⟩ := Prod.mk.inj (Option.some.inj h)
        calc (l.define query definition).catalog
            = (l.define query definition.unplaced).catalog := (l.define_unplaced _ _).symm
          _ = (l.define query definition'.unplaced).catalog := by rw [hdefinition]
          _ = (l.define query definition').catalog := l.define_unplaced _ _
          _ = (l.define query' definition').catalog := l.define_query _ hquery
          _ = (l'.define query' definition').catalog := define_congr catalogs _ _

theorem runAll_append (l : Loader) (before after : List Statement) :
    l.runAll (before ++ after) = (l.runAll before).runAll after := List.foldl_append

theorem runAll_definitions {l l' : Loader} {statements statements' : List Statement}
    (catalogs : l.catalog = l'.catalog) (h : definitions statements = definitions statements') :
    (l.runAll statements).catalog = (l'.runAll statements').catalog := by
  induction statements generalizing l l' statements' with
  | nil =>
    have hnone := List.filterMap_eq_nil_iff.1 h.symm
    rw [runAll_eq_self hnone, ← catalogs]
    rfl
  | cons s statements ih =>
    cases hs : s.defined? with
    | none =>
      have hrest : definitions statements = definitions statements' := by
        rw [← h, definitions, definitions, List.filterMap_cons_none hs]
      have hstep : l.runAll (s :: statements) = l.runAll statements := by
        rw [runAll, List.foldl_cons, run_eq_self hs]
        rfl
      rw [hstep]
      exact ih catalogs hrest
    | some d =>
      rw [definitions, List.filterMap_cons_some hs] at h
      obtain ⟨before, s', after, rfl, hbefore, hs', hafter⟩ := List.filterMap_eq_cons_iff.1 h.symm
      rw [runAll_append, runAll_eq_self hbefore]
      have hrun := run_defined catalogs (hs.trans hs'.symm)
      have hrest : ((l.run s).runAll statements).catalog = ((l'.run s').runAll after).catalog :=
        ih hrun hafter.symm
      exact hrest

/-! ### Pieces -/

theorem exists_scan_of_parse {d : Dialect} {script : String} {statements : List Statement}
    (h : parse d script = .ok statements) : ∃ lexemes, scan d script = .ok lexemes := by
  unfold parse at h
  cases hscan : scan d script with
  | error e =>
    rw [hscan] at h
    cases h
  | ok lexemes => exact ⟨lexemes, rfl⟩

/-- Where all tokens of a script are clear, it is cut into the texts between its semicolons; and
the pieces leave the catalog that the whole leaves, if these texts, each read on its own, hold the
definitions of the whole. -/
theorem pieces_agree (l : Loader) {script : String} {statements : List Statement}
    (accepted : parse l.dialect script = .ok statements)
    (ok : Catalog.allClear l.dialect (written l.dialect script) = true) :
    Catalog.pieces script = Catalog.statementTexts l.dialect script ∧
      (definitions (readable l.dialect (Catalog.statementTexts l.dialect script)) =
          definitions statements →
        (l.runAll (readable l.dialect (Catalog.pieces script))).catalog =
          (l.runAll statements).catalog) := by
  obtain ⟨lexemes, hscan⟩ := exists_scan_of_parse accepted
  have hpieces := Catalog.pieces_eq_statementTexts hscan ok
  refine ⟨hpieces, fun h => ?_⟩
  rw [hpieces]
  exact runAll_definitions rfl h

theorem parse_eq_ok (d : Dialect) (script : String) (h : (parse d script).isOk = true) :
    parse d script = .ok ((parse d script).toOption.getD []) := by
  cases hparse : parse d script with
  | error e =>
    rw [hparse] at h
    cases h
  | ok statements => rfl

/-- Semicolons in strings, comments and a name. -/
def semicolons : String :=
  "CREATE TABLE a (n INT); -- don't;\nCREATE TABLE \"b;c\" /* ; */ (m TEXT DEFAULT $$;'$$)"

theorem semicolons_agree : ∃ statements,
    parse .postgresql semicolons = .ok statements ∧
      Catalog.allClear .postgresql (written .postgresql semicolons) = true ∧
      definitions (readable .postgresql (Catalog.statementTexts .postgresql semicolons)) =
        definitions statements ∧
      ((start .postgresql).runAll
          (readable .postgresql (Catalog.pieces semicolons))).catalog =
        ((start .postgresql).runAll statements).catalog := by
  have accepted := parse_eq_ok .postgresql semicolons (by decide +kernel)
  have clear : Catalog.allClear .postgresql (written .postgresql semicolons) = true := by
    decide +kernel
  have apart : definitions (readable .postgresql (Catalog.statementTexts .postgresql semicolons)) =
      definitions ((parse .postgresql semicolons).toOption.getD []) := by
    decide +kernel
  exact ⟨_, accepted, clear, apart, (pieces_agree (start .postgresql) accepted clear).2 apart⟩

/-- A semicolon in a comment behind a comment within it. -/
def nestedComment : String := "/* a /* b */ ; c */ CREATE TABLE t (x INT)"

theorem nestedComment_loses_table : ∃ statements,
    parse .generic nestedComment = .ok statements ∧
      ((start .generic).runAll statements).catalog.hasTable (.plain "t") = true ∧
      ((start .generic).runAll
        (readable .generic (Catalog.pieces nestedComment))).catalog.hasTable (.plain "t") = false :=
  ⟨_, parse_eq_ok .generic nestedComment (by decide +kernel), by decide +kernel, by decide +kernel⟩

end Loader

end SqlAudit
