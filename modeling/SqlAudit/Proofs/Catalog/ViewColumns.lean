import SqlAudit.Proofs.Catalog.Fallback
import SqlAudit.Proofs.Catalog.Frame
import SqlAudit.Proofs.Names.FirstOfKind
import SqlAudit.Proofs.Sql.SingleSelect

/-!
The columns that a view gets from the stars of its query. A star is read as the columns of the first
table of every source, so that joined tables are passed over; `q.*` is read as the columns of the
table that the catalog has under the name `q`, so that a table with the alias `q` is passed over.
-/

namespace SqlAudit

open Sql Text

namespace TableDef

theorem hasColumn_eq_any (t : TableDef) (name : String) :
    t.hasColumn name = t.columnNames.any (sameName · name) := by
  rw [hasColumn, column?, OrderedMap.find?, Option.isSome_map, OrderedMap.lookup?,
    List.isSome_find?, columnNames, OrderedMap.keys, List.any_map]
  rfl

theorem columnNames_ofNames (name : TableName) (columns : List String) :
    (ofNames name columns).columnNames = columns.eraseDups := by
  rw [ofNames]
  induction columns using List.reverseRecOn with
  | nil => rfl
  | append_singleton columns column ih =>
    rw [List.foldl_append, List.foldl_cons, List.foldl_nil]
    generalize columns.foldl (fun t c => t.addColumn (.of c "")) (view name) = t at ih
    have known : t.columns.contains column = columns.eraseDups.any (column == ·) := by
      rw [List.any_beq, ← ih, Bool.eq_iff_iff, OrderedMap.contains_iff_mem_keys,
        List.contains_iff_mem]
      rfl
    have last : (columns ++ [column]).eraseDups =
        if columns.eraseDups.any (column == ·) then columns.eraseDups
        else columns.eraseDups ++ [column] := List.eraseDupsBy_concat _ columns column
    rw [last, ← known, ← ih]
    exact t.columns.keys_insert column _

theorem kind_ofNames (name : TableName) (columns : List String) :
    (ofNames name columns).kind = .view :=
  List.foldlRecOn columns (fun t c => t.addColumn (.of c ""))
    (motive := fun t : TableDef => t.kind = .view) rfl fun _ h _ _ => h

end TableDef

/-! ### The tables that a star covers, and those that it is read as -/

namespace Sql

def Factor.tableName? : Factor → Option TableName
  | .table name _ _ _ => some (.ofPath name)
  | _ => none

/-- Whether a qualifier calls a table: by its alias, or by the end of its name if it has none. -/
def Factor.isCalled (qualifier : Path) : Factor → Bool
  | .table name a _ _ =>
    let ending := match a with
      | some a => [a.name]
      | none => name.drop (name.length - qualifier.length)
    ending.length == qualifier.length &&
      (ending.zip qualifier).all fun p => sameName p.1.value p.2.value
  | _ => false

def Select.coveredTables (select : Select) : SelectItem → List TableName
  | .star _ => select.factors.filterMap Factor.tableName?
  | .qualifiedStar qualifier _ =>
    (select.factors.filter (·.isCalled qualifier)).filterMap Factor.tableName?
  | _ => []

end Sql

namespace Catalog

variable (c : Catalog) (select : Select)

/-- The tables covered by an item that it is not read as: under a star those that are joined, under
`q.*` those that are called `q` and are not the table `q` of the catalog. -/
def passedOver : SelectItem → List TableName
  | .star _ => (select.sources.flatMap Source.joins).filterMap (·.factor.tableName?)
  | .qualifiedStar qualifier operands =>
    (select.coveredTables (.qualifiedStar qualifier operands)).filter
      fun n => !c.sameTable n (.ofPath qualifier)
  | _ => []

theorem columnNames_of_sameTable {a b : TableName} (h : c.sameTable a b = true) :
    c.columnNames a = c.columnNames b := by
  rw [columnNames, c.table?_of_sameTable h, columnNames]

theorem mem_itemColumns_or_passedOver {item : SelectItem} {n : TableName}
    (covered : n ∈ select.coveredTables item) :
    c.columnNames n ⊆ c.itemColumns select.sources item ∨ n ∈ c.passedOver select item := by
  cases item with
  | plain => cases covered
  | aliased => cases covered
  | star operands =>
    obtain ⟨factor, hfactor, named⟩ := List.mem_filterMap.1 covered
    obtain ⟨source, hsource, hfactor⟩ := List.mem_flatMap.1 hfactor
    rcases List.mem_cons.1 hfactor with rfl | joined
    · left
      have read : n ∈ select.sources.filterMap ItemColumns.starTable? :=
        List.mem_filterMap.2 ⟨source, hsource, named⟩
      rw [itemColumns, ItemColumns.starColumns_eq]
      exact fun column hcolumn => List.mem_flatMap.2 ⟨n, read, hcolumn⟩
    · right
      obtain ⟨join, hjoin, rfl⟩ := List.mem_map.1 joined
      exact List.mem_filterMap.2 ⟨join, List.mem_flatMap.2 ⟨source, hsource, hjoin⟩, named⟩
  | qualifiedStar qualifier operands =>
    cases same : c.sameTable n (.ofPath qualifier) with
    | true =>
      rw [c.columnNames_of_sameTable same]
      exact .inl (List.Subset.refl _)
    | false => exact .inr (List.mem_filter.2 ⟨covered, by rw [same]; rfl⟩)

theorem passedOver_subset (item : SelectItem) :
    c.passedOver select item ⊆ select.coveredTables item := by
  intro n hn
  cases item with
  | plain => cases hn
  | aliased => cases hn
  | star operands =>
    obtain ⟨join, hjoin, named⟩ := List.mem_filterMap.1 hn
    obtain ⟨source, hsource, hjoin⟩ := List.mem_flatMap.1 hjoin
    have there : join.factor ∈ source.factors := List.mem_cons_of_mem _ (List.mem_map_of_mem hjoin)
    exact List.mem_filterMap.2 ⟨_, List.mem_flatMap.2 ⟨source, hsource, there⟩, named⟩
  | qualifiedStar qualifier operands => exact (List.mem_filter.1 hn).1

end Catalog

namespace Loader

/-- The view that a definition without a column list makes from a single SELECT. -/
theorem table?_run_view (l : Loader) (name : Path) (ifNotExists : Bool) (select : Select)
    (tail operands rest : List Expr) :
    (l.run (.define (.view name [] ifNotExists) operands (some (.ofSelect select tail))
      rest)).catalog.table? (.ofPath name) =
        some (.ofNames (.ofPath name)
          (select.items.flatMap (l.catalog.itemColumns select.sources))) := by
  rw [run, define, onCatalog, Catalog.table?_addTable, TableDef.name_ofNames,
    if_pos (l.catalog.sameTable_refl (.ofPath name))]
  rfl

/-- A view has the columns that the items of its SELECT give, each once. It has all columns of all
tables that its stars cover just where the columns of those that are passed over are given by items
as well. -/
theorem view_exposes_covered_iff (l : Loader) (name : Path) (ifNotExists : Bool) (select : Select)
    (tail operands rest : List Expr) :
    let c := l.catalog
    let given := select.items.flatMap (c.itemColumns select.sources)
    ∃ v, (l.run (.define (.view name [] ifNotExists) operands (some (.ofSelect select tail))
        rest)).catalog.table? (.ofPath name) = some v ∧
      v.kind = .view ∧ v.columnNames = given.eraseDups ∧
      ((∀ item ∈ select.items, ∀ n ∈ select.coveredTables item, ∀ column ∈ c.columnNames n,
          v.hasColumn column = true) ↔
        ∀ item ∈ select.items, ∀ n ∈ c.passedOver select item, ∀ column ∈ c.columnNames n,
          ∃ other ∈ given, sameName other column = true) := by
  intro c given
  have names := TableDef.columnNames_ofNames (.ofPath name) given
  have has (column : String) : (TableDef.ofNames (.ofPath name) given).hasColumn column = true ↔
      ∃ other ∈ given, sameName other column = true := by
    rw [TableDef.hasColumn_eq_any, names, List.any_eq_true]
    simp only [List.mem_eraseDups]
  refine ⟨_, l.table?_run_view name ifNotExists select tail operands rest,
    TableDef.kind_ofNames _ given, names, ?_, ?_⟩
  · intro exposes item hitem n hn column hcolumn
    exact (has column).1 (exposes item hitem n (c.passedOver_subset select item hn) column hcolumn)
  · intro passed item hitem n hn column hcolumn
    rcases c.mem_itemColumns_or_passedOver select hn with read | aside
    · exact (has column).2
        ⟨column, List.mem_flatMap.2 ⟨item, hitem, read hcolumn⟩, sameName_refl column⟩
    · exact (has column).2 (passed item hitem n aside column hcolumn)

/-- `CREATE TABLE a (x INT)` and `CREATE TABLE b (y INT)`. -/
def twoDefined : Loader :=
  (start .generic).runAll
    [.define (.table [.onLine "a" 13] [⟨.onLine "x" 16, "INT", []⟩] [] false) [] none [],
      .define (.table [.onLine "b" 13] [⟨.onLine "y" 16, "INT", []⟩] [] false) [] none []]

/-- `SELECT * FROM a JOIN b ON a.x = b.y`, behind `CREATE VIEW v AS`. -/
def joinedSelect : Select :=
  .mk [] [.star []]
    [.mk (.table [.onLine "a" 31] none false [])
      [.mk (.table [.onLine "b" 38] none false [])
        [.operation [.operand 0, .text " = ", .operand 1]
          [.path [.onLine "a" 43, .onLine "x" 45], .path [.onLine "b" 49, .onLine "y" 51]]]]]
    [] none []

/-- `SELECT t.* FROM a AS t`, behind `CREATE VIEW v AS`. -/
def aliasedSelect : Select :=
  .mk [] [.qualifiedStar [.onLine "t" 24] []]
    [.mk (.table [.onLine "a" 33] (some ⟨.onLine "t" 38, []⟩) false []) []] [] none []

/-- A star leaves out the columns of a table that is joined, and `t.*` those of a table whose alias
is `t`. -/
theorem covered_columns_missing :
    let seen (select : Select) : Option (List String) :=
      ((twoDefined.run (.define (.view [.onLine "v" 12] [] false) [] (some (.ofSelect select []))
        [])).catalog.table? (.plain "v")).map (·.columnNames)
    twoDefined.catalog.columnNames (.plain "a") = ["x"] ∧
      twoDefined.catalog.columnNames (.plain "b") = ["y"] ∧
      joinedSelect.coveredTables (.star []) = [.plain "a", .plain "b"] ∧
      seen joinedSelect = some ["x"] ∧
      aliasedSelect.coveredTables (.qualifiedStar [.onLine "t" 24] []) = [.plain "a"] ∧
      seen aliasedSelect = some [] := by
  decide

end Loader

end SqlAudit
