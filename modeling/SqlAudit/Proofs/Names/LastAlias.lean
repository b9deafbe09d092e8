import SqlAudit.Proofs.Catalog.LetterCase
import SqlAudit.Proofs.Catalog.WellFormed
import SqlAudit.Proofs.Names.Columns
import SqlAudit.Proofs.Sql.SingleSelect

/-!
Aliases that a statement gives more than once. All queries of a statement share one map of aliases,
in which the last use of the walk counts. So the query that a qualified name stands in does not tell
what its qualifier means: the columns that count are those of the table whose use gives the alias
last.
-/

namespace SqlAudit

open Sql Text

namespace Names

def TableUse.gives (u : TableUse) (name : String) : Bool :=
  u.alias?.any (lower ·.value == lower name)

def lastUse (uses : List TableUse) (name : String) : Option TableUse :=
  uses.reverse.find? (·.gives name)

theorem lastUse_append (us vs : List TableUse) (name : String) :
    lastUse (us ++ vs) name = (lastUse vs name).or (lastUse us name) := by
  rw [lastUse, List.reverse_append, List.find?_append]
  rfl

theorem mem_of_lastUse {uses : List TableUse} {name : String} {u : TableUse}
    (h : lastUse uses name = some u) : u ∈ uses :=
  List.mem_reverse.1 (List.mem_of_find?_eq_some h)

theorem get?_aliasTables (uses : List TableUse) (name : String) :
    (aliasTables uses).get? (lower name) = (lastUse uses name).map (·.table.value) := by
  induction uses using List.reverseRecOn with
  | nil => rfl
  | append_singleton us u ih =>
    have hsingle : lastUse [u] name = if u.gives name then some u else none := by
      cases h : u.gives name <;> simp [lastUse, h]
    rw [get?_aliasTables_concat, lastUse_append, hsingle, ih, ← TableUse.gives]
    split <;> rfl

def isUnlisted (columns : List ColumnInfo) (column : String) : Bool :=
  column != "" && column != "*" && !columns.isEmpty && !columns.any (sameName ·.name column)

namespace ColumnCheck

variable (c : ColumnCheck)

theorem memberVerdict_marks_eq (table : String) (column : Ident) :
    (c.memberVerdict table column).map Finding.mark =
      if isUnlisted ((c.columnsFor table).getD []) column.value then
        [(.columnNotFound, column.range)]
      else [] := by
  have hempty : column.value.isEmpty = (column.value == "") := by
    rw [Bool.eq_iff_iff, String.isEmpty_iff, beq_iff_eq]
  rw [memberVerdict_marks, accepts, isUnlisted, hempty, bne, bne]
  cases hcolumns : c.columnsFor table with
  | none => simp
  | some columns =>
    have hsome : columns.isEmpty = false := by
      have hfilter := (Option.filter_eq_some_iff.1 hcolumns).2
      simpa using hfilter
    rw [Option.all_some, Option.getD_some, hsome]
    cases column.value == "" <;> cases column.value == "*" <;>
      cases columns.any (sameName ·.name column.value) <;> rfl

variable {p : Provider} {dialect : Dialect} {warn : Bool} {s : Statement}

theorem qualified_of_lastUse {qualifier : String} {u : TableUse}
    (last : lastUse (Symbols.collect s).uses qualifier = some u) :
    (ofStatement p dialect warn s).qualified qualifier = .table u.table.value := by
  have halias : (Symbols.collect s).aliases.get? (lower qualifier) = some u.table.value := by
    change (aliasTables (Symbols.collect s).uses).get? (lower qualifier) = _
    rw [get?_aliasTables, last]
    rfl
  simp only [ofStatement, qualified, halias]

theorem columnsFor_of_table? {catalog : Catalog} {u : TableUse}
    (hu : u ∈ (Symbols.collect s).uses) {t : TableDef}
    (ht : catalog.table? (.ofText u.table.value) = some t)
    (alone : ∀ v ∈ (Symbols.collect s).uses, lower v.table.value = lower u.table.value →
      sameName v.table.value u.table.value = true) :
    ((ofStatement catalog.provider dialect warn s).columnsFor u.table.value).getD [] =
      t.columnInfos := by
  have hfound : ∀ name, sameName name u.table.value = true →
      catalog.provider.columnsOf name = some t.columnInfos := by
    intro name hname
    have hfold : catalog.provider.columnsOf name = catalog.provider.columnsOf u.table.value := by
      rw [← catalog.ignoresCase.columnsOf, sameName_iff.1 hname, catalog.ignoresCase.columnsOf]
    rw [hfold]
    exact congrArg (Option.map TableDef.columnInfos) ht
  have hgiven : ∀ v ∈ (Symbols.collect s).uses, lower v.table.value = lower u.table.value →
      columnsGiven catalog.provider v.text = (some t.columnInfos).filter (!·.isEmpty) := by
    intro v hv hlower
    -- the name alone is asked for first, so that a schema given with it is not asked
    have hcolumns : catalog.provider.columns? v.text.schema v.text.name = some t.columnInfos := by
      rw [Provider.columns?, TableUse.text, hfound _ (alone v hv hlower), Option.some_or]
    rw [columnsGiven, hcolumns]
  have hbare : catalog.provider.columns? none u.table.value = some t.columnInfos := by
    rw [Provider.columns?, hfound _ (sameName_refl _), Option.some_or]
  rw [columnsFor_eq_given hgiven hu rfl, hbare, Option.or_self]
  cases t.columnInfos <;> rfl

end ColumnCheck

/-- A name qualified by an alias is looked up in the table of the last use that gives the alias, in
whichever query that use stands. A table that the catalog finds by its name has its own columns
there, unless the statement names a table whose name differs in the case of other than ASCII
letters. -/
theorem lastAlias_columns (catalog : Catalog) (dialect : Dialect) (warn : Bool) {s : Statement}
    (front : Path) (qualifier column : Ident)
    (hpath : front ++ [qualifier, column] ∈ pathsOf s.visits) {u : TableUse}
    (last : lastUse (Symbols.collect s).uses qualifier.value = some u) :
    let c := ColumnCheck.ofStatement catalog.provider dialect warn s
    let found := columnFindings catalog.provider dialect warn (.collect s) s
    let columns := (c.columnsFor u.table.value).getD []
    let reported := if isUnlisted columns column.value then
      [(Rule.columnNotFound, column.range)] else []
    (∀ t, catalog.table? (.ofText u.table.value) = some t →
      (∀ v ∈ (Symbols.collect s).uses, lower v.table.value = lower u.table.value →
        sameName v.table.value u.table.value = true) →
      columns = t.columnInfos) ∧
    (c.pathVerdict (front ++ [qualifier, column])).map Finding.mark = reported ∧
    c.pathVerdict (front ++ [qualifier, column]) ⊆ found ∧
    (DistinctPlaces s.idents →
      Finding.reportedAt found qualifier = [] ∧ Finding.reportedAt found column = reported) := by
  intro c found columns reported
  have htable : c.qualified qualifier.value = .table u.table.value :=
    ColumnCheck.qualified_of_lastUse last
  have hmarks : (c.memberVerdict u.table.value column).map Finding.mark = reported :=
    c.memberVerdict_marks_eq u.table.value column
  refine ⟨fun t ht alone => ColumnCheck.columnsFor_of_table? (mem_of_lastUse last) ht alone, ?_,
    fun f hf => c.mem_findings_of_path hpath hf, fun places => ?_⟩
  · rw [ColumnCheck.pathVerdict_concat, htable, hmarks]
  · rw [← hmarks]
    exact c.reportedAt_of_table rfl places hpath htable

def tableWith (name column : String) : TableDef :=
  (TableDef.table (.plain name)).addColumn (.of column "INT")

/-- A table with the column `x` and one with the column `y`. -/
def twoTables (xTable yTable : String) : Catalog :=
  (Catalog.initial.addTable (tableWith xTable "x")).addTable (tableWith yTable "y")

theorem twoTables_built (xTable yTable : String) : (twoTables xTable yTable).Built :=
  .addTable (.addColumn _ (.table _)) (.addTable (.addColumn _ (.table _)) (.ofDefault "public"))

/-- `SELECT a.x, a.y FROM t AS a WHERE EXISTS (SELECT 1 FROM u AS a)`. -/
def nestedSelect : Select :=
  .mk []
    [.plain (.path [.onLine "a" 7, .onLine "x" 9]),
      .plain (.path [.onLine "a" 12, .onLine "y" 14])]
    [.mk (.table [.onLine "t" 21] (some ⟨.onLine "a" 26, []⟩) false []) []] []
    (some (.subquery [.text "EXISTS (", .operand 0, .text ")"] []
      (.mk []
        (.select (.mk [] [.plain (.literal "1")]
          [.mk (.table [.onLine "u" 56] (some ⟨.onLine "a" 61, []⟩) false []) []] [] none []))
        [])))
    []

/-- `SELECT a.x FROM É AS b, é AS a`. -/
def accentedSelect : Select :=
  .mk [] [.plain (.path [.onLine "a" 7, .onLine "x" 9])]
    [.mk (.table [.onLine "É" 16] (some ⟨.onLine "b" 21, []⟩) false []) [],
      .mk (.table [.onLine "é" 24] (some ⟨.onLine "a" 29, []⟩) false []) []]
    [] none []

/-- The columns `a.x` are read where `a` is a table that has them. They are reported all the same:
the first as a query within gives the alias to another table, the second as the name of another
table has the same lower-case form. -/
theorem own_columns_reported :
    let nested := Statement.ofSelect nestedSelect []
    let accented := Statement.ofSelect accentedSelect []
    ((twoTables "t" "u").Built ∧ DistinctPlaces nested.idents ∧
      .plain (.path [.onLine "a" 7, .onLine "x" 9]) ∈ nestedSelect.items ∧
      .mk (.table [.onLine "t" 21] (some ⟨.onLine "a" 26, []⟩) false []) [] ∈
        nestedSelect.sources ∧
      ((twoTables "t" "u").table? (.plain "t")).any (·.hasColumn "x") = true ∧
      Finding.reportedAt
          (columnFindings (twoTables "t" "u").provider .generic true (.collect nested) nested)
          (.onLine "x" 9) =
        [(.columnNotFound, (Ident.onLine "x" 9).range)]) ∧
    ((twoTables "é" "É").Built ∧ DistinctPlaces accented.idents ∧
      .plain (.path [.onLine "a" 7, .onLine "x" 9]) ∈ accentedSelect.items ∧
      .mk (.table [.onLine "é" 24] (some ⟨.onLine "a" 29, []⟩) false []) [] ∈
        accentedSelect.sources ∧
      ((twoTables "é" "É").table? (.plain "é")).any (·.hasColumn "x") = true ∧
      Finding.reportedAt
          (columnFindings (twoTables "é" "É").provider .generic true (.collect accented) accented)
          (.onLine "x" 9) =
        [(.columnNotFound, (Ident.onLine "x" 9).range)]) :=
  ⟨⟨twoTables_built "t" "u", ⟨by decide, by decide⟩, .head _, .head _, by decide, by decide⟩,
    ⟨twoTables_built "é" "É", ⟨by decide, by decide⟩, .head _, .tail _ (.head _), by decide,
      by decide⟩⟩

theorem nestedSelect_columns :
    let s := Statement.ofSelect nestedSelect []
    let c := ColumnCheck.ofStatement (twoTables "t" "u").provider .generic true s
    let found := columnFindings (twoTables "t" "u").provider .generic true (.collect s) s
    lastUse (Symbols.collect s).uses "a" =
        some ⟨none, .onLine "u" 56, some (.onLine "a" 61)⟩ ∧
      (c.columnsFor "u").getD [] = (tableWith "u" "y").columnInfos ∧ DistinctPlaces s.idents ∧
      Finding.reportedAt found (.onLine "x" 9) =
        [(.columnNotFound, (Ident.onLine "x" 9).range)] ∧
      Finding.reportedAt found (.onLine "y" 14) = [] := by
  intro s c found
  have places : DistinctPlaces s.idents := ⟨by decide, by decide⟩
  have last : lastUse (Symbols.collect s).uses "a" =
      some ⟨none, .onLine "u" 56, some (.onLine "a" 61)⟩ := by decide
  obtain ⟨columns, _, _, hx⟩ := lastAlias_columns (twoTables "t" "u") .generic true []
    (.onLine "a" 7) (.onLine "x" 9) (by decide) last
  obtain ⟨_, _, _, hy⟩ := lastAlias_columns (twoTables "t" "u") .generic true []
    (.onLine "a" 12) (.onLine "y" 14) (by decide) last
  exact ⟨last, columns (tableWith "u" "y") (by decide) (by decide), places,
    (hx places).2.trans (by decide), (hy places).2.trans (by decide)⟩

end Names

end SqlAudit
