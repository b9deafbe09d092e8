import SqlAudit.Proofs.Catalog.Lookup
import SqlAudit.Proofs.Names.Columns
import SqlAudit.Proofs.Names.Tables

/-!
Tables that are named with their schema. Whether such a table is there is asked of its own schema,
but its columns are taken by its name alone first: a table of that name in the default schema comes
before the one that is named.
-/

namespace SqlAudit

open Sql Text

namespace Catalog

variable {c : Catalog}

theorem firstTable?_within {schema name : String} {t : TableDef}
    (ht : c.table? (.within schema name) = some t) :
    c.firstTable? (some schema) name = some ((c.table? (.plain name)).getD t) := by
  rw [firstTable?, Option.bind_some, ht, Option.some_or]
  cases c.table? (.plain name) <;> rfl

end Catalog

namespace Names

/-- The first table of a name whose columns are taken for a table of a schema. -/
def firstOf (catalog : Catalog) (name : String) (t : TableDef) : TableDef :=
  (catalog.table? (.plain name)).getD t

def isMissing (t : TableDef) (column : String) : Bool :=
  column != "" && column != "*" && !t.columns.isEmpty && !t.hasColumn column

/-- A statement names a table with its schema and an alias, and neither is a name of another table
of the statement. -/
structure OnlyUse (s : Statement) (schema table a : Ident) : Prop where
  used : ⟨some schema, table, some a⟩ ∈ (Symbols.collect s).uses
  table_only : ∀ u ∈ (Symbols.collect s).uses, lower u.table.value = lower table.value →
    u = ⟨some schema, table, some a⟩
  alias_only : ∀ u ∈ (Symbols.collect s).uses, ∀ b ∈ u.alias?, lower b.value = lower a.value →
    u = ⟨some schema, table, some a⟩

namespace OnlyUse

variable {catalog : Catalog} {s : Statement} {schema table a : Ident}

theorem qualified_alias (h : OnlyUse s schema table a) (p : Provider) (dialect : Dialect)
    (warn : Bool) {qualifier : Ident} (hq : lower qualifier.value = lower a.value) :
    (ColumnCheck.ofStatement p dialect warn s).qualified qualifier.value = .table table.value := by
  have halias : (Symbols.collect s).aliases.get? (lower qualifier.value) = some table.value := by
    cases hget : (Symbols.collect s).aliases.get? (lower qualifier.value) with
    | none =>
      have hnone := get?_aliasTables_eq_none.1 hget _ h.used a rfl
      exact absurd hq.symm hnone
    | some name =>
      obtain ⟨u, hu, b, hb, hkey, hname⟩ := exists_use_of_get?_aliasTables hget
      have huse := h.alias_only u hu b hb (hkey.trans hq)
      rw [← hname, huse]
  simp only [ColumnCheck.ofStatement, ColumnCheck.qualified, halias]

theorem columnsFor_table (h : OnlyUse s schema table a) (hschema : DotFree schema.value)
    (htable : DotFree table.value) {t : TableDef}
    (ht : catalog.table? (.within schema.value table.value) = some t)
    (hcolumns : t.columns.isEmpty = false) (dialect : Dialect) (warn : Bool) :
    (ColumnCheck.ofStatement catalog.provider dialect warn s).columnsFor table.value =
      (some (firstOf catalog table.value t).columnInfos).filter (!·.isEmpty) := by
  have hgiven : columnsGiven catalog.provider
      (TableUse.text ⟨some schema, table, some a⟩) =
        (some (firstOf catalog table.value t).columnInfos).filter (!·.isEmpty) := by
    have hdot : ∀ n ∈ some schema.value, DotFree n := by
      intro n hn
      rwa [← Option.some.inj hn]
    have hfirst := Catalog.columns?_eq_firstTable? (c := catalog) htable hdot
    rw [Catalog.firstTable?_within ht, Option.map_some] at hfirst
    exact congrArg (Option.filter _) hfirst
  have hsame : ∀ v ∈ (Symbols.collect s).uses, lower v.table.value = lower table.value →
      columnsGiven catalog.provider v.text =
        (some (firstOf catalog table.value t).columnInfos).filter (!·.isEmpty) := by
    intro v hv hname
    rw [h.table_only v hv hname]
    exact hgiven
  rw [ColumnCheck.columnsFor_eq_given hsame h.used rfl]
  -- where the first table has no columns it is one of the default schema, found without schema too
  cases hplain : catalog.table? (.plain table.value) with
  | none =>
    rw [firstOf, hplain, Option.getD_none, Option.filter_some, TableDef.columnInfos_isEmpty,
      hcolumns]
    rfl
  | some first =>
    have hbare : catalog.provider.columns? none table.value = some first.columnInfos := by
      rw [Catalog.columns?_eq_firstTable? htable (by simp), Catalog.firstTable?_of_plain hplain]
      rfl
    rw [firstOf, hplain, Option.getD_some, hbare, Option.or_self]

theorem memberVerdict_marks (built : catalog.Built) (h : OnlyUse s schema table a)
    (hschema : DotFree schema.value) (htable : DotFree table.value) {t : TableDef}
    (ht : catalog.table? (.within schema.value table.value) = some t)
    (hcolumns : t.columns.isEmpty = false) (dialect : Dialect) (warn : Bool) (column : Ident) :
    ((ColumnCheck.ofStatement catalog.provider dialect warn s).memberVerdict table.value
        column).map Finding.mark =
      if isMissing (firstOf catalog table.value t) column.value then
        [(.columnNotFound, column.range)]
      else [] := by
  have hwell : (firstOf catalog table.value t).WellFormed := by
    cases hplain : catalog.table? (.plain table.value) with
    | none =>
      rw [firstOf, hplain]
      exact built.wellFormed.table_wellFormed ht
    | some first =>
      rw [firstOf, hplain]
      exact built.wellFormed.table_wellFormed hplain
  have hcolumn := Bool.eq_iff_iff.2 (hwell.hasColumn_iff column.value)
  have hempty : column.value.isEmpty = (column.value == "") := by
    rw [Bool.eq_iff_iff, String.isEmpty_iff, beq_iff_eq]
  rw [ColumnCheck.memberVerdict_marks, ColumnCheck.accepts,
    h.columnsFor_table hschema htable ht hcolumns, Option.filter_some, isMissing, bne, bne, hempty, hcolumn, ← TableDef.columnInfos_isEmpty]
  cases column.value == "" with
  | true => rfl
  | false =>
    cases column.value == "*" with
    | true => rfl
    | false =>
      cases (firstOf catalog table.value t).columnInfos.isEmpty with
      | true => rfl
      | false =>
        rw [Bool.not_false, if_pos rfl, Option.all_some]
        cases (firstOf catalog table.value t).columnInfos.any (sameName ·.name column.value) <;> rfl

/-- A table with its schema is found there, but its columns are those of the first table of its
name: of the default schema where that has one, else of its own. -/
theorem schemaTable_columns (built : catalog.Built) (h : OnlyUse s schema table a)
    (hschema : DotFree schema.value) (htable : DotFree table.value) {t : TableDef}
    (ht : catalog.table? (.within schema.value table.value) = some t)
    (hcolumns : t.columns.isEmpty = false) (dialect : Dialect) (warn : Bool) :
    let first := firstOf catalog table.value t
    let c := ColumnCheck.ofStatement catalog.provider dialect warn s
    let found := columnFindings catalog.provider dialect warn (.collect s) s
    (∀ checkSchemas, tableVerdict catalog.provider checkSchemas (.collect s)
      ⟨some schema, table, some a⟩ = []) ∧
    (catalog.table? (.plain table.value) = none ∨
      sameName schema.value catalog.defaultSchema = true → first = t) ∧
    ∀ front qualifier column, front ++ [qualifier, column] ∈ pathsOf s.visits →
      lower qualifier.value = lower a.value →
      (c.pathVerdict (front ++ [qualifier, column])).map Finding.mark =
        (if isMissing first column.value then [(.columnNotFound, column.range)] else []) ∧
      c.pathVerdict (front ++ [qualifier, column]) ⊆ found ∧
      (DistinctPlaces s.idents → Finding.reportedAt found qualifier = [] ∧
        Finding.reportedAt found column =
          if isMissing first column.value then [(.columnNotFound, column.range)] else []) := by
  intro first c found
  refine ⟨fun checkSchemas => ?_, fun hsame => ?_, fun front qualifier column hpath hq => ?_⟩
  · exact built.wellFormed.tableVerdict_of_table? (u := ⟨some schema, table, some a⟩) rfl ht
      checkSchemas (.collect s)
  · rcases hsame with hnone | hsame
    · change (catalog.table? (.plain table.value)).getD t = t
      rw [hnone]
      rfl
    · change (catalog.table? (.plain table.value)).getD t = t
      rw [← Catalog.table?_within_default hsame, ht]
      rfl
  · have hverdict : c.pathVerdict (front ++ [qualifier, column]) =
        c.memberVerdict table.value column := by
      rw [ColumnCheck.pathVerdict_concat, h.qualified_alias catalog.provider dialect warn hq]
    have hmarks := h.memberVerdict_marks built hschema htable ht hcolumns dialect warn column
    have hstarts := c.memberVerdict_starts table.value column
    refine ⟨by rw [hverdict, hmarks], fun f hf => c.mem_findings_of_path hpath hf,
      fun places => ?_⟩
    have hj := ColumnCheck.path_mem_judged hpath
    have hat : ∀ i ∈ front ++ [qualifier, column],
        Finding.reportedAt found i = Finding.reportedAt (c.memberVerdict table.value column) i := by
      intro i hi
      rw [← hverdict]
      exact c.reportedAt_findings rfl places hj hi
    constructor
    · rw [hat qualifier (by simp)]
      exact Finding.reportedAt_eq_nil hstarts (ColumnCheck.starts_ne_of_path places hpath).symm
    · rw [hat column (by simp), Finding.reportedAt_of_starts hstarts, hmarks]

def plainTwin : TableDef := (TableDef.table (.plain "t")).addColumn (.of "x" "INT")

def schemaTwin : TableDef := (TableDef.table (.within "s" "t")).addColumn (.of "y" "INT")

/-- Two tables of one name: the one of the default schema has `x`, the one of `s` has `y`. -/
def twins : Catalog := (Catalog.initial.addTable plainTwin).addTable schemaTwin

/-- `SELECT a.x, a.y FROM s.t AS a`. -/
def fromTwins : Statement :=
  .query (.mk []
    (.select (.mk []
      [.plain (.path [.onLine "a" 7, .onLine "x" 9]),
        .plain (.path [.onLine "a" 12, .onLine "y" 14])]
      [.mk (.table [.onLine "s" 21, .onLine "t" 23] (some ⟨.onLine "a" 28, []⟩) false []) []] []
      none []))
    [])

theorem twins_built : twins.Built :=
  .addTable (.addColumn _ (.table _)) (.addTable (.addColumn _ (.table _)) (.ofDefault "public"))

theorem fromTwins_onlyUse :
    OnlyUse fromTwins (.onLine "s" 21) (.onLine "t" 23) (.onLine "a" 28) :=
  ⟨by decide, by decide, by decide⟩

/-- The table of `s` has the column `y`, and yet `a.y` is reported. -/
theorem fromTwins_reports_own_column :
    twins.Built ∧ OnlyUse fromTwins (.onLine "s" 21) (.onLine "t" 23) (.onLine "a" 28) ∧
      DistinctPlaces fromTwins.idents ∧
      (twins.table? (.within "s" "t")).any (·.hasColumn "y") = true ∧
      [.onLine "a" 12, .onLine "y" 14] ∈ pathsOf fromTwins.visits ∧
      Finding.reportedAt
          (columnFindings twins.provider .generic true (.collect fromTwins) fromTwins)
          (.onLine "y" 14) =
        [(.columnNotFound, (Ident.onLine "y" 14).range)] :=
  ⟨twins_built, fromTwins_onlyUse, ⟨by decide, by decide⟩, by decide, by decide, by decide⟩

theorem fromTwins_columns :
    OnlyUse fromTwins (.onLine "s" 21) (.onLine "t" 23) (.onLine "a" 28) ∧
      twins.table? (.within "s" "t") = some schemaTwin ∧ firstOf twins "t" schemaTwin = plainTwin ∧
      Finding.reportedAt
          (columnFindings twins.provider .generic true (.collect fromTwins) fromTwins)
          (.onLine "x" 9) = [] ∧
      Finding.reportedAt
          (columnFindings twins.provider .generic true (.collect fromTwins) fromTwins)
          (.onLine "y" 14) =
        [(.columnNotFound, (Ident.onLine "y" 14).range)] := by
  have places : DistinctPlaces fromTwins.idents := ⟨by decide, by decide⟩
  have htable : twins.table? (.within "s" "t") = some schemaTwin := by decide
  obtain ⟨_, _, paths⟩ := schemaTable_columns twins_built fromTwins_onlyUse (by decide)
    (by decide) htable (by decide) .generic true
  have hx := (paths [] (.onLine "a" 7) (.onLine "x" 9) (by decide) (by decide)).2.2 places
  have hy := (paths [] (.onLine "a" 12) (.onLine "y" 14) (by decide) (by decide)).2.2 places
  exact ⟨fromTwins_onlyUse, htable, by decide, hx.2.trans (by decide), hy.2.trans (by decide)⟩

end OnlyUse

end Names

end SqlAudit
