import SqlAudit.Proofs.Audit.Comparison
import SqlAudit.Proofs.Catalog.TableMap
import SqlAudit.Proofs.Names.CommonTable
import SqlAudit.Proofs.Sql.SingleSelect

/-!
Tables that a document does not mention. One that is added to a schema of the catalog is found by its
own name only, and whatever the check looks up is the name of a table that some statement mentions;
so what an audit reports is the same with it and without.
-/

namespace SqlAudit

open Sql Text

/-! ### Catalogs with another table -/

namespace Schema

theorem holdsName_putTable {s : Schema} (keyed : s.tables.KeyedBy (·.name.name)) {t : TableDef}
    {name : String} (apart : sameName t.name.name name = false) :
    Names.holdsName (s.putTable t).tableNames name = Names.holdsName s.tableNames name := by
  have hkeyed : (s.putTable t).tables.KeyedBy (·.name.name) :=
    (keyed.eraseName t.name.name).insert t
  rw [holdsName_tableNames hkeyed, holdsName_tableNames keyed, table?_putTable, apart,
    if_neg Bool.false_ne_true]

end Schema

namespace Catalog

variable {c : Catalog} {t : TableDef}

theorem addTable_eq_updateSchema (home : (c.schema? (c.schemaName t.name)).isSome = true) :
    c.addTable t = c.updateSchema (c.schemaName t.name) (·.putTable t) := by
  obtain ⟨s, hs⟩ := Option.isSome_iff_exists.1 home
  have hensure : c.ensureSchema (c.schemaName t.name) = c := by
    rw [ensureSchema, hs]
  rw [addTable, hensure]

theorem schemaNames_addTable (home : (c.schema? (c.schemaName t.name)).isSome = true) :
    (c.addTable t).provider.schemaNames = c.provider.schemaNames := by
  rw [addTable_eq_updateSchema home]
  refine c.schemaNames_updateSchema (fun _ => ?_) (c.schemaName t.name)
  rfl

theorem WellFormed.listsAlike_addTable (wf : c.WellFormed)
    (home : (c.schema? (c.schemaName t.name)).isSome = true) {name : String}
    (apart : sameName t.name.name name = false) :
    Names.ListsAlike (c.addTable t).provider c.provider name := by
  refine listsAlike ?_ (schemaNames_addTable home) fun schema => ?_
  · rw [addTable_eq_updateSchema home]
    rfl
  · rw [addTable_eq_updateSchema home, tablesIn, tablesIn, schema?_updateSchema]
    cases hschema : c.schema? schema with
    | none => simp
    | some s =>
      obtain ⟨key, hkey, _⟩ := OrderedMap.find?_eq_some hschema
      have hholds := Schema.holdsName_putTable (wf.schemas _ hkey).tables_keyed apart
      split
      · simp only [Option.map_some, hholds]
      · rfl

theorem name_of_mem_lookupNames {schema : Option String} {table : String} (plain : DotFree table)
    (plainSchema : ∀ s ∈ schema, DotFree s) {n : TableName} (h : n ∈ lookupNames schema table) :
    n.name = table := by
  simp only [lookupNames, List.mem_cons, Option.mem_toList, Option.map_eq_some_iff] at h
  rcases h with rfl | rfl | ⟨s, hs, rfl⟩
  · rfl
  · rw [TableName.ofText_of_dotFree plain]
    rfl
  · rw [TableName.ofText_within (plainSchema s hs)]
    rfl

theorem columns?_addTable (home : (c.schema? (c.schemaName t.name)).isSome = true)
    {schema : Option String} {table : String} (plain : DotFree table)
    (plainSchema : ∀ s ∈ schema, DotFree s) (apart : sameName t.name.name table = false) :
    (c.addTable t).provider.columns? schema table = c.provider.columns? schema table := by
  refine columns?_congr (schemaNames_addTable home) fun m hm n hn => ?_
  have hother : c.sameTable n t.name = false := by
    rw [sameTable, hn, name_of_mem_lookupNames plain plainSchema hm, sameName_comm table, apart,
      Bool.and_false]
  rw [table?_addTable, hother, if_neg Bool.false_ne_true]

end Catalog

/-! ### What a statement looks up -/

namespace Names

theorem Scope.ofSymbols_congr {p q : Provider} {symbols : Symbols}
    (same : ∀ t ∈ symbols.tables, q.columns? t.schema t.name = p.columns? t.schema t.name) :
    ofSymbols q symbols = ofSymbols p symbols := by
  have htables : ofTables q symbols.tables = ofTables p symbols.tables := by
    refine List.foldl_ext _ _ _ fun scope t ht => ?_
    rw [extend, extend, same t ht]
  rw [ofSymbols, ofSymbols, htables]

namespace ColumnCheck

variable {c : ColumnCheck} {p q : Provider} {dialect : Dialect} {warn : Bool} {s : Statement}

theorem exists_of_qualified (collected : c.symbols = .collect s) {qualifier table : String}
    (stands : c.qualified qualifier = .table table) :
    table = qualifier ∨ ∃ u ∈ (Symbols.collect s).uses, u.table.value = table := by
  unfold qualified at stands
  split at stands
  next stood halias =>
    rw [collected] at halias
    obtain ⟨u, hu, _, _, _, hstood⟩ := exists_use_of_get?_aliasTables halias
    cases stands
    exact Or.inr ⟨u, hu, hstood⟩
  next =>
    split at stands
    next => cases stands
    next =>
      split at stands
      next => cases stands
      next =>
        cases stands
        exact Or.inl rfl

theorem exists_ident_of_pathMember (collected : c.symbols = .collect s) {parts : Path}
    (hparts : parts ⊆ s.idents) {table : String} {column : Ident}
    (h : c.pathMember parts = some (table, column)) : ∃ i ∈ s.idents, i.value = table := by
  have hmem : ∀ i ∈ parts.reverse, i ∈ s.idents := fun i hi => hparts (List.mem_reverse.1 hi)
  unfold pathMember at h
  match hreverse : parts.reverse with
  | [] => simp [hreverse] at h
  | [_] => simp [hreverse] at h
  | last :: qualifier :: front =>
    simp only [hreverse] at h hmem
    cases stands : c.qualified qualifier.value with
    | unchecked => simp [stands] at h
    | unknown => simp [stands] at h
    | table stood =>
      simp only [stands, Option.some.injEq, Prod.mk.injEq] at h
      obtain ⟨rfl, -⟩ := h
      rcases exists_of_qualified collected stands with hself | ⟨u, hu, hname⟩
      · exact ⟨qualifier, hmem qualifier (by simp), hself.symm⟩
      · exact ⟨u.table, idents_subset_of_mem_uses hu (by simp [TableUse.idents]), hname⟩

theorem exists_ident_of_tableName {name : Path} {table : String} (h : tableName name = some table) :
    ∃ i ∈ name, i.value = table := by
  obtain ⟨i, hlast, hvalue⟩ := Option.map_eq_some_iff.1 h
  exact ⟨i, List.mem_of_getLast? hlast, hvalue⟩

theorem exists_ident_of_target {table : String} {column : Ident}
    (h : .column table column ∈ targets s) : ∃ i ∈ s.idents, i.value = table := by
  cases s with
  | insert target a columns source operands =>
    simp only [targets] at h
    split at h
    next stood hstood =>
      obtain ⟨i, hi, hvalue⟩ := exists_ident_of_tableName hstood
      obtain ⟨_, _, hcolumn⟩ := List.mem_map.1 h
      cases hcolumn
      exact ⟨i, by simp [Statement.idents, Statement.visits, Visit.idents, Statement.ownIdents, hi],
        hvalue⟩
    next => cases h
  | update target names values sources filter tail =>
    simp only [targets] at h
    obtain ⟨path, _, hpath⟩ := List.mem_flatMap.1 h
    split at hpath
    next name =>
      obtain ⟨stood, hstood, hcolumn⟩ := Option.map_eq_some_iff.1 (Option.mem_toList.1 hpath)
      cases hcolumn
      split at hstood
      next path a called operands hfactor =>
        obtain ⟨i, hi, hvalue⟩ := exists_ident_of_tableName hstood
        refine ⟨i, List.mem_flatMap.2 ⟨.factor target.factor, ?_, ?_⟩, hvalue⟩
        · obtain ⟨factor, joins⟩ := target
          simp [Statement.visits, Source.visits, Source.factor, factor.mem_visits]
        · rw [hfactor]
          exact List.mem_append_left _ hi
      next => cases hstood
    next => simp at hpath
  | query | delete | explain | prepare | define | other => cases h

theorem exists_ident_of_member (collected : c.symbols = .collect s) {j : Judged}
    (hj : j ∈ judged s) {table : String} {column : Ident} (h : c.member j = some (table, column)) :
    ∃ i ∈ s.idents, i.value = table := by
  have hidents : j.idents ⊆ s.idents := fun i hi =>
    (judged_subperm s).subset (List.mem_flatMap.2 ⟨j, hj, hi⟩)
  cases j with
  | path parts => exact exists_ident_of_pathMember collected hidents h
  | star | name => cases h
  | target t =>
    cases t with
    | path parts => exact exists_ident_of_pathMember collected hidents h
    | column =>
      cases h
      have ht : .column table column ∈ targets s := by simpa [judged] using hj
      exact exists_ident_of_target ht

theorem memberVerdict_congr {table : String}
    (same : q.columns? none table = c.provider.columns? none table) (column : Ident) :
    ({ c with provider := q } : ColumnCheck).memberVerdict table column =
      c.memberVerdict table column := by
  have hcolumns : ({ c with provider := q } : ColumnCheck).columnsFor table =
      c.columnsFor table := by
    unfold columnsFor
    rw [same]
  rw [memberVerdict, memberVerdict, hcolumns]

theorem pathVerdict_congr {parts : Path}
    (same : ∀ table column, c.pathMember parts = some (table, column) →
      q.columns? none table = c.provider.columns? none table) :
    ({ c with provider := q } : ColumnCheck).pathVerdict parts = c.pathVerdict parts := by
  have hqualified : ∀ qualifier,
      ({ c with provider := q } : ColumnCheck).qualified qualifier = c.qualified qualifier :=
    fun _ => rfl
  unfold pathMember at same
  unfold pathVerdict
  match hreverse : parts.reverse with
  | [] => rfl
  | [_] => rfl
  | column :: qualifier :: _ =>
    simp only [hreverse] at same
    simp only [hqualified]
    cases stands : c.qualified qualifier.value with
    | table table =>
      exact memberVerdict_congr (same table column (by simp only [stands])) column
    | unchecked => rfl
    | unknown => rfl

theorem verdict_congr {j : Judged}
    (same : ∀ table column, c.member j = some (table, column) →
      q.columns? none table = c.provider.columns? none table) :
    ({ c with provider := q } : ColumnCheck).verdict j = c.verdict j := by
  cases j with
  | path parts => exact pathVerdict_congr same
  | star | name => rfl
  | target t =>
    cases t with
    | column table name => exact memberVerdict_congr (same table name rfl) name
    | path parts => exact pathVerdict_congr same

end ColumnCheck

end Names

/-! ### The audit -/

namespace Catalog

open Names ColumnCheck

variable {c : Catalog} {t : TableDef} {s : Statement}

theorem findings_addTable (home : (c.schema? (c.schemaName t.name)).isSome = true)
    (plain : ∀ i ∈ s.idents, DotFree i.value)
    (unmentioned : ∀ i ∈ s.idents, sameName t.name.name i.value = false) (dialect : Dialect)
    (warn : Bool) :
    (ofStatement (c.addTable t).provider dialect warn s).findings s =
      (ofStatement c.provider dialect warn s).findings s := by
  have hscope : Scope.ofSymbols (c.addTable t).provider (.collect s) =
      Scope.ofSymbols c.provider (.collect s) := by
    refine Scope.ofSymbols_congr fun text htext => ?_
    obtain ⟨u, hu, rfl⟩ := exists_use_of_mem_distinctTexts htext
    have htable : u.table ∈ s.idents := idents_subset_of_mem_uses hu (by simp [TableUse.idents])
    refine columns?_addTable home (plain u.table htable) (fun schema hschema => ?_)
      (unmentioned u.table htable)
    obtain ⟨i, hi, rfl⟩ := Option.map_eq_some_iff.1 hschema
    exact plain i (idents_subset_of_mem_uses hu (by simp [TableUse.idents, hi]))
  have hcheck : ofStatement (c.addTable t).provider dialect warn s =
      { ofStatement c.provider dialect warn s with provider := (c.addTable t).provider } := by
    rw [ofStatement, hscope]
    rfl
  rw [hcheck, findings_eq_flatMap, findings_eq_flatMap, checked_congr _ rfl]
  refine List.flatMap_congr fun j hj => verdict_congr fun table column hmember => ?_
  obtain ⟨i, hi, rfl⟩ := exists_ident_of_member rfl (mem_judged_of_mem_checked _ rfl hj) hmember
  exact columns?_addTable home (plain i hi) (by simp) (unmentioned i hi)

theorem WellFormed.tableFindings_addTable (wf : c.WellFormed)
    (home : (c.schema? (c.schemaName t.name)).isSome = true)
    (unmentioned : ∀ i ∈ s.idents, sameName t.name.name i.value = false) (checkSchemas : Bool) :
    (tableFindings (c.addTable t).provider checkSchemas (.collect s)).map Finding.withoutHelp =
      (tableFindings c.provider checkSchemas (.collect s)).map Finding.withoutHelp := by
  refine map_tableFindings_congr fun u hu => ?_
  have htable : u.table ∈ s.idents := idents_subset_of_mem_uses hu (by simp [TableUse.idents])
  exact (wf.listsAlike_addTable home (unmentioned u.table htable)).map_tableVerdict
    checkSchemas (.collect s)

/-- A table that is added to a schema of the catalog does not change what an audit reports on a
document that does not mention it, whatever columns it has and whatever the settings are. -/
theorem unmentioned_table_audit (built : c.Built) {t : TableDef}
    (home : (c.schema? (c.schemaName t.name)).isSome = true) {text : String} {d : Audit.Document}
    (read : Audit.Document.ofText text = .ok d)
    (plain : ∀ s ∈ d.statements, ∀ i ∈ s.idents, DotFree i.value)
    (unmentioned : ∀ s ∈ d.statements, ∀ i ∈ s.idents, sameName t.name.name i.value = false)
    (settings : Settings) :
    (audit (some (c.addTable t).provider) settings text).map Finding.withoutHelp =
      (audit (some c.provider) settings text).map Finding.withoutHelp := by
  have htables : (d.named.flatMap fun n => tableFindings (c.addTable t).provider
      settings.checkSchemaReferences n.2).map Finding.withoutHelp =
        (d.named.flatMap fun n => tableFindings c.provider settings.checkSchemaReferences
          n.2).map Finding.withoutHelp := by
    rw [Audit.Document.named, List.flatMap_map, List.flatMap_map, List.map_flatMap,
      List.map_flatMap]
    exact List.flatMap_congr fun s hs => built.wellFormed.tableFindings_addTable home
      (unmentioned s hs) settings.checkSchemaReferences
  have hcolumns : (d.named.flatMap fun n => columnFindings (c.addTable t).provider
      settings.dialect settings.warnOnAmbiguousColumn n.2 n.1) =
        d.named.flatMap fun n => columnFindings c.provider settings.dialect
          settings.warnOnAmbiguousColumn n.2 n.1 := by
    rw [Audit.Document.named, List.flatMap_map, List.flatMap_map]
    exact List.flatMap_congr fun s hs => findings_addTable home (plain s hs) (unmentioned s hs)
      settings.dialect settings.warnOnAmbiguousColumn
  have hcatalog :
      (Audit.catalogFindings (c.addTable t).provider settings d).map Finding.withoutHelp =
        (Audit.catalogFindings c.provider settings d).map Finding.withoutHelp := by
    simp only [Audit.catalogFindings, List.map_append, Audit.map_rule, htables, hcolumns]
  rw [Audit.Document.audit_of_ofText read, Audit.Document.audit_of_ofText read]
  exact Audit.Document.map_audit_congr (Audit.map_documentFindings_eq_iff.2 hcatalog)

def usersAlone : Catalog :=
  initial.addTable ((TableDef.table (.plain "users")).addColumn (.of "id" "INT"))

def orderNumbers : TableDef :=
  (TableDef.table (.plain "orders")).addColumn (.of "order_no" "INT")

/-- The document mentions `ordres`, so that `orders` is offered as help where the catalog has it. The
column that only `orders` has is missed all the same. -/
theorem orderNumbers_unmentioned :
    let c := usersAlone
    let s : Settings := { maxDiagnostics := 0 }
    let text := "DELETE FROM users USING ordres WHERE order_no = 1"
    let before := audit (some c.provider) s text
    let after := audit (some (c.addTable orderNumbers).provider) s text
    c.Built ∧ (c.schema? (c.schemaName orderNumbers.name)).isSome = true ∧
      before.map (·.rule) = [.tableNotFound, .columnNotFound] ∧
      before.map (·.help) = [none, none] ∧
      after.map (·.help) = [some "Did you mean 'orders'?", none] ∧
      after.map Finding.withoutHelp = before.map Finding.withoutHelp := by
  intro c s text before after
  have built : c.Built := .addTable (.addColumn _ (.table _)) (.ofDefault "public")
  have home : (c.schema? (c.schemaName orderNumbers.name)).isSome = true := by decide
  have unmentioned : ((Audit.Document.ofText text).toOption.any fun d =>
      d.statements.all fun s => s.idents.all fun i =>
        decide (DotFree i.value) && !sameName orderNumbers.name.name i.value) = true := by
    decide +kernel
  refine ⟨built, home, by decide +kernel, by decide +kernel, by decide +kernel, ?_⟩
  cases read : Audit.Document.ofText text with
  | error e =>
    rw [read] at unmentioned
    cases unmentioned
  | ok d =>
    simp only [read, Except.toOption, Option.any_some, List.all_eq_true, Bool.and_eq_true,
      decide_eq_true_eq, Bool.not_eq_true'] at unmentioned
    exact unmentioned_table_audit built home read (fun s hs i hi => (unmentioned s hs i hi).1)
      (fun s hs i hi => (unmentioned s hs i hi).2) s

end Catalog

end SqlAudit
