import SqlAudit.Proofs.Names.Tables

/-!
Tables that are missed. The check of tables goes through the names that a catalog lists, the look-up
of columns through the keys that its tables are stored under. In a catalog that the operations build
both come to the same tables, so a table is missed exactly where no columns are found for it.
-/

namespace SqlAudit

open Sql Text

namespace Catalog

variable {c : Catalog}

theorem WellFormed.holdsName_getD_tablesIn (h : c.WellFormed) (schema name : String) :
    Names.holdsName ((c.tablesIn schema).getD []) name =
      (c.table? (.within schema name)).isSome := by
  cases hnames : c.tablesIn schema with
  | none =>
    have hschema : c.schema? (c.schemaName (.within schema name)) = none :=
      Option.map_eq_none_iff.1 hnames
    rw [table?, hschema]
    rfl
  | some names => exact h.holdsName_tablesIn hnames

theorem WellFormed.holdsName_or_inAnySchema (h : c.WellFormed) (name : String) :
    (Names.holdsName c.provider.defaultTables name || Names.inAnySchema c.provider name) =
      (c.firstTable? none name).isSome := by
  have hdefault : Names.holdsName c.provider.defaultTables name =
      (c.table? (.plain name)).isSome := by
    rw [← table?_within_default (sameName_refl c.defaultSchema)]
    exact h.holdsName_getD_tablesIn c.defaultSchema name
  have hany : Names.inAnySchema c.provider name =
      c.provider.schemaNames.any fun s => (c.table? (.within s name)).isSome := by
    rw [Names.inAnySchema]
    congr 1
    funext schema
    exact h.holdsName_getD_tablesIn schema name
  rw [hdefault, hany, firstTable?, Option.isSome_or, Option.bind_none, Option.none_or,
    List.isSome_findSome?]
  rfl

end Catalog

namespace Names

open ColumnCheck

namespace TableUse

/-- What is to report on a table that is used, by the columns that are looked up for it. -/
def report (p : Provider) (u : TableUse) : List (Rule × Range) :=
  match u.schema with
  | none =>
    if (p.columns? none u.table.value).isSome then [] else [(.tableNotFound, u.table.range)]
  | some schema =>
    if (p.columnsIn schema.value u.table.value).isSome then []
    else if p.hasSchema schema.value then [(.tableNotFound, u.table.range)]
    else [(.invalidSchema, schema.range)]

/-- A look-up that the check of tables makes too: of a name without a period, or within a schema
where schemas are checked. -/
def IsLookedUp (checkSchemas : Bool) (u : TableUse) : Prop :=
  match u.schema with
  | none => DotFree u.table.value
  | some _ => checkSchemas = true

end TableUse

variable {c : Catalog}

/-! ### Verdicts -/

theorem plainTable_marks (wf : c.WellFormed) {table : Ident} (dotFree : DotFree table.value) :
    (plainTable c.provider table).map Finding.mark =
      if (c.provider.columns? none table.value).isSome then []
      else [(.tableNotFound, table.range)] := by
  have hfirst : c.provider.columns? none table.value =
      (c.firstTable? none table.value).map (·.columnInfos) :=
    Catalog.columns?_eq_firstTable? dotFree (by simp)
  rw [plainTable, wf.holdsName_or_inAnySchema, hfirst, Option.isSome_map]
  split <;> simp

theorem qualifiedTable_marks (wf : c.WellFormed) (schema table : Ident) :
    (qualifiedTable c.provider schema table).map Finding.mark =
      if (c.provider.columnsIn schema.value table.value).isSome then []
      else if c.provider.hasSchema schema.value then [(.tableNotFound, table.range)]
      else [(.invalidSchema, schema.range)] := by
  have hcolumns : (c.provider.columnsIn schema.value table.value).isSome =
      (c.table? (.within schema.value table.value)).isSome := Option.isSome_map
  rw [qualifiedTable, Provider.hasSchema, hcolumns]
  cases hnames : c.provider.tablesIn schema.value with
  | none =>
    have hmissing := wf.holdsName_getD_tablesIn schema.value table.value
    have hnone : c.tablesIn schema.value = none := hnames
    rw [hnone] at hmissing
    rw [← hmissing]
    rfl
  | some names =>
    have hholds : holdsName names table.value =
        (c.table? (.within schema.value table.value)).isSome := wf.holdsName_tablesIn hnames
    simp only [hholds, Option.isSome_some, if_true]
    split <;> simp

theorem tableVerdict_marks (wf : c.WellFormed) {checkSchemas : Bool} {symbols : Symbols}
    {u : TableUse} (checked : isExempt symbols u = false) (lookedUp : u.IsLookedUp checkSchemas) :
    (tableVerdict c.provider checkSchemas symbols u).map Finding.mark = u.report c.provider := by
  unfold TableUse.IsLookedUp at lookedUp
  unfold tableVerdict TableUse.report
  cases hschema : u.schema with
  | none =>
    simp only [hschema] at lookedUp
    rw [checked, if_neg Bool.false_ne_true]
    exact plainTable_marks wf lookedUp
  | some schema =>
    simp only [hschema] at lookedUp
    rw [checked, if_neg Bool.false_ne_true, lookedUp]
    exact qualifiedTable_marks wf schema u.table

theorem tableVerdict_starts (p : Provider) (checkSchemas : Bool) (symbols : Symbols)
    (u : TableUse) :
    (tableVerdict p checkSchemas symbols u).map Finding.start ⊆ u.idents.map Ident.start := by
  have htable : u.table ∈ u.idents := by simp [TableUse.idents]
  have hplain : (plainTable p u.table).map Finding.start ⊆ u.idents.map Ident.start := by
    unfold plainTable
    split
    · exact List.nil_subset _
    · simpa using ⟨u.table, htable, rfl⟩
  unfold tableVerdict
  split
  · exact List.nil_subset _
  · split
    next schema hschema =>
      have hmem : schema ∈ u.idents := by simp [TableUse.idents, hschema]
      unfold qualifiedTable
      split
      · simpa using ⟨schema, hmem, rfl⟩
      · split
        · exact List.nil_subset _
        · simpa using ⟨u.table, htable, rfl⟩
    next => exact hplain

/-! ### Where tables are used -/

theorem tableFindings_eq_flatMap (p : Provider) (checkSchemas : Bool) {s : Statement}
    (places : DistinctPlaces s.idents) :
    tableFindings p checkSchemas (.collect s) =
      (Symbols.collect s).uses.flatMap (tableVerdict p checkSchemas (.collect s)) := by
  have huses := places.of_subperm (collect_uses_subperm s)
  have hkeys : ((Symbols.collect s).uses.filterMap (·.table.key)).Sublist
      (((Symbols.collect s).uses.flatMap TableUse.idents).map Ident.start) := by
    rw [List.filterMap_eq_flatMap_toList, List.map_flatMap]
    refine List.Sublist.flatMap_right _ fun u hu => ?_
    have htable : u.table ∈ u.idents := by simp [TableUse.idents]
    rw [huses.key_eq (List.mem_flatMap.2 ⟨u, hu, htable⟩)]
    exact List.singleton_sublist.2 (List.mem_map_of_mem htable)
  rw [tableFindings, firstByKey_eq_self (huses.distinct.sublist hkeys) (by simp)]

/-- What is found at the names of one of several things is what is found on it, if all their names
stand at places of their own. -/
theorem filter_flatMap_starts {α : Type} {idents : α → List Ident} {find : α → List Finding}
    (starts : ∀ a, (find a).map Finding.start ⊆ (idents a).map Ident.start) {as : List α}
    (distinct : ((as.flatMap idents).map Ident.start).Nodup) {a : α} (ha : a ∈ as) :
    (as.flatMap find).filter (((idents a).map Ident.start).contains ·.start) = find a := by
  obtain ⟨before, after, rfl⟩ := List.append_of_mem ha
  simp only [List.flatMap_append, List.flatMap_cons, List.map_append] at distinct
  obtain ⟨_, hrest, hbefore⟩ := List.nodup_append.1 distinct
  obtain ⟨_, _, hafter⟩ := List.nodup_append.1 hrest
  have hothers : ∀ others : List α,
      (∀ p ∈ (others.flatMap idents).map Ident.start, p ∉ (idents a).map Ident.start) →
      (others.flatMap find).filter (((idents a).map Ident.start).contains ·.start) = [] := by
    intro others apart
    refine List.filter_eq_nil_iff.2 fun f hf hmem => ?_
    obtain ⟨b, hb, hfb⟩ := List.mem_flatMap.1 hf
    obtain ⟨i, hi, hstart⟩ := List.mem_map.1 (starts b (List.mem_map_of_mem hfb))
    refine apart f.start (List.mem_map.2 ⟨i, List.mem_flatMap.2 ⟨b, hb, hi⟩, hstart⟩) ?_
    exact List.contains_iff_mem.1 hmem
  have hown : (find a).filter (((idents a).map Ident.start).contains ·.start) = find a := by
    refine List.filter_eq_self.2 fun f hf => List.contains_iff_mem.2 ?_
    exact starts a (List.mem_map_of_mem hf)
  rw [List.flatMap_append, List.flatMap_cons, List.filter_append, List.filter_append, hown,
    hothers before fun p hp hown => hbefore p hp p (List.mem_append_left _ hown) rfl,
    hothers after fun p hp hown => hafter p hown p hp rfl, List.nil_append, List.append_nil]

theorem isExempt_eq_false {symbols : Symbols} {u : TableUse} (named : u.table.value ≠ "")
    (whole : Lint.isPartialKeyword u.table.value = false)
    (notCommon : u.schema = none → symbols.isCte u.table.value = false) :
    isExempt symbols u = false := by
  have hnamed : u.table.value.isEmpty = false := by
    rwa [Bool.eq_false_iff, ne_eq, String.isEmpty_iff]
  rw [isExempt, hnamed, whole, Bool.false_or, Bool.or_false]
  cases hschema : u.schema with
  | none => exact notCommon hschema
  | some schema => rfl

/-- A table that is used is missed exactly where the look-up of its columns fails: without a schema
wherever it may be, within a schema where there is no such schema, or no such table in it. With
names at places of their own this is what is found at the names of the table. -/
theorem missed_tables_exact (built : c.Built) (checkSchemas : Bool) (s : Statement)
    {u : TableUse} (used : u ∈ (Symbols.collect s).uses) (named : u.table.value ≠ "")
    (whole : Lint.isPartialKeyword u.table.value = false)
    (notCommon : u.schema = none → (Symbols.collect s).isCte u.table.value = false)
    (lookedUp : u.IsLookedUp checkSchemas) :
    (tableVerdict c.provider checkSchemas (.collect s) u).map Finding.mark =
        u.report c.provider ∧
      (DistinctPlaces s.idents →
        ((tableFindings c.provider checkSchemas (.collect s)).filter
          ((u.idents.map Ident.start).contains ·.start)).map Finding.mark =
            u.report c.provider) := by
  have hverdict : (tableVerdict c.provider checkSchemas (.collect s) u).map Finding.mark =
      u.report c.provider :=
    tableVerdict_marks built.wellFormed (isExempt_eq_false named whole notCommon) lookedUp
  refine ⟨hverdict, fun places => ?_⟩
  have huses := places.of_subperm (collect_uses_subperm s)
  rw [tableFindings_eq_flatMap c.provider checkSchemas places,
    filter_flatMap_starts (tableVerdict_starts c.provider checkSchemas (.collect s))
      huses.distinct used, hverdict]

/-- The table `Items` of the schema `stock`. -/
def stocked : Catalog := Catalog.initial.addTable (.table (.within "stock" "Items"))

/-- `SELECT 1 FROM ITEMS, Stock.ghost, shop.Items`. -/
def fromThree : Statement :=
  .query (.mk []
    (.select (.mk [] [.plain (.literal "1")]
      [.mk (.table [.onLine "ITEMS" 14] none false []) [],
        .mk (.table [.onLine "Stock" 21, .onLine "ghost" 27] none false []) [],
        .mk (.table [.onLine "shop" 34, .onLine "Items" 39] none false []) []] [] none []))
    [])

/-- The first table is found in a schema that is not the default one; the second is missed in its
schema, and of the third the schema is missed. -/
theorem fromThree_missed :
    let p := stocked.provider
    let found := tableFindings p true (.collect fromThree)
    let plain : TableUse := ⟨none, .onLine "ITEMS" 14, none⟩
    let missing : TableUse := ⟨some (.onLine "Stock" 21), .onLine "ghost" 27, none⟩
    let nowhere : TableUse := ⟨some (.onLine "shop" 34), .onLine "Items" 39, none⟩
    (Symbols.collect fromThree).uses = [plain, missing, nowhere] ∧
      DistinctPlaces fromThree.idents ∧
      (p.columns? none "ITEMS").isSome = true ∧
      (tableVerdict p true (.collect fromThree) plain).map Finding.mark = [] ∧
      (found.filter ((missing.idents.map Ident.start).contains ·.start)).map Finding.mark =
        [(.tableNotFound, missing.table.range)] ∧
      (found.filter ((nowhere.idents.map Ident.start).contains ·.start)).map Finding.mark =
        [(.invalidSchema, (Ident.onLine "shop" 34).range)] := by
  intro p found plain missing nowhere
  have built : stocked.Built := .addTable (.table _) (.ofDefault "public")
  have places : DistinctPlaces fromThree.idents := ⟨by decide, by decide⟩
  have huses : (Symbols.collect fromThree).uses = [plain, missing, nowhere] := by decide
  have hplain := missed_tables_exact built true fromThree (u := plain) (by simp [huses])
    (by decide) (by decide) (by decide) (show DotFree "ITEMS" by decide)
  have hmissing := missed_tables_exact built true fromThree (u := missing) (by simp [huses])
    (by decide) (by decide) (by decide) rfl
  have hnowhere := missed_tables_exact built true fromThree (u := nowhere) (by simp [huses])
    (by decide) (by decide) (by decide) rfl
  exact ⟨huses, places, by decide, hplain.1.trans (by decide),
    (hmissing.2 places).trans (by decide), (hnowhere.2 places).trans (by decide)⟩

end Names

end SqlAudit
