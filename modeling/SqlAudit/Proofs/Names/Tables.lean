import SqlAudit.Names.Tables
import SqlAudit.Proofs.Catalog.Removal
import SqlAudit.Proofs.Names.Briefs

/-!
The check of the tables of a statement against a catalog: what is looked up by name is there when the
catalog has the table, and where the tables of one name are taken out, the same is said about those
of all others.
-/

namespace SqlAudit

open Sql Text

namespace Schema

variable {s : Schema}

theorem holdsName_tableNames (keyed : s.tables.KeyedBy (·.name.name)) (name : String) :
    Names.holdsName s.tableNames name = (s.table? name).isSome := by
  rw [Bool.eq_iff_iff, Schema.table?, OrderedMap.isSome_find?, Names.holdsName, List.any_eq_true]
  simp only [Schema.tableNames, OrderedMap.values, List.map_map, List.mem_map, Function.comp]
  constructor
  · rintro ⟨n, ⟨e, he, rfl⟩, hname⟩
    have hkey : e.1 = e.2.name.name := keyed e he
    exact ⟨e, he, by rwa [hkey]⟩
  · rintro ⟨e, he, hname⟩
    have hkey : e.1 = e.2.name.name := keyed e he
    exact ⟨_, ⟨e, he, rfl⟩, by rwa [← hkey]⟩

theorem holdsName_without (keyed : s.tables.KeyedBy (·.name.name)) {name table : String}
    (apart : lower table ≠ lower name) :
    Names.holdsName (s.without name).tableNames table = Names.holdsName s.tableNames table := by
  have hkeyed : (s.without name).tables.KeyedBy (·.name.name) := fun e he =>
    keyed e (List.mem_filter.1 he).1
  rw [holdsName_tableNames hkeyed, holdsName_tableNames keyed, table?_without, if_neg apart]

end Schema

namespace Catalog

variable {c : Catalog}

theorem WellFormed.schema?_of_mem (h : c.WellFormed) {key : String} {s : Schema}
    (hs : (key, s) ∈ c.schemas.entries) : c.schema? s.name = some s := by
  have hkey : key = s.name := (h.schemas _ hs).key_eq
  rw [hkey] at hs
  exact h.schemas_distinct.find?_of_mem hs (sameName_refl _)

theorem WellFormed.holdsName_tablesIn (h : c.WellFormed) {schema name : String}
    {names : List String} (hnames : c.tablesIn schema = some names) :
    Names.holdsName names name = (c.table? (.within schema name)).isSome := by
  obtain ⟨s, hs, rfl⟩ := Option.map_eq_some_iff.1 hnames
  obtain ⟨key, hkey, _⟩ := OrderedMap.find?_eq_some hs
  have hschema : c.schema? (c.schemaName (.within schema name)) = some s := hs
  rw [Schema.holdsName_tableNames (h.schemas _ hkey).tables_keyed, table?, hschema, Option.bind_some]
  rfl

theorem WellFormed.inAnySchema_of_table? (h : c.WellFormed) {n : TableName} {t : TableDef}
    (ht : c.table? n = some t) : Names.inAnySchema c.provider n.name = true := by
  obtain ⟨s, hs, htable⟩ := Option.bind_eq_some_iff.1 ht
  obtain ⟨key, hkey, _⟩ := OrderedMap.find?_eq_some hs
  have htables : c.tablesIn s.name = some s.tableNames := by
    rw [tablesIn, h.schema?_of_mem hkey]
    rfl
  have hholds : Names.holdsName s.tableNames n.name = true := by
    rw [Schema.holdsName_tableNames (h.schemas _ hkey).tables_keyed, htable]
    rfl
  refine List.any_eq_true.2 ⟨s.name, ?_, ?_⟩
  · exact List.mem_map_of_mem (List.mem_map_of_mem hkey)
  · change Names.holdsName ((c.tablesIn s.name).getD []) n.name = true
    rw [htables]
    exact hholds

theorem WellFormed.tableVerdict_of_table? (h : c.WellFormed) {u : Names.TableUse}
    {schema : Sql.Ident} (hschema : u.schema = some schema) {t : TableDef}
    (ht : c.table? (.within schema.value u.table.value) = some t) (checkSchemas : Bool)
    (symbols : Names.Symbols) : Names.tableVerdict c.provider checkSchemas symbols u = [] := by
  have hany := h.inAnySchema_of_table? ht
  change Names.inAnySchema c.provider u.table.value = true at hany
  obtain ⟨s, hs, _⟩ := Option.bind_eq_some_iff.1 ht
  have htables : c.provider.tablesIn schema.value = some s.tableNames := by
    have hfound : c.schema? schema.value = some s := hs
    simp only [provider, tablesIn, hfound, Option.map_some]
  have hholds : Names.holdsName s.tableNames u.table.value = true := by
    rw [h.holdsName_tablesIn htables, ht]
    rfl
  unfold Names.tableVerdict
  rw [hschema]
  cases Names.isExempt symbols u with
  | true => rfl
  | false =>
    cases checkSchemas with
    | true => simp [Names.qualifiedTable, htables, hholds]
    | false =>
      change Names.plainTable c.provider u.table = []
      rw [Names.plainTable, hany, Bool.or_true]
      rfl

theorem WellFormed.holdsName_without (h : c.WellFormed) {name table : String}
    (apart : lower table ≠ lower name) (schema : String) :
    ((c.without name).tablesIn schema).map (Names.holdsName · table) =
      (c.tablesIn schema).map (Names.holdsName · table) := by
  rw [tablesIn, tablesIn, schema?_without]
  cases hschema : c.schema? schema with
  | none => rfl
  | some s =>
    obtain ⟨key, hkey, _⟩ := OrderedMap.find?_eq_some hschema
    have hholds := Schema.holdsName_without (h.schemas _ hkey).tables_keyed apart
    simp only [Option.map_some, hholds]

end Catalog

namespace Names

/-- Two providers list the tables of a name in the same schemas. -/
structure ListsAlike (p q : Provider) (name : String) : Prop where
  inDefault : holdsName p.defaultTables name = holdsName q.defaultTables name
  anywhere : inAnySchema p name = inAnySchema q name
  within : ∀ schema, (p.tablesIn schema).map (holdsName · name) =
    (q.tablesIn schema).map (holdsName · name)

namespace ListsAlike

variable {p q : Provider}

theorem map_plainTable {table : Ident} (h : ListsAlike p q table.value) :
    (plainTable p table).map Finding.withoutHelp =
      (plainTable q table).map Finding.withoutHelp := by
  rw [plainTable, plainTable, h.inDefault, h.anywhere]
  split <;> simp

theorem qualifiedTable_eq {table : Ident} (h : ListsAlike p q table.value) (schema : Ident) :
    qualifiedTable p schema table = qualifiedTable q schema table := by
  have htables := h.within schema.value
  rw [qualifiedTable, qualifiedTable]
  cases hq : q.tablesIn schema.value with
  | none =>
    rw [hq, Option.map_none, Option.map_eq_none_iff] at htables
    rw [htables]
  | some names =>
    rw [hq, Option.map_some, Option.map_eq_some_iff] at htables
    obtain ⟨others, hp, hholds⟩ := htables
    rw [hp]
    simp only [hholds]

theorem map_tableVerdict {u : TableUse} (h : ListsAlike p q u.table.value) (checkSchemas : Bool)
    (symbols : Symbols) :
    (tableVerdict p checkSchemas symbols u).map Finding.withoutHelp =
      (tableVerdict q checkSchemas symbols u).map Finding.withoutHelp := by
  unfold tableVerdict
  split
  next => rfl
  next =>
    split
    next schema _ => rw [h.qualifiedTable_eq]
    next => exact h.map_plainTable

theorem tableVerdict_briefs {u : TableUse} (h : ListsAlike p q u.table.value)
    (checkSchemas : Bool) (symbols : Symbols) :
    (tableVerdict p checkSchemas symbols u).map Finding.brief =
      (tableVerdict q checkSchemas symbols u).map Finding.brief := by
  have hbriefs := congrArg (List.map Finding.brief) (h.map_tableVerdict checkSchemas symbols)
  rw [List.map_map, List.map_map] at hbriefs
  exact hbriefs

end ListsAlike

theorem map_tableFindings_congr {β : Type} {view : Finding → β} {p q : Provider}
    {checkSchemas : Bool} {symbols : Symbols}
    (same : ∀ u ∈ symbols.uses, (tableVerdict p checkSchemas symbols u).map view =
      (tableVerdict q checkSchemas symbols u).map view) :
    (tableFindings p checkSchemas symbols).map view =
      (tableFindings q checkSchemas symbols).map view := by
  rw [tableFindings, tableFindings, List.map_flatMap, List.map_flatMap]
  exact List.flatMap_congr fun u hu => same u (mem_of_mem_firstByKey hu).1

end Names

namespace Catalog

variable {c d : Catalog} {name : String}

theorem listsAlike (default : d.defaultSchema = c.defaultSchema)
    (schemas : d.provider.schemaNames = c.provider.schemaNames)
    (within : ∀ schema, (d.tablesIn schema).map (Names.holdsName · name) =
      (c.tablesIn schema).map (Names.holdsName · name)) :
    Names.ListsAlike d.provider c.provider name := by
  have hgetD : ∀ schema, Names.holdsName ((d.tablesIn schema).getD []) name =
      Names.holdsName ((c.tablesIn schema).getD []) name := by
    have hmap : ∀ names : Option (List String), Names.holdsName (names.getD []) name =
        (names.map (Names.holdsName · name)).getD false := fun names => by cases names <;> rfl
    intro schema
    rw [hmap, hmap, within]
  refine ⟨?_, ?_, within⟩
  · change Names.holdsName ((d.tablesIn d.defaultSchema).getD []) name =
      Names.holdsName ((c.tablesIn c.defaultSchema).getD []) name
    rw [default, hgetD]
  · rw [Names.inAnySchema, Names.inAnySchema, schemas]
    exact List.any_congr rfl hgetD

theorem WellFormed.listsAlike_without (h : c.WellFormed) {table : String}
    (apart : lower table ≠ lower name) :
    Names.ListsAlike (c.without name).provider c.provider table :=
  listsAlike rfl (c.schemaNames_without name) (h.holdsName_without apart)

end Catalog

end SqlAudit
