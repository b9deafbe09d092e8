import SqlAudit.Catalog.Loader
import SqlAudit.Proofs.Catalog.Keys

/-!
The invariant of catalogs. Schemas, tables and columns are stored under their own names, schemas and
tables under names that do not differ in letter case only, tables in the schemas that their names
give. Every operation on a catalog and every definition that a loader runs keeps it.
-/

namespace SqlAudit

open Sql Text

/-! ### Tables -/

/-- A table as the operations build it. -/
inductive TableDef.Built : TableDef → Prop
  | table (name : TableName) : Built (.table name)
  | view (name : TableName) : Built (.view name)
  | addColumn {t : TableDef} (column : ColumnDef) (h : Built t) : Built (t.addColumn column)

namespace TableDef

def WellFormed (t : TableDef) : Prop := t.columns.KeyedBy ColumnDef.name

theorem wellFormed_table (name : TableName) : (table name).WellFormed := OrderedMap.keyedBy_empty

theorem wellFormed_view (name : TableName) : (view name).WellFormed := OrderedMap.keyedBy_empty

theorem WellFormed.addColumn {t : TableDef} (h : t.WellFormed) (c : ColumnDef) :
    (t.addColumn c).WellFormed := OrderedMap.KeyedBy.insert h c

theorem WellFormed.dropColumn {t : TableDef} (h : t.WellFormed) (name : String) :
    (t.dropColumn name).WellFormed := OrderedMap.KeyedBy.eraseName h name

theorem WellFormed.renameColumn {t : TableDef} (h : t.WellFormed) (old new : String) :
    (t.renameColumn old new).WellFormed := by
  unfold TableDef.renameColumn
  split
  next key c _ =>
    have herase : TableDef.WellFormed { t with columns := t.columns.erase key } :=
      OrderedMap.KeyedBy.erase h key
    exact herase.addColumn { c with name := new }
  next => exact h

theorem markFirst_keyed (name : String) {es : List (String × ColumnDef)}
    (h : ∀ e ∈ es, e.1 = e.2.name) : ∀ e ∈ markPrimaryKey.markFirst name es, e.1 = e.2.name := by
  induction es with
  | nil => simp [markPrimaryKey.markFirst]
  | cons d es ih =>
    rw [List.forall_mem_cons] at h
    unfold markPrimaryKey.markFirst
    split
    · exact List.forall_mem_cons.2 ⟨h.1, h.2⟩
    · exact List.forall_mem_cons.2 ⟨h.1, ih h.2⟩

theorem WellFormed.markPrimaryKey {t : TableDef} (h : t.WellFormed) (name : String) :
    (t.markPrimaryKey name).WellFormed := markFirst_keyed name h

theorem WellFormed.applyChange {t : TableDef} (h : t.WellFormed) (change : TableChange) :
    (t.applyChange change).WellFormed := by
  cases change with
  | addColumn column _ => exact h.addColumn _
  | dropColumn name => exact h.dropColumn _
  | renameColumn old new => exact h.renameColumn _ _
  | renameTable | other => exact h

theorem name_renameColumn (t : TableDef) (old new : String) :
    (t.renameColumn old new).name = t.name := by
  unfold renameColumn
  split <;> rfl

theorem name_applyChange (t : TableDef) (change : TableChange) :
    (t.applyChange change).name = t.name := by
  cases change with
  | renameColumn old new => exact t.name_renameColumn _ _
  | addColumn | dropColumn | renameTable | other => rfl

theorem applyChanges_spec (changes : List TableChange) (t : TableDef) :
    (changes.foldl applyChange t).name = t.name ∧
      (t.WellFormed → (changes.foldl applyChange t).WellFormed) := by
  induction changes generalizing t with
  | nil => exact ⟨rfl, id⟩
  | cons change changes ih =>
    obtain ⟨hname, hwell⟩ := ih (t.applyChange change)
    exact ⟨hname.trans (t.name_applyChange change), fun h => hwell (h.applyChange change)⟩

theorem foldl_wellFormed {α : Type} {f : TableDef → α → TableDef}
    (keep : ∀ t a, t.WellFormed → (f t a).WellFormed) (as : List α) {t : TableDef}
    (h : t.WellFormed) : (as.foldl f t).WellFormed := by
  induction as generalizing t with
  | nil => exact h
  | cons a as ih => exact ih (keep t a h)

theorem wellFormed_ofSpecs (name : TableName) (columns : List ColumnSpec) (keys : List Ident) :
    (ofSpecs name columns keys).WellFormed := by
  refine foldl_wellFormed (fun _ k h => h.markPrimaryKey k.value) keys ?_
  exact foldl_wellFormed (fun _ s h => h.addColumn (.ofSpec s)) columns (wellFormed_table name)

theorem wellFormed_ofNames (name : TableName) (columns : List String) :
    (ofNames name columns).WellFormed :=
  foldl_wellFormed (fun _ n h => h.addColumn (.of n "")) columns (wellFormed_view name)

theorem Built.wellFormed {t : TableDef} (h : t.Built) : t.WellFormed := by
  induction h with
  | table name => exact wellFormed_table name
  | view name => exact wellFormed_view name
  | addColumn column _ ih => exact ih.addColumn column

end TableDef

/-! ### Schemas -/

/-- A schema as it is stored under a key of a catalog with a default schema. -/
structure Schema.StoredAs (s : Schema) (key defaultSchema : String) : Prop where
  key_eq : key = s.name
  tables_keyed : s.tables.KeyedBy (·.name.name)
  tables_distinct : s.tables.DistinctNames
  tables_home : ∀ e ∈ s.tables.entries, sameName (e.2.name.schema.getD defaultSchema) key = true
  tables_wellFormed : ∀ e ∈ s.tables.entries, e.2.WellFormed

namespace Schema

variable {s : Schema} {key defaultSchema : String}

theorem storedAs_empty (name defaultSchema : String) :
    (Schema.empty name).StoredAs name defaultSchema where
  key_eq := rfl
  tables_keyed := OrderedMap.keyedBy_empty
  tables_distinct := OrderedMap.distinctNames_empty
  tables_home _ he := nomatch he
  tables_wellFormed _ he := nomatch he

theorem StoredAs.dropTable (h : s.StoredAs key defaultSchema) (name : String) :
    (s.dropTable name).StoredAs key defaultSchema where
  key_eq := h.key_eq
  tables_keyed := h.tables_keyed.eraseName name
  tables_distinct := h.tables_distinct.eraseName name
  tables_home e he := h.tables_home e (OrderedMap.mem_eraseName.1 he).1
  tables_wellFormed e he := h.tables_wellFormed e (OrderedMap.mem_eraseName.1 he).1

theorem StoredAs.putTable (h : s.StoredAs key defaultSchema) {t : TableDef} (ht : t.WellFormed)
    (home : sameName (t.name.schema.getD defaultSchema) key = true) :
    (s.putTable t).StoredAs key defaultSchema := by
  have hdrop := h.dropTable t.name.name
  refine ⟨h.key_eq, hdrop.tables_keyed.insert t, ?_, fun e he => ?_, fun e he => ?_⟩
  · exact hdrop.tables_distinct.insert t fun e he => (OrderedMap.mem_eraseName.1 he).2
  · rcases OrderedMap.mem_insert he with he | rfl
    · exact hdrop.tables_home e he
    · exact home
  · rcases OrderedMap.mem_insert he with he | rfl
    · exact hdrop.tables_wellFormed e he
    · exact ht

theorem StoredAs.updateTable (h : s.StoredAs key defaultSchema) (name : String)
    {f : TableDef → TableDef} (hname : ∀ t, (f t).name = t.name)
    (hwell : ∀ t, t.WellFormed → (f t).WellFormed) :
    Schema.StoredAs { s with tables := s.tables.update name f } key defaultSchema := by
  refine ⟨h.key_eq, h.tables_keyed.update name fun t => ?_, h.tables_distinct.update name f,
    fun e he => ?_, fun e he => ?_⟩
  · rw [hname]
  · rcases OrderedMap.mem_update he with he | ⟨e', he', _, rfl⟩
    · exact h.tables_home e he
    · simpa only [hname] using h.tables_home e' he'
  · rcases OrderedMap.mem_update he with he | ⟨e', he', _, rfl⟩
    · exact h.tables_wellFormed e he
    · exact hwell _ (h.tables_wellFormed e' he')

end Schema

/-! ### Catalogs -/

namespace Catalog

structure WellFormed (c : Catalog) : Prop where
  default_known : (c.schema? c.defaultSchema).isSome = true
  schemas_distinct : c.schemas.DistinctNames
  schemas : ∀ e ∈ c.schemas.entries, e.2.StoredAs e.1 c.defaultSchema

/-- A catalog as the operations on catalogs and the definitions of scripts build it. -/
inductive Built : Catalog → Prop
  | ofDefault (name : String) : Built (ofDefault name)
  | ensureSchema {c : Catalog} (name : String) (h : Built c) : Built (c.ensureSchema name)
  | addTable {c : Catalog} {t : TableDef} (ht : t.Built) (h : Built c) : Built (c.addTable t)
  | addColumn {c : Catalog} (n : TableName) (column : ColumnDef) (h : Built c) :
    Built (c.updateTable n (·.addColumn column))
  | dropTable {c : Catalog} (n : TableName) (h : Built c) : Built (c.dropTable n)
  | run {l : Loader} (s : Statement) (h : Built l.catalog) : Built (l.run s).catalog

variable {c : Catalog}

theorem schema?_ensureSchema_isSome (c : Catalog) (name : String) :
    ((c.ensureSchema name).schema? name).isSome = true := by
  unfold ensureSchema
  split
  next h => rw [h]; rfl
  next h =>
    have hfresh := OrderedMap.find?_eq_none.1 h
    have hnew : c.schemas.contains name = false := by
      rw [OrderedMap.contains, List.any_eq_false]
      intro e he hkey
      have hsame := hfresh e he
      rw [beq_iff_eq.1 hkey, sameName_refl] at hsame
      cases hsame
    refine OrderedMap.isSome_find?.2 ⟨(name, .empty name), ?_, sameName_refl name⟩
    simp [OrderedMap.insert, hnew]

theorem schema?_ensureSchema_of_isSome {name other : String} (h : (c.schema? other).isSome = true) :
    ((c.ensureSchema name).schema? other).isSome = true := by
  unfold ensureSchema
  split
  next => exact h
  next hnone =>
    obtain ⟨e, he, hname⟩ := OrderedMap.isSome_find?.1 h
    have hne : (e.1 == name) = false := by
      rw [beq_eq_false_iff_ne]
      rintro rfl
      simpa using OrderedMap.find?_eq_none.1 hnone e he
    refine OrderedMap.isSome_find?.2 ⟨e, ?_, hname⟩
    unfold OrderedMap.insert
    split
    · refine List.mem_map.2 ⟨e, he, ?_⟩
      rw [hne, if_neg Bool.false_ne_true]
    · exact List.mem_append_left _ he

theorem defaultSchema_ensureSchema (c : Catalog) (name : String) :
    (c.ensureSchema name).defaultSchema = c.defaultSchema := by
  unfold ensureSchema
  split <;> rfl

theorem schemas_ensureSchema (hdistinct : c.schemas.DistinctNames)
    (hschemas : ∀ e ∈ c.schemas.entries, e.2.StoredAs e.1 c.defaultSchema) (name : String) :
    (c.ensureSchema name).schemas.DistinctNames ∧
      ∀ e ∈ (c.ensureSchema name).schemas.entries, e.2.StoredAs e.1 c.defaultSchema := by
  unfold ensureSchema
  split
  next => exact ⟨hdistinct, hschemas⟩
  next hnone =>
    refine ⟨hdistinct.insert _ (OrderedMap.find?_eq_none.1 hnone), fun e he => ?_⟩
    rcases OrderedMap.mem_insert he with he | rfl
    · exact hschemas e he
    · exact Schema.storedAs_empty name c.defaultSchema

theorem WellFormed.ensureSchema (h : c.WellFormed) (name : String) :
    (c.ensureSchema name).WellFormed := by
  obtain ⟨hdistinct, hschemas⟩ := schemas_ensureSchema h.schemas_distinct h.schemas name
  refine ⟨?_, hdistinct, ?_⟩
  · rw [defaultSchema_ensureSchema]
    exact schema?_ensureSchema_of_isSome h.default_known
  · rw [defaultSchema_ensureSchema]
    exact hschemas

theorem wellFormed_ofDefault (name : String) : (ofDefault name).WellFormed := by
  obtain ⟨hdistinct, hschemas⟩ := schemas_ensureSchema (c := ⟨.empty, name⟩)
    OrderedMap.distinctNames_empty (fun _ he => nomatch he) name
  refine ⟨?_, hdistinct, ?_⟩
  · rw [ofDefault, defaultSchema_ensureSchema]
    exact schema?_ensureSchema_isSome _ name
  · rw [ofDefault, defaultSchema_ensureSchema]
    exact hschemas

theorem WellFormed.updateSchema (h : c.WellFormed) {name : String} {f : Schema → Schema}
    (keep : ∀ s key, sameName key name = true → s.StoredAs key c.defaultSchema →
      (f s).StoredAs key c.defaultSchema) : (c.updateSchema name f).WellFormed := by
  refine ⟨?_, h.schemas_distinct.update name f, fun e he => ?_⟩
  · have hdefault := h.default_known
    simp only [schema?, Catalog.updateSchema, OrderedMap.find?_update] at hdefault ⊢
    split <;> simp [hdefault]
  · rcases OrderedMap.mem_update he with he | ⟨e', he', hname, rfl⟩
    · exact h.schemas e he
    · exact keep e'.2 e'.1 hname (h.schemas e' he')

theorem WellFormed.addTable (h : c.WellFormed) {t : TableDef} (ht : t.WellFormed) :
    (c.addTable t).WellFormed := by
  refine (h.ensureSchema _).updateSchema fun s key hkey hs => hs.putTable ht ?_
  rw [defaultSchema_ensureSchema, sameName_comm]
  exact hkey

theorem WellFormed.dropTable (h : c.WellFormed) (n : TableName) : (c.dropTable n).WellFormed :=
  h.updateSchema fun _ _ _ hs => hs.dropTable n.name

theorem WellFormed.updateTable (h : c.WellFormed) (n : TableName) {f : TableDef → TableDef}
    (hname : ∀ t, (f t).name = t.name) (hwell : ∀ t, t.WellFormed → (f t).WellFormed) :
    (c.updateTable n f).WellFormed :=
  h.updateSchema fun _ _ _ hs => hs.updateTable n.name hname hwell

theorem exists_of_table?_eq_some {n : TableName} {t : TableDef} (h : c.table? n = some t) :
    ∃ e ∈ c.schemas.entries, sameName e.1 (c.schemaName n) = true ∧
      ∃ key, (key, t) ∈ e.2.tables.entries ∧ sameName key n.name = true := by
  obtain ⟨s, hs, ht⟩ := Option.bind_eq_some_iff.1 h
  obtain ⟨schemaKey, hschema, hschemaName⟩ := OrderedMap.find?_eq_some hs
  exact ⟨(schemaKey, s), hschema, hschemaName, OrderedMap.find?_eq_some ht⟩

theorem WellFormed.table_wellFormed (h : c.WellFormed) {n : TableName} {t : TableDef}
    (ht : c.table? n = some t) : t.WellFormed := by
  obtain ⟨e, he, _, key, hkey, _⟩ := exists_of_table?_eq_some ht
  exact (h.schemas e he).tables_wellFormed (key, t) hkey

theorem WellFormed.table_name (h : c.WellFormed) {n : TableName} {t : TableDef}
    (ht : c.table? n = some t) : sameName t.name.name n.name = true := by
  obtain ⟨e, he, _, key, hkey, hname⟩ := exists_of_table?_eq_some ht
  have hkeyed : key = t.name.name := (h.schemas e he).tables_keyed (key, t) hkey
  rw [← hkeyed]
  exact hname

theorem WellFormed.moveTable (h : c.WellFormed) (n new : TableName) :
    (c.moveTable n new).WellFormed := by
  unfold Catalog.moveTable
  split
  next t ht =>
    have hwell : t.WellFormed := h.table_wellFormed ht
    refine (h.dropTable n).addTable ?_
    exact hwell
  next => exact h

theorem WellFormed.alterTable (h : c.WellFormed) (n : TableName) (changes : List TableChange) :
    (c.alterTable n changes).WellFormed := by
  have hchanged : (c.updateTable n fun t => changes.foldl TableDef.applyChange t).WellFormed :=
    h.updateTable n (fun t => (TableDef.applyChanges_spec changes t).1)
      fun t => (TableDef.applyChanges_spec changes t).2
  unfold Catalog.alterTable
  split
  · exact hchanged.moveTable n _
  · exact hchanged

theorem WellFormed.dropTables (h : c.WellFormed) (names : List Path) :
    (names.foldl (fun c n => c.dropTable (.ofPath n)) c).WellFormed := by
  induction names generalizing c with
  | nil => exact h
  | cons n names ih => exact ih (h.dropTable (.ofPath n))

/-- Whatever a definition does, it keeps the invariant. -/
theorem WellFormed.define {l : Loader} (h : l.catalog.WellFormed) (query : Option Query)
    (definition : Definition) : (l.define query definition).catalog.WellFormed := by
  cases definition with
  | schema name =>
    cases name with
    | none => exact h
    | some name => exact h.ensureSchema name.value
  | table name columns keys _ => exact h.addTable (TableDef.wellFormed_ofSpecs _ columns keys)
  | view name columns _ => exact h.addTable (TableDef.wellFormed_ofNames _ _)
  | alter name changes =>
    simp only [Loader.define]
    split
    · exact h.alterTable _ changes
    · exact h
  | drop names => exact h.dropTables names

theorem WellFormed.run {l : Loader} (h : l.catalog.WellFormed) (s : Statement) :
    (l.run s).catalog.WellFormed := by
  cases s with
  | define definition _ query _ => exact h.define query definition
  | query | insert | update | delete | explain | prepare | other => exact h

/-- Every catalog that the operations build keeps the invariant. -/
theorem Built.wellFormed (h : c.Built) : c.WellFormed := by
  induction h with
  | ofDefault name => exact wellFormed_ofDefault name
  | ensureSchema name _ ih => exact ih.ensureSchema name
  | addTable ht _ ih => exact ih.addTable ht.wellFormed
  | addColumn n column _ ih => exact ih.updateTable n (fun _ => rfl) fun t ht => ht.addColumn column
  | dropTable n _ ih => exact ih.dropTable n
  | run s _ ih => exact ih.run s

end Catalog

end SqlAudit
