import SqlAudit.Proofs.Catalog.WellFormed

/-!
Ordered maps have every key once. The operations on maps keep that, and so do the operations on
catalogs for their schemas, tables and columns, whichever catalog they start from.
-/

namespace SqlAudit

open Sql

/-! ### Maps -/

namespace OrderedMap

variable {α : Type} {m : OrderedMap α}

def DistinctKeys (m : OrderedMap α) : Prop := m.keys.Nodup

instance (m : OrderedMap α) : Decidable m.DistinctKeys := inferInstanceAs (Decidable m.keys.Nodup)

theorem distinctKeys_empty : (empty : OrderedMap α).DistinctKeys := List.nodup_nil

theorem DistinctKeys.insert (h : m.DistinctKeys) (key : String) (value : α) :
    (m.insert key value).DistinctKeys := by
  rw [DistinctKeys, keys_insert]
  split
  next => exact h
  next hnew =>
    rw [contains_iff_mem_keys] at hnew
    rw [List.nodup_append]
    refine ⟨h, List.pairwise_singleton _ key, fun a ha b hb => ?_⟩
    rw [List.mem_singleton.1 hb]
    exact ne_of_mem_of_not_mem ha hnew

theorem DistinctKeys.eraseName (h : m.DistinctKeys) (name : String) :
    (m.eraseName name).DistinctKeys := h.sublist (List.filter_sublist.map _)

theorem DistinctKeys.erase (h : m.DistinctKeys) (key : String) : (m.erase key).DistinctKeys :=
  h.sublist (List.filter_sublist.map _)

theorem DistinctKeys.update (h : m.DistinctKeys) (name : String) (f : α → α) :
    (m.update name f).DistinctKeys := by
  rw [DistinctKeys, keys_update]
  exact h

end OrderedMap

/-! ### Tables -/

namespace TableDef

def DistinctKeys (t : TableDef) : Prop := t.columns.DistinctKeys

instance (t : TableDef) : Decidable t.DistinctKeys :=
  inferInstanceAs (Decidable t.columns.DistinctKeys)

variable {t : TableDef}

theorem distinctKeys_table (name : TableName) : (table name).DistinctKeys :=
  OrderedMap.distinctKeys_empty

theorem distinctKeys_view (name : TableName) : (view name).DistinctKeys :=
  OrderedMap.distinctKeys_empty

theorem DistinctKeys.addColumn (h : t.DistinctKeys) (c : ColumnDef) :
    (t.addColumn c).DistinctKeys := OrderedMap.DistinctKeys.insert h c.name c

theorem DistinctKeys.dropColumn (h : t.DistinctKeys) (name : String) :
    (t.dropColumn name).DistinctKeys := OrderedMap.DistinctKeys.eraseName h name

theorem DistinctKeys.renameColumn (h : t.DistinctKeys) (old new : String) :
    (t.renameColumn old new).DistinctKeys := by
  unfold TableDef.renameColumn
  split
  next key c _ =>
    have herase : TableDef.DistinctKeys { t with columns := t.columns.erase key } :=
      OrderedMap.DistinctKeys.erase h key
    exact herase.addColumn { c with name := new }
  next => exact h

theorem keys_markFirst (name : String) (es : List (String × ColumnDef)) :
    (markPrimaryKey.markFirst name es).map (·.1) = es.map (·.1) := by
  induction es with
  | nil => rfl
  | cons e es ih =>
    unfold markPrimaryKey.markFirst
    split
    · rfl
    · rw [List.map_cons, List.map_cons, ih]

theorem DistinctKeys.markPrimaryKey (h : t.DistinctKeys) (name : String) :
    (t.markPrimaryKey name).DistinctKeys := by
  have hkeys : (t.markPrimaryKey name).columns.keys = t.columns.keys := keys_markFirst name _
  rw [TableDef.DistinctKeys, OrderedMap.DistinctKeys, hkeys]
  exact h

theorem DistinctKeys.applyChange (h : t.DistinctKeys) (change : TableChange) :
    (t.applyChange change).DistinctKeys := by
  cases change with
  | addColumn column _ => exact h.addColumn _
  | dropColumn name => exact h.dropColumn _
  | renameColumn old new => exact h.renameColumn _ _
  | renameTable | other => exact h

theorem distinctKeys_ofSpecs (name : TableName) (columns : List ColumnSpec) (keys : List Ident) :
    (ofSpecs name columns keys).DistinctKeys := by
  refine List.foldlRecOn keys _ ?_ fun _ h k _ => h.markPrimaryKey k.value
  exact List.foldlRecOn columns _ (distinctKeys_table name) fun _ h s _ => h.addColumn (.ofSpec s)

theorem distinctKeys_ofNames (name : TableName) (columns : List String) :
    (ofNames name columns).DistinctKeys :=
  List.foldlRecOn columns _ (distinctKeys_view name) fun _ h n _ => h.addColumn (.of n "")

theorem Built.distinctKeys (h : t.Built) : t.DistinctKeys := by
  induction h with
  | table name => exact distinctKeys_table name
  | view name => exact distinctKeys_view name
  | addColumn column _ ih => exact ih.addColumn column

end TableDef

/-! ### Schemas -/

namespace Schema

structure DistinctKeys (s : Schema) : Prop where
  tables : s.tables.DistinctKeys
  columns : ∀ e ∈ s.tables.entries, e.2.DistinctKeys

instance (s : Schema) : Decidable s.DistinctKeys :=
  decidable_of_iff (s.tables.DistinctKeys ∧ ∀ e ∈ s.tables.entries, e.2.DistinctKeys)
    ⟨fun h => ⟨h.1, h.2⟩, fun h => ⟨h.tables, h.columns⟩⟩

variable {s : Schema}

theorem distinctKeys_empty (name : String) : (empty name).DistinctKeys where
  tables := OrderedMap.distinctKeys_empty
  columns _ he := nomatch he

theorem DistinctKeys.dropTable (h : s.DistinctKeys) (name : String) :
    (s.dropTable name).DistinctKeys where
  tables := h.tables.eraseName name
  columns e he := h.columns e (OrderedMap.mem_eraseName.1 he).1

theorem DistinctKeys.putTable (h : s.DistinctKeys) {t : TableDef} (ht : t.DistinctKeys) :
    (s.putTable t).DistinctKeys where
  tables := (h.dropTable t.name.name).tables.insert _ t
  columns e he := by
    rcases OrderedMap.mem_insert he with he | rfl
    · exact (h.dropTable t.name.name).columns e he
    · exact ht

theorem DistinctKeys.updateTable (h : s.DistinctKeys) (name : String) {f : TableDef → TableDef}
    (keep : ∀ t, t.DistinctKeys → (f t).DistinctKeys) :
    Schema.DistinctKeys { s with tables := s.tables.update name f } where
  tables := h.tables.update name f
  columns e he := by
    rcases OrderedMap.mem_update he with he | ⟨e', he', _, rfl⟩
    · exact h.columns e he
    · exact keep _ (h.columns e' he')

end Schema

/-! ### Catalogs -/

namespace Catalog

structure DistinctKeys (c : Catalog) : Prop where
  schemas : c.schemas.DistinctKeys
  tables : ∀ e ∈ c.schemas.entries, e.2.DistinctKeys

instance (c : Catalog) : Decidable c.DistinctKeys :=
  decidable_of_iff (c.schemas.DistinctKeys ∧ ∀ e ∈ c.schemas.entries, e.2.DistinctKeys)
    ⟨fun h => ⟨h.1, h.2⟩, fun h => ⟨h.schemas, h.tables⟩⟩

variable {c : Catalog}

theorem DistinctKeys.ensureSchema (h : c.DistinctKeys) (name : String) :
    (c.ensureSchema name).DistinctKeys := by
  unfold Catalog.ensureSchema
  split
  next => exact h
  next =>
    refine ⟨h.schemas.insert name _, fun e he => ?_⟩
    rcases OrderedMap.mem_insert he with he | rfl
    · exact h.tables e he
    · exact Schema.distinctKeys_empty name

theorem distinctKeys_ofDefault (name : String) : (ofDefault name).DistinctKeys :=
  DistinctKeys.ensureSchema ⟨OrderedMap.distinctKeys_empty, List.forall_mem_nil _⟩ name

theorem DistinctKeys.updateSchema (h : c.DistinctKeys) (name : String) {f : Schema → Schema}
    (keep : ∀ s, s.DistinctKeys → (f s).DistinctKeys) :
    (c.updateSchema name f).DistinctKeys where
  schemas := h.schemas.update name f
  tables e he := by
    rcases OrderedMap.mem_update he with he | ⟨e', he', _, rfl⟩
    · exact h.tables e he
    · exact keep _ (h.tables e' he')

theorem DistinctKeys.addTable (h : c.DistinctKeys) {t : TableDef} (ht : t.DistinctKeys) :
    (c.addTable t).DistinctKeys :=
  (h.ensureSchema _).updateSchema _ fun _ hs => hs.putTable ht

theorem DistinctKeys.dropTable (h : c.DistinctKeys) (n : TableName) :
    (c.dropTable n).DistinctKeys := h.updateSchema _ fun _ hs => hs.dropTable n.name

theorem DistinctKeys.updateTable (h : c.DistinctKeys) (n : TableName) {f : TableDef → TableDef}
    (keep : ∀ t, t.DistinctKeys → (f t).DistinctKeys) : (c.updateTable n f).DistinctKeys :=
  h.updateSchema _ fun _ hs => hs.updateTable n.name keep

theorem DistinctKeys.of_table? (h : c.DistinctKeys) {n : TableName} {t : TableDef}
    (ht : c.table? n = some t) : t.DistinctKeys := by
  obtain ⟨e, he, _, key, hkey, _⟩ := exists_of_table?_eq_some ht
  exact (h.tables e he).columns (key, t) hkey

theorem DistinctKeys.moveTable (h : c.DistinctKeys) (n new : TableName) :
    (c.moveTable n new).DistinctKeys := by
  unfold Catalog.moveTable
  split
  next t ht =>
    have hcolumns : t.DistinctKeys := h.of_table? ht
    refine (h.dropTable n).addTable ?_
    exact hcolumns
  next => exact h

theorem DistinctKeys.alterTable (h : c.DistinctKeys) (n : TableName) (changes : List TableChange) :
    (c.alterTable n changes).DistinctKeys := by
  have hchanged := h.updateTable n (f := fun t => changes.foldl TableDef.applyChange t)
    fun t ht => List.foldlRecOn changes _ ht fun _ h change _ => h.applyChange change
  unfold Catalog.alterTable
  split
  · exact hchanged.moveTable n _
  · exact hchanged

theorem DistinctKeys.define {l : Loader} (h : l.catalog.DistinctKeys) (query : Option Query)
    (definition : Definition) : (l.define query definition).catalog.DistinctKeys := by
  cases definition with
  | schema name =>
    cases name with
    | none => exact h
    | some name => exact h.ensureSchema name.value
  | table name columns keys _ => exact h.addTable (TableDef.distinctKeys_ofSpecs _ columns keys)
  | view name columns _ => exact h.addTable (TableDef.distinctKeys_ofNames _ _)
  | alter name changes =>
    simp only [Loader.define]
    split
    · exact h.alterTable _ changes
    · exact h
  | drop names => exact List.foldlRecOn names _ h fun _ h n _ => h.dropTable (.ofPath n)

theorem DistinctKeys.run {l : Loader} (h : l.catalog.DistinctKeys) (s : Statement) :
    (l.run s).catalog.DistinctKeys := by
  cases s with
  | define definition _ query _ => exact h.define query definition
  | query | insert | update | delete | explain | prepare | other => exact h

theorem DistinctKeys.runAll {l : Loader} (h : l.catalog.DistinctKeys)
    (statements : List Statement) : (l.runAll statements).catalog.DistinctKeys := by
  induction statements generalizing l with
  | nil => exact h
  | cons s statements ih => exact ih (h.run s)

theorem DistinctKeys.load {l l' : Loader} {script : String} (h : l.catalog.DistinctKeys)
    (loaded : l.load script = .ok l') : l'.catalog.DistinctKeys := by
  simp only [Loader.load_eq] at loaded
  split at loaded
  next statements _ =>
    cases loaded
    exact h.runAll statements
  next =>
    split at loaded
    · cases loaded
    · cases loaded
      exact h.runAll _

theorem Built.distinctKeys (h : c.Built) : c.DistinctKeys := by
  induction h with
  | ofDefault name => exact distinctKeys_ofDefault name
  | ensureSchema name _ ih => exact ih.ensureSchema name
  | addTable ht _ ih => exact ih.addTable ht.distinctKeys
  | addColumn n column _ ih => exact ih.updateTable n fun _ ht => ht.addColumn column
  | dropTable n _ ih => exact ih.dropTable n
  | run s _ ih => exact ih.run s

end Catalog

end SqlAudit
