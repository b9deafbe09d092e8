import SqlAudit.Proofs.Catalog.Lookup

/-!
A catalog as a map from the names of tables. Names are taken for the same one up to letter case, the
default schema standing where none is given. Adding, dropping and changing a table is said by what is
found afterwards under every name; the catalog may be any, also one with several keys for a name.
-/

namespace SqlAudit

open Text

namespace OrderedMap

variable {α β : Type}

theorem contains_of_fresh {m : OrderedMap α} {key : String}
    (fresh : ∀ e ∈ m.entries, sameName e.1 key = false) : m.contains key = false := by
  rw [contains, List.any_eq_false]
  intro e he hkey
  have hother := fresh e he
  rw [beq_iff_eq.1 hkey, sameName_refl] at hother
  exact Bool.noConfusion hother

theorem find?_insert_of_fresh {m : OrderedMap α} {key : String}
    (fresh : ∀ e ∈ m.entries, sameName e.1 key = false) (value : α) (k : String) :
    (m.insert key value).find? k = if sameName key k then some value else m.find? k := by
  have hentries := entries_insert_of_new (contains_of_fresh fresh) value
  rw [find?, lookup?, hentries, List.find?_append, find?, lookup?]
  split
  next hk =>
    have hnone : m.entries.find? (sameName ·.1 k) = none := by
      rw [List.find?_eq_none]
      intro e he
      rw [← sameName_congr_right hk, fresh e he]
      exact Bool.false_ne_true
    rw [hnone]
    simp [hk]
  next hk =>
    have hlast : [(key, value)].find? (sameName ·.1 k) = none := by simpa using hk
    rw [hlast, Option.or_none]

theorem size_eraseName_ne_iff {m : OrderedMap α} {name : String} :
    (m.eraseName name).size ≠ m.size ↔ (m.find? name).isSome = true := by
  rw [isSome_find?, size, size, eraseName, Ne, List.length_filter_eq_length_iff]
  simp

theorem update_congr {m : OrderedMap α} {name : String} {f g : α → α}
    (agree : ∀ value, m.find? name = some value → f value = g value) :
    m.update name f = m.update name g := by
  obtain ⟨entries⟩ := m
  simp only [find?, lookup?] at agree
  rw [update, update]
  congr 1
  induction entries with
  | nil => rfl
  | cons e es ih =>
    rw [updateFirst, updateFirst]
    cases hname : sameName e.1 name with
    | true =>
      have hvalue : f e.2 = g e.2 := agree e.2 (by simp [hname])
      rw [if_pos rfl, if_pos rfl, hvalue]
    | false =>
      have hrest : updateFirst name f es = updateFirst name g es := by
        refine ih fun value hvalue => agree value ?_
        rw [List.find?_cons, hname]
        exact hvalue
      rw [if_neg Bool.false_ne_true, if_neg Bool.false_ne_true, hrest]

theorem updateFirst_id (name : String) (es : List (String × α)) : updateFirst name id es = es := by
  induction es with
  | nil => rfl
  | cons e es ih => rw [updateFirst, ih, id, ite_self]

theorem update_eq_self {m : OrderedMap α} {name : String} {f : α → α}
    (keep : ∀ value, m.find? name = some value → f value = value) : m.update name f = m := by
  rw [update_congr (g := id) keep, update, updateFirst_id]

theorem update_eq_self_iff {m : OrderedMap α} {name : String} {f : α → α} :
    m.update name f = m ↔ ∀ value, m.find? name = some value → f value = value := by
  constructor
  · intro same value found
    have changed := m.find?_update name name f
    rw [same, sameName_refl, if_pos rfl, found, Option.map_some] at changed
    exact (Option.some.inj changed).symm
  · exact update_eq_self

theorem map_values_update {f : α → α} {g : α → β} (keep : ∀ a, g (f a) = g a)
    (m : OrderedMap α) (name : String) : (m.update name f).values.map g = m.values.map g := by
  obtain ⟨entries⟩ := m
  simp only [values, update, List.map_map]
  induction entries with
  | nil => rfl
  | cons e es ih =>
    rw [updateFirst]
    split
    · simp [keep]
    · simpa using ih

end OrderedMap

namespace Schema

theorem table?_putTable (s : Schema) (t : TableDef) (name : String) :
    (s.putTable t).table? name = if sameName t.name.name name then some t else s.table? name := by
  have hfresh : ∀ e ∈ (s.tables.eraseName t.name.name).entries, sameName e.1 t.name.name = false :=
    fun e he => (OrderedMap.mem_eraseName.1 he).2
  rw [table?, putTable, OrderedMap.find?_insert_of_fresh hfresh, OrderedMap.find?_eraseName]
  split <;> rfl

theorem table?_dropTable (s : Schema) (dropped name : String) :
    (s.dropTable dropped).table? name = if sameName dropped name then none else s.table? name :=
  s.tables.find?_eraseName dropped name

end Schema

namespace Catalog

variable (c : Catalog)

def sameTable (a b : TableName) : Bool :=
  sameName (c.schemaName a) (c.schemaName b) && sameName a.name b.name

theorem sameTable_refl (n : TableName) : c.sameTable n n = true := by
  rw [sameTable, sameName_refl, sameName_refl, Bool.and_self]

theorem sameTable_comm (a b : TableName) : c.sameTable a b = c.sameTable b a := by
  rw [sameTable, sameTable, sameName_comm (c.schemaName a), sameName_comm a.name]

theorem table?_of_sameTable {a b : TableName} (h : c.sameTable a b = true) :
    c.table? a = c.table? b := by
  rw [sameTable, Bool.and_eq_true] at h
  exact table?_congr h.1 h.2

theorem schema?_ensureSchema (name schema : String) :
    (c.ensureSchema name).schema? schema =
      if (c.schema? name).isNone && sameName name schema then some (.empty name)
      else c.schema? schema := by
  unfold ensureSchema
  split
  next h => simp [h]
  next h =>
    have hfresh := OrderedMap.find?_eq_none.1 h
    rw [schema?, OrderedMap.find?_insert_of_fresh hfresh, h]
    rfl

theorem schema?_updateSchema (name schema : String) (f : Schema → Schema) :
    (c.updateSchema name f).schema? schema =
      if sameName name schema then (c.schema? schema).map f else c.schema? schema :=
  c.schemas.find?_update name schema f

theorem schemaNames_updateSchema {g : Schema → Schema} (keep : ∀ s, (g s).name = s.name)
    (name : String) :
    (c.updateSchema name g).provider.schemaNames = c.provider.schemaNames :=
  OrderedMap.map_values_update keep c.schemas name

theorem schemaName_ensureSchema (name : String) (n : TableName) :
    (c.ensureSchema name).schemaName n = c.schemaName n := by
  rw [schemaName, defaultSchema_ensureSchema, schemaName]

theorem table?_ensureSchema (name : String) (n : TableName) :
    (c.ensureSchema name).table? n = c.table? n := by
  rw [table?, table?, schemaName_ensureSchema, schema?_ensureSchema]
  split
  next h =>
    rw [Bool.and_eq_true, Option.isNone_iff_eq_none] at h
    have hnone : c.schema? (c.schemaName n) = none := by
      rw [← h.1]
      exact (OrderedMap.find?_congr h.2).symm
    rw [hnone]
    rfl
  next => rfl

theorem table?_updateSchema (name : String) (f : Schema → Schema) (n : TableName) :
    (c.updateSchema name f).table? n =
      if sameName name (c.schemaName n) then
        (c.schema? (c.schemaName n)).bind fun s => (f s).table? n.name
      else c.table? n := by
  have hschema : (c.updateSchema name f).schemaName n = c.schemaName n := rfl
  rw [table?, hschema, schema?_updateSchema]
  split
  · rw [Option.bind_map]
    rfl
  · rfl

theorem table?_addTable (t : TableDef) (n : TableName) :
    (c.addTable t).table? n = if c.sameTable n t.name then some t else c.table? n := by
  have hschema : (c.ensureSchema (c.schemaName t.name)).schemaName n = c.schemaName n :=
    c.schemaName_ensureSchema _ n
  rw [addTable, table?_updateSchema, hschema, table?_ensureSchema, sameTable,
    sameName_comm (c.schemaName n), sameName_comm n.name]
  cases hs : sameName (c.schemaName t.name) (c.schemaName n) with
  | false => simp
  | true =>
    have hmade : ∃ s, (c.ensureSchema (c.schemaName t.name)).schema? (c.schemaName n) = some s := by
      have hsome := schema?_ensureSchema_isSome c (c.schemaName t.name)
      rw [schema?, OrderedMap.find?_congr hs] at hsome
      exact Option.isSome_iff_exists.1 hsome
    obtain ⟨s, hs'⟩ := hmade
    have hold : c.table? n = s.table? n.name := by
      rw [← c.table?_ensureSchema (c.schemaName t.name), table?, hschema, hs', Option.bind_some]
    rw [hs', if_pos rfl, Option.bind_some, Schema.table?_putTable, Bool.true_and, hold]

theorem table?_dropTable (m n : TableName) :
    (c.dropTable m).table? n = if c.sameTable n m then none else c.table? n := by
  rw [dropTable, table?_updateSchema, sameTable, sameName_comm (c.schemaName n),
    sameName_comm n.name]
  cases hs : sameName (c.schemaName m) (c.schemaName n) with
  | false => simp
  | true =>
    rw [if_pos rfl, Bool.true_and, table?]
    cases c.schema? (c.schemaName n) with
    | none => simp
    | some s => exact s.table?_dropTable m.name n.name

theorem table?_updateTable (m n : TableName) (f : TableDef → TableDef) :
    (c.updateTable m f).table? n = if c.sameTable n m then (c.table? n).map f else c.table? n := by
  rw [updateTable, table?_updateSchema, sameTable, sameName_comm (c.schemaName n),
    sameName_comm n.name]
  cases hs : sameName (c.schemaName m) (c.schemaName n) with
  | false => simp
  | true =>
    rw [if_pos rfl, Bool.true_and, table?]
    cases c.schema? (c.schemaName n) with
    | none => simp
    | some s => exact s.tables.find?_update m.name n.name f

theorem table?_updateTable_self {n : TableName} {t : TableDef} (found : c.table? n = some t)
    (f : TableDef → TableDef) : (c.updateTable n f).table? n = some (f t) := by
  rw [table?_updateTable, if_pos (c.sameTable_refl n), found, Option.map_some]

theorem hasTable_updateTable (m n : TableName) (f : TableDef → TableDef) :
    (c.updateTable m f).hasTable n = c.hasTable n := by
  rw [hasTable, table?_updateTable]
  split
  next => rw [Option.isSome_map, hasTable]
  next => rfl

theorem dropsTable_eq_hasTable (m : TableName) : c.dropsTable m = c.hasTable m := by
  rw [dropsTable, hasTable, table?]
  cases c.schema? (c.schemaName m) with
  | none => rfl
  | some s =>
    rw [Bool.eq_iff_iff, bne_iff_ne]
    exact OrderedMap.size_eraseName_ne_iff

theorem updateTable_congr {n : TableName} {f g : TableDef → TableDef}
    (agree : ∀ t, c.table? n = some t → f t = g t) : c.updateTable n f = c.updateTable n g := by
  rw [updateTable, updateSchema, updateTable, updateSchema]
  congr 1
  refine OrderedMap.update_congr fun s hs => ?_
  congr 1
  refine OrderedMap.update_congr fun t ht => agree t ?_
  exact Option.bind_eq_some_iff.2 ⟨s, hs, ht⟩

theorem updateTable_eq_self {n : TableName} (missing : c.table? n = none)
    (f : TableDef → TableDef) : c.updateTable n f = c := by
  rw [updateTable, updateSchema, OrderedMap.update_eq_self]
  intro s hs
  rw [OrderedMap.update_eq_self]
  intro t ht
  have hfound : c.table? n = some t := Option.bind_eq_some_iff.2 ⟨s, hs, ht⟩
  rw [missing] at hfound
  cases hfound

/-! ### The laws of the map -/

/-- Adding and dropping change what is found under the names of one table only, dropping tells
whether it was there, and a change is one of the table that is found, if one is. -/
theorem tables_map :
    (∀ t n, (c.addTable t).table? n = if c.sameTable n t.name then some t else c.table? n) ∧
    (∀ m n, (c.dropTable m).table? n = if c.sameTable n m then none else c.table? n) ∧
    (∀ m, c.dropsTable m = true ↔ (c.table? m).isSome = true) ∧
    (∀ n f, c.updateTable n f =
      match c.table? n with
      | some t => c.updateTable n fun _ => f t
      | none => c) ∧
    ∀ n f k, (c.updateTable n f).table? k =
      if c.sameTable k n then (c.table? n).map f else c.table? k := by
  refine ⟨c.table?_addTable, c.table?_dropTable, fun m => ?_, fun n f => ?_, fun n f k => ?_⟩
  · rw [dropsTable_eq_hasTable, hasTable]
  · split
    next t ht =>
      refine c.updateTable_congr fun t' ht' => ?_
      rw [Option.some.inj (ht'.symm.trans ht)]
    next missing => exact c.updateTable_eq_self missing f
  · rw [table?_updateTable]
    split
    next hsame => rw [c.table?_of_sameTable hsame]
    next => rfl

end Catalog

end SqlAudit
