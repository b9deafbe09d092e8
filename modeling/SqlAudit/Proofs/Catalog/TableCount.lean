import Mathlib.Algebra.GroupWithZero.Nat
import SqlAudit.Proofs.Catalog.TableMap

/-!
How many tables a catalog lists after an operation. Dropping a table that is there takes one away;
adding one brings one more, unless it takes the place of another.
-/

namespace SqlAudit

open Text

namespace OrderedMap

variable {α : Type} {m : OrderedMap α}

theorem sum_values_update {name : String} {value : α} (found : m.find? name = some value)
    (f : α → α) (g : α → Nat) :
    ((m.update name f).values.map g).sum + g value = (m.values.map g).sum + g (f value) := by
  obtain ⟨entries⟩ := m
  simp only [find?, lookup?, values, update, List.map_map] at found ⊢
  induction entries with
  | nil => cases found
  | cons e es ih =>
    rw [updateFirst]
    cases hname : sameName e.1 name with
    | true =>
      obtain rfl : e.2 = value := by simpa [hname] using found
      simp
      omega
    | false =>
      rw [List.find?_cons, hname] at found
      have rest := ih found
      simp
      omega

theorem size_update (m : OrderedMap α) (name : String) (f : α → α) :
    (m.update name f).size = m.size := by
  have lengths := congrArg List.length (m.keys_update name f)
  rwa [keys, keys, List.length_map, List.length_map] at lengths

theorem DistinctNames.size_eraseName (h : m.DistinctNames) {name : String} {value : α}
    (found : m.find? name = some value) : (m.eraseName name).size + 1 = m.size := by
  obtain ⟨entries⟩ := m
  simp only [DistinctNames, keys, find?, lookup?, OrderedMap.eraseName, size] at h found ⊢
  induction entries with
  | nil => cases found
  | cons e es ih =>
    rw [List.map_cons, List.pairwise_cons] at h
    rw [List.filter_cons]
    cases hname : sameName e.1 name with
    | true =>
      have others : es.filter (fun e => !sameName e.1 name) = es := by
        rw [List.filter_eq_self]
        intro e' he'
        have apart := h.1 e'.1 (List.mem_map_of_mem he')
        rw [sameName_comm, ← sameName_congr_left hname, apart]
        rfl
      simp [others]
    | false =>
      rw [List.find?_cons, hname] at found
      have rest := ih h.2 found
      simp [rest]

theorem size_insert_of_new {key : String} (new : m.contains key = false) (value : α) :
    (m.insert key value).size = m.size + 1 := by
  rw [size, entries_insert_of_new new, List.length_append]
  rfl

theorem contains_eraseName (m : OrderedMap α) (name : String) :
    (m.eraseName name).contains name = false :=
  contains_of_fresh fun _ he => (mem_eraseName.1 he).2

end OrderedMap

namespace Catalog

variable {c : Catalog}

theorem length_tableNames (c : Catalog) :
    c.tableNames.length = (c.schemas.values.map (·.tables.size)).sum := by
  simp [tableNames, List.length_flatMap, OrderedMap.keys, OrderedMap.size, OrderedMap.values,
    Function.comp_def]

theorem length_tableNames_updateSchema {name : String} {s : Schema} (found : c.schema? name = some s)
    (f : Schema → Schema) :
    (c.updateSchema name f).tableNames.length + s.tables.size =
      c.tableNames.length + (f s).tables.size := by
  rw [length_tableNames, length_tableNames]
  exact OrderedMap.sum_values_update found f (·.tables.size)

theorem length_tableNames_ensureSchema (c : Catalog) (name : String) :
    (c.ensureSchema name).tableNames.length = c.tableNames.length := by
  unfold ensureSchema
  split
  next => rfl
  next missing =>
    have new : c.schemas.contains name = false :=
      OrderedMap.contains_of_fresh (OrderedMap.find?_eq_none.1 missing)
    simp [length_tableNames, OrderedMap.values, OrderedMap.entries_insert_of_new new, Schema.empty,
      OrderedMap.size, OrderedMap.empty]

theorem length_tableNames_updateTable {n : TableName} {t : TableDef} (found : c.table? n = some t)
    (f : TableDef → TableDef) :
    (c.updateTable n f).tableNames.length = c.tableNames.length := by
  obtain ⟨s, hs, _⟩ := Option.bind_eq_some_iff.1 found
  have count := length_tableNames_updateSchema hs
    fun s => { s with tables := s.tables.update n.name f }
  rw [OrderedMap.size_update] at count
  exact Nat.add_right_cancel count

theorem WellFormed.tables_distinct (h : c.WellFormed) {name : String} {s : Schema}
    (found : c.schema? name = some s) : s.tables.DistinctNames := by
  obtain ⟨key, mem, _⟩ := OrderedMap.find?_eq_some found
  exact (h.schemas (key, s) mem).tables_distinct

theorem WellFormed.length_tableNames_dropTable (h : c.WellFormed) {n : TableName} {t : TableDef}
    (found : c.table? n = some t) :
    (c.dropTable n).tableNames.length + 1 = c.tableNames.length := by
  obtain ⟨s, hs, ht⟩ := Option.bind_eq_some_iff.1 found
  have count := length_tableNames_updateSchema hs (·.dropTable n.name)
  have fewer := (h.tables_distinct hs).size_eraseName ht
  rw [Catalog.dropTable]
  simp only [Schema.dropTable] at count ⊢
  omega

theorem WellFormed.size_putTable (h : c.WellFormed) {name : String} {s : Schema}
    (found : c.schema? name = some s) (t : TableDef) :
    (s.putTable t).tables.size + (if (s.table? t.name.name).isSome then 1 else 0) =
      s.tables.size + 1 := by
  have size : (s.putTable t).tables.size = (s.tables.eraseName t.name.name).size + 1 :=
    OrderedMap.size_insert_of_new (s.tables.contains_eraseName t.name.name) t
  cases ht : s.table? t.name.name with
  | none =>
    have stays : (s.tables.eraseName t.name.name).size = s.tables.size := by
      by_contra fewer
      have found := OrderedMap.size_eraseName_ne_iff.1 fewer
      rw [Schema.table?] at ht
      rw [ht] at found
      cases found
    rw [size, stays]
    rfl
  | some old =>
    have fewer := (h.tables_distinct found).size_eraseName ht
    rw [size, fewer]
    rfl

theorem WellFormed.length_tableNames_addTable (h : c.WellFormed) (t : TableDef) :
    (c.addTable t).tableNames.length + (if c.hasTable t.name then 1 else 0) =
      c.tableNames.length + 1 := by
  have wf := h.ensureSchema (c.schemaName t.name)
  obtain ⟨s, hs⟩ :=
    Option.isSome_iff_exists.1 (schema?_ensureSchema_isSome c (c.schemaName t.name))
  have there : c.table? t.name = s.table? t.name.name := by
    rw [← c.table?_ensureSchema (c.schemaName t.name), table?, schemaName_ensureSchema, hs,
      Option.bind_some]
  have count := length_tableNames_updateSchema hs (·.putTable t)
  have size := wf.size_putTable hs t
  rw [length_tableNames_ensureSchema] at count
  rw [Catalog.addTable, hasTable, there]
  omega

end Catalog

end SqlAudit
