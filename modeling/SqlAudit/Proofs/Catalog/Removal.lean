import SqlAudit.Proofs.Catalog.LetterCase
import SqlAudit.Proofs.Catalog.Lookup

/-!
Catalogs without the tables of a name. Tables of other names are looked up as before, in any schema
and however a text gives their names; a table of the name is not found.
-/

namespace SqlAudit

open Text

namespace OrderedMap

variable {α : Type}

def without (m : OrderedMap α) (name : String) : OrderedMap α :=
  ⟨m.entries.filter (lower ·.1 != lower name)⟩

def mapValues (m : OrderedMap α) (f : α → α) : OrderedMap α :=
  ⟨m.entries.map fun e => (e.1, f e.2)⟩

theorem find?_without (m : OrderedMap α) (name n : String) :
    (m.without name).find? n = if lower n = lower name then none else m.find? n := by
  simp only [find?, lookup?, without, List.find?_filter]
  split
  next h =>
    rw [Option.map_eq_none_iff, List.find?_eq_none]
    intro e _ hboth
    simp only [bne_iff_ne, ne_eq, decide_eq_true_eq] at hboth
    exact hboth.1 ((lower_eq_of_sameName hboth.2).trans h)
  next h =>
    congr 2
    funext e
    cases hname : sameName e.1 n with
    | false => simp
    | true => simp [lower_eq_of_sameName hname, h]

theorem find?_mapValues (m : OrderedMap α) (f : α → α) (n : String) :
    (m.mapValues f).find? n = (m.find? n).map f := by
  simp only [find?, lookup?, mapValues, List.find?_map, Option.map_map]
  rfl

end OrderedMap

namespace Schema

def without (s : Schema) (name : String) : Schema := { s with tables := s.tables.without name }

theorem table?_without (s : Schema) (name n : String) :
    (s.without name).table? n = if lower n = lower name then none else s.table? n :=
  s.tables.find?_without name n

end Schema

namespace Catalog

def without (c : Catalog) (name : String) : Catalog :=
  { c with schemas := c.schemas.mapValues (·.without name) }

variable (c : Catalog) (name : String)

theorem schema?_without (schema : String) :
    (c.without name).schema? schema = (c.schema? schema).map (·.without name) :=
  c.schemas.find?_mapValues _ schema

theorem table?_without (n : TableName) :
    (c.without name).table? n = if lower n.name = lower name then none else c.table? n := by
  have hschema : (c.without name).schemaName n = c.schemaName n := rfl
  rw [table?, table?, hschema, schema?_without]
  cases c.schema? (c.schemaName n) with
  | none => simp
  | some s => exact s.table?_without name n.name

theorem schemaNames_without : (c.without name).provider.schemaNames = c.provider.schemaNames := by
  simp [provider, without, OrderedMap.mapValues, OrderedMap.values, Schema.without]

end Catalog

/-- The table names that are tried for the columns of a table given by texts. -/
def lookupNames (schema : Option String) (table : String) : List TableName :=
  .plain table :: .ofText table :: (schema.map fun s => .ofText (s ++ "." ++ table)).toList

namespace Catalog

theorem tableFor?_congr {c d : Catalog} (schemas : d.provider.schemaNames = c.provider.schemaNames)
    {schema : Option String} {table : String}
    (same : ∀ m ∈ lookupNames schema table, ∀ n : TableName, n.name = m.name →
      d.table? n = c.table? n) : d.tableFor? schema table = c.tableFor? schema table := by
  have bare : d.table? (.ofText table) = c.table? (.ofText table) :=
    same (.ofText table) (by simp [lookupNames]) _ rfl
  have given : (schema.bind fun s => d.table? (.ofText (s ++ "." ++ table))) =
      schema.bind fun s => c.table? (.ofText (s ++ "." ++ table)) := by
    cases schema with
    | none => rw [Option.bind_none, Option.bind_none]
    | some s => exact same (.ofText (s ++ "." ++ table)) (by simp [lookupNames]) _ rfl
  have anywhere : (fun s => d.table? (.within s table)) = fun s => c.table? (.within s table) :=
    funext fun s => same (.plain table) List.mem_cons_self (.within s table) rfl
  have names : d.schemas.values.map (·.name) = c.schemas.values.map (·.name) := schemas
  rw [tableFor?, tableFor?, bare, given, anywhere, names]

theorem columns?_congr {c d : Catalog} (schemas : d.provider.schemaNames = c.provider.schemaNames)
    {schema : Option String} {table : String}
    (same : ∀ m ∈ lookupNames schema table, ∀ n : TableName, n.name = m.name →
      d.table? n = c.table? n) :
    d.provider.columns? schema table = c.provider.columns? schema table := by
  rw [columns?_eq_tableFor?, columns?_eq_tableFor?, tableFor?_congr schemas same]

variable (c : Catalog) {name : String}

theorem columns?_without_of_ne {schema : Option String} {table : String}
    (other : ∀ n ∈ lookupNames schema table, lower n.name ≠ lower name) :
    (c.without name).provider.columns? schema table = c.provider.columns? schema table := by
  refine columns?_congr (c.schemaNames_without name) fun m hm n hname => ?_
  rw [table?_without, hname, if_neg (other m hm)]

theorem columns?_without_of_eq {table : String} (dotFree : DotFree table)
    (same : lower table = lower name) : (c.without name).provider.columns? none table = none := by
  have gone : ∀ n : TableName, n.name = table → (c.without name).table? n = none := by
    intro n hn
    rw [table?_without, hn, if_pos same]
  have noSchema : ∀ s ∈ (none : Option String), DotFree s := nofun
  rw [columns?_eq_firstTable? dotFree noSchema, firstTable?, gone (.plain table) rfl,
    Option.bind_none, Option.none_or, Option.none_or, Option.map_eq_none_iff,
    List.findSome?_eq_none_iff]
  exact fun s _ => gone (.within s table) rfl

variable {c}

theorem WellFormed.sameName_of_tableFor? (h : c.WellFormed) {schema : Option String}
    {table : String} {t : TableDef} (found : c.tableFor? schema table = some t) :
    ∃ n ∈ lookupNames schema table, sameName t.name.name n.name = true := by
  rw [tableFor?, Option.or_eq_some_iff, Option.or_eq_some_iff] at found
  rcases found with bare | ⟨_, given | ⟨_, anywhere⟩⟩
  · exact ⟨.ofText table, by simp [lookupNames], h.table_name bare⟩
  · obtain ⟨s, rfl, within⟩ := Option.bind_eq_some_iff.1 given
    exact ⟨.ofText (s ++ "." ++ table), by simp [lookupNames], h.table_name within⟩
  · obtain ⟨s, _, within⟩ := List.exists_of_findSome?_eq_some anywhere
    exact ⟨.plain table, List.mem_cons_self, h.table_name (n := .within s table) within⟩

theorem WellFormed.exists_table_of_columns? (h : c.WellFormed) {schema : Option String}
    {table : String} {columns : List ColumnInfo}
    (found : c.provider.columns? schema table = some columns) :
    ∃ t : TableDef, ∃ n ∈ lookupNames schema table,
      sameName t.name.name n.name = true ∧ columns = t.columnInfos := by
  rw [columns?_eq_tableFor?] at found
  obtain ⟨t, ht, rfl⟩ := Option.map_eq_some_iff.1 found
  obtain ⟨n, hn, same⟩ := h.sameName_of_tableFor? ht
  exact ⟨t, n, hn, same, rfl⟩

end Catalog

end SqlAudit
