import Mathlib.Data.List.Induction
import SqlAudit.Proofs.Catalog.ColumnMap
import SqlAudit.Proofs.Catalog.Renaming

/-!
Definitions of what is there already. A table or a view that is made takes the place of the one of
its name and goes to the end of its schema; a column that is added is written over the one that is
stored under its very spelling. Neither heeds IF NOT EXISTS, so a catalog is left as it is just where
the definition says what is stored.
-/

namespace SqlAudit

open Sql Text

namespace OrderedMap

variable {α : Type} {m : OrderedMap α}

theorem DistinctKeys.get?_of_mem (h : m.DistinctKeys) {e : String × α} (mem : e ∈ m.entries) :
    m.get? e.1 = some e.2 := by
  unfold DistinctKeys keys at h
  unfold get?
  generalize m.entries = es at h mem
  induction es with
  | nil => cases mem
  | cons d es ih =>
    rw [List.map_cons, List.nodup_cons] at h
    rcases List.mem_cons.1 mem with rfl | mem
    · simp
    · have apart : d.1 ≠ e.1 := fun same => h.1 (same ▸ List.mem_map_of_mem mem)
      rw [List.find?_cons_of_neg (by simpa using apart)]
      exact ih h.2 mem

theorem DistinctKeys.entries_eq (h : m.DistinctKeys) :
    m.entries.map some = m.keys.map fun key => (m.get? key).map (key, ·) := by
  rw [keys, List.map_map]
  refine List.map_congr_left fun e he => ?_
  rw [Function.comp_apply, h.get?_of_mem he]
  rfl

theorem DistinctKeys.ext {m' : OrderedMap α} (h : m.DistinctKeys) (keys : m'.keys = m.keys)
    (values : ∀ key, m'.get? key = m.get? key) : m' = m := by
  have h' : m'.DistinctKeys := by rwa [OrderedMap.DistinctKeys, keys]
  have entries : m'.entries.map some = m.entries.map some := by
    rw [h'.entries_eq, h.entries_eq, keys]
    simp only [values]
  exact congrArg mk ((List.map_inj_right fun _ _ => Option.some.inj).1 entries)

theorem get?_foldl_insert (es : List (String × α)) (m : OrderedMap α) (key : String) :
    (es.foldl (fun m e => m.insert e.1 e.2) m).get? key =
      ((es.reverse.find? (·.1 == key)).map (·.2)).or (m.get? key) := by
  induction es using List.reverseRecOn with
  | nil => rfl
  | append_singleton es e ih =>
    rw [List.foldl_append, List.foldl_cons, List.foldl_nil, get?_insert, ih, List.reverse_append,
      List.reverse_singleton, List.singleton_append, List.find?_cons]
    cases h : e.1 == key with
    | true => rw [if_pos (beq_iff_eq.1 h), Option.map_some, Option.some_or]
    | false => rw [if_neg (beq_eq_false_iff_ne.1 h)]

theorem keys_foldl_insert (es : List (String × α)) (there : ∀ e ∈ es, m.contains e.1 = true) :
    (es.foldl (fun m e => m.insert e.1 e.2) m).keys = m.keys := by
  induction es generalizing m with
  | nil => rfl
  | cons e es ih =>
    have first : (m.insert e.1 e.2).keys = m.keys := by
      rw [keys_insert, if_pos (there e List.mem_cons_self)]
    refine (ih fun e' he' => ?_).trans first
    rw [contains_insert, there e' (List.mem_cons_of_mem e he'), Bool.or_true]

theorem DistinctKeys.foldl_insert_eq_self_iff (h : m.DistinctKeys) (es : List (String × α)) :
    es.foldl (fun m e => m.insert e.1 e.2) m = m ↔
      ∀ e ∈ es, m.get? e.1 = (es.reverse.find? (·.1 == e.1)).map (·.2) := by
  have last (e : String × α) (he : e ∈ es) :
      ∃ value, (es.reverse.find? (·.1 == e.1)).map (·.2) = some value := by
    rw [← Option.isSome_iff_exists, Option.isSome_map, List.find?_isSome]
    exact ⟨e, List.mem_reverse.2 he, beq_self_eq_true e.1⟩
  constructor
  · intro same e he
    obtain ⟨value, hvalue⟩ := last e he
    have found := get?_foldl_insert es m e.1
    rw [same, hvalue, Option.some_or] at found
    rw [found, hvalue]
  · intro stored
    have there (e : String × α) (he : e ∈ es) : m.contains e.1 = true := by
      obtain ⟨value, hvalue⟩ := last e he
      rw [← isSome_get?, stored e he, hvalue, Option.isSome_some]
    refine h.ext (keys_foldl_insert es there) fun key => ?_
    rw [get?_foldl_insert]
    cases found : es.reverse.find? (·.1 == key) with
    | none => rw [Option.map_none, Option.none_or]
    | some e =>
      have same : e.1 = key := by simpa using List.find?_some found
      have he : e ∈ es := List.mem_reverse.1 (List.mem_of_find?_eq_some found)
      rw [Option.map_some, Option.some_or, ← same, stored e he, same, found, Option.map_some]

end OrderedMap

/-! ### Tables and views -/

namespace Schema

variable {s : Schema}

theorem entries_putTable (s : Schema) (t : TableDef) :
    (s.putTable t).tables.entries =
      s.tables.entries.filter (fun e => !sameName e.1 t.name.name) ++ [(t.name.name, t)] := by
  rw [putTable, OrderedMap.entries_insert_of_new (s.tables.contains_eraseName t.name.name)]
  rfl

theorem putTable_eq_self_iff (distinct : s.tables.DistinctNames) (t : TableDef) :
    s.putTable t = s ↔ s.tables.entries.getLast? = some (t.name.name, t) := by
  have tables : s.putTable t = s ↔ (s.putTable t).tables.entries = s.tables.entries :=
    ⟨fun same => by rw [same], fun same => by
      obtain ⟨name, ⟨entries⟩⟩ := s
      exact congrArg (fun es => Schema.mk name ⟨es⟩) same⟩
  rw [tables, entries_putTable]
  constructor
  · intro same
    rw [← same, List.getLast?_concat]
  · intro last
    obtain ⟨others, hothers⟩ := List.getLast?_eq_some_iff.1 last
    rw [OrderedMap.DistinctNames, OrderedMap.keys, hothers, List.map_append,
      List.pairwise_append] at distinct
    have apart : others.filter (fun e => !sameName e.1 t.name.name) = others := by
      rw [List.filter_eq_self]
      intro e he
      rw [distinct.2.2 e.1 (List.mem_map_of_mem he) t.name.name (by simp)]
      rfl
    rw [hothers, List.filter_append, apart]
    simp

end Schema

namespace Catalog

variable {c : Catalog} {n : TableName} {t : TableDef}

theorem updateSchema_eq_self_iff {name : String} {s : Schema} (found : c.schema? name = some s)
    (f : Schema → Schema) : c.updateSchema name f = c ↔ f s = s := by
  have schemas : c.updateSchema name f = c ↔ c.schemas.update name f = c.schemas :=
    ⟨congrArg Catalog.schemas, fun same => by rw [updateSchema, same]⟩
  rw [schemas, OrderedMap.update_eq_self_iff]
  rw [schema?] at found
  simp [found]

/-- The last table of the schema that a name belongs to, with its key. -/
def lastTable? (c : Catalog) (n : TableName) : Option (String × TableDef) :=
  (c.schema? (c.schemaName n)).bind (·.tables.entries.getLast?)

theorem WellFormed.addTable_eq_self_iff (h : c.WellFormed) (there : c.hasTable t.name = true) :
    c.addTable t = c ↔ c.lastTable? t.name = some (t.name.name, t) := by
  obtain ⟨old, found⟩ := Option.isSome_iff_exists.1 there
  obtain ⟨s, hs, _⟩ := Option.bind_eq_some_iff.1 found
  have made : c.ensureSchema (c.schemaName t.name) = c := by
    rw [Catalog.ensureSchema, hs]
  rw [Catalog.addTable, made, updateSchema_eq_self_iff hs,
    Schema.putTable_eq_self_iff (h.tables_distinct hs), lastTable?, hs, Option.bind_some]

theorem updateTable_eq_self_iff (found : c.table? n = some t) (f : TableDef → TableDef) :
    c.updateTable n f = c ↔ f t = t := by
  obtain ⟨s, hs, ht⟩ := Option.bind_eq_some_iff.1 found
  have tables : Schema.mk s.name (s.tables.update n.name f) = s ↔
      s.tables.update n.name f = s.tables :=
    ⟨congrArg Schema.tables, fun same => by rw [same]⟩
  rw [Schema.table?] at ht
  rw [updateTable, updateSchema_eq_self_iff hs]
  refine tables.trans ?_
  rw [OrderedMap.update_eq_self_iff]
  simp [ht]

/-- A catalog has a table or a view for a name that it had another one for, and all else that it
had. -/
structure Redefines (n : TableName) (made : TableDef) (c after : Catalog) : Prop where
  found : after.table? n = some made
  others : ∀ k, c.sameTable k n = false → after.table? k = c.table? k
  count : after.tableNames.length = c.tableNames.length

theorem WellFormed.redefines_addTable (h : c.WellFormed) {made : TableDef} (name : made.name = n)
    (there : c.hasTable n = true) : Redefines n made c (c.addTable made) where
  found := by rw [table?_addTable, name, c.sameTable_refl n, if_pos rfl]
  others k apart := by rw [table?_addTable, name, apart, if_neg Bool.false_ne_true]
  count := by
    have count := h.length_tableNames_addTable made
    rw [name, there, if_pos rfl] at count
    exact Nat.add_right_cancel count

theorem redefines_updateTable (found : c.table? n = some t) (f : TableDef → TableDef) :
    Redefines n (f t) c (c.updateTable n f) where
  found := c.table?_updateTable_self found f
  others := fun k apart => (c.changesOnly_updateTable n f).others k (by simpa using apart)
  count := length_tableNames_updateTable found f

end Catalog

/-! ### Columns -/

namespace TableDef

variable {t : TableDef}

def addSpecs (t : TableDef) (specs : List ColumnSpec) : TableDef :=
  specs.foldl (fun t s => t.addColumn (.ofSpec s)) t

/-- The column that several definitions give for a spelling; the last one counts. -/
def lastSpec? (specs : List ColumnSpec) (name : String) : Option ColumnDef :=
  (specs.reverse.find? (·.name.value == name)).map .ofSpec

theorem addSpecs_eq (t : TableDef) (specs : List ColumnSpec) :
    t.addSpecs specs =
      { t with
        columns := (specs.map fun s => (s.name.value, ColumnDef.ofSpec s)).foldl
          (fun m e => m.insert e.1 e.2) t.columns } := by
  induction specs generalizing t with
  | nil => rfl
  | cons s specs ih =>
    refine (ih (t.addColumn (.ofSpec s))).trans ?_
    rw [List.map_cons, List.foldl_cons, addColumn, ColumnDef.name_ofSpec]

theorem DistinctKeys.addSpecs_eq_self_iff (h : t.DistinctKeys) (specs : List ColumnSpec) :
    t.addSpecs specs = t ↔
      ∀ s ∈ specs, t.columns.get? s.name.value = lastSpec? specs s.name.value := by
  have columns (m : OrderedMap ColumnDef) :
      TableDef.mk t.name t.kind m = t ↔ m = t.columns :=
    ⟨congrArg TableDef.columns, fun same => by rw [same]⟩
  rw [addSpecs_eq, columns, OrderedMap.DistinctKeys.foldl_insert_eq_self_iff h,
    List.forall_mem_map]
  simp only [← List.map_reverse, List.find?_map, Option.map_map]
  rfl

end TableDef

namespace Catalog

/-- Columns are added whether or not the additions are guarded. -/
theorem alterTable_additions (c : Catalog) (n : TableName) (specs : List ColumnSpec)
    (guarded : Bool) :
    c.alterTable n (specs.map (.addColumn · guarded)) = c.updateTable n (·.addSpecs specs) := by
  have unnamed : newName? (specs.map (TableChange.addColumn · guarded)) = none := by
    refine newName?_eq_none fun path there => ?_
    obtain ⟨_, _, same⟩ := List.mem_map.1 there
    cases same
  rw [alterTable, unnamed]
  simp only [List.foldl_map]
  rfl

end Catalog

namespace Loader

/-- A definition under IF NOT EXISTS does what it does without. A table or a view that is there is
replaced, and the catalog stays as it is just where the definition says what is stored at the end of
the schema. A column is added to a table that is there, and the catalog stays as it is just where
every column is stored under the very spelling as the last definition of it says. -/
theorem guarded_definition_redefines {l : Loader} (built : l.catalog.Built) {name : Path}
    {t : TableDef} (found : l.catalog.table? (.ofPath name) = some t) (operands : List Expr)
    (query : Option Query) (tail : List Expr) :
    let c := l.catalog
    let n := TableName.ofPath name
    let after (definition : Definition) := (l.run (.define definition operands query tail)).catalog
    (∀ columns keys,
      let made := TableDef.ofSpecs n columns keys
      after (.table name columns keys true) = after (.table name columns keys false) ∧
        Catalog.Redefines n made c (after (.table name columns keys true)) ∧
        (after (.table name columns keys true) = c ↔ c.lastTable? n = some (n.name, made))) ∧
    (∀ columns,
      let made := TableDef.ofNames n (viewColumns c columns query)
      after (.view name columns true) = after (.view name columns false) ∧
        Catalog.Redefines n made c (after (.view name columns true)) ∧
        (after (.view name columns true) = c ↔ c.lastTable? n = some (n.name, made))) ∧
    ∀ specs : List ColumnSpec,
      let additions (guarded : Bool) := specs.map (TableChange.addColumn · guarded)
      after (.alter name (additions true)) = after (.alter name (additions false)) ∧
        Catalog.Redefines n (t.addSpecs specs) c (after (.alter name (additions true))) ∧
        (after (.alter name (additions true)) = c ↔
          ∀ s ∈ specs, t.columns.get? s.name.value = TableDef.lastSpec? specs s.name.value) := by
  intro c n after
  have wf : c.WellFormed := built.wellFormed
  have there : c.hasTable n = true := by
    rw [Catalog.hasTable, found]
    rfl
  have made_iff {made : TableDef} (named : made.name = n) :
      c.addTable made = c ↔ c.lastTable? n = some (n.name, made) := by
    have same := wf.addTable_eq_self_iff (t := made) (named ▸ there)
    rwa [named] at same
  refine ⟨fun columns keys => ?_, fun columns => ?_, fun specs => ?_⟩
  · have named := TableDef.name_ofSpecs n columns keys
    exact ⟨rfl, wf.redefines_addTable named there, made_iff named⟩
  · have named := TableDef.name_ofNames n (viewColumns c columns query)
    exact ⟨rfl, wf.redefines_addTable named there, made_iff named⟩
  · have altered (guarded : Bool) : after (.alter name (specs.map (.addColumn · guarded))) =
        c.updateTable n (·.addSpecs specs) :=
      (catalog_run_alter found _ operands query tail).trans (c.alterTable_additions n specs guarded)
    have distinct : t.DistinctKeys := built.distinctKeys.of_table? found
    intro additions
    rw [altered true, altered false, Catalog.updateTable_eq_self_iff found,
      distinct.addSpecs_eq_self_iff]
    exact ⟨rfl, Catalog.redefines_updateTable found (·.addSpecs specs), Iff.rfl⟩

def people : TableDef :=
  ((TableDef.table (.plain "t")).addColumn (.of "id" "INT")).addColumn (.of "name" "TEXT")

def peopleOnly : Loader := ⟨.generic, Catalog.initial.addTable people, []⟩

theorem peopleOnly_built : peopleOnly.catalog.Built :=
  .addTable (.addColumn _ (.addColumn _ (.table _))) (.ofDefault "public")

/-- `CREATE TABLE IF NOT EXISTS T (id INT)` leaves one column, and `ALTER TABLE T ADD COLUMN IF NOT
EXISTS name TEXT` nothing to do. -/
theorem peopleOnly_redefined :
    let id : ColumnSpec := ⟨⟨"id", none, none⟩, "INT", []⟩
    let name : ColumnSpec := ⟨⟨"name", none, none⟩, "TEXT", []⟩
    let after (definition : Definition) :=
      (peopleOnly.run (.define definition [] none [])).catalog
    peopleOnly.catalog.Built ∧ peopleOnly.catalog.table? (.plain "T") = some people ∧
      Catalog.Redefines (.plain "T") ((TableDef.table (.plain "T")).addColumn (.of "id" "INT"))
        peopleOnly.catalog (after (.table [⟨"T", none, none⟩] [id] [] true)) ∧
      after (.alter [⟨"T", none, none⟩] [.addColumn name true]) = peopleOnly.catalog := by
  intro id name after
  have found : peopleOnly.catalog.table? (.ofPath [⟨"T", none, none⟩]) = some people := by decide
  have ⟨tables, _, additions⟩ := guarded_definition_redefines peopleOnly_built found [] none []
  exact ⟨peopleOnly_built, found, (tables [id] []).2.1, (additions [name]).2.2.2 (by decide)⟩

/-- A table gives way to a partial definition and to a view, and a column to another of its name,
though all of them are guarded; a column of another spelling stands beside it. -/
theorem guarded_definitions_overwrite :
    let t : Path := [⟨"t", none, none⟩]
    let column (name type : String) : ColumnSpec := ⟨⟨name, none, none⟩, type, []⟩
    let guarded : List Definition :=
      [.table t [column "id" "INT"] [] true, .view t [⟨"a", none, none⟩] true,
        .alter t [.addColumn (column "id" "TEXT") true],
        .alter t [.addColumn (column "ID" "TEXT") true]]
    let after (definition : Definition) :=
      (peopleOnly.run (.define definition [] none [])).catalog
    let seen (c : Catalog) := (c.table? (.plain "t")).map fun t =>
      (t.kind, t.columns.values.map fun c => (c.name, c.type))
    seen peopleOnly.catalog = some (.table, [("id", "INT"), ("name", "TEXT")]) ∧
      guarded.map (fun definition => seen (after definition)) =
        [some (.table, [("id", "INT")]), some (.view, [("a", "")]),
          some (.table, [("id", "TEXT"), ("name", "TEXT")]),
          some (.table, [("id", "INT"), ("name", "TEXT"), ("ID", "TEXT")])] ∧
      ∀ definition ∈ guarded, after definition ≠ peopleOnly.catalog := by
  decide

end Loader

end SqlAudit
