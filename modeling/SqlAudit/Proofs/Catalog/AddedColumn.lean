import SqlAudit.Proofs.Catalog.TableMap

/-!
A catalog of which one table has been given another column. Schemas and tables are listed as before;
whatever table is looked up is found where it was found, with all the columns that it had.
-/

namespace SqlAudit

open Text

namespace OrderedMap

variable {α : Type}

theorem keys_subset_insert (m : OrderedMap α) (key : String) (value : α) :
    m.keys ⊆ (m.insert key value).keys := by
  rw [keys_insert]
  split
  · exact List.Subset.refl _
  · exact List.subset_append_left _ _

theorem KeyedBy.map_values {m : OrderedMap α} {name : α → String} (h : m.KeyedBy name) :
    m.values.map name = m.keys := by
  rw [values, keys, List.map_map]
  exact List.map_congr_left fun e he => (h e he).symm

end OrderedMap

/-- Columns under whose names others have been added; where there were none, there are none. -/
structure ColumnInfo.Covers (columns more : List ColumnInfo) : Prop where
  names : columns.map (·.name) ⊆ more.map (·.name)
  nil : columns = [] → more = []

namespace ColumnInfo.Covers

variable {columns more : List ColumnInfo}

theorem refl (columns : List ColumnInfo) : Covers columns columns :=
  ⟨List.Subset.refl _, id⟩

theorem eq_nil_iff (h : Covers columns more) : more = [] ↔ columns = [] := by
  refine ⟨fun hmore => ?_, h.nil⟩
  have hnames := h.names
  rw [hmore, List.map_nil, List.subset_nil] at hnames
  exact List.map_eq_nil_iff.1 hnames

theorem exists_of_mem (h : Covers columns more) {info : ColumnInfo} (hinfo : info ∈ columns) :
    ∃ other ∈ more, other.name = info.name :=
  List.mem_map.1 (h.names (List.mem_map_of_mem hinfo))

theorem any_name (h : Covers columns more) {p : String → Bool}
    (found : columns.any (p ·.name) = true) : more.any (p ·.name) = true := by
  obtain ⟨info, hinfo, hp⟩ := List.any_eq_true.1 found
  obtain ⟨other, hother, hname⟩ := h.exists_of_mem hinfo
  exact List.any_eq_true.2 ⟨other, hother, hname ▸ hp⟩

end ColumnInfo.Covers

open ColumnInfo (Covers)

/-! ### Answers with more columns -/

section Answers

variable {α β : Type} {a b c d : Option (List ColumnInfo)}

theorem covers_refl (a : Option (List ColumnInfo)) : Option.Rel Covers a a := by
  cases a with
  | none => exact .none
  | some columns => exact .some (.refl columns)

theorem covers_isNone (h : Option.Rel Covers a b) : b.isNone = a.isNone := by cases h <;> rfl

theorem covers_or (h : Option.Rel Covers a b) (h' : Option.Rel Covers c d) :
    Option.Rel Covers (a.or c) (b.or d) := by
  cases h with
  | none => exact h'
  | some hcovers => exact .some hcovers

theorem covers_bind {f g : α → Option (List ColumnInfo)}
    (h : ∀ x, Option.Rel Covers (f x) (g x)) (o : Option α) :
    Option.Rel Covers (o.bind f) (o.bind g) := by
  cases o with
  | none => exact .none
  | some x => exact h x

theorem covers_findSome? {f g : α → Option (List ColumnInfo)}
    (h : ∀ x, Option.Rel Covers (f x) (g x)) (xs : List α) :
    Option.Rel Covers (xs.findSome? f) (xs.findSome? g) := by
  induction xs with
  | nil => exact .none
  | cons x xs ih =>
    rw [List.findSome?_cons, List.findSome?_cons]
    have hx := h x
    generalize f x = a at hx ⊢
    generalize g x = b at hx ⊢
    cases hx with
    | none => exact ih
    | some hcovers => exact .some hcovers

theorem covers_filter (h : Option.Rel Covers a b) :
    Option.Rel Covers (a.filter (!·.isEmpty)) (b.filter (!·.isEmpty)) := by
  cases h with
  | none => exact .none
  | @some columns more hcovers =>
    rw [Option.filter_some, Option.filter_some]
    by_cases hnil : columns = []
    · simp [hnil, hcovers.nil hnil]
    · have hmore : more ≠ [] := fun hmore => hnil (hcovers.eq_nil_iff.1 hmore)
      simpa [hnil, hmore] using Option.Rel.some hcovers

end Answers

/-- A provider that tells of the same tables as another, with their columns and maybe more. -/
structure Provider.Extends (q p : Provider) : Prop where
  schemaNames : q.schemaNames = p.schemaNames
  defaultTables : q.defaultTables = p.defaultTables
  tablesIn : q.tablesIn = p.tablesIn
  columnsOf : ∀ name, Option.Rel Covers (p.columnsOf name) (q.columnsOf name)
  columnsIn : ∀ schema table,
    Option.Rel Covers (p.columnsIn schema table) (q.columnsIn schema table)

theorem Provider.Extends.columns? {p q : Provider} (h : q.Extends p) (schema : Option String)
    (table : String) : Option.Rel Covers (p.columns? schema table) (q.columns? schema table) := by
  rw [Provider.columns?, Provider.columns?, h.schemaNames]
  refine covers_or (h.columnsOf table) (covers_or ?_ ?_)
  · exact covers_bind (fun s => h.columnsOf (s ++ "." ++ table)) schema
  · exact covers_findSome? (fun s => h.columnsIn s table) p.schemaNames

/-! ### Adding a column to a table -/

theorem TableDef.WellFormed.names_columnInfos {t : TableDef} (h : t.WellFormed) :
    t.columnInfos.map (·.name) = t.columnNames := by
  rw [columnInfos, List.map_map]
  exact OrderedMap.KeyedBy.map_values h

theorem TableDef.WellFormed.covers_addColumn {t : TableDef} (h : t.WellFormed)
    (nonempty : t.columns.isEmpty = false) (column : ColumnDef) :
    Covers t.columnInfos (t.addColumn column).columnInfos where
  names := by
    rw [h.names_columnInfos, (h.addColumn column).names_columnInfos]
    exact t.columns.keys_subset_insert column.name column
  nil hnil := by
    rw [← t.columnInfos_isEmpty, hnil] at nonempty
    cases nonempty

namespace Catalog

variable {c : Catalog} {n : TableName}

theorem tablesIn_addColumn (c : Catalog) (n : TableName) (column : ColumnDef) (schema : String) :
    (c.updateTable n (·.addColumn column)).tablesIn schema = c.tablesIn schema := by
  rw [tablesIn, tablesIn, updateTable, schema?_updateSchema]
  split
  · rw [Option.map_map]
    congr 1
    funext s
    refine OrderedMap.map_values_update (g := (·.name.name)) (fun _ => ?_) s.tables n.name
    rfl
  · rfl

theorem WellFormed.covers_addColumn (wf : c.WellFormed) {t : TableDef} (ht : c.table? n = some t)
    (nonempty : t.columns.isEmpty = false) (column : ColumnDef) (m : TableName) :
    Option.Rel Covers ((c.table? m).map (·.columnInfos))
      (((c.updateTable n (·.addColumn column)).table? m).map (·.columnInfos)) := by
  rw [table?_updateTable]
  split
  next same =>
    rw [c.table?_of_sameTable same, ht]
    exact .some ((wf.table_wellFormed ht).covers_addColumn nonempty column)
  next => exact covers_refl _

theorem WellFormed.extends_addColumn (wf : c.WellFormed) {t : TableDef} (ht : c.table? n = some t)
    (nonempty : t.columns.isEmpty = false) (column : ColumnDef) :
    (c.updateTable n (·.addColumn column)).provider.Extends c.provider where
  schemaNames := by
    rw [Catalog.updateTable]
    refine c.schemaNames_updateSchema (fun _ => ?_) (c.schemaName n)
    rfl
  defaultTables := by
    change ((c.updateTable n (·.addColumn column)).tablesIn c.defaultSchema).getD [] = _
    rw [c.tablesIn_addColumn]
    rfl
  tablesIn := funext fun schema => c.tablesIn_addColumn n column schema
  columnsOf name := wf.covers_addColumn ht nonempty column (.ofText name)
  columnsIn schema table := wf.covers_addColumn ht nonempty column (.within schema table)

end Catalog

end SqlAudit
