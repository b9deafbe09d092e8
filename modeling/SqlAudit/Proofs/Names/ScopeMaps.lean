import SqlAudit.Proofs.Names.EnteredTables
import SqlAudit.Proofs.Names.Symbols
import SqlAudit.Proofs.Text.LowerCase

/-!
How the maps of a scope agree: the columns that are grouped by name are those that are grouped by
table, and the tables that aliases stand for are those whose columns are in scope.
-/

namespace SqlAudit

open Sql Text

namespace Names

namespace Scope

def columnsNamed (s : Scope) (key : String) : List ColumnInfo :=
  s.tableColumns.values.flatten.filter (lower ·.name == key)

/-- The maps of a scope agree with each other and with the tables that a statement uses. -/
structure IsConsistent (s : Scope) (uses : List TableUse) : Prop where
  tableKeys : ∀ key ∈ s.tableColumns.keys, ∃ u ∈ uses, lower u.table.value = key
  aliasKeys : ∀ key ∈ s.tableAliases.keys,
    ∃ u ∈ uses, lower u.table.value = key ∨ ∃ a ∈ u.alias?, lower a.value = key
  columnKeys : ∀ key ∈ s.allColumns.keys,
    ∃ c ∈ s.tableColumns.values.flatten, lower c.name = key
  aliased : s.tableColumns.keys ⊆ s.tableAliases.keys
  denotes : ∀ name ∈ s.tableAliases.values, lower name ∈ s.tableColumns.keys
  nonempty : [] ∉ s.tableColumns.values
  grouped : ∀ key, s.allColumns.get? key =
    if s.columnsNamed key = [] then none else some (s.columnsNamed key)
  listed : ∀ key, key ∈ s.allColumns.keys ↔ s.columnsNamed key ≠ []
  owners : ∀ name, s.owners (lower name) =
    ((s.columnsNamed (lower name)).map (·.table)).eraseDupsBy sameName
  owners_lower : ∀ name, s.owners name = s.owners (lower name)

section

variable {s : Scope} {known : List KnownTable}

theorem Holds.columnsNamed_eq (h : s.Holds known) (key : String) :
    s.columnsNamed key = (known.flatMap (·.columns)).filter (lower ·.name == key) := by
  have flat : s.tableColumns.values.flatten = known.flatMap (·.columns) := by
    rw [OrderedMap.values, h.tables, List.map_map]
    rfl
  rw [columnsNamed, flat]

theorem Holds.get?_allColumns (h : s.Holds known) (key : String) :
    s.allColumns.get? key =
      if s.columnsNamed key = [] then none else some (s.columnsNamed key) := by
  have found := h.columns key
  rw [← h.columnsNamed_eq] at found
  have filled := h.nonempty key
  cases hcolumns : s.allColumns.get? key with
  | none =>
    rw [hcolumns] at found
    rw [← found]
    rfl
  | some columns =>
    rw [hcolumns] at found filled
    have ne : columns ≠ [] := fun empty => filled (congrArg some empty)
    rw [← found, Option.getD_some, if_neg ne]

theorem Holds.mem_keys_allColumns (h : s.Holds known) (key : String) :
    key ∈ s.allColumns.keys ↔ s.columnsNamed key ≠ [] := by
  rw [← OrderedMap.contains_iff_mem_keys, ← OrderedMap.isSome_get?, h.get?_allColumns]
  split
  next empty => simp [empty]
  next filled => simp [filled]

theorem Holds.owners_eq_eraseDupsBy (h : s.Holds known) (name : String) :
    s.owners name = ((s.columnsNamed (lower name)).map (·.table)).eraseDupsBy sameName := by
  rw [h.owners_eq, h.columnsNamed_eq, ownersOf_eq]

end

theorem mem_keys_tableColumns {p : Provider} {symbols : Symbols} {key : String} :
    key ∈ (ofSymbols p symbols).tableColumns.keys ↔
      ∃ t ∈ enteredTables p symbols.tables, lower t.name = key := by
  rw [tableColumns_ofSymbols, ← OrderedMap.contains_iff_mem_keys, contains_tableColumns_ofTables,
    List.any_eq_true]
  simp only [beq_iff_eq]

theorem mem_keys_tableAliases_of_entered {p : Provider} {symbols : Symbols} {t : TableText}
    (h : t ∈ enteredTables p symbols.tables) :
    lower t.name ∈ (ofSymbols p symbols).tableAliases.keys := by
  have answers : t.answersTo (lower t.name) = true := by simp [TableText.answersTo]
  have found : ((enteredTables p symbols.tables).reverse.find?
      (·.answersTo (lower t.name))).isSome = true :=
    List.find?_isSome.2 ⟨t, List.mem_reverse.2 h, answers⟩
  rw [← OrderedMap.contains_iff_mem_keys, ← OrderedMap.isSome_get?, get?_tableAliases_ofSymbols,
    get?_tableAliases_ofTables, Option.isSome_or, Option.isSome_map, found, Bool.true_or]

theorem exists_use_of_mem_tableAliases {p : Provider} {st : Statement} {e : String × String}
    (h : e ∈ (ofSymbols p (.collect st)).tableAliases.entries) :
    (∃ u ∈ (Symbols.collect st).uses, lower u.table.value = e.1 ∨
        ∃ a ∈ u.alias?, lower a.value = e.1) ∧
      lower e.2 ∈ (ofSymbols p (.collect st)).tableColumns.keys := by
  rw [ofSymbols_eq] at h
  rcases mem_tableAliases_foldl_addAlias h with h | ⟨he, known⟩
  · obtain ⟨t, ht, name, answers⟩ := exists_entered_of_mem_tableAliases h
    obtain ⟨u, hu, rfl⟩ := exists_use_of_mem_distinctTexts (mem_tables_of_mem_entered ht)
    refine ⟨⟨u, hu, ?_⟩, mem_keys_tableColumns.2 ⟨_, ht, congrArg lower name⟩⟩
    rcases TableText.answersTo_iff.1 answers with hname | halias
    · exact Or.inl hname
    · obtain ⟨text, htext, hkey⟩ := Option.map_eq_some_iff.1 halias
      obtain ⟨a, ha, rfl⟩ := Option.map_eq_some_iff.1 htext
      exact Or.inr ⟨a, ha, hkey⟩
  · have key : e.1 ∈ (aliasTables (Symbols.collect st).uses).keys := List.mem_map_of_mem he
    obtain ⟨u, hu, a, ha, hkey⟩ :=
      contains_aliasTables_iff.1 (OrderedMap.contains_iff_mem_keys.2 key)
    refine ⟨⟨u, hu, Or.inr ⟨a, ha, hkey⟩⟩, ?_⟩
    rw [tableColumns_ofSymbols]
    exact OrderedMap.contains_iff_mem_keys.1 known

/-- The scope of a statement is consistent, whichever tables the statement uses and whatever is
known about them. -/
theorem ofSymbols_isConsistent (p : Provider) (st : Statement) :
    (ofSymbols p (.collect st)).IsConsistent (Symbols.collect st).uses where
  tableKeys key hkey := by
    obtain ⟨t, ht, hname⟩ := mem_keys_tableColumns.1 hkey
    obtain ⟨u, hu, rfl⟩ := exists_use_of_mem_distinctTexts (mem_tables_of_mem_entered ht)
    exact ⟨u, hu, hname⟩
  aliasKeys key hkey := by
    obtain ⟨e, he, rfl⟩ := List.mem_map.1 hkey
    exact (exists_use_of_mem_tableAliases he).1
  columnKeys key hkey := by
    have filled := ((holds_ofSymbols p (.collect st)).mem_keys_allColumns key).1 hkey
    obtain ⟨c, hc⟩ := List.exists_mem_of_ne_nil _ filled
    obtain ⟨hmem, hname⟩ := List.mem_filter.1 hc
    exact ⟨c, hmem, beq_iff_eq.1 hname⟩
  aliased key hkey := by
    obtain ⟨t, ht, rfl⟩ := mem_keys_tableColumns.1 hkey
    exact mem_keys_tableAliases_of_entered ht
  denotes name hname := by
    obtain ⟨e, he, rfl⟩ := List.mem_map.1 hname
    exact (exists_use_of_mem_tableAliases he).2
  nonempty hempty := by
    rw [OrderedMap.values, (holds_ofSymbols p (.collect st)).tables, List.map_map] at hempty
    obtain ⟨k, hk, hcolumns⟩ := List.mem_map.1 hempty
    obtain ⟨t, _, _, given⟩ := exists_table_of_mem_known hk
    exact (columnsGiven_eq_some.1 given).2 hcolumns
  grouped := (holds_ofSymbols p (.collect st)).get?_allColumns
  listed := (holds_ofSymbols p (.collect st)).mem_keys_allColumns
  owners name := by
    rw [(holds_ofSymbols p (.collect st)).owners_eq_eraseDupsBy, lower_lower]
  owners_lower name := by
    rw [owners, owners, candidates, candidates, lower_lower]

end Scope

end Names

end SqlAudit
