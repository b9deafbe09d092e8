import SqlAudit.Proofs.Catalog.DistinctKeys
import SqlAudit.Proofs.Catalog.Lookup
import SqlAudit.Proofs.Names.Columns
import SqlAudit.Proofs.Names.EnteredTables
import SqlAudit.Proofs.Text.Nearest

/-!
The columns in scope as columns of tables of the catalog. A scope groups them by name; since what is
nearest to a name does not depend on letter case, a search through the groups keeps what a search
through the tables keeps.
-/

namespace SqlAudit

open Sql Text

/-! ### A key that is there -/

theorem OrderedMap.DistinctKeys.exists_entries_insert {α : Type} {m : OrderedMap α}
    (h : m.DistinctKeys) {key : String} (there : m.contains key = true) :
    ∃ before old behind, m.entries = before ++ (key, old) :: behind ∧ m.get? key = some old ∧
      ∀ value, (m.insert key value).entries = before ++ (key, value) :: behind := by
  obtain ⟨⟨k, old⟩, mem, same⟩ := List.any_eq_true.1 there
  obtain rfl : k = key := beq_iff_eq.1 same
  obtain ⟨before, behind, split⟩ := List.append_of_mem mem
  rw [DistinctKeys, keys, split, List.map_append, List.map_cons, List.nodup_middle,
    ← List.map_append, List.nodup_cons] at h
  have fresh : k ∉ (before ++ behind).map (·.1) := h.1
  have other : ∀ e ∈ before ++ behind, (e.1 == k) = false := by
    intro e he
    rw [beq_eq_false_iff_ne]
    rintro rfl
    exact fresh (List.mem_map_of_mem he)
  rw [List.forall_mem_append] at other
  refine ⟨before, old, behind, split, ?_, fun value => ?_⟩
  · have skipped : before.find? (·.1 == k) = none := by
      rw [List.find?_eq_none]
      exact fun e he => Bool.eq_false_iff.1 (other.1 e he)
    rw [get?, split, List.find?_append, skipped, Option.none_or]
    simp
  · have keep : ∀ es : List (String × α), (∀ e ∈ es, (e.1 == k) = false) →
        es.map (fun e => if e.1 == k then (e.1, value) else e) = es := by
      intro es apart
      refine (List.map_congr_left fun e he => ?_).trans es.map_id
      rw [apart e he]
      rfl
    rw [OrderedMap.insert, if_pos there, split, List.map_append, List.map_cons, keep before other.1,
      keep behind other.2, if_pos (beq_self_eq_true k)]

/-! ### Columns in groups -/

namespace Names

namespace Scope

def groupedNames (m : OrderedMap (List ColumnInfo)) : List String :=
  m.values.flatten.map (·.name)

theorem groupedNames_of_split {m : OrderedMap (List ColumnInfo)}
    {before behind : List (String × List ColumnInfo)} {e : String × List ColumnInfo}
    (split : m.entries = before ++ e :: behind) :
    groupedNames m = groupedNames ⟨before⟩ ++ e.2.map (·.name) ++ groupedNames ⟨behind⟩ := by
  simp [groupedNames, OrderedMap.values, split]

/-- Every column stands in the group of its name in lower case, and no group is empty. -/
structure Grouped (m : OrderedMap (List ColumnInfo)) : Prop where
  keys : m.DistinctKeys
  filled : ∀ e ∈ m.entries, e.2 ≠ []
  named : ∀ e ∈ m.entries, ∀ info ∈ e.2, lower info.name = e.1

namespace Grouped

variable {m : OrderedMap (List ColumnInfo)}

theorem empty : Grouped .empty := ⟨OrderedMap.distinctKeys_empty, nofun, nofun⟩

theorem push (h : Grouped m) (c : ColumnInfo) : Grouped (m.push (lower c.name) c) where
  keys := h.keys.insert _ _
  filled e he := by
    rcases OrderedMap.mem_insert he with he | rfl
    · exact h.filled e he
    · exact List.append_ne_nil_of_right_ne_nil _ (List.cons_ne_nil c [])
  named e he info hinfo := by
    rcases OrderedMap.mem_insert he with he | rfl
    · exact h.named e he info hinfo
    rcases List.mem_append.1 hinfo with old | new
    · cases found : m.get? (lower c.name) with
      | none =>
        rw [found] at old
        cases old
      | some columns =>
        rw [found] at old
        obtain ⟨d, hd, rfl⟩ := Option.map_eq_some_iff.1 found
        rw [h.named d (List.mem_of_find?_eq_some hd) info old]
        simpa using List.find?_some hd
    · rw [List.mem_singleton.1 new]

theorem kept_push (h : Grouped m) (c : ColumnInfo) (name : String) :
    kept name (groupedNames (m.push (lower c.name) c)) =
      kept name (groupedNames m ++ [c.name]) := by
  cases there : m.contains (lower c.name) with
  | true =>
    obtain ⟨before, old, behind, split, found, after⟩ := h.keys.exists_entries_insert there
    have mem : (lower c.name, old) ∈ m.entries := by simp [split]
    obtain ⟨d, hd⟩ := List.exists_mem_of_ne_nil old (h.filled _ mem)
    have same : lower d.name = lower c.name := h.named _ mem d hd
    have inOld : d.name ∈ groupedNames ⟨before⟩ ++ old.map (·.name) :=
      List.mem_append_right _ (List.mem_map_of_mem hd)
    have names : groupedNames m =
        groupedNames ⟨before⟩ ++ old.map (·.name) ++ groupedNames ⟨behind⟩ :=
      groupedNames_of_split split
    have namesAfter : groupedNames (m.push (lower c.name) c) =
        groupedNames ⟨before⟩ ++ old.map (·.name) ++ c.name :: groupedNames ⟨behind⟩ := by
      rw [OrderedMap.push, found, groupedNames_of_split (after _)]
      simp
    have inAll : d.name ∈ groupedNames m := by
      rw [names]
      exact List.mem_append_left _ inOld
    -- the new name is no nearer than `d`, be it behind the group or behind all groups
    rw [namesAfter, kept_append_cons_of_lower name inOld same, ← names,
      kept_append_cons_of_lower name inAll same, List.append_nil]
  | false =>
    have missing : m.get? (lower c.name) = none := by
      rw [← Option.not_isSome_iff_eq_none, OrderedMap.isSome_get?, there]
      exact Bool.false_ne_true
    congr 1
    simp [groupedNames, OrderedMap.values, OrderedMap.push, missing,
      OrderedMap.entries_insert_of_new there]

theorem foldl_push (h : Grouped m) (columns : List ColumnInfo) :
    Grouped (columns.foldl (fun m c => m.push (lower c.name) c) m) := by
  induction columns generalizing m with
  | nil => exact h
  | cons c columns ih => exact ih (h.push c)

theorem kept_foldl_push (h : Grouped m) (columns : List ColumnInfo) (name : String) :
    kept name (groupedNames (columns.foldl (fun m c => m.push (lower c.name) c) m)) =
      kept name (groupedNames m ++ columns.map (·.name)) := by
  induction columns generalizing m with
  | nil => rw [List.map_nil, List.append_nil, List.foldl_nil]
  | cons c columns ih =>
    rw [List.foldl_cons, ih (h.push c), kept_append_congr (h.kept_push c name), List.append_assoc]
    rfl

end Grouped

theorem grouped_ofTables (p : Provider) (tables : List TableText) :
    Grouped (ofTables p tables).allColumns := by
  induction tables using List.reverseRecOn with
  | nil => exact .empty
  | append_singleton ts t ih =>
    rcases ofTables_concat_cases p ts t with ⟨same, _⟩ | ⟨columns, added, _⟩
    · rwa [same]
    · rw [added]
      exact ih.foldl_push columns

/-- A search through the groups keeps what a search through the tables keeps. -/
theorem kept_ofTables (p : Provider) (tables : List TableText) (name : String) :
    kept name (groupedNames (ofTables p tables).allColumns) =
      kept name (((knownTablesOf p tables).flatMap (·.columns)).map (·.name)) := by
  induction tables using List.reverseRecOn with
  | nil => rfl
  | append_singleton ts t ih =>
    rw [ofTables_concat, extend_eq, knownTablesOf_concat, learn, (holds_ofTables p ts).contains]
    split
    next => exact ih
    next =>
      cases columnsGiven p t with
      | none => simpa using ih
      | some columns =>
        have search := (grouped_ofTables p ts).kept_foldl_push columns name
        simpa [Scope.add] using search.trans (kept_append_congr ih (columns.map (·.name)))

theorem allColumns_foldl_addAlias (s : Scope) (es : List (String × String)) :
    (es.foldl addAlias s).allColumns = s.allColumns := by
  induction es generalizing s with
  | nil => rfl
  | cons e es ih =>
    rw [List.foldl_cons, ih]
    unfold addAlias
    split <;> rfl

end Scope

/-! ### Tables of the catalog -/

theorem knownTablesOf_eq_entered (p : Provider) (tables : List TableText) :
    knownTablesOf p tables =
      (enteredTables p tables).filterMap fun t => (columnsGiven p t).map (KnownTable.mk t.name) := by
  induction tables using List.reverseRecOn with
  | nil => rfl
  | append_singleton ts t ih =>
    rw [knownTablesOf_concat, learn, enteredTables_concat, ← (Scope.holds_ofTables p ts).contains,
      Scope.contains_tableColumns_ofTables]
    cases (enteredTables p ts).any (lower ·.name == lower t.name) with
    | true => exact ih
    | false =>
      cases given : columnsGiven p t with
      | none => simpa using ih
      | some columns => simp [ih, given]

theorem isSome_columnsGiven_of_entered {p : Provider} {tables : List TableText} {t : TableText}
    (h : t ∈ enteredTables p tables) : (columnsGiven p t).isSome = true :=
  (List.mem_filter.1 (List.mem_of_mem_eraseDupsBy h)).2

theorem find?_knownTablesOf (p : Provider) (tables : List TableText) (key : String) :
    (knownTablesOf p tables).find? (·.key == key) =
      ((enteredTables p tables).find? (lower ·.name == key)).bind fun t =>
        (columnsGiven p t).map (KnownTable.mk t.name) := by
  have all : ∀ t ∈ enteredTables p tables, (columnsGiven p t).isSome = true := fun _ =>
    isSome_columnsGiven_of_entered
  rw [knownTablesOf_eq_entered]
  generalize enteredTables p tables = entered at all
  induction entered with
  | nil => rfl
  | cons t ts ih =>
    obtain ⟨columns, given⟩ := Option.isSome_iff_exists.1 (all t List.mem_cons_self)
    have rest := ih fun u hu => all u (List.mem_cons_of_mem t hu)
    rw [List.filterMap_cons_some (by rw [given, Option.map_some]), List.find?_cons, List.find?_cons,
      KnownTable.key]
    cases lower t.name == key with
    | true => simp [given]
    | false => exact rest

end Names

namespace TableDef

def namesOfColumns (t : TableDef) : List String := t.columns.values.map (·.name)

theorem map_name_columnInfos (t : TableDef) : t.columnInfos.map (·.name) = t.namesOfColumns := by
  rw [columnInfos, List.map_map]
  rfl

end TableDef

namespace Catalog

open Names

variable (c : Catalog) (s : Statement)

/-- The table whose columns are looked up, if it has any. -/
def given? (schema : Option String) (name : String) : Option TableDef :=
  (c.tableFor? schema name).filter (!·.columns.isEmpty)

theorem filter_columns? (schema : Option String) (name : String) :
    (c.provider.columns? schema name).filter (!·.isEmpty) =
      (c.given? schema name).map (·.columnInfos) := by
  rw [columns?_eq_tableFor?, given?]
  cases c.tableFor? schema name with
  | none => rfl
  | some t =>
    rw [Option.map_some, Option.filter_some, Option.filter_some, t.columnInfos_isEmpty]
    split <;> rfl

theorem columnsGiven_eq (t : TableText) :
    columnsGiven c.provider t = (c.given? t.schema t.name).map (·.columnInfos) :=
  c.filter_columns? t.schema t.name

/-- The tables that enter the scope of a statement: of those with one name only the first. -/
def entered : List TableDef :=
  (enteredTables c.provider (Symbols.collect s).tables).filterMap fun t => c.given? t.schema t.name

/-- The table whose columns are checked under a name: the one that enters the scope under it, or
else the one that is looked up by it. -/
def checked? (name : String) : Option TableDef :=
  match (enteredTables c.provider (Symbols.collect s).tables).find? (lower ·.name == lower name) with
  | some t => c.given? t.schema t.name
  | none => c.given? none name

theorem map_name_knownOf :
    ((knownOf c.provider s).flatMap (·.columns)).map (·.name) =
      (c.entered s).flatMap (·.namesOfColumns) := by
  rw [knownOf, knownTablesOf_eq_entered, entered]
  induction enteredTables c.provider (Symbols.collect s).tables with
  | nil => rfl
  | cons t ts ih =>
    rw [List.filterMap_cons, List.filterMap_cons, columnsGiven_eq]
    cases c.given? t.schema t.name with
    | none => exact ih
    | some table =>
      simp only [Option.map_some, List.flatMap_cons, List.map_append, ih,
        TableDef.map_name_columnInfos]

theorem columnsFor_eq_checked? (dialect : Dialect) (warn : Bool) (name : String) :
    (ColumnCheck.ofStatement c.provider dialect warn s).columnsFor name =
      (c.checked? s name).map (·.columnInfos) := by
  have elsewhere : (ColumnCheck.ofStatement c.provider dialect warn s).provider = c.provider := rfl
  rw [ColumnCheck.columnsFor, ColumnCheck.scope_ofStatement.columnsOf_eq, knownOf,
    find?_knownTablesOf, checked?, elsewhere]
  cases found : (enteredTables c.provider (Symbols.collect s).tables).find?
      (lower ·.name == lower name) with
  | none => exact c.filter_columns? none name
  | some t =>
    have isGiven := isSome_columnsGiven_of_entered (List.mem_of_find?_eq_some found)
    obtain ⟨columns, hcolumns⟩ := Option.isSome_iff_exists.1 isGiven
    have filled : columns.isEmpty = false := by
      rw [List.isEmpty_eq_false_iff]
      exact (columnsGiven_eq_some.1 hcolumns).2
    rw [← columnsGiven_eq]
    simp [hcolumns, filled]

end Catalog

end SqlAudit
