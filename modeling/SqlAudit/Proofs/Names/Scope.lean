import SqlAudit.Names.Scope
import SqlAudit.Proofs.Catalog.Keys
import SqlAudit.Proofs.Names.FirstOfKind

/-!
What a scope holds. The tables of a statement whose columns are known, the first one of every name,
determine all that is looked up in its scope: the columns of a table, the columns of a name, and the
tables that own them.
-/

namespace SqlAudit

open Text

namespace OrderedMap

variable {α : Type}

theorem get?_push (m : OrderedMap (List α)) (key k : String) (value : α) :
    (m.push key value).get? k =
      if key = k then some ((m.get? k).getD [] ++ [value]) else m.get? k := by
  rw [push, get?_insert]
  by_cases h : key = k
  · simp [h]
  · simp [h]

end OrderedMap

namespace Names

structure KnownTable where
  name : String
  columns : List ColumnInfo
  deriving DecidableEq, Repr

namespace KnownTable

def key (k : KnownTable) : String := lower k.name

def hasColumn (k : KnownTable) (name : String) : Prop :=
  ∃ info ∈ k.columns, lower info.name = lower name

end KnownTable

def columnsGiven (p : Provider) (t : TableText) : Option (List ColumnInfo) :=
  (p.columns? t.schema t.name).filter (!·.isEmpty)

/-- Adds a table to those known, where it has columns and no table of its name is among them. -/
def learn (p : Provider) (known : List KnownTable) (t : TableText) : List KnownTable :=
  if known.any (·.key == lower t.name) then known
  else known ++ ((columnsGiven p t).map (KnownTable.mk t.name)).toList

/-- The tables whose columns are known, the first one of every name. -/
def knownTablesOf (p : Provider) (tables : List TableText) : List KnownTable :=
  tables.foldl (learn p) []

theorem knownTablesOf_concat (p : Provider) (ts : List TableText) (t : TableText) :
    knownTablesOf p (ts ++ [t]) = learn p (knownTablesOf p ts) t := by
  rw [knownTablesOf, List.foldl_append, ← knownTablesOf]
  rfl

theorem columnsGiven_eq_some {p : Provider} {t : TableText} {columns : List ColumnInfo} :
    columnsGiven p t = some columns ↔ p.columns? t.schema t.name = some columns ∧ columns ≠ [] := by
  rw [columnsGiven, Option.filter_eq_some_iff]
  simp

theorem knownTablesOf_eq (p : Provider) (tables : List TableText) :
    knownTablesOf p tables =
      (tables.filterMap fun t => (columnsGiven p t).map (KnownTable.mk t.name)).eraseDupsBy
        fun k l => l.key == k.key := by
  induction tables using List.reverseRecOn with
  | nil => rfl
  | append_singleton ts t ih =>
    rw [knownTablesOf_concat, learn, List.filterMap_append, ih]
    cases hgiven : columnsGiven p t with
    | none => simp [hgiven]
    | some columns =>
      have hkeep : [t].filterMap (fun t => (columnsGiven p t).map (KnownTable.mk t.name)) =
          [⟨t.name, columns⟩] := by simp [hgiven]
      rw [hkeep, List.eraseDupsBy_concat]
      rfl

theorem exists_table_of_mem_known {p : Provider} {tables : List TableText} {k : KnownTable}
    (h : k ∈ knownTablesOf p tables) :
    ∃ t ∈ tables, t.name = k.name ∧ columnsGiven p t = some k.columns := by
  rw [knownTablesOf_eq] at h
  obtain ⟨t, ht, hk⟩ := List.mem_filterMap.1 (List.mem_of_mem_eraseDupsBy h)
  obtain ⟨columns, hcolumns, rfl⟩ := Option.map_eq_some_iff.1 hk
  exact ⟨t, ht, rfl, hcolumns⟩

theorem exists_mem_known {p : Provider} {tables : List TableText} {t : TableText}
    (h : t ∈ tables) (given : columnsGiven p t ≠ none) :
    ∃ k ∈ knownTablesOf p tables, k.key = lower t.name := by
  obtain ⟨columns, hcolumns⟩ := Option.ne_none_iff_exists'.1 given
  have hmem : ⟨t.name, columns⟩ ∈
      tables.filterMap fun t => (columnsGiven p t).map (KnownTable.mk t.name) :=
    List.mem_filterMap.2 ⟨t, h, by rw [hcolumns, Option.map_some]⟩
  rw [knownTablesOf_eq]
  obtain ⟨k, hk, hkey⟩ := List.exists_mem_eraseDupsBy (r := fun k l => l.key == k.key)
    (fun k => beq_self_eq_true k.key) hmem
  exact ⟨k, hk, beq_iff_eq.1 hkey⟩

theorem pairwise_knownTablesOf (p : Provider) (tables : List TableText) :
    (knownTablesOf p tables).Pairwise fun k l => k.key ≠ l.key := by
  rw [knownTablesOf_eq]
  exact (List.pairwise_eraseDupsBy _ _).imp beq_eq_false_iff_ne.1

/-! ### Owners of columns -/

def ownersOf (columns : List ColumnInfo) : List String :=
  columns.foldl (fun ts c => if ts.any (sameName · c.table) then ts else ts ++ [c.table]) []

theorem ownersOf_eq (columns : List ColumnInfo) :
    ownersOf columns = (columns.map (·.table)).eraseDupsBy sameName := by
  have flip : sameName = fun a b => sameName b a :=
    funext fun a => funext fun b => sameName_comm a b
  rw [flip, ← List.foldl_eq_eraseDupsBy]
  rfl

theorem exists_column_of_mem_ownersOf {columns : List ColumnInfo} {table : String}
    (h : table ∈ ownersOf columns) : ∃ c ∈ columns, c.table = table := by
  rw [ownersOf_eq] at h
  exact List.mem_map.1 (List.mem_of_mem_eraseDupsBy h)

theorem exists_mem_ownersOf {columns : List ColumnInfo} {c : ColumnInfo} (h : c ∈ columns) :
    ∃ table ∈ ownersOf columns, sameName table c.table = true := by
  have htable : c.table ∈ columns.map (·.table) := List.mem_map_of_mem h
  rw [ownersOf_eq]
  obtain ⟨table, hmem, hsame⟩ := List.exists_mem_eraseDupsBy sameName_refl htable
  exact ⟨table, hmem, by rwa [sameName_comm]⟩

theorem pairwise_ownersOf (columns : List ColumnInfo) :
    (ownersOf columns).Pairwise fun a b => sameName a b = false := by
  rw [ownersOf_eq]
  exact (List.pairwise_eraseDupsBy _ _).imp fun hdiff => by rwa [sameName_comm]

theorem ownersOf_filter {p : String → Bool}
    (respects : ∀ a b, sameName a b = true → p a = p b) (columns : List ColumnInfo) :
    ownersOf (columns.filter (p ·.table)) = (ownersOf columns).filter p := by
  rw [ownersOf_eq, ownersOf_eq, List.filter_eraseDupsBy respects, List.filter_map]
  rfl

theorem two_le_length_ownersOf {columns : List ColumnInfo} :
    2 ≤ (ownersOf columns).length ↔
      ∃ c ∈ columns, ∃ d ∈ columns, sameName c.table d.table = false := by
  constructor
  · intro h
    have hpair := pairwise_ownersOf columns
    match howners : ownersOf columns with
    | [] => simp [howners] at h
    | [_] => simp [howners] at h
    | a :: b :: _ =>
      rw [howners, List.pairwise_cons] at hpair
      have ha : a ∈ ownersOf columns := by simp [howners]
      have hb : b ∈ ownersOf columns := by simp [howners]
      obtain ⟨c, hc, rfl⟩ := exists_column_of_mem_ownersOf ha
      obtain ⟨d, hd, rfl⟩ := exists_column_of_mem_ownersOf hb
      exact ⟨c, hc, d, hd, hpair.1 d.table List.mem_cons_self⟩
  · rintro ⟨c, hc, d, hd, hdiff⟩
    obtain ⟨a, ha, hac⟩ := exists_mem_ownersOf hc
    obtain ⟨b, hb, hbd⟩ := exists_mem_ownersOf hd
    have hne : a ≠ b := by
      rintro rfl
      rw [← sameName_congr_left hac, hbd] at hdiff
      cases hdiff
    match howners : ownersOf columns with
    | [] => simp [howners] at ha
    | [_] =>
      rw [howners, List.mem_singleton] at ha hb
      exact absurd (ha.trans hb.symm) hne
    | _ :: _ :: _ => simp

/-! ### What a scope answers -/

namespace Scope

/-- The scope answers as tables with known columns do. -/
structure Holds (s : Scope) (known : List KnownTable) : Prop where
  tables : s.tableColumns.entries = known.map fun k => (k.key, k.columns)
  columns : ∀ key,
    (s.allColumns.get? key).getD [] = (known.flatMap (·.columns)).filter (lower ·.name == key)
  nonempty : ∀ key, s.allColumns.get? key ≠ some []

theorem holds_empty : empty.Holds [] where
  tables := rfl
  columns _ := rfl
  nonempty _ := by simp [empty]

theorem get?_foldl_push (columns : List ColumnInfo) (m : OrderedMap (List ColumnInfo))
    (key : String) :
    ((columns.foldl (fun m c => m.push (lower c.name) c) m).get? key).getD [] =
      (m.get? key).getD [] ++ columns.filter (lower ·.name == key) := by
  induction columns generalizing m with
  | nil => simp
  | cons c columns ih =>
    rw [List.foldl_cons, ih, OrderedMap.get?_push]
    by_cases h : lower c.name = key
    · simp [h]
    · simp [h]

theorem get?_foldl_push_ne (columns : List ColumnInfo) {m : OrderedMap (List ColumnInfo)}
    {key : String} (h : m.get? key ≠ some []) :
    (columns.foldl (fun m c => m.push (lower c.name) c) m).get? key ≠ some [] := by
  induction columns generalizing m with
  | nil => exact h
  | cons c columns ih =>
    refine ih ?_
    rw [OrderedMap.get?_push]
    split
    next => simp
    next => exact h

variable {s : Scope} {known : List KnownTable}

theorem Holds.contains (h : s.Holds known) (key : String) :
    s.tableColumns.contains key = known.any (·.key == key) := by
  rw [OrderedMap.contains, h.tables, List.any_map]
  rfl

theorem extend_eq (p : Provider) (s : Scope) (t : TableText) :
    s.extend p t =
      if s.tableColumns.contains (lower t.name) then s
      else (columnsGiven p t).elim s (s.add t) := by
  rw [extend, columnsGiven]
  cases p.columns? t.schema t.name with
  | none => rfl
  | some columns => cases columns <;> simp [Option.filter]

theorem Holds.extend (h : s.Holds known) (p : Provider) (t : TableText) :
    (s.extend p t).Holds (learn p known t) := by
  rw [extend_eq, learn, h.contains]
  split
  next => exact h
  next hnew =>
    cases columnsGiven p t with
    | none => simpa using h
    | some columns =>
      have hfresh : s.tableColumns.contains (lower t.name) = false := by
        rw [h.contains]
        exact Bool.eq_false_iff.2 hnew
      refine ⟨?_, fun key => ?_, fun key => ?_⟩
      · simp [add, OrderedMap.entries_insert_of_new hfresh, h.tables, KnownTable.key]
      · simpa [add, List.filter_append, h.columns] using get?_foldl_push columns s.allColumns key
      · exact get?_foldl_push_ne columns (h.nonempty key)

theorem ofTables_concat (p : Provider) (ts : List TableText) (t : TableText) :
    ofTables p (ts ++ [t]) = (ofTables p ts).extend p t := by
  rw [ofTables, List.foldl_append, ← ofTables]
  rfl

theorem holds_ofTables (p : Provider) (tables : List TableText) :
    (ofTables p tables).Holds (knownTablesOf p tables) := by
  induction tables using List.reverseRecOn with
  | nil => exact holds_empty
  | append_singleton ts t ih =>
    rw [knownTablesOf_concat, ofTables_concat]
    exact ih.extend p t

theorem holds_ofSymbols (p : Provider) (symbols : Symbols) :
    (ofSymbols p symbols).Holds (knownTablesOf p symbols.tables) := by
  rw [ofSymbols]
  induction symbols.aliases.entries using List.reverseRecOn with
  | nil => exact holds_ofTables p symbols.tables
  | append_singleton es e ih =>
    rw [List.foldl_append, List.foldl_cons, List.foldl_nil]
    split
    next => exact ⟨ih.tables, ih.columns, ih.nonempty⟩
    next => exact ih

theorem Holds.hasTables_iff (h : s.Holds known) : s.hasTables = true ↔ known ≠ [] := by
  simp [hasTables, OrderedMap.isEmpty, h.tables]

theorem Holds.columnsOf_eq (h : s.Holds known) (table : String) :
    s.columnsOf table = (known.find? (·.key == lower table)).map (·.columns) := by
  rw [columnsOf, OrderedMap.get?, h.tables, List.find?_map, Option.map_map]
  rfl

theorem Holds.getD_candidates (h : s.Holds known) (name : String) :
    (s.candidates name).getD [] =
      (known.flatMap (·.columns)).filter (lower ·.name == lower name) := h.columns _

theorem Holds.owners_eq (h : s.Holds known) (name : String) :
    s.owners name =
      ownersOf ((known.flatMap (·.columns)).filter (lower ·.name == lower name)) := by
  rw [owners, h.getD_candidates]
  rfl

theorem Holds.candidates_isNone_iff (h : s.Holds known) (name : String) :
    (s.candidates name).isNone = true ↔ ∀ k ∈ known, ¬k.hasColumn name := by
  have hcolumns := h.getD_candidates name
  have hne : s.candidates name ≠ some [] := h.nonempty _
  have hnone : s.candidates name = none ↔ (s.candidates name).getD [] = [] := by
    cases hc : s.candidates name with
    | none => simp
    | some columns =>
      rw [hc] at hne
      simpa using hne
  rw [Option.isNone_iff_eq_none, hnone, hcolumns, List.filter_eq_nil_iff]
  simp only [List.mem_flatMap, beq_iff_eq, KnownTable.hasColumn]
  constructor
  · rintro hall k hk ⟨info, hinfo, hname⟩
    exact hall info ⟨k, hk, hinfo⟩ hname
  · rintro hall info ⟨k, hk, hinfo⟩ hname
    exact hall k hk ⟨info, hinfo, hname⟩

end Scope

end Names

end SqlAudit
