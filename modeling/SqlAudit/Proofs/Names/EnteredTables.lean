import SqlAudit.Proofs.Names.Scope

/-!
The tables that enter a scope: the first one of every name whose columns are known. They determine
the aliases of the scope, in which the last one to answer to a key counts.
-/

namespace SqlAudit

open Text

namespace Names

/-- Whether a key is the name or the alias of a table. -/
def TableText.answersTo (t : TableText) (key : String) : Bool :=
  lower t.name == key || t.alias?.any (lower · == key)

theorem TableText.answersTo_iff {t : TableText} {key : String} :
    t.answersTo key = true ↔ lower t.name = key ∨ t.alias?.map lower = some key := by
  cases h : t.alias? <;> simp [TableText.answersTo, h]

/-- The tables that enter a scope, in their order. -/
def enteredTables (p : Provider) (tables : List TableText) : List TableText :=
  (tables.filter fun t => (columnsGiven p t).isSome).eraseDupsBy fun a b =>
    lower b.name == lower a.name

theorem enteredTables_concat (p : Provider) (ts : List TableText) (t : TableText) :
    enteredTables p (ts ++ [t]) =
      if (enteredTables p ts).any (lower ·.name == lower t.name) || (columnsGiven p t).isNone then
        enteredTables p ts
      else enteredTables p ts ++ [t] := by
  rw [enteredTables, List.filter_append]
  cases hgiven : columnsGiven p t with
  | none =>
    have hdrop : [t].filter (fun t => (columnsGiven p t).isSome) = [] := by simp [hgiven]
    rw [hdrop, List.append_nil, Option.isNone_none, Bool.or_true, if_pos rfl]
    rfl
  | some columns =>
    have hkeep : [t].filter (fun t => (columnsGiven p t).isSome) = [t] := by simp [hgiven]
    rw [hkeep, List.eraseDupsBy_concat, Option.isNone_some, Bool.or_false]
    rfl

variable {p : Provider} {tables : List TableText}

theorem mem_tables_of_mem_entered {t : TableText} (h : t ∈ enteredTables p tables) :
    t ∈ tables := (List.mem_filter.1 (List.mem_of_mem_eraseDupsBy h)).1

theorem pairwise_enteredTables (p : Provider) (tables : List TableText) :
    (enteredTables p tables).Pairwise fun t u => lower t.name ≠ lower u.name :=
  (List.pairwise_eraseDupsBy _ _).imp beq_eq_false_iff_ne.1

namespace Scope

theorem contains_tableColumns_add (s : Scope) (t : TableText) (columns : List ColumnInfo)
    (key : String) :
    (s.add t columns).tableColumns.contains key =
      (lower t.name == key || s.tableColumns.contains key) :=
  OrderedMap.contains_insert s.tableColumns (lower t.name) key columns

theorem get?_tableAliases_add (s : Scope) (t : TableText) (columns : List ColumnInfo)
    (key : String) :
    (s.add t columns).tableAliases.get? key =
      if t.answersTo key then some t.name else s.tableAliases.get? key := by
  rw [add, OrderedMap.get?_insert, TableText.answersTo]
  by_cases hname : lower t.name = key
  · simp [hname]
  · cases t.alias? with
    | none => simp [hname]
    | some a => simp [hname, OrderedMap.get?_insert]

theorem mem_tableAliases_add {s : Scope} {t : TableText} {columns : List ColumnInfo}
    {e : String × String} (h : e ∈ (s.add t columns).tableAliases.entries) :
    e ∈ s.tableAliases.entries ∨ t.name = e.2 ∧ t.answersTo e.1 = true := by
  rcases OrderedMap.mem_insert h with h | rfl
  · cases halias : t.alias? with
    | none =>
      rw [halias] at h
      exact Or.inl h
    | some a =>
      rw [halias] at h
      rcases OrderedMap.mem_insert h with h | rfl
      · exact Or.inl h
      · exact Or.inr ⟨rfl, by simp [TableText.answersTo, halias]⟩
  · exact Or.inr ⟨rfl, by simp [TableText.answersTo]⟩

theorem contains_tableColumns_ofTables (p : Provider) (tables : List TableText) (key : String) :
    (ofTables p tables).tableColumns.contains key =
      (enteredTables p tables).any (lower ·.name == key) := by
  induction tables using List.reverseRecOn generalizing key with
  | nil => rfl
  | append_singleton ts t ih =>
    rw [ofTables_concat, extend_eq, enteredTables_concat, ih (lower t.name)]
    cases (enteredTables p ts).any (lower ·.name == lower t.name) with
    | true => exact ih key
    | false =>
      cases columnsGiven p t with
      | none => exact ih key
      | some columns =>
        simp [contains_tableColumns_add, ih key, Bool.or_comm]

theorem ofTables_concat_cases (p : Provider) (ts : List TableText) (t : TableText) :
    (ofTables p (ts ++ [t]) = ofTables p ts ∧
        enteredTables p (ts ++ [t]) = enteredTables p ts) ∨
      ∃ columns, ofTables p (ts ++ [t]) = (ofTables p ts).add t columns ∧
        enteredTables p (ts ++ [t]) = enteredTables p ts ++ [t] := by
  rw [ofTables_concat, extend_eq, enteredTables_concat, contains_tableColumns_ofTables]
  cases (enteredTables p ts).any (lower ·.name == lower t.name) with
  | true => exact Or.inl ⟨rfl, rfl⟩
  | false =>
    cases columnsGiven p t with
    | none => exact Or.inl ⟨rfl, rfl⟩
    | some columns => exact Or.inr ⟨columns, rfl, rfl⟩

/-- A key stands for the last table to answer to it. -/
theorem get?_tableAliases_ofTables (p : Provider) (tables : List TableText) (key : String) :
    (ofTables p tables).tableAliases.get? key =
      ((enteredTables p tables).reverse.find? (·.answersTo key)).map (·.name) := by
  induction tables using List.reverseRecOn with
  | nil => rfl
  | append_singleton ts t ih =>
    rcases ofTables_concat_cases p ts t with ⟨same, entered⟩ | ⟨columns, added, entered⟩
    · rw [same, entered, ih]
    · rw [added, entered, get?_tableAliases_add, ih, List.reverse_append,
        List.reverse_singleton, List.singleton_append, List.find?_cons]
      cases t.answersTo key <;> rfl

theorem exists_entered_of_mem_tableAliases {p : Provider} {tables : List TableText}
    {e : String × String} (h : e ∈ (ofTables p tables).tableAliases.entries) :
    ∃ t ∈ enteredTables p tables, t.name = e.2 ∧ t.answersTo e.1 = true := by
  induction tables using List.reverseRecOn with
  | nil => cases h
  | append_singleton ts t ih =>
    rcases ofTables_concat_cases p ts t with ⟨same, entered⟩ | ⟨columns, added, entered⟩
    · rw [same] at h
      rw [entered]
      exact ih h
    · rw [added] at h
      rw [entered]
      rcases mem_tableAliases_add h with h | answers
      · obtain ⟨u, hu, rest⟩ := ih h
        exact ⟨u, List.mem_append_left _ hu, rest⟩
      · exact ⟨t, by simp, answers⟩

/-! ### The aliases of a statement -/

def addAlias (s : Scope) (a : String × String) : Scope :=
  if s.tableColumns.contains (lower a.2) then
    { s with tableAliases := s.tableAliases.insertNew a.1 a.2 }
  else s

theorem ofSymbols_eq (p : Provider) (symbols : Symbols) :
    ofSymbols p symbols = symbols.aliases.entries.foldl addAlias (ofTables p symbols.tables) := rfl

theorem tableColumns_addAlias (s : Scope) (a : String × String) :
    (s.addAlias a).tableColumns = s.tableColumns := by
  unfold addAlias
  split <;> rfl

theorem tableColumns_foldl_addAlias (s : Scope) (es : List (String × String)) :
    (es.foldl addAlias s).tableColumns = s.tableColumns := by
  induction es generalizing s with
  | nil => rfl
  | cons a es ih => rw [List.foldl_cons, ih, tableColumns_addAlias]

theorem tableColumns_ofSymbols (p : Provider) (symbols : Symbols) :
    (ofSymbols p symbols).tableColumns = (ofTables p symbols.tables).tableColumns :=
  tableColumns_foldl_addAlias _ _

theorem get?_foldl_addAlias (s : Scope) (es : List (String × String)) (key : String) :
    (es.foldl addAlias s).tableAliases.get? key =
      (s.tableAliases.get? key).or
        ((es.find? fun a => a.1 == key && s.tableColumns.contains (lower a.2)).map (·.2)) := by
  induction es generalizing s with
  | nil => simp
  | cons a es ih =>
    rw [List.foldl_cons, ih, tableColumns_addAlias, List.find?_cons, addAlias]
    cases s.tableColumns.contains (lower a.2) with
    | false => simp
    | true =>
      by_cases h : a.1 = key
      · simp [OrderedMap.get?_insertNew, h]
      · have other : (a.1 == key) = false := beq_eq_false_iff_ne.2 h
        simp [OrderedMap.get?_insertNew, h, other]

/-- An alias of the statement counts where no table of the scope answers to it. -/
theorem get?_tableAliases_ofSymbols (p : Provider) (symbols : Symbols) (key : String) :
    (ofSymbols p symbols).tableAliases.get? key =
      ((ofTables p symbols.tables).tableAliases.get? key).or
        ((symbols.aliases.entries.find? fun a => a.1 == key &&
          (ofTables p symbols.tables).tableColumns.contains (lower a.2)).map (·.2)) :=
  get?_foldl_addAlias _ _ key

theorem mem_tableAliases_foldl_addAlias {s : Scope} {es : List (String × String)}
    {e : String × String} (h : e ∈ (es.foldl addAlias s).tableAliases.entries) :
    e ∈ s.tableAliases.entries ∨ e ∈ es ∧ s.tableColumns.contains (lower e.2) = true := by
  induction es generalizing s with
  | nil => exact Or.inl h
  | cons a es ih =>
    rcases ih h with h | ⟨he, known⟩
    · unfold addAlias at h
      split at h
      next known =>
        rcases OrderedMap.mem_insertNew h with h | rfl
        · exact Or.inl h
        · exact Or.inr ⟨List.mem_cons_self, known⟩
      next => exact Or.inl h
    · rw [tableColumns_addAlias] at known
      exact Or.inr ⟨List.mem_cons_of_mem a he, known⟩

end Scope

end Names

end SqlAudit
