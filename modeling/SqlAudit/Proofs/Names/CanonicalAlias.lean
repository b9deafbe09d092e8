import SqlAudit.Proofs.Names.EnteredTables
import SqlAudit.Proofs.Names.LastAlias

/-!
What the name of a table stands for in a scope. Names and aliases are kept in one map in which the
last table to be added counts, so a table loses its own name where one that is added behind it has
that name as an alias. The aliases of a statement, which are added to the scope last, hide nothing.
-/

namespace SqlAudit

open Sql Text

namespace Names

/-- Whether no table that stands behind the one named by a key has the key as its alias. -/
def KeepsName (key : String) (tables : List TableText) : Prop :=
  tables.Pairwise fun t u => lower t.name = key → u.alias?.map lower ≠ some key

instance (key : String) (tables : List TableText) : Decidable (KeepsName key tables) :=
  inferInstanceAs (Decidable (tables.Pairwise _))

theorem keepsName_of_unnamed {key : String} {tables : List TableText}
    (h : ∀ t ∈ tables, lower t.name ≠ key) : KeepsName key tables := by
  induction tables with
  | nil => exact List.Pairwise.nil
  | cons t ts ih =>
    refine List.pairwise_cons.2 ⟨fun u _ name => absurd name (h t List.mem_cons_self), ?_⟩
    exact ih fun u hu => h u (List.mem_cons_of_mem t hu)

/-- Among tables of different names, the last one to answer to the name of one of them is that one
just where it keeps its name. -/
theorem exists_last_answer {key : String} {tables : List TableText}
    (distinct : tables.Pairwise fun t u => lower t.name ≠ lower u.name)
    (named : ∃ t ∈ tables, lower t.name = key) :
    ∃ u, tables.reverse.find? (·.answersTo key) = some u ∧
      (lower u.name = key ↔ KeepsName key tables) := by
  induction tables with
  | nil =>
    obtain ⟨t, ht, _⟩ := named
    cases ht
  | cons t ts ih =>
    obtain ⟨different, distinct⟩ := List.pairwise_cons.1 distinct
    rw [List.reverse_cons, List.find?_append, KeepsName, List.pairwise_cons]
    by_cases name : lower t.name = key
    · have unnamed : ∀ u ∈ ts, lower u.name ≠ key := fun u hu => name ▸ (different u hu).symm
      cases hlast : ts.reverse.find? (·.answersTo key) with
      | some u =>
        have hu : u ∈ ts := List.mem_reverse.1 (List.mem_of_find?_eq_some hlast)
        have answers : u.answersTo key = true := by simpa using List.find?_some hlast
        have second : u.alias?.map lower = some key :=
          (TableText.answersTo_iff.1 answers).resolve_left (unnamed u hu)
        exact ⟨u, rfl, iff_of_false (unnamed u hu) fun keeps => keeps.1 u hu name second⟩
      | none =>
        have silent : ∀ u ∈ ts, u.alias?.map lower ≠ some key := by
          intro u hu second
          have answers : u.answersTo key = true := TableText.answersTo_iff.2 (Or.inr second)
          exact List.find?_eq_none.1 hlast u (List.mem_reverse.2 hu) answers
        have answers : t.answersTo key = true := TableText.answersTo_iff.2 (Or.inl name)
        refine ⟨t, by simp [answers], iff_of_true name ⟨fun u hu _ => silent u hu, ?_⟩⟩
        exact keepsName_of_unnamed unnamed
    · obtain ⟨v, hv, hname⟩ := named
      have behind : v ∈ ts := (List.mem_cons.1 hv).resolve_left fun same => name (same ▸ hname)
      obtain ⟨u, hlast, keeps⟩ := ih distinct ⟨v, behind, hname⟩
      refine ⟨u, by rw [hlast, Option.some_or], keeps.trans ?_⟩
      exact (and_iff_right fun w _ hname => absurd hname name).symm

/-- The name of a table in scope stands for the table itself just where no table that enters the
scope behind it has the name as its alias. -/
theorem ownName_denotes_iff (p : Provider) (tables : List TableText) {key : String}
    (known : key ∈ (Scope.ofTables p tables).tableColumns.keys) :
    ∃ name, (Scope.ofTables p tables).tableAliases.get? key = some name ∧
      (lower name = key ↔ KeepsName key (enteredTables p tables)) ∧
      ∀ symbols : Symbols, symbols.tables = tables →
        (Scope.ofSymbols p symbols).tableColumns = (Scope.ofTables p tables).tableColumns ∧
        (Scope.ofSymbols p symbols).tableAliases.get? key = some name := by
  rw [← OrderedMap.contains_iff_mem_keys, Scope.contains_tableColumns_ofTables] at known
  obtain ⟨t, ht, hname⟩ := List.any_eq_true.1 known
  obtain ⟨u, hlast, keeps⟩ := exists_last_answer (pairwise_enteredTables p tables)
    ⟨t, ht, beq_iff_eq.1 hname⟩
  have stored : (Scope.ofTables p tables).tableAliases.get? key = some u.name := by
    rw [Scope.get?_tableAliases_ofTables, hlast, Option.map_some]
  refine ⟨u.name, stored, keeps, ?_⟩
  rintro symbols rfl
  refine ⟨Scope.tableColumns_ofSymbols p symbols, ?_⟩
  rw [Scope.get?_tableAliases_ofSymbols, stored, Option.some_or]

/-- `orders AS users, users`: the table behind the one that has its name as an alias keeps it. -/
theorem later_ownName_kept :
    let p := (twoTables "users" "orders").provider
    let tables := [⟨none, "orders", some "users"⟩, ⟨none, "users", none⟩]
    "users" ∈ (Scope.ofTables p tables).tableColumns.keys ∧
      KeepsName "users" (enteredTables p tables) ∧
      ∃ name, (Scope.ofTables p tables).tableAliases.get? "users" = some name ∧
        lower name = "users" := by
  intro p tables
  have known : "users" ∈ (Scope.ofTables p tables).tableColumns.keys := by decide
  have keeps : KeepsName "users" (enteredTables p tables) := by decide
  obtain ⟨name, stored, own, _⟩ := ownName_denotes_iff p tables known
  exact ⟨known, keeps, name, stored, own.2 keeps⟩

/-- `SELECT 1 FROM users WHERE EXISTS (SELECT 1 FROM orders AS users)`. -/
def hiddenSelect : Select :=
  .mk [] [.plain (.literal "1")]
    [.mk (.table [.onLine "users" 14] none false []) []] []
    (some (.subquery [.text "EXISTS (", .operand 0, .text ")"] []
      (.mk []
        (.select (.mk [] [.plain (.literal "1")]
          [.mk (.table [.onLine "orders" 48] (some ⟨.onLine "users" 58, []⟩) false []) []]
          [] none []))
        [])))
    []

/-- Both tables are in scope, and the name of one of them stands for the other. -/
theorem ownName_hidden :
    let p := (twoTables "users" "orders").provider
    let symbols := Symbols.collect (.ofSelect hiddenSelect [])
    symbols.tables = [⟨none, "users", none⟩, ⟨none, "orders", some "users"⟩] ∧
      (Scope.ofTables p symbols.tables).tableColumns.keys = ["users", "orders"] ∧
      (Scope.ofTables p symbols.tables).tableAliases.get? "users" = some "orders" ∧
      (Scope.ofSymbols p symbols).tableColumns.keys = ["users", "orders"] ∧
      (Scope.ofSymbols p symbols).tableAliases.get? "users" = some "orders" := by
  decide

end Names

end SqlAudit
