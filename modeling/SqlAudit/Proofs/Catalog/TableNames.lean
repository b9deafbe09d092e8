import SqlAudit.Proofs.Catalog.TableMap

/-!
The tables that a catalog lists. In a catalog that the operations build, keys are the names of what
is stored under them; so no table is listed twice in any letter case, and every name that is listed
finds the table it was listed for.
-/

namespace SqlAudit

open Sql Text

namespace Catalog

variable {c : Catalog}

theorem mem_tableNames {n : TableName} :
    n ∈ c.tableNames ↔
      ∃ s ∈ c.schemas.entries, ∃ t ∈ s.2.tables.entries, n = .within s.1 t.1 := by
  simp only [tableNames, OrderedMap.keys, List.mem_flatMap, List.mem_map, List.map_map]
  constructor
  · rintro ⟨s, hs, t, ht, rfl⟩
    exact ⟨s, hs, t, ht, rfl⟩
  · rintro ⟨s, hs, t, ht, rfl⟩
    exact ⟨s, hs, t, ht, rfl⟩

theorem WellFormed.table?_of_mem (h : c.WellFormed) {s : String × Schema}
    (hs : s ∈ c.schemas.entries) {t : String × TableDef} (ht : t ∈ s.2.tables.entries) :
    c.table? (.within s.1 t.1) = some t.2 := by
  have hschema : c.schema? s.1 = some s.2 := h.schemas_distinct.find?_of_mem hs (sameName_refl s.1)
  have htable : s.2.table? t.1 = some t.2 :=
    (h.schemas s hs).tables_distinct.find?_of_mem ht (sameName_refl t.1)
  exact Option.bind_eq_some_iff.2 ⟨s.2, hschema, htable⟩

theorem WellFormed.tableNames_pairwise (h : c.WellFormed) :
    c.tableNames.Pairwise fun a b => c.sameTable a b = false := by
  have hdistinct := h.schemas_distinct
  rw [OrderedMap.DistinctNames, OrderedMap.keys, List.pairwise_map] at hdistinct
  rw [tableNames, List.pairwise_flatMap]
  constructor
  · intro s hs
    have htables := (h.schemas s hs).tables_distinct
    rw [List.pairwise_map]
    refine htables.imp fun hab => ?_
    rw [sameTable, Bool.and_eq_false_iff]
    exact Or.inr hab
  · refine hdistinct.imp fun hab a ha b hb => ?_
    obtain ⟨_, _, rfl⟩ := List.mem_map.1 ha
    obtain ⟨_, _, rfl⟩ := List.mem_map.1 hb
    rw [sameTable, Bool.and_eq_false_iff]
    exact Or.inl hab

/-- A catalog that the operations build keeps its keys in step with the names they lead to; it lists
no table twice, and finds every table it lists. -/
theorem Built.lists_tables (built : c.Built) :
    c.WellFormed ∧ (c.tableNames.Pairwise fun a b => c.sameTable a b = false) ∧
      ∀ n ∈ c.tableNames, (c.table? n).isSome = true := by
  have h : c.WellFormed := built.wellFormed
  refine ⟨h, h.tableNames_pairwise, fun n hn => ?_⟩
  obtain ⟨s, hs, t, ht, rfl⟩ := mem_tableNames.1 hn
  rw [h.table?_of_mem hs ht]
  rfl

/-- The table `Users`, renamed to `sales.people` by a script, behind a table that comes again in
another letter case. -/
def renamed : Catalog :=
  let old := ((initial.addTable (.table (.plain "orders"))).addTable (.table (.plain "Users")))
  (Loader.run ⟨.generic, old.addTable (.table (.within "PUBLIC" "ORDERS")), []⟩
    (.define (.alter [⟨"users", none, none⟩]
      [.renameTable [⟨"sales", none, none⟩, ⟨"people", none, none⟩]]) [] none [])).catalog

theorem renamed_built : renamed.Built :=
  .run (l := ⟨.generic, _, []⟩) _
    (.addTable (.table _) (.addTable (.table _) (.addTable (.table _) (.ofDefault "public"))))

theorem renamed_lists :
    renamed.Built ∧ renamed.tableNames = [.within "public" "ORDERS", .within "sales" "people"] ∧
      renamed.WellFormed ∧
      (renamed.tableNames.Pairwise fun a b => renamed.sameTable a b = false) ∧
      ∀ n ∈ renamed.tableNames, (renamed.table? n).isSome = true :=
  ⟨renamed_built, by decide, Built.lists_tables renamed_built⟩

end Catalog

end SqlAudit
