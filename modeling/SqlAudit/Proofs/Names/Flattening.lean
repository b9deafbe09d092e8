import SqlAudit.Proofs.Names.LastAlias

/-!
What a statement's table uses are flattened to. Of every table the text of its first use is kept,
and an alias stands for the table of its last use; tables and aliases come in the order in which
they are first used.
-/

namespace SqlAudit

open Sql Text

namespace Names

namespace TableText

theorem same_iff {t t' : TableText} :
    t.same t' = true ↔
      foldAscii t.name = foldAscii t'.name ∧ t.schema.map lower = t'.schema.map lower := by
  rw [same, Bool.and_eq_true, sameName_iff, beq_iff_eq]

theorem same_comm (t t' : TableText) : t.same t' = t'.same t := by
  rw [Bool.eq_iff_iff, same_iff, same_iff, eq_comm, eq_comm (a := t.schema.map lower)]

theorem same_congr (t t' : TableText) (h : t.same t' = true) : t.same = t'.same := by
  obtain ⟨name, schema⟩ := same_iff.1 h
  funext u
  rw [Bool.eq_iff_iff, same_iff, same_iff, name, schema]

end TableText

def TableUse.aliasKey? (u : TableUse) : Option String := u.alias?.map fun a => lower a.value

theorem keys_aliasTables (uses : List TableUse) :
    (aliasTables uses).keys = (uses.filterMap TableUse.aliasKey?).eraseDups := by
  induction uses using List.reverseRecOn with
  | nil => rfl
  | append_singleton us u ih =>
    rw [aliasTables, List.foldl_append, ← aliasTables, List.foldl_cons, List.foldl_nil,
      List.filterMap_append]
    cases ha : u.alias? with
    | none =>
      have silent : [u].filterMap TableUse.aliasKey? = [] := by simp [TableUse.aliasKey?, ha]
      rw [silent, List.append_nil]
      exact ih
    | some a =>
      have given : [u].filterMap TableUse.aliasKey? = [lower a.value] := by
        simp [TableUse.aliasKey?, ha]
      have known : (aliasTables us).contains (lower a.value) =
          (aliasTables us).keys.any (lower a.value == ·) := by
        rw [Bool.eq_iff_iff, OrderedMap.contains_iff_mem_keys]
        simp
      rw [given, List.eraseDups, List.eraseDupsBy_concat, ← List.eraseDups, ← ih, ← known]
      exact OrderedMap.keys_insert _ _ _

namespace Symbols

/-- The tables and aliases of names are what their uses flatten to: the first use of every table,
and the last use of every alias. -/
structure Flattens (symbols : Symbols) : Prop where
  tables : List.FirstOfKinds TableText.same symbols.tables (symbols.uses.map (·.text))
  distinct : symbols.tables.Pairwise fun t t' => t.same t' = false
  aliasKeys : List.FirstOfKinds (fun key key' => key == key') symbols.aliases.keys
    (symbols.uses.filterMap TableUse.aliasKey?)
  denotes : ∀ name, symbols.aliases.get? (lower name) =
    (lastUse symbols.uses name).map (·.table.value)
  qualifies : ∀ u ∈ symbols.uses, ∀ name,
    (sameName u.table.value name = true ∨ ∃ a ∈ u.alias?, sameName a.value name = true) →
      symbols.isQualifier name = true

theorem firstOfKinds_distinctTexts (uses : List TableUse) :
    List.FirstOfKinds TableText.same (distinctTexts uses) (uses.map (·.text)) := by
  have flip : (fun t t' : TableText => t'.same t) = TableText.same :=
    funext fun t => funext fun t' => TableText.same_comm t' t
  rw [distinctTexts_eq, flip]
  exact List.firstOfKinds_eraseDupsBy TableText.same_refl TableText.same_congr _

/-- Whatever is visited, and so in every statement, tables and aliases are what the uses that are
met flatten to. -/
theorem ofVisits_flattens (visits : List Visit) : (ofVisits visits).Flattens where
  tables := firstOfKinds_distinctTexts _
  distinct := (firstOfKinds_distinctTexts _).distinct TableText.same_congr
  aliasKeys := by
    have keys : (ofVisits visits).aliases.keys =
        ((ofVisits visits).uses.filterMap TableUse.aliasKey?).eraseDups := keys_aliasTables _
    rw [keys]
    refine List.firstOfKinds_eraseDupsBy beq_self_eq_true (fun key key' same => ?_) _
    rw [beq_iff_eq.1 same]
  denotes := get?_aliasTables _
  qualifies u hu name := by
    rintro (table | ⟨a, ha, second⟩)
    · obtain ⟨t, ht, hname⟩ := exists_mem_distinctTexts_name_iff.2 ⟨u, hu, table⟩
      have named : (ofVisits visits).tables.any (fun t => sameName t.name name ||
          t.alias?.any (sameName · name)) = true :=
        List.any_eq_true.2 ⟨t, ht, by rw [hname, Bool.true_or]⟩
      rw [isQualifier, named, Bool.or_true]
    · have known : (ofVisits visits).aliases.contains (lower name) = true :=
        contains_aliasTables_iff.2 ⟨u, hu, a, ha, lower_eq_of_sameName second⟩
      rw [isQualifier, known, Bool.true_or, Bool.true_or]

-- `users u JOIN Users AS u2, sales.users U, orders u2`: two uses of the first table are one, and
-- the aliases are those of the last uses
example :
    let name (text : String) : Ident := ⟨text, none, none⟩
    let used (schema : Option String) (table second : String) : Factor :=
      .table (schema.toList.map name ++ [name table]) (some ⟨name second, []⟩) false []
    let symbols := ofVisits ([used none "users" "u", used none "Users" "u2",
      used (some "sales") "users" "U", used none "orders" "u2"].map .factor)
    symbols.tables = [⟨none, "users", some "u"⟩, ⟨some "sales", "users", some "U"⟩,
        ⟨none, "orders", some "u2"⟩] ∧
      symbols.aliases = ⟨[("u", "users"), ("u2", "orders")]⟩ := by
  decide

end Symbols

end Names

end SqlAudit
