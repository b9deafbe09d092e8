import SqlAudit.Proofs.Names.MissingTables
import SqlAudit.Proofs.Names.Rules

/-!
Checking the schemas of tables. Where it is not done, a table with a schema may be in any schema; in
a catalog that the operations build, the schemas that are searched are those that are found by name,
so no table is missed that would not be missed, or its schema with it, where schemas are checked.
-/

namespace SqlAudit.Names

open Sql Finding

variable {c : Catalog} {symbols : Symbols}

/-- The uses of tables that are looked up, each place once. -/
def lookedUpUses (symbols : Symbols) : List TableUse := firstByKey (·.table.key) [] symbols.uses

/-- The uses of tables that something is found on, in the order of the findings. -/
def missedUses (p : Provider) (checkSchemas : Bool) (symbols : Symbols) : List TableUse :=
  (lookedUpUses symbols).filter fun u => !(tableVerdict p checkSchemas symbols u).isEmpty

theorem length_plainTable_le (p : Provider) (table : Ident) : (plainTable p table).length ≤ 1 := by
  unfold plainTable
  split <;> simp

theorem length_qualifiedTable_le (p : Provider) (schema table : Ident) :
    (qualifiedTable p schema table).length ≤ 1 := by
  unfold qualifiedTable
  split
  · simp
  · split <;> simp

theorem length_tableVerdict_le (p : Provider) (checkSchemas : Bool) (symbols : Symbols)
    (u : TableUse) : (tableVerdict p checkSchemas symbols u).length ≤ 1 := by
  unfold tableVerdict
  split
  · exact Nat.zero_le 1
  · split
    next schema _ => exact length_qualifiedTable_le p schema u.table
    next => exact length_plainTable_le p u.table

theorem length_tableFindings (p : Provider) (checkSchemas : Bool) (symbols : Symbols) :
    (tableFindings p checkSchemas symbols).length =
      (missedUses p checkSchemas symbols).length := by
  rw [tableFindings, ← lookedUpUses, missedUses]
  induction lookedUpUses symbols with
  | nil => rfl
  | cons u uses ih =>
    have hle := length_tableVerdict_le p checkSchemas symbols u
    rw [List.flatMap_cons, List.length_append, ih]
    cases hverdict : tableVerdict p checkSchemas symbols u with
    | nil => simp [hverdict]
    | cons f rest =>
      rw [hverdict] at hle
      have hrest : rest = [] := List.eq_nil_of_length_eq_zero (by simpa using hle)
      simp [hverdict, hrest, Nat.add_comm]

theorem tableVerdict_of_noSchema (p : Provider) {u : TableUse} (bare : u.schema = none)
    (checkSchemas : Bool) :
    tableVerdict p checkSchemas symbols u =
      if isExempt symbols u then [] else plainTable p u.table := by
  unfold tableVerdict
  rw [bare]

theorem tableVerdict_unchecked (p : Provider) (u : TableUse) :
    tableVerdict p false symbols u =
      if isExempt symbols u then [] else plainTable p u.table := by
  unfold tableVerdict
  split
  · rfl
  · cases u.schema <;> rfl

theorem tableFindings_unchecked_onlyOf (p : Provider) (symbols : Symbols) :
    OnlyOf [.tableNotFound] (tableFindings p false symbols) := by
  refine .flatMap fun u => ?_
  rw [tableVerdict_unchecked]
  split
  · exact .nil
  · exact plainTable_onlyOf p u.table

theorem exists_table_of_qualifiedTable (wf : c.WellFormed) {schema table : Ident}
    (found : qualifiedTable c.provider schema table = []) :
    ∃ t, c.table? (.within schema.value table.value) = some t := by
  unfold qualifiedTable at found
  split at found
  next => cases found
  next tables htables =>
    split at found
    next hholds =>
      rw [wf.holdsName_tablesIn htables] at hholds
      exact Option.isSome_iff_exists.1 hholds
    next => cases found

theorem tableVerdict_unchecked_eq_nil (wf : c.WellFormed) {u : TableUse}
    (found : tableVerdict c.provider true symbols u = []) :
    tableVerdict c.provider false symbols u = [] := by
  cases hschema : u.schema with
  | none =>
    rw [tableVerdict_of_noSchema _ hschema] at found ⊢
    exact found
  | some schema =>
    cases hexempt : isExempt symbols u with
    | true => rw [tableVerdict_unchecked, hexempt, if_pos rfl]
    | false =>
      unfold tableVerdict at found
      rw [hexempt, if_neg Bool.false_ne_true, hschema] at found
      obtain ⟨t, ht⟩ := exists_table_of_qualifiedTable wf found
      exact wf.tableVerdict_of_table? hschema ht false symbols

theorem missedUses_sublist (wf : c.WellFormed) (symbols : Symbols) :
    (missedUses c.provider false symbols).Sublist (missedUses c.provider true symbols) := by
  refine List.monotone_filter_right _ fun u hmissed => ?_
  rw [Bool.not_eq_true', List.isEmpty_eq_false_iff] at hmissed ⊢
  exact fun hfound => hmissed (tableVerdict_unchecked_eq_nil wf hfound)

/-- Checking schemas only adds to what is missed: a use of a table that is missed without it is
missed with it, one without a schema gets the same findings, and no schema is found invalid where
schemas are not checked. The findings are one for each use that is missed. -/
theorem schemaChecks_only_add (built : c.Built) (symbols : Symbols) :
    (∀ u, tableVerdict c.provider false symbols u ≠ [] →
      tableVerdict c.provider true symbols u ≠ []) ∧
    (missedUses c.provider false symbols).Sublist (missedUses c.provider true symbols) ∧
    (∀ checkSchemas, (tableFindings c.provider checkSchemas symbols).length =
      (missedUses c.provider checkSchemas symbols).length) ∧
    (∀ f ∈ tableFindings c.provider false symbols, f.rule ≠ .invalidSchema) ∧
    ∀ u : TableUse, u.schema = none →
      tableVerdict c.provider false symbols u = tableVerdict c.provider true symbols u := by
  have wf := built.wellFormed
  refine ⟨fun u hmissed hfound => hmissed (tableVerdict_unchecked_eq_nil wf hfound),
    missedUses_sublist wf symbols, fun checkSchemas => length_tableFindings _ checkSchemas symbols,
    fun f hf => ?_, fun u hschema => ?_⟩
  · have hrule := tableFindings_unchecked_onlyOf c.provider symbols f hf
    rw [List.mem_singleton.1 hrule]
    decide
  · rw [tableVerdict_of_noSchema _ hschema, tableVerdict_of_noSchema _ hschema]

/-- `SELECT 1 FROM ITEMS, Stock.ghost, shop.Items` again: where schemas are checked, the schema of the
last table is missed with it; where they are not, only the table that is nowhere is. -/
theorem fromThree_unchecked :
    let p := stocked.provider
    let symbols := Symbols.collect fromThree
    let plain : TableUse := ⟨none, .onLine "ITEMS" 14, none⟩
    let missing : TableUse := ⟨some (.onLine "Stock" 21), .onLine "ghost" 27, none⟩
    let nowhere : TableUse := ⟨some (.onLine "shop" 34), .onLine "Items" 39, none⟩
    symbols.uses = [plain, missing, nowhere] ∧
      missedUses p false symbols = [missing] ∧ missedUses p true symbols = [missing, nowhere] ∧
      tableVerdict p true symbols missing ≠ [] ∧
      (tableFindings p false symbols).length = 1 ∧
      tableVerdict p false symbols plain = tableVerdict p true symbols plain := by
  intro p symbols plain missing nowhere
  have built : stocked.Built := .addTable (.table _) (.ofDefault "public")
  have huses : symbols.uses = [plain, missing, nowhere] := by decide
  obtain ⟨hadds, _, hlength, _, hbare⟩ := schemaChecks_only_add built symbols
  have hunchecked : missedUses p false symbols = [missing] := by decide
  exact ⟨huses, hunchecked, by decide, hadds missing (by decide),
    (hlength false).trans (congrArg List.length hunchecked), hbare plain rfl⟩

end SqlAudit.Names
