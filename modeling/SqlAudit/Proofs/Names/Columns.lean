import SqlAudit.Proofs.Names.Occurrences
import SqlAudit.Proofs.Names.Scope

/-!
The check of the columns of a statement against the tables it names, told by those tables whose
columns are known.
-/

namespace SqlAudit.Names

open Sql Text

namespace ColumnCheck

def ofStatement (p : Provider) (dialect : Dialect) (warnAmbiguous : Bool) (s : Statement) :
    ColumnCheck :=
  ⟨p, .collect s, .ofSymbols p (.collect s), dialect, warnAmbiguous⟩

end ColumnCheck

def knownOf (p : Provider) (s : Statement) : List KnownTable :=
  knownTablesOf p (Symbols.collect s).tables

namespace ColumnCheck

variable {p : Provider} {dialect : Dialect} {warn : Bool} {s : Statement}

theorem scope_ofStatement : (ofStatement p dialect warn s).scope.Holds (knownOf p s) :=
  Scope.holds_ofSymbols p (.collect s)

theorem exists_use_of_mem_known {k : KnownTable} (h : k ∈ knownOf p s) :
    ∃ u ∈ (Symbols.collect s).uses, u.table.value = k.name ∧
      columnsGiven p u.text = some k.columns := by
  obtain ⟨t, ht, hname, hgiven⟩ := exists_table_of_mem_known h
  obtain ⟨u, hu, rfl⟩ := exists_use_of_mem_distinctTexts ht
  exact ⟨u, hu, hname, hgiven⟩

theorem columnsOf_eq_given {table : String} {given : Option (List ColumnInfo)}
    (same : ∀ v ∈ (Symbols.collect s).uses, lower v.table.value = lower table →
      columnsGiven p v.text = given) {u : TableUse} (hu : u ∈ (Symbols.collect s).uses)
    (hname : lower u.table.value = lower table) :
    (ofStatement p dialect warn s).scope.columnsOf table = given := by
  rw [scope_ofStatement.columnsOf_eq]
  cases hfind : (knownOf p s).find? (·.key == lower table) with
  | some k =>
    have hkey : k.key = lower table := by
      have hfound := List.find?_some hfind
      rwa [beq_iff_eq] at hfound
    obtain ⟨v, hv, hvname, hgiven⟩ := exists_use_of_mem_known (List.mem_of_find?_eq_some hfind)
    have hlower : lower v.table.value = lower table := by rw [hvname, ← hkey, KnownTable.key]
    rw [← same v hv hlower, hgiven, Option.map_some]
  | none =>
    by_contra hne
    have hgiven : given ≠ none := fun hnone => hne hnone.symm
    obtain ⟨t, ht, hsame⟩ := exists_mem_distinctTexts hu
    have htname := TableUse.sameName_of_same hsame
    obtain ⟨v, hv, rfl⟩ := exists_use_of_mem_distinctTexts ht
    have hlower : lower v.table.value = lower table := (lower_eq_of_sameName htname).trans hname
    rw [← same v hv hlower] at hgiven
    obtain ⟨k, hk, hkey⟩ := exists_mem_known ht hgiven
    have hmissing := List.find?_eq_none.1 hfind k hk
    exact hmissing (beq_iff_eq.2 (hkey.trans hlower))

theorem columnsFor_eq_given {table : String} {given : Option (List ColumnInfo)}
    (same : ∀ v ∈ (Symbols.collect s).uses, lower v.table.value = lower table →
      columnsGiven p v.text = given) {u : TableUse} (hu : u ∈ (Symbols.collect s).uses)
    (hname : lower u.table.value = lower table) :
    (ofStatement p dialect warn s).columnsFor table =
      given.or ((p.columns? none table).filter (!·.isEmpty)) := by
  have hgiven := same u hu hname
  rw [columnsFor, columnsOf_eq_given same hu hname]
  cases given with
  | none => rfl
  | some columns =>
    have hne := (columnsGiven_eq_some.1 hgiven).2
    cases columns with
    | nil => exact absurd rfl hne
    | cons info columns => rfl

theorem hasTables_iff : (ofStatement p dialect warn s).scope.hasTables = true ↔ knownOf p s ≠ [] :=
  scope_ofStatement.hasTables_iff

theorem candidates_isNone_iff (name : String) :
    ((ofStatement p dialect warn s).scope.candidates name).isNone = true ↔
      ∀ k ∈ knownOf p s, ¬k.hasColumn name := scope_ofStatement.candidates_isNone_iff name

theorem two_le_length_owners {name : String} :
    2 ≤ ((ofStatement p dialect warn s).scope.owners name).length ↔
      ∃ k ∈ knownOf p s, ∃ l ∈ knownOf p s,
        ∃ i ∈ k.columns, ∃ j ∈ l.columns, lower i.name = lower name ∧ lower j.name = lower name ∧
          sameName i.table j.table = false := by
  rw [scope_ofStatement.owners_eq, two_le_length_ownersOf]
  simp only [List.mem_filter, List.mem_flatMap, beq_iff_eq]
  constructor
  · rintro ⟨i, ⟨⟨k, hk, hi⟩, hiname⟩, j, ⟨⟨l, hl, hj⟩, hjname⟩, hdiff⟩
    exact ⟨k, hk, l, hl, i, hi, j, hj, hiname, hjname, hdiff⟩
  · rintro ⟨k, hk, l, hl, i, hi, j, hj, hiname, hjname, hdiff⟩
    exact ⟨i, ⟨⟨k, hk, hi⟩, hiname⟩, j, ⟨⟨l, hl, hj⟩, hjname⟩, hdiff⟩

theorem exists_owner_iff {q : String → Prop} {name : String} :
    (∃ table ∈ (ofStatement p dialect warn s).scope.owners name, q (lower table)) ↔
      ∃ k ∈ knownOf p s, ∃ info ∈ k.columns,
        lower info.name = lower name ∧ q (lower info.table) := by
  rw [scope_ofStatement.owners_eq]
  constructor
  · rintro ⟨table, htable, hq⟩
    obtain ⟨info, hinfo, rfl⟩ := exists_column_of_mem_ownersOf htable
    obtain ⟨hinfo, hname⟩ := List.mem_filter.1 hinfo
    obtain ⟨k, hk, hinfo⟩ := List.mem_flatMap.1 hinfo
    exact ⟨k, hk, info, hinfo, beq_iff_eq.1 hname, hq⟩
  · rintro ⟨k, hk, info, hinfo, hname, hq⟩
    have hmem : info ∈ ((knownOf p s).flatMap (·.columns)).filter (lower ·.name == lower name) :=
      List.mem_filter.2 ⟨List.mem_flatMap.2 ⟨k, hk, hinfo⟩, beq_iff_eq.2 hname⟩
    obtain ⟨table, htable, hsame⟩ := exists_mem_ownersOf hmem
    refine ⟨table, htable, ?_⟩
    rw [lower_eq_of_sameName hsame]
    exact hq

/-! ### The rules that verdicts report -/

variable (c : ColumnCheck)

/-- A column is none that could be missing, or no columns of the table are known, or it is one. -/
def accepts (table : String) (column : Ident) : Bool :=
  column.value.isEmpty || column.value == "*" ||
    (c.columnsFor table).all (·.any (sameName ·.name column.value))

theorem memberVerdict_marks (table : String) (column : Ident) :
    (c.memberVerdict table column).map Finding.mark =
      if c.accepts table column then [] else [(.columnNotFound, column.range)] := by
  rw [memberVerdict, accepts]
  cases column.value.isEmpty || column.value == "*" with
  | true => rfl
  | false =>
    cases c.columnsFor table with
    | none => rfl
    | some columns => cases h : columns.any (sameName ·.name column.value) <;> simp [h]

theorem memberVerdict_eq_nil_iff {table : String} {column : Ident} :
    c.memberVerdict table column = [] ↔ c.accepts table column = true := by
  rw [← List.map_eq_nil_iff (f := Finding.mark), memberVerdict_marks]
  simp

theorem unknownName_marks (id : Ident) :
    (c.unknownName id).map Finding.mark =
      if c.symbols.isTable id.value || c.scope.hasTables && Lint.looksLikeColumn id.value then
        [(.columnNotFound, id.range)]
      else [] := by
  rw [unknownName]
  cases c.symbols.isTable id.value with
  | true => rfl
  | false => cases c.scope.hasTables && Lint.looksLikeColumn id.value <;> simp

theorem knownName_marks (id : Ident) :
    (c.knownName id).map Finding.mark =
      if c.warnAmbiguous && 2 ≤ (c.scope.owners id.value).length then
        [(.ambiguousColumn, id.range)]
      else [] := by
  rw [knownName]
  match c.scope.owners id.value with
  | [] => simp
  | [_] => simp
  | _ :: _ :: _ => cases c.warnAmbiguous <;> simp

end ColumnCheck

end SqlAudit.Names
