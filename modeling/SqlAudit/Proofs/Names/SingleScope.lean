import SqlAudit.Proofs.Catalog.Lookup
import SqlAudit.Proofs.Names.Columns
import SqlAudit.Proofs.Sql.SingleSelect

/-!
One SELECT over tables of the default schema. What is found on its columns is told by its tables
alone: a qualifier has to stand for one of them, a column with a qualifier has to be in the table
that the qualifier stands for, and a column without one in exactly one table.
-/

namespace SqlAudit

open Sql Text

/-- A name that no rule on names treats apart. -/
structure OrdinaryName (s : String) : Prop where
  ascii : IsAscii s
  nonempty : s ≠ ""
  notStar : s ≠ "*"
  dotFree : DotFree s

instance (s : String) : Decidable (OrdinaryName s) :=
  decidable_of_iff (IsAscii s ∧ s ≠ "" ∧ s ≠ "*" ∧ DotFree s)
    ⟨fun ⟨a, b, c, d⟩ => ⟨a, b, c, d⟩, fun ⟨a, b, c, d⟩ => ⟨a, b, c, d⟩⟩

def Sql.SelectItem.newName? : SelectItem → Option Ident
  | .aliased _ name => some name
  | _ => none

def Sql.Select.uses (s : Select) : List Names.TableUse :=
  s.factors.flatMap fun f => (Visit.factor f).uses

namespace Names

def TableUse.answersTo (u : TableUse) (qualifier : String) : Bool :=
  sameName u.table.value qualifier || u.alias?.any (sameName ·.value qualifier)

/-- One SELECT over tables of the default schema that have columns. Its names are ordinary, all
have places of their own, and an alias is no name of another table. -/
structure SingleScope (catalog : Catalog) (select : Select) (tail : List Expr) : Prop where
  plain : ∀ f ∈ select.factors, f.IsPlain
  flat : NoSubquery (Statement.ofSelect select tail).visits
  tables : ∀ u ∈ select.uses, ∃ t, catalog.table? (.plain u.table.value) = some t ∧
    t.columns.isEmpty = false
  names : ∀ i ∈ (Statement.ofSelect select tail).idents, OrdinaryName i.value
  places : DistinctPlaces (Statement.ofSelect select tail).idents
  aliases : ∀ u ∈ select.uses, ∀ a ∈ u.alias?, ∀ v ∈ select.uses, v.answersTo a.value = true →
    sameName u.table.value v.table.value = true

/-! ### What is to be found -/

namespace Expected

variable (catalog : Catalog) (select : Select)

def lacks (column : String) (u : TableUse) : Bool :=
  (catalog.table? (.plain u.table.value)).any (!·.hasColumn column)

def owns (column : String) (u : TableUse) : Bool :=
  (catalog.table? (.plain u.table.value)).any fun t =>
    t.columns.values.any (lower ·.name == lower column)

/-- The rules that a qualifier breaks. -/
def ofQualifier (qualifier : String) : List Rule :=
  if select.uses.any (·.answersTo qualifier) ||
      Symbols.pseudoTables.contains (lower qualifier) then []
  else [.tableNotFound]

def ofMember (qualifier column : String) : List Rule :=
  if select.uses.any fun u => u.answersTo qualifier && lacks catalog column u then
    [.columnNotFound]
  else []

def isShared (column : String) : Bool :=
  select.uses.any fun u => select.uses.any fun v =>
    !sameName u.table.value v.table.value && owns catalog column u && owns catalog column v

/-- Whether a name without a qualifier is not looked up: an alias or a name given to a column. -/
def isDefined (name : String) : Bool :=
  (select.uses.any fun u => u.alias?.any (sameName ·.value name)) ||
    select.items.any (·.newName?.any (sameName ·.value name))

def isString (dialect : Dialect) (id : Ident) : Bool :=
  id.quote == some '\x27' || id.quote == some '"' && dialect.doubleQuotesAreStrings

def ofName (warnAmbiguous : Bool) (name : String) : List Rule :=
  if isDefined select name then []
  else if select.uses.any (owns catalog name) then
    if warnAmbiguous && isShared catalog select name then [.ambiguousColumn] else []
  else if select.uses.any (sameName ·.table.value name) ||
      !select.uses.isEmpty && Lint.looksLikeColumn name then
    [.columnNotFound]
  else []

end Expected

/-! ### The names of a single SELECT -/

section Symbols

variable {select : Select} {tail : List Expr}

theorem uses_of_isPlain {f : Factor} (h : f.IsPlain) {u : TableUse}
    (hu : u ∈ (Visit.factor f).uses) : u.schema = none := by
  cases h with
  | table name a operands =>
    obtain rfl := List.mem_singleton.1 hu
    rfl

theorem mem_uses_ofSelect (plain : ∀ f ∈ select.factors, f.IsPlain)
    (flat : NoSubquery (Statement.ofSelect select tail).visits) {u : TableUse} :
    u ∈ (Symbols.collect (.ofSelect select tail)).uses ↔ u ∈ select.uses := by
  change u ∈ (Statement.ofSelect select tail).visits.flatMap Visit.uses ↔ u ∈ select.uses
  rw [List.mem_flatMap, Select.uses, List.mem_flatMap]
  constructor
  · rintro ⟨v, hv, hu⟩
    rcases visit_cases plain flat hv with rfl | rfl | rfl | ⟨f, hf, rfl⟩ | ⟨e, rfl⟩
    · cases hu
    · cases hu
    · cases hu
    · exact ⟨f, hf, hu⟩
    · cases hu
  · rintro ⟨f, hf, hu⟩
    exact ⟨_, Statement.mem_visits_ofSelect (Select.mem_visits hf), hu⟩

theorem derived_ofSelect (plain : ∀ f ∈ select.factors, f.IsPlain)
    (flat : NoSubquery (Statement.ofSelect select tail).visits) :
    (Symbols.collect (.ofSelect select tail)).derived = [] := by
  have hnone : ∀ v ∈ (Statement.ofSelect select tail).visits, v.opaqueAlias = none := by
    intro v hv
    rcases visit_cases plain flat hv with rfl | rfl | rfl | ⟨f, hf, rfl⟩ | ⟨e, rfl⟩
    · rfl
    · rfl
    · rfl
    · cases plain f hf
      rfl
    · rfl
  change ((Statement.ofSelect select tail).visits.filterMap Visit.opaqueAlias).map _ = []
  rw [List.filterMap_eq_nil_iff.2 hnone, List.map_nil]

theorem ctes_ofSelect (plain : ∀ f ∈ select.factors, f.IsPlain)
    (flat : NoSubquery (Statement.ofSelect select tail).visits) :
    (Symbols.collect (.ofSelect select tail)).ctes = [] := by
  have hnil : ∀ v ∈ (Statement.ofSelect select tail).visits, v.ctes = [] := by
    intro v hv
    rcases visit_cases plain flat hv with rfl | rfl | rfl | ⟨f, hf, rfl⟩ | ⟨e, rfl⟩ <;> rfl
  change ((Statement.ofSelect select tail).visits.flatMap Visit.ctes).map _ = []
  rw [List.flatMap_eq_nil_iff.2 hnil, List.map_nil]

theorem columnLists_ofSelect (plain : ∀ f ∈ select.factors, f.IsPlain)
    (flat : NoSubquery (Statement.ofSelect select tail).visits) :
    ((Statement.ofSelect select tail).visits.flatMap Visit.columnLists).flatMap (·.columns) =
      [] := by
  rw [List.flatMap_assoc]
  refine List.flatMap_eq_nil_iff.2 fun v hv => ?_
  rcases visit_cases plain flat hv with rfl | rfl | rfl | ⟨f, hf, rfl⟩ | ⟨e, rfl⟩
  · rfl
  · rfl
  · rfl
  · cases plain f hf with
    | table name a operands => cases a <;> rfl
  · rfl

theorem items_ofSelect (plain : ∀ f ∈ select.factors, f.IsPlain)
    (flat : NoSubquery (Statement.ofSelect select tail).visits) {item : SelectItem} :
    (∃ v ∈ (Statement.ofSelect select tail).visits, item ∈ v.items) ↔ item ∈ select.items := by
  constructor
  · rintro ⟨v, hv, hitem⟩
    rcases visit_cases plain flat hv with rfl | rfl | rfl | ⟨f, hf, rfl⟩ | ⟨e, rfl⟩
    · cases hitem
    · exact hitem
    · cases hitem
    · cases hitem
    · cases hitem
  · intro hitem
    refine ⟨.enter (.ofSelect select tail), ?_, hitem⟩
    simp [Statement.ofSelect, Query.ofSelect, Statement.visits, Query.visits]

theorem mem_aliases_column {v : Visit} {i : Ident} :
    (i, AliasKind.column) ∈ v.aliases ↔ ∃ item ∈ v.items, item.newName? = some i := by
  simp only [Visit.aliases, List.mem_append, List.mem_map, List.mem_filterMap, Prod.mk.injEq,
    reduceCtorEq, and_false, exists_false, false_or]
  refine exists_congr fun item => and_congr_right fun _ => ?_
  cases item <;> simp [SelectItem.newName?]

theorem mem_outputs_ofSelect (plain : ∀ f ∈ select.factors, f.IsPlain)
    (flat : NoSubquery (Statement.ofSelect select tail).visits) {name : String} :
    (Symbols.collect (.ofSelect select tail)).isOutput name = true ↔
      ∃ item ∈ select.items, ∃ i ∈ item.newName?, lower i.value = lower name := by
  have houtputs : (Symbols.collect (.ofSelect select tail)).outputs =
      ((((Statement.ofSelect select tail).visits.flatMap Visit.aliases).filter
        (·.2 == .column)).map (·.1)).map fun i => lower i.value := by
    change ((((Statement.ofSelect select tail).visits.flatMap Visit.columnLists).flatMap
      (·.columns)) ++ _).map _ = _
    rw [columnLists_ofSelect plain flat, List.nil_append]
  rw [Symbols.isOutput, houtputs, List.contains_iff_mem]
  simp only [List.mem_map, List.mem_filter, List.mem_flatMap, beq_iff_eq]
  constructor
  · rintro ⟨i, ⟨⟨j, kind⟩, ⟨⟨v, hv, ha⟩, rfl⟩, rfl⟩, hname⟩
    obtain ⟨item, hitem, hnew⟩ := mem_aliases_column.1 ha
    exact ⟨item, (items_ofSelect plain flat).1 ⟨v, hv, hitem⟩, j, hnew, hname⟩
  · rintro ⟨item, hitem, i, hnew, hname⟩
    obtain ⟨v, hv, hitem⟩ := (items_ofSelect plain flat).2 hitem
    exact ⟨i, ⟨(i, .column), ⟨⟨v, hv, mem_aliases_column.2 ⟨item, hitem, hnew⟩⟩, rfl⟩, rfl⟩, hname⟩

end Symbols

/-! ### Qualifiers and tables -/

namespace SingleScope

variable {catalog : Catalog} {select : Select} {tail : List Expr}

theorem ordinary_table (h : SingleScope catalog select tail) {u : TableUse} (hu : u ∈ select.uses) :
    OrdinaryName u.table.value := by
  have huse := (mem_uses_ofSelect h.plain h.flat).2 hu
  obtain ⟨v, hv, hu⟩ := List.mem_flatMap.1 huse
  refine h.names _ (List.mem_flatMap.2 ⟨v, hv, uses_idents_subset v ?_⟩)
  exact List.mem_flatMap.2 ⟨u, hu, List.mem_append_left _ List.mem_cons_self⟩

theorem ordinary_alias (h : SingleScope catalog select tail) {u : TableUse} (hu : u ∈ select.uses)
    {a : Ident} (ha : a ∈ u.alias?) : OrdinaryName a.value := by
  have huse := (mem_uses_ofSelect h.plain h.flat).2 hu
  obtain ⟨v, hv, hu⟩ := List.mem_flatMap.1 huse
  refine h.names _ (List.mem_flatMap.2 ⟨v, hv, uses_idents_subset v ?_⟩)
  exact List.mem_flatMap.2 ⟨u, hu, List.mem_append_right _ (Option.mem_toList.2 ha)⟩

theorem ordinary_newName (h : SingleScope catalog select tail) {item : SelectItem}
    (hitem : item ∈ select.items) {i : Ident} (hi : i ∈ item.newName?) : OrdinaryName i.value := by
  obtain ⟨v, hv, hitem⟩ := (items_ofSelect h.plain h.flat).2 hitem
  refine h.names i (List.mem_flatMap.2 ⟨v, hv, aliases_subset v ?_⟩)
  exact List.mem_map.2 ⟨(i, .column), mem_aliases_column.2 ⟨item, hitem, hi⟩, rfl⟩

theorem ordinary_judged (h : SingleScope catalog select tail) {j : ColumnCheck.Judged}
    (hj : j ∈ ColumnCheck.judged (.ofSelect select tail)) {i : Ident} (hi : i ∈ j.idents) :
    OrdinaryName i.value :=
  h.names i ((ColumnCheck.judged_subperm _).subset (List.mem_flatMap.2 ⟨j, hj, hi⟩))

theorem columnsGiven_use (h : SingleScope catalog select tail) {u : TableUse}
    (hu : u ∈ select.uses) {t : TableDef} (ht : catalog.table? (.plain u.table.value) = some t) :
    columnsGiven catalog.provider u.text = some t.columnInfos := by
  obtain ⟨t', ht', hcolumns⟩ := h.tables u hu
  obtain rfl := Option.some.inj (ht.symm.trans ht')
  have hschema : u.schema = none := by
    obtain ⟨f, hf, hu⟩ := List.mem_flatMap.1 hu
    exact uses_of_isPlain (h.plain f hf) hu
  have hfirst : catalog.provider.columns? u.text.schema u.table.value = _ :=
    Catalog.columns?_eq_firstTable? (h.ordinary_table hu).dotFree
      (by simp [TableUse.text, hschema])
  refine columnsGiven_eq_some.2 ⟨?_, ?_⟩
  · rw [TableUse.text] at hfirst ⊢
    rw [hfirst, Catalog.firstTable?_of_plain ht]
    rfl
  · intro hnil
    rw [← TableDef.columnInfos_isEmpty, hnil] at hcolumns
    cases hcolumns

theorem exists_use_of_mem_known (h : SingleScope catalog select tail) {k : KnownTable}
    (hk : k ∈ knownOf catalog.provider (.ofSelect select tail)) :
    ∃ u ∈ select.uses, u.table.value = k.name ∧
      ∃ t, catalog.table? (.plain u.table.value) = some t ∧ k.columns = t.columnInfos := by
  obtain ⟨u, hu, hname, hgiven⟩ := ColumnCheck.exists_use_of_mem_known hk
  have hu := (mem_uses_ofSelect h.plain h.flat).1 hu
  obtain ⟨t, ht, _⟩ := h.tables u hu
  refine ⟨u, hu, hname, t, ht, ?_⟩
  exact Option.some.inj (hgiven.symm.trans (h.columnsGiven_use hu ht))

theorem columnsOf_use (h : SingleScope catalog select tail) (dialect : Dialect) (warn : Bool)
    {u : TableUse} (hu : u ∈ select.uses) {t : TableDef}
    (ht : catalog.table? (.plain u.table.value) = some t) {table : String}
    (hname : sameName u.table.value table = true) :
    (ColumnCheck.ofStatement catalog.provider dialect warn (.ofSelect select tail)).scope.columnsOf
      table = some t.columnInfos := by
  have huse := (mem_uses_ofSelect h.plain h.flat).2 hu
  have hlower : lower u.table.value = lower table := lower_eq_of_sameName hname
  have hsame : ∀ v ∈ (Symbols.collect (.ofSelect select tail)).uses,
      lower v.table.value = lower table →
        columnsGiven catalog.provider v.text = some t.columnInfos := by
    intro v hv hvname
    have hv := (mem_uses_ofSelect h.plain h.flat).1 hv
    have hvu : sameName v.table.value u.table.value = true := by
      rw [← lower_eq_iff (h.ordinary_table hv).ascii (h.ordinary_table hu).ascii, hvname, hlower]
    have htable : catalog.table? (.plain v.table.value) = catalog.table? (.plain u.table.value) :=
      Catalog.table?_congr (sameName_refl _) hvu
    exact h.columnsGiven_use hv (htable.trans ht)
  exact ColumnCheck.columnsOf_eq_given hsame huse hlower

theorem exists_known_use (h : SingleScope catalog select tail) {u : TableUse}
    (hu : u ∈ select.uses) {t : TableDef} (ht : catalog.table? (.plain u.table.value) = some t) :
    ∃ k ∈ knownOf catalog.provider (.ofSelect select tail), k.columns = t.columnInfos := by
  have hcolumns := h.columnsOf_use .generic true hu ht (sameName_refl _)
  rw [ColumnCheck.scope_ofStatement.columnsOf_eq, Option.map_eq_some_iff] at hcolumns
  obtain ⟨k, hk, hcolumns⟩ := hcolumns
  exact ⟨k, List.mem_of_find?_eq_some hk, hcolumns⟩

/-! ### Qualifiers -/

theorem answersTo_of_alias {u : TableUse} {a : Ident} (ha : a ∈ u.alias?) {name : String}
    (hname : sameName a.value name = true) : u.answersTo name = true := by
  rw [TableUse.answersTo, Option.mem_def.1 ha, Option.any_some, hname, Bool.or_true]

theorem answersTo_of_table {u : TableUse} {name : String}
    (hname : sameName u.table.value name = true) : u.answersTo name = true := by
  rw [TableUse.answersTo, hname, Bool.true_or]

theorem answersTo_cases {u : TableUse} {name : String} (h : u.answersTo name = true) :
    sameName u.table.value name = true ∨ ∃ a ∈ u.alias?, sameName a.value name = true := by
  rw [TableUse.answersTo, Bool.or_eq_true, Option.any_eq_true] at h
  exact h

theorem isOpaque_eq (h : SingleScope catalog select tail) (name : String) :
    (Symbols.collect (.ofSelect select tail)).isOpaque name =
      Symbols.pseudoTables.contains (lower name) := by
  rw [Symbols.isOpaque, derived_ofSelect h.plain h.flat, ctes_ofSelect h.plain h.flat]
  rfl

theorem isTable_iff (h : SingleScope catalog select tail) (name : String) :
    (Symbols.collect (.ofSelect select tail)).isTable name = true ↔
      ∃ u ∈ select.uses, sameName u.table.value name = true := by
  refine Symbols.isTable_collect_iff.trans (exists_congr fun u => and_congr_left fun _ => ?_)
  exact mem_uses_ofSelect h.plain h.flat

theorem sameTable_of_answersTo (h : SingleScope catalog select tail) {u v : TableUse}
    (hu : u ∈ select.uses) (hv : v ∈ select.uses) {name : String}
    (hun : u.answersTo name = true) (hvn : v.answersTo name = true) :
    sameName u.table.value v.table.value = true := by
  rcases answersTo_cases hun with hun | ⟨a, ha, hun⟩
  · rcases answersTo_cases hvn with hvn | ⟨b, hb, hvn⟩
    · rw [sameName_comm] at hvn
      exact sameName_trans hun hvn
    · rw [sameName_comm]
      refine h.aliases v hv b hb u hu (answersTo_of_table ?_)
      rw [sameName_comm] at hvn
      exact sameName_trans hun hvn
  · refine h.aliases u hu a ha v hv ?_
    rw [sameName_comm] at hun
    rcases answersTo_cases hvn with hvn | ⟨b, hb, hvn⟩
    · exact answersTo_of_table (sameName_trans hvn hun)
    · exact answersTo_of_alias hb (sameName_trans hvn hun)

theorem isQualifier_iff (h : SingleScope catalog select tail) {name : String}
    (noAlias : (Symbols.collect (.ofSelect select tail)).aliases.get? (lower name) = none) :
    (Symbols.collect (.ofSelect select tail)).isQualifier name = true ↔
      (∃ u ∈ select.uses, u.answersTo name = true) ∨
        Symbols.pseudoTables.contains (lower name) = true := by
  rw [Symbols.isQualifier_of_noAlias noAlias, h.isOpaque_eq, Bool.or_eq_true, or_comm,
    h.isTable_iff]
  refine or_congr_left (exists_congr fun u => and_congr_right fun hu => ?_)
  refine ⟨answersTo_of_table, fun hname => ?_⟩
  rcases answersTo_cases hname with hname | ⟨a, ha, hname⟩
  · exact hname
  · have huse := (mem_uses_ofSelect h.plain h.flat).2 hu
    have hkey := get?_aliasTables_eq_none.1 noAlias u huse a ha
    exact absurd (lower_eq_of_sameName hname) hkey

theorem any_eq_false_of_forall {α : Type} {p : α → Bool} {as : List α}
    (h : ∀ a ∈ as, p a = false) : as.any p = false := by
  rw [List.any_eq_false]
  intro a ha
  rw [h a ha]
  exact Bool.false_ne_true

section Verdicts

variable (dialect : Dialect) (warn : Bool)

abbrev check (catalog : Catalog) (select : Select) (tail : List Expr) (dialect : Dialect)
    (warn : Bool) : ColumnCheck :=
  .ofStatement catalog.provider dialect warn (.ofSelect select tail)

/-- What a qualifier stands for: a table in use, columns that are not known, or nothing. -/
theorem qualified_spec (h : SingleScope catalog select tail) {name : String}
    (ordinary : OrdinaryName name) :
    (∃ u ∈ select.uses, u.answersTo name = true ∧ ∃ table,
      sameName u.table.value table = true ∧
        (check catalog select tail dialect warn).qualified name = .table table) ∨
    ((∀ u ∈ select.uses, u.answersTo name = false) ∧
      (check catalog select tail dialect warn).qualified name =
        if Symbols.pseudoTables.contains (lower name) then .unchecked else .unknown) := by
  cases halias : (Symbols.collect (.ofSelect select tail)).aliases.get? (lower name) with
  | some table =>
    obtain ⟨u, hu, a, ha, hkey, htable⟩ := exists_use_of_get?_aliasTables halias
    have hu := (mem_uses_ofSelect h.plain h.flat).1 hu
    have hname := (lower_eq_iff (h.ordinary_alias hu ha).ascii ordinary.ascii).1 hkey
    refine Or.inl ⟨u, hu, answersTo_of_alias ha hname, table, by rw [htable, sameName_refl], ?_⟩
    simp only [check, ColumnCheck.ofStatement, ColumnCheck.qualified, halias]
  | none =>
    have hqualifier := h.isQualifier_iff halias
    by_cases hany : ∃ u ∈ select.uses, u.answersTo name = true
    · obtain ⟨u, hu, hname⟩ := hany
      have hname' : sameName u.table.value name = true := by
        rcases answersTo_cases hname with hname | ⟨a, ha, hname⟩
        · exact hname
        · have huse := (mem_uses_ofSelect h.plain h.flat).2 hu
          have hkey := get?_aliasTables_eq_none.1 halias u huse a ha
          exact absurd (lower_eq_of_sameName hname) hkey
      refine Or.inl ⟨u, hu, hname, name, hname', ?_⟩
      have hyes := hqualifier.2 (Or.inl ⟨u, hu, hname⟩)
      have htable := (h.isTable_iff name).2 ⟨u, hu, hname'⟩
      simp only [check, ColumnCheck.ofStatement, ColumnCheck.qualified, halias, hyes, htable,
        Bool.not_true, Bool.false_and, Bool.and_false, Bool.false_eq_true, if_false]
    · have hnone : ∀ u ∈ select.uses, u.answersTo name = false := by
        intro u hu
        exact Bool.eq_false_iff.2 fun hname => hany ⟨u, hu, hname⟩
      have hcolumns : (check catalog select tail dialect warn).scope.columnsOf name = none := by
        rw [ColumnCheck.scope_ofStatement.columnsOf_eq, Option.map_eq_none_iff,
          List.find?_eq_none]
        intro k hk hkey
        obtain ⟨u, hu, huname, _⟩ := h.exists_use_of_mem_known hk
        rw [beq_iff_eq, KnownTable.key, ← huname,
          lower_eq_iff (h.ordinary_table hu).ascii ordinary.ascii] at hkey
        exact hany ⟨u, hu, answersTo_of_table hkey⟩
      have htable : (Symbols.collect (.ofSelect select tail)).isTable name = false := by
        rw [Bool.eq_false_iff, ne_eq, h.isTable_iff]
        rintro ⟨u, hu, hname⟩
        exact hany ⟨u, hu, answersTo_of_table hname⟩
      refine Or.inr ⟨hnone, ?_⟩
      rw [ColumnCheck.qualified, hcolumns]
      simp only [check, ColumnCheck.ofStatement, halias, h.isOpaque_eq, htable]
      cases hpseudo : Symbols.pseudoTables.contains (lower name) with
      | true =>
        have hyes := hqualifier.2 (Or.inr hpseudo)
        simp [hyes]
      | false =>
        have hno : (Symbols.collect (.ofSelect select tail)).isQualifier name = false := by
          rw [Bool.eq_false_iff, ne_eq, hqualifier, hpseudo]
          rintro (hname | hname)
          · exact hany hname
          · cases hname
        simp [hno]

theorem memberVerdict_marks (wf : catalog.WellFormed) (h : SingleScope catalog select tail)
    {u : TableUse} (hu : u ∈ select.uses) {table : String}
    (hname : sameName u.table.value table = true) {column : Ident}
    (ordinary : OrdinaryName column.value) :
    ((check catalog select tail dialect warn).memberVerdict table column).map Finding.mark =
      if Expected.lacks catalog column.value u then [(.columnNotFound, column.range)] else [] := by
  obtain ⟨t, ht, hcolumns⟩ := h.tables u hu
  have hfor : (check catalog select tail dialect warn).columnsFor table = some t.columnInfos := by
    rw [ColumnCheck.columnsFor, h.columnsOf_use dialect warn hu ht hname, Option.some_or,
      Option.filter_some, TableDef.columnInfos_isEmpty, hcolumns]
    rfl
  have hempty : column.value.isEmpty = false := by
    rw [Bool.eq_false_iff, ne_eq, String.isEmpty_iff]
    exact ordinary.nonempty
  have hstar : (column.value == "*") = false := beq_eq_false_iff_ne.2 ordinary.notStar
  have hlacks : Expected.lacks catalog column.value u =
      !t.columnInfos.any (sameName ·.name column.value) := by
    have hiff := (wf.table_wellFormed ht).hasColumn_iff column.value
    rw [Expected.lacks, ht, Option.any_some, Bool.eq_iff_iff.2 hiff]
  rw [ColumnCheck.memberVerdict_marks, ColumnCheck.accepts, hempty, hstar, hfor, hlacks,
    Option.all_some]
  cases t.columnInfos.any (sameName ·.name column.value) <;> rfl

theorem qualifierVerdict_marks (h : SingleScope catalog select tail) {qualifier : Ident}
    (ordinary : OrdinaryName qualifier.value) :
    ((check catalog select tail dialect warn).qualifierVerdict qualifier).map Finding.mark =
      (Expected.ofQualifier select qualifier.value).map (·, qualifier.range) := by
  rw [ColumnCheck.qualifierVerdict, Expected.ofQualifier]
  rcases h.qualified_spec dialect warn ordinary with ⟨u, hu, hname, table, _, hq⟩ | ⟨hnone, hq⟩
  · have hany : select.uses.any (·.answersTo qualifier.value) = true :=
      List.any_eq_true.2 ⟨u, hu, hname⟩
    rw [hq, hany]
    rfl
  · have hany : select.uses.any (·.answersTo qualifier.value) = false :=
      any_eq_false_of_forall hnone
    rw [hq, hany, Bool.false_or]
    cases Symbols.pseudoTables.contains (lower qualifier.value) <;> rfl

theorem lacks_congr {u v : TableUse} (h : sameName u.table.value v.table.value = true)
    (column : String) : Expected.lacks catalog column u = Expected.lacks catalog column v := by
  have htable : catalog.table? (.plain u.table.value) = catalog.table? (.plain v.table.value) :=
    Catalog.table?_congr (sameName_refl _) h
  rw [Expected.lacks, Expected.lacks, htable]

theorem ofMember_eq (h : SingleScope catalog select tail) {u : TableUse} (hu : u ∈ select.uses)
    {qualifier : String} (hname : u.answersTo qualifier = true) (column : String) :
    Expected.ofMember catalog select qualifier column =
      if Expected.lacks catalog column u then [.columnNotFound] else [] := by
  have hany : (select.uses.any fun v => v.answersTo qualifier && Expected.lacks catalog column v) =
      Expected.lacks catalog column u := by
    rw [Bool.eq_iff_iff, List.any_eq_true]
    constructor
    · rintro ⟨v, hv, hboth⟩
      obtain ⟨hvname, hlacks⟩ := Bool.and_eq_true_iff.1 hboth
      rwa [lacks_congr (h.sameTable_of_answersTo hu hv hname hvname)]
    · intro hlacks
      exact ⟨u, hu, by rw [hname, hlacks]; rfl⟩
  rw [Expected.ofMember, hany]

theorem pathVerdict_reports (wf : catalog.WellFormed) (h : SingleScope catalog select tail)
    {front : Path} {qualifier column : Ident} (hqualifier : OrdinaryName qualifier.value)
    (hcolumn : OrdinaryName column.value) (apart : qualifier.start ≠ column.start) :
    Finding.reportedAt ((check catalog select tail dialect warn).pathVerdict
        (front ++ [qualifier, column])) qualifier =
      (Expected.ofQualifier select qualifier.value).map (·, qualifier.range) ∧
    Finding.reportedAt ((check catalog select tail dialect warn).pathVerdict
        (front ++ [qualifier, column])) column =
      (Expected.ofMember catalog select qualifier.value column.value).map (·, column.range) := by
  rw [ColumnCheck.pathVerdict_concat]
  rcases h.qualified_spec dialect warn hqualifier with
    ⟨u, hu, hname, table, htable, hq⟩ | ⟨hnone, hq⟩
  · have hany : select.uses.any (·.answersTo qualifier.value) = true :=
      List.any_eq_true.2 ⟨u, hu, hname⟩
    have hstarts := (check catalog select tail dialect warn).memberVerdict_starts table column
    rw [hq, Expected.ofQualifier, hany, h.ofMember_eq hu hname]
    refine ⟨Finding.reportedAt_eq_nil hstarts apart.symm, ?_⟩
    rw [Finding.reportedAt_of_starts hstarts,
      h.memberVerdict_marks dialect warn wf hu htable hcolumn]
    cases Expected.lacks catalog column.value u <;> rfl
  · have hany : select.uses.any (·.answersTo qualifier.value) = false :=
      any_eq_false_of_forall hnone
    have hmember : Expected.ofMember catalog select qualifier.value column.value = [] := by
      rw [Expected.ofMember, any_eq_false_of_forall fun u hu => by rw [hnone u hu, Bool.false_and]]
      rfl
    rw [hq, Expected.ofQualifier, hany, hmember, Bool.false_or]
    cases Symbols.pseudoTables.contains (lower qualifier.value) with
    | true => exact ⟨rfl, rfl⟩
    | false =>
      have hstarts : ([ColumnCheck.unknownQualifier qualifier].map
          Finding.start).Sublist [qualifier.start] := List.Sublist.refl _
      exact ⟨Finding.reportedAt_of_starts hstarts, Finding.reportedAt_eq_nil hstarts apart⟩

/-! ### Names without a qualifier -/

theorem owns_iff {column : String} {u : TableUse} {t : TableDef}
    (ht : catalog.table? (.plain u.table.value) = some t) :
    Expected.owns catalog column u = true ↔
      ∃ info ∈ t.columnInfos, lower info.name = lower column := by
  rw [Expected.owns, ht, Option.any_some, List.any_eq_true]
  simp [TableDef.columnInfos]

theorem any_owns_iff (h : SingleScope catalog select tail) (column : String) :
    select.uses.any (Expected.owns catalog column) = true ↔
      ∃ k ∈ knownOf catalog.provider (.ofSelect select tail), k.hasColumn column := by
  rw [List.any_eq_true]
  constructor
  · rintro ⟨u, hu, howns⟩
    obtain ⟨t, ht, _⟩ := h.tables u hu
    obtain ⟨k, hk, hcolumns⟩ := h.exists_known_use hu ht
    refine ⟨k, hk, ?_⟩
    rw [KnownTable.hasColumn, hcolumns]
    exact (owns_iff ht).1 howns
  · rintro ⟨k, hk, hcolumn⟩
    obtain ⟨u, hu, _, t, ht, hcolumns⟩ := h.exists_use_of_mem_known hk
    refine ⟨u, hu, (owns_iff ht).2 ?_⟩
    rwa [KnownTable.hasColumn, hcolumns] at hcolumn

theorem hasTables_eq (h : SingleScope catalog select tail) :
    (check catalog select tail dialect warn).scope.hasTables = !select.uses.isEmpty := by
  rw [Bool.eq_iff_iff, ColumnCheck.hasTables_iff, Bool.not_eq_true', Bool.eq_false_iff, ne_eq,
    ne_eq, List.isEmpty_iff]
  refine not_congr ⟨fun hknown => ?_, fun huses => ?_⟩
  · refine List.eq_nil_iff_forall_not_mem.2 fun u hu => ?_
    obtain ⟨t, ht, _⟩ := h.tables u hu
    obtain ⟨k, hk, _⟩ := h.exists_known_use hu ht
    rw [hknown] at hk
    cases hk
  · refine List.eq_nil_iff_forall_not_mem.2 fun k hk => ?_
    obtain ⟨u, hu, _⟩ := h.exists_use_of_mem_known hk
    rw [huses] at hu
    cases hu

theorem candidates_isNone_eq (h : SingleScope catalog select tail) (column : String) :
    ((check catalog select tail dialect warn).scope.candidates column).isNone =
      !select.uses.any (Expected.owns catalog column) := by
  rw [Bool.eq_iff_iff, ColumnCheck.candidates_isNone_iff, Bool.not_eq_true', Bool.eq_false_iff,
    ne_eq, h.any_owns_iff]
  simp only [not_exists, not_and]

theorem sameName_table (wf : catalog.WellFormed) {u : TableUse} {t : TableDef}
    (ht : catalog.table? (.plain u.table.value) = some t) {info : ColumnInfo}
    (hinfo : info ∈ t.columnInfos) : sameName info.table u.table.value = true := by
  have hname := wf.table_name ht
  rw [TableDef.table_of_mem_columnInfos hinfo]
  exact hname

theorem isShared_iff (wf : catalog.WellFormed) (h : SingleScope catalog select tail)
    (column : String) :
    Expected.isShared catalog select column = true ↔
      2 ≤ ((check catalog select tail dialect warn).scope.owners column).length := by
  rw [ColumnCheck.two_le_length_owners, Expected.isShared, List.any_eq_true]
  constructor
  · rintro ⟨u, hu, hany⟩
    obtain ⟨v, hv, hboth⟩ := List.any_eq_true.1 hany
    obtain ⟨hboth, hvowns⟩ := Bool.and_eq_true_iff.1 hboth
    obtain ⟨hdiff, huowns⟩ := Bool.and_eq_true_iff.1 hboth
    obtain ⟨t, ht, _⟩ := h.tables u hu
    obtain ⟨t', ht', _⟩ := h.tables v hv
    obtain ⟨i, hi, hiname⟩ := (owns_iff ht).1 huowns
    obtain ⟨j, hj, hjname⟩ := (owns_iff ht').1 hvowns
    obtain ⟨k, hk, hkcolumns⟩ := h.exists_known_use hu ht
    obtain ⟨l, hl, hlcolumns⟩ := h.exists_known_use hv ht'
    refine ⟨k, hk, l, hl, i, hkcolumns ▸ hi, j, hlcolumns ▸ hj, hiname, hjname, ?_⟩
    rw [sameName_congr_left (sameName_table wf ht hi),
      sameName_congr_right (sameName_table wf ht' hj)]
    simpa using hdiff
  · rintro ⟨k, hk, l, hl, i, hi, j, hj, hiname, hjname, hdiff⟩
    obtain ⟨u, hu, _, t, ht, hkcolumns⟩ := h.exists_use_of_mem_known hk
    obtain ⟨v, hv, _, t', ht', hlcolumns⟩ := h.exists_use_of_mem_known hl
    rw [hkcolumns] at hi
    rw [hlcolumns] at hj
    rw [sameName_congr_left (sameName_table wf ht hi),
      sameName_congr_right (sameName_table wf ht' hj)] at hdiff
    refine ⟨u, hu, List.any_eq_true.2 ⟨v, hv, ?_⟩⟩
    rw [hdiff, (owns_iff ht).2 ⟨i, hi, hiname⟩, (owns_iff ht').2 ⟨j, hj, hjname⟩]
    rfl

theorem isDefined_eq (h : SingleScope catalog select tail) {name : String}
    (ordinary : OrdinaryName name) :
    Expected.isDefined select name =
      ((Symbols.collect (.ofSelect select tail)).isAlias name ||
        (Symbols.collect (.ofSelect select tail)).isOutput name) := by
  have halias : (select.uses.any fun u => u.alias?.any (sameName ·.value name)) =
      (Symbols.collect (.ofSelect select tail)).isAlias name := by
    rw [Symbols.isAlias, derived_ofSelect h.plain h.flat, List.contains_nil, Bool.or_false,
      Bool.eq_iff_iff, Symbols.contains_aliases_collect_iff, List.any_eq_true]
    refine exists_congr fun u => ?_
    rw [mem_uses_ofSelect h.plain h.flat]
    refine and_congr_right fun hu => ?_
    rw [Option.any_eq_true]
    refine exists_congr fun a => and_congr_right fun ha => ?_
    exact (lower_eq_iff (h.ordinary_alias hu ha).ascii ordinary.ascii).symm
  have houtput : (select.items.any (·.newName?.any (sameName ·.value name))) =
      (Symbols.collect (.ofSelect select tail)).isOutput name := by
    rw [Bool.eq_iff_iff, mem_outputs_ofSelect h.plain h.flat, List.any_eq_true]
    refine exists_congr fun item => and_congr_right fun hitem => ?_
    rw [Option.any_eq_true]
    refine exists_congr fun i => and_congr_right fun hi => ?_
    exact (lower_eq_iff (h.ordinary_newName hitem hi).ascii ordinary.ascii).symm
  rw [Expected.isDefined, halias, houtput]

theorem isNoColumn_eq (h : SingleScope catalog select tail) {id : Ident}
    (ordinary : OrdinaryName id.value) :
    (check catalog select tail dialect warn).isNoColumn id =
      (Expected.isString dialect id || Expected.isDefined select id.value) := by
  have hempty : id.value.isEmpty = false := by
    rw [Bool.eq_false_iff, ne_eq, String.isEmpty_iff]
    exact ordinary.nonempty
  have hstar : (id.value == "*") = false := beq_eq_false_iff_ne.2 ordinary.notStar
  have hcte : (Symbols.collect (.ofSelect select tail)).isCte id.value = false := by
    rw [Symbols.isCte, ctes_ofSelect h.plain h.flat, List.contains_nil]
  have htext : (check catalog select tail dialect warn).isText id =
      Expected.isString dialect id := by
    rw [ColumnCheck.isText, Expected.isString]
    split
    next hquote => simp [hquote]
    next hquote => simp [hquote, check, ColumnCheck.ofStatement]
    next hsingle hdouble => simp_all
  rw [ColumnCheck.isNoColumn, htext, hempty, hstar, h.isDefined_eq ordinary]
  simp only [check, ColumnCheck.ofStatement, hcte, Bool.or_false, Bool.or_assoc]

theorem nameVerdict_marks (wf : catalog.WellFormed) (h : SingleScope catalog select tail)
    {id : Ident} (ordinary : OrdinaryName id.value) :
    ((check catalog select tail dialect warn).nameVerdict id).map Finding.mark =
      if Expected.isString dialect id then []
      else (Expected.ofName catalog select warn id.value).map (·, id.range) := by
  rw [ColumnCheck.nameVerdict, h.isNoColumn_eq dialect warn ordinary]
  cases hstring : Expected.isString dialect id with
  | true => rfl
  | false =>
    rw [Expected.ofName]
    cases hdefined : Expected.isDefined select id.value with
    | true => rfl
    | false =>
      rw [h.candidates_isNone_eq dialect warn]
      cases select.uses.any (Expected.owns catalog id.value) with
      | true =>
        have hshared : decide (2 ≤ ((check catalog select tail dialect warn).scope.owners
            id.value).length) = Expected.isShared catalog select id.value := by
          rw [Bool.eq_iff_iff, decide_eq_true_iff, h.isShared_iff dialect warn wf]
        refine (ColumnCheck.knownName_marks _ id).trans ?_
        rw [hshared]
        change (if (warn && _) = true then _ else _) = _
        cases (warn && Expected.isShared catalog select id.value) <;> rfl
      | false =>
        have htable : (check catalog select tail dialect warn).symbols.isTable id.value =
            select.uses.any (sameName ·.table.value id.value) := by
          rw [Bool.eq_iff_iff, List.any_eq_true]
          exact h.isTable_iff id.value
        refine (ColumnCheck.unknownName_marks _ id).trans ?_
        rw [htable, h.hasTables_eq dialect warn]
        cases (select.uses.any (sameName ·.table.value id.value) ||
          !select.uses.isEmpty && Lint.looksLikeColumn id.value) <;> rfl

end Verdicts

/-! ### The whole statement -/

/-- What is found on the columns of one SELECT is what its tables tell: on qualifiers, on columns
with a qualifier, and on names without one. Nothing else is found. -/
theorem columnFindings_exact (built : catalog.Built) (h : SingleScope catalog select tail)
    (dialect : Dialect) (warn : Bool) :
    let s := Statement.ofSelect select tail
    let found := columnFindings catalog.provider dialect warn (.collect s) s
    (∀ front qualifier column, front ++ [qualifier, column] ∈ pathsOf s.visits →
      Finding.reportedAt found qualifier =
        (Expected.ofQualifier select qualifier.value).map (·, qualifier.range) ∧
      Finding.reportedAt found column =
        (Expected.ofMember catalog select qualifier.value column.value).map (·, column.range)) ∧
    (∀ qualifier ∈ s.visits.flatMap Visit.starQualifiers,
      Finding.reportedAt found qualifier =
        (Expected.ofQualifier select qualifier.value).map (·, qualifier.range)) ∧
    (∀ id ∈ namesOf s.visits,
      Finding.reportedAt found id =
        if Expected.isString dialect id then []
        else (Expected.ofName catalog select warn id.value).map (·, id.range)) ∧
    (∀ f ∈ found, ∃ i, f.start = i.start ∧
      (i ∈ namesOf s.visits ∨ i ∈ s.visits.flatMap Visit.starQualifiers ∨
        ∃ front qualifier column, front ++ [qualifier, column] ∈ pathsOf s.visits ∧
          (i = qualifier ∨ i = column))) := by
  intro s found
  have wf := built.wellFormed
  have hreport : ∀ {j}, j ∈ ColumnCheck.judged s → ∀ {i}, i ∈ j.idents →
      Finding.reportedAt found i =
        Finding.reportedAt ((check catalog select tail dialect warn).verdict j) i :=
    fun hj _ hi => (check catalog select tail dialect warn).reportedAt_findings rfl h.places hj hi
  refine ⟨fun front qualifier column hpath => ?_, fun qualifier hstar => ?_, fun id hid => ?_,
    fun f hf => ?_⟩
  · have hj : ColumnCheck.Judged.path (front ++ [qualifier, column]) ∈ ColumnCheck.judged s := by
      simp [ColumnCheck.judged, hpath]
    have hqualifier : qualifier ∈ front ++ [qualifier, column] := by simp
    have hcolumn : column ∈ front ++ [qualifier, column] := by simp
    rw [hreport hj hqualifier, hreport hj hcolumn]
    exact h.pathVerdict_reports dialect warn wf (h.ordinary_judged hj hqualifier)
      (h.ordinary_judged hj hcolumn) (ColumnCheck.starts_ne_of_path h.places hpath)
  · have hj : ColumnCheck.Judged.star qualifier ∈ ColumnCheck.judged s := by
      refine List.mem_append_left _ (List.mem_append_left _ (List.mem_append_right _ ?_))
      exact List.mem_map_of_mem hstar
    have hi : qualifier ∈ (ColumnCheck.Judged.star qualifier).idents := List.mem_singleton.2 rfl
    rw [hreport hj hi]
    refine (Finding.reportedAt_of_starts (ColumnCheck.qualifierVerdict_starts _ qualifier)).trans ?_
    exact h.qualifierVerdict_marks dialect warn (h.ordinary_judged hj hi)
  · have hj : ColumnCheck.Judged.name id ∈ ColumnCheck.judged s :=
      List.mem_append_right _ (List.mem_map_of_mem hid)
    have hi : id ∈ (ColumnCheck.Judged.name id).idents := List.mem_singleton.2 rfl
    rw [hreport hj hi]
    refine (Finding.reportedAt_of_starts (ColumnCheck.nameVerdict_starts _ id)).trans ?_
    exact h.nameVerdict_marks dialect warn wf (h.ordinary_judged hj hi)
  · obtain ⟨j, hj, hverdict⟩ :=
      ((check catalog select tail dialect warn).mem_findings_iff rfl h.places).1 hf
    have hstart := ((check catalog select tail dialect warn).verdict_starts j).subset
      (List.mem_map_of_mem hverdict)
    simp only [ColumnCheck.judged, List.mem_append, List.mem_map] at hj
    rcases hj with ((⟨parts, hparts, rfl⟩ | ⟨qualifier, hqualifier, rfl⟩) | ⟨t, ht, rfl⟩) |
      ⟨id, hid, rfl⟩
    · obtain ⟨front, qualifier, column, rfl, hplace⟩ :=
        ColumnCheck.exists_of_mem_pathVerdict _ hverdict
      rcases hplace with hplace | hplace
      · exact ⟨qualifier, hplace, Or.inr (Or.inr ⟨front, qualifier, column, hparts, Or.inl rfl⟩)⟩
      · exact ⟨column, hplace, Or.inr (Or.inr ⟨front, qualifier, column, hparts, Or.inr rfl⟩)⟩
    · exact ⟨qualifier, List.mem_singleton.1 hstart, Or.inr (Or.inl hqualifier)⟩
    · cases ht
    · exact ⟨id, List.mem_singleton.1 hstart, Or.inl hid⟩

def usersTable : TableDef :=
  ((TableDef.table (.plain "users")).addColumn (.of "id" "INT")).addColumn (.of "name" "TEXT")

def ordersTable : TableDef :=
  ((TableDef.table (.plain "orders")).addColumn (.of "id" "INT")).addColumn (.of "user_id" "INT")

def shop : Catalog := (Catalog.initial.addTable usersTable).addTable ordersTable

/-- `SELECT u.name, o.nope, x.id, id FROM users AS u JOIN orders AS o ON u.id = o.user_id`. -/
def joined : Select :=
  .mk []
    [.plain (.path [.onLine "u" 7, .onLine "name" 9]),
      .plain (.path [.onLine "o" 15, .onLine "nope" 17]),
      .plain (.path [.onLine "x" 23, .onLine "id" 25]), .plain (.name (.onLine "id" 29))]
    [.mk (.table [.onLine "users" 37] (some ⟨.onLine "u" 46, []⟩) false [])
      [.mk (.table [.onLine "orders" 53] (some ⟨.onLine "o" 63, []⟩) false [])
        [.operation [.operand 0, .text " = ", .operand 1]
          [.path [.onLine "u" 68, .onLine "id" 70], .path [.onLine "o" 75, .onLine "user_id" 77]]]]]
    [] none []

theorem joined_reported :
    let found := columnFindings shop.provider .generic true (.collect (.ofSelect joined []))
      (.ofSelect joined [])
    shop.Built ∧ SingleScope shop joined [] ∧
      Finding.reportedAt found (.onLine "name" 9) = [] ∧
      Finding.reportedAt found (.onLine "nope" 17) =
        [(.columnNotFound, (Ident.onLine "nope" 17).range)] ∧
      Finding.reportedAt found (.onLine "x" 23) =
        [(.tableNotFound, (Ident.onLine "x" 23).range)] ∧
      Finding.reportedAt found (.onLine "id" 29) =
        [(.ambiguousColumn, (Ident.onLine "id" 29).range)] := by
  intro found
  have built : shop.Built :=
    .addTable (.addColumn _ (.addColumn _ (.table _)))
      (.addTable (.addColumn _ (.addColumn _ (.table _))) (.ofDefault "public"))
  have single : SingleScope shop joined [] := by
    refine ⟨?_, ?_, ?_, by decide, ⟨by decide, by decide⟩, by decide⟩
    · intro f hf
      rcases List.mem_cons.1 hf with rfl | hf
      · exact .table _ (some _) _
      · obtain rfl := List.mem_singleton.1 hf
        exact .table _ (some _) _
    · intro form operands query hmem
      simp [joined, Statement.ofSelect, Query.ofSelect, Statement.visits, Query.visits,
        cteListVisits, SetExpr.visits, Select.visits, itemListVisits, SelectItem.visits,
        Expr.visits, sourceListVisits, Source.visits, joinListVisits, Join.visits, Factor.visits,
        exprListVisits, exprOptionVisits] at hmem
    · intro u hu
      rcases List.mem_cons.1 hu with rfl | hu
      · exact ⟨usersTable, by decide, by decide⟩
      · obtain rfl := List.mem_singleton.1 hu
        exact ⟨ordersTable, by decide, by decide⟩
  obtain ⟨paths, _, names, _⟩ := columnFindings_exact built single .generic true
  have hname := paths [] (.onLine "u" 7) (.onLine "name" 9) (by decide)
  have hnope := paths [] (.onLine "o" 15) (.onLine "nope" 17) (by decide)
  have hx := paths [] (.onLine "x" 23) (.onLine "id" 25) (by decide)
  have hid := names (.onLine "id" 29) (by decide)
  exact ⟨built, single, hname.2.trans (by decide), hnope.2.trans (by decide),
    hx.1.trans (by decide), hid.trans (by decide)⟩

end SingleScope

end Names

end SqlAudit
