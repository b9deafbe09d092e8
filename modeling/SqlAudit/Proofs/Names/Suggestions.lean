import SqlAudit.Proofs.Names.ScopeColumns

/-!
Suggestions. A finding on a missing table offers the nearest table of the catalog, one on a column of
a table the nearest column of that table, and one on a name that no column has the nearest column of
the tables that enter the scope. As of several tables of one name only the first does so, the last
need not be the nearest column of a table in scope.
-/

namespace SqlAudit

open Sql Text

namespace Catalog

variable {c : Catalog}

def tables (c : Catalog) : List TableDef := c.schemas.values.flatMap (·.tables.values)

/-- The tables to choose from: those of the default schema, then those of all schemas. -/
def offered (c : Catalog) : List TableDef :=
  ((c.schema? c.defaultSchema).map (·.tables.values)).getD [] ++ c.tables

theorem mem_offered {t : TableDef} : t ∈ c.offered ↔ t ∈ c.tables := by
  rw [offered, List.mem_append, or_iff_right_iff_imp]
  intro default
  cases found : c.schema? c.defaultSchema with
  | none =>
    rw [found] at default
    cases default
  | some s =>
    rw [found] at default
    obtain ⟨key, mem, _⟩ := OrderedMap.find?_eq_some found
    exact List.mem_flatMap.2 ⟨s, List.mem_map_of_mem mem, default⟩

theorem WellFormed.schema?_name (h : c.WellFormed) {s : Schema} (hs : s ∈ c.schemas.values) :
    c.schema? s.name = some s := by
  obtain ⟨e, he, rfl⟩ := List.mem_map.1 hs
  rw [← (h.schemas e he).key_eq]
  exact h.schemas_distinct.find?_of_mem he (sameName_refl e.1)

theorem WellFormed.knownTables_eq (h : c.WellFormed) :
    Names.knownTables c.provider = c.offered.map (·.name.name) := by
  have default : c.provider.defaultTables =
      (((c.schema? c.defaultSchema).map (·.tables.values)).getD []).map (·.name.name) := by
    rw [provider, tablesIn]
    cases c.schema? c.defaultSchema <;> rfl
  have all : (c.provider.schemaNames.flatMap fun schema => (c.provider.tablesIn schema).getD []) =
      c.tables.map (·.name.name) := by
    have names : c.provider.schemaNames = c.schemas.values.map (·.name) := rfl
    rw [tables, List.map_flatMap, names, List.flatMap_map]
    refine List.flatMap_congr fun s hs => ?_
    have answer : c.provider.tablesIn s.name = (c.schema? s.name).map (·.tableNames) := rfl
    rw [answer, h.schema?_name hs]
    rfl
  rw [Names.knownTables, default, all, offered, List.map_append]

end Catalog

namespace Names

/-! ### What a finding offers -/

/-- A finding on a name offers the nearest of the candidates, and nothing only if all of them are too
far away. -/
structure Suggests (f : Finding) (candidates : List String) (name : String) : Prop where
  nearest : ∀ help ∈ f.help, ∃ x, help = "Did you mean '" ++ x ++ "'?" ∧
    IsNearest candidates name x
  far : f.help = none → ∀ x ∈ candidates, 3 < apart name x

theorem suggests_suggesting {f : Finding} (plain : f.help = none) (candidates : List String)
    (name : String) : Suggests (suggesting f candidates name) candidates name := by
  unfold suggesting
  split
  next x found =>
    refine ⟨fun help offered => ⟨x, ?_, nearest_eq_some_iff.1 found⟩, fun none => nomatch none⟩
    exact (Option.some.inj offered).symm
  next none =>
    refine ⟨fun help offered => ?_, fun _ => nearest_eq_none_iff.1 none⟩
    rw [plain] at offered
    cases offered

theorem Suggests.congr {f : Finding} {candidates others : List String} {name : String}
    (h : Suggests f candidates name) (same : Text.nearest candidates name = Text.nearest others name) :
    Suggests f others name where
  nearest help offered := by
    obtain ⟨x, text, hx⟩ := h.nearest help offered
    exact ⟨x, text, nearest_eq_some_iff.1 (same.symm.trans (nearest_eq_some_iff.2 hx))⟩
  far none := nearest_eq_none_iff.1 (same.symm.trans (nearest_eq_none_iff.2 (h.far none)))

/-- A finding on a name offers one of some names, none of which is nearer, and nothing only if all
of them are too far away. -/
structure SuggestsAmong (f : Finding) (real : String → Prop) (name : String) : Prop where
  nearest : ∀ help ∈ f.help, ∃ x, help = "Did you mean '" ++ x ++ "'?" ∧ real x ∧
    apart name x ≤ 3 ∧ ∀ y, real y → apart name x ≤ apart name y
  far : f.help = none → ∀ y, real y → 3 < apart name y

theorem eq_of_sameHelp {x y : String}
    (h : "Did you mean '" ++ x ++ "'?" = "Did you mean '" ++ y ++ "'?") : x = y := by
  have texts := congrArg String.toList h
  simp only [String.toList_append] at texts
  exact String.toList_inj.1 (List.append_cancel_left (List.append_cancel_right texts))

theorem Suggests.among_iff {f : Finding} {candidates : List String} {name : String}
    (h : Suggests f candidates name) (real : String → Prop) :
    SuggestsAmong f real name ↔
      (∀ x, IsNearest candidates name x → real x) ∧
        ∀ y, real y → apart name y ≤ 3 → ∃ x ∈ candidates, apart name x ≤ apart name y := by
  cases hhelp : f.help with
  | none =>
    have far := h.far hhelp
    constructor
    · intro among
      refine ⟨fun x hx => absurd hx.near (Nat.not_le.2 (far x hx.mem)), fun y hy near => ?_⟩
      exact absurd near (Nat.not_le.2 (among.far hhelp y hy))
    · rintro ⟨-, matched⟩
      refine ⟨fun help offered => ?_, fun _ y hy => Nat.not_le.1 fun near => ?_⟩
      · rw [hhelp] at offered
        cases offered
      · obtain ⟨x, hx, asNear⟩ := matched y hy near
        exact absurd (asNear.trans near) (Nat.not_le.2 (far x hx))
  | some help =>
    obtain ⟨x, hx, nearest⟩ := h.nearest help hhelp
    constructor
    · intro among
      obtain ⟨y, hy, realY, -, least⟩ := among.nearest help hhelp
      obtain rfl := eq_of_sameHelp (hx.symm.trans hy)
      refine ⟨fun z hz => ?_, fun z hz _ => ⟨x, nearest.mem, least z hz⟩⟩
      rwa [hz.unique nearest]
    · rintro ⟨allReal, matched⟩
      refine ⟨fun other offered => ?_, fun none => ?_⟩
      · obtain rfl : help = other := Option.some.inj (hhelp.symm.trans offered)
        refine ⟨x, hx, allReal x nearest, nearest.near, fun y hy => ?_⟩
        rcases Nat.lt_or_ge 3 (apart name y) with far | near
        · exact nearest.near.trans far.le
        · obtain ⟨z, hz, asNear⟩ := matched y hy near
          exact (nearest.le hz).trans asNear
      · rw [hhelp] at none
        cases none

def IsMissing (f : Finding) : Prop := f.rule = .tableNotFound ∨ f.rule = .columnNotFound

/-! ### Tables -/

section

variable {p : Provider} {f : Finding}

theorem qualifiedTable_plain {schema table : Ident} (h : f ∈ qualifiedTable p schema table) :
    f.help = none := by
  unfold qualifiedTable at h
  split at h
  next =>
    obtain rfl := List.mem_singleton.1 h
    rfl
  next =>
    split at h
    next => cases h
    next =>
      obtain rfl := List.mem_singleton.1 h
      rfl

theorem plainTable_suggests {table : Ident} (h : f ∈ plainTable p table) :
    Suggests f (knownTables p) table.value := by
  unfold plainTable at h
  split at h
  next => cases h
  next =>
    obtain rfl := List.mem_singleton.1 h
    exact suggests_suggesting rfl _ _

theorem tableVerdict_suggests {checkSchemas : Bool} {symbols : Symbols} {u : TableUse}
    (h : f ∈ tableVerdict p checkSchemas symbols u) :
    if u.schema.isSome && checkSchemas then f.help = none
    else Suggests f (knownTables p) u.table.value := by
  unfold tableVerdict at h
  split at h
  next => cases h
  next =>
    cases hschema : u.schema with
    | none =>
      rw [hschema] at h
      exact plainTable_suggests h
    | some schema =>
      rw [hschema] at h
      cases checkSchemas with
      | false => exact plainTable_suggests h
      | true => exact qualifiedTable_plain h

end

/-! ### Columns -/

namespace ColumnCheck

variable {k : ColumnCheck} {f : Finding}

theorem exists_columns_of_mem_memberVerdict {table : String} {column : Ident}
    (h : f ∈ k.memberVerdict table column) :
    ∃ columns, k.columnsFor table = some columns ∧
      Suggests f (columns.map (·.name)) column.value := by
  unfold memberVerdict at h
  split at h
  next => cases h
  next =>
    cases found : k.columnsFor table with
    | none =>
      rw [found] at h
      cases h
    | some columns =>
      rw [found] at h
      simp only at h
      split at h
      next => cases h
      next =>
        obtain rfl := List.mem_singleton.1 h
        exact ⟨columns, rfl, suggests_suggesting rfl _ _⟩

/-- A qualifier that stands for no table gets no help. -/
theorem help_of_pathMember_eq_none {parts : Path} (unresolved : k.pathMember parts = none)
    (h : f ∈ k.pathVerdict parts) : f.help = none := by
  unfold pathVerdict at h
  split at h
  next column qualifier front hparts =>
    rw [pathMember, hparts] at unresolved
    simp only at unresolved
    split at h
    next table resolved =>
      rw [resolved] at unresolved
      cases unresolved
    next => cases h
    next =>
      obtain rfl := List.mem_singleton.1 h
      rfl
  next => cases h

theorem help_of_qualifierVerdict {qualifier : Ident} (h : f ∈ k.qualifierVerdict qualifier) :
    f.help = none := by
  unfold qualifierVerdict at h
  split at h
  next =>
    obtain rfl := List.mem_singleton.1 h
    rfl
  next => cases h

theorem unknownName_suggests {id : Ident} (h : f ∈ k.unknownName id) :
    if k.symbols.isTable id.value then f.help = none
    else Suggests f (Scope.groupedNames k.scope.allColumns) id.value := by
  unfold unknownName at h
  split at h
  next table =>
    obtain rfl := List.mem_singleton.1 h
    rw [if_pos table]
    rfl
  next other =>
    rw [if_neg other]
    split at h
    next =>
      obtain rfl := List.mem_singleton.1 h
      exact suggests_suggesting rfl _ _
    next => cases h

theorem mem_unknownName {id : Ident} (h : f ∈ k.nameVerdict id) (missing : IsMissing f) :
    f ∈ k.unknownName id := by
  unfold nameVerdict at h
  split at h
  next => cases h
  next =>
    split at h
    next => exact h
    next =>
      unfold knownName at h
      split at h
      next =>
        split at h
        next =>
          obtain rfl := List.mem_singleton.1 h
          rcases missing with rule | rule <;> cases rule
        next => cases h
      next => cases h

end ColumnCheck

/-! ### The columns of a statement -/

end Names

namespace Catalog

open Names

variable (c : Catalog) (s : Statement)

def usedTable? (u : TableUse) : Option TableDef := c.given? (u.schema.map (·.value)) u.table.value

/-- Whether a statement uses a table, and not a common table of its name. -/
def InScope (t : TableDef) : Prop :=
  ∃ u ∈ (Symbols.collect s).uses,
    (u.schema = none → (Symbols.collect s).isCte u.table.value = false) ∧ c.usedTable? u = some t

def IsColumnInScope (x : String) : Prop := ∃ t, c.InScope s t ∧ x ∈ t.namesOfColumns

/-- The columns to choose from for a name without a qualifier. -/
def columnChoices : List String := (c.entered s).flatMap (·.namesOfColumns)

theorem nearest_columnChoices (name : String) :
    nearest (Scope.groupedNames (Scope.ofSymbols c.provider (.collect s)).allColumns) name =
      nearest (c.columnChoices s) name := by
  rw [nearest_eq_kept, nearest_eq_kept, Scope.ofSymbols_eq, Scope.allColumns_foldl_addAlias,
    Scope.kept_ofTables, ← knownOf, map_name_knownOf, columnChoices]

variable {c s}

theorem mem_columnChoices_of_entered {t : TableDef} (ht : t ∈ c.entered s) {x : String}
    (hx : x ∈ t.namesOfColumns) : x ∈ c.columnChoices s := List.mem_flatMap.2 ⟨t, ht, hx⟩

theorem mem_entered_of_only {u : TableUse} (hu : u ∈ (Symbols.collect s).uses) {t : TableDef}
    (only : ∀ v ∈ (Symbols.collect s).uses, lower v.table.value = lower u.table.value →
      c.usedTable? v = some t) : t ∈ c.entered s := by
  have given : ∀ v ∈ (Symbols.collect s).uses, lower v.table.value = lower u.table.value →
      (columnsGiven c.provider v.text).isSome = true := by
    intro v hv name
    have used : c.given? v.text.schema v.text.name = some t := only v hv name
    rw [columnsGiven_eq, used]
    rfl
  obtain ⟨e, he, same⟩ := exists_mem_distinctTexts hu
  have name := lower_eq_of_sameName (TableUse.sameName_of_same same)
  obtain ⟨v, hv, rfl⟩ := exists_use_of_mem_distinctTexts he
  have known : v.text ∈ (Symbols.collect s).tables.filter
      fun t => (columnsGiven c.provider t).isSome :=
    List.mem_filter.2 ⟨he, given v hv name⟩
  obtain ⟨first, hfirst, sameName⟩ := List.exists_mem_eraseDupsBy
    (r := fun a b : TableText => lower b.name == lower a.name)
    (fun a => beq_self_eq_true (lower a.name)) known
  obtain ⟨w, hw, rfl⟩ := exists_use_of_mem_distinctTexts (mem_tables_of_mem_entered hfirst)
  refine List.mem_filterMap.2 ⟨w.text, hfirst, only w hw ?_⟩
  exact (beq_iff_eq.1 sameName).trans name

end Catalog

namespace Names

variable {c : Catalog} {s : Statement}

/-- What a finding that misses a judged name offers: a column of the table that is checked, or one of
the tables that enter the scope, and no column for a qualifier or for the name of a table. One of the
tables that enter the scope is right for all tables in scope exactly if it is a column of one of
them, and those that do not enter have none that is nearer. -/
def OffersColumn (c : Catalog) (s : Statement) (k : ColumnCheck) (f : Finding) :
    ColumnCheck.Judged → Prop
  | .name id =>
    if k.symbols.isTable id.value then f.help = none
    else
      Suggests f (c.columnChoices s) id.value ∧
        (SuggestsAmong f (c.IsColumnInScope s) id.value ↔
          (∀ x, IsNearest (c.columnChoices s) id.value x → c.IsColumnInScope s x) ∧
            ∀ t, c.InScope s t → t ∉ c.entered s → ∀ y ∈ t.namesOfColumns, apart id.value y ≤ 3 →
              ∃ x ∈ c.columnChoices s, apart id.value x ≤ apart id.value y)
  | j =>
    match k.member j with
    | some (table, column) =>
      ∃ t, c.checked? s table = some t ∧ Suggests f t.namesOfColumns column.value
    | none => f.help = none

theorem suggestsAmong_iff {f : Finding} {name : String}
    (h : Suggests f (c.columnChoices s) name) :
    SuggestsAmong f (c.IsColumnInScope s) name ↔
      (∀ x, IsNearest (c.columnChoices s) name x → c.IsColumnInScope s x) ∧
        ∀ t, c.InScope s t → t ∉ c.entered s → ∀ y ∈ t.namesOfColumns, apart name y ≤ 3 →
          ∃ x ∈ c.columnChoices s, apart name x ≤ apart name y := by
  rw [h.among_iff]
  refine and_congr_right fun _ => ⟨?_, ?_⟩
  · rintro matched t inScope - y hy near
    exact matched y ⟨t, inScope, hy⟩ near
  · rintro matched y ⟨t, inScope, hy⟩ near
    by_cases entered : t ∈ c.entered s
    · exact ⟨y, Catalog.mem_columnChoices_of_entered entered hy, le_rfl⟩
    · exact matched t inScope entered y hy near

namespace ColumnCheck

theorem exists_checked_of_mem_memberVerdict {dialect : Dialect} {warn : Bool} {f : Finding}
    {table : String} {column : Ident}
    (h : f ∈ (ofStatement c.provider dialect warn s).memberVerdict table column) :
    ∃ t, c.checked? s table = some t ∧ Suggests f t.namesOfColumns column.value := by
  obtain ⟨columns, found, suggests⟩ := exists_columns_of_mem_memberVerdict h
  rw [Catalog.columnsFor_eq_checked?] at found
  obtain ⟨t, checked, rfl⟩ := Option.map_eq_some_iff.1 found
  rw [t.map_name_columnInfos] at suggests
  exact ⟨t, checked, suggests⟩

theorem verdict_offers (dialect : Dialect) (warn : Bool) (j : Judged) {f : Finding}
    (h : f ∈ (ofStatement c.provider dialect warn s).verdict j) (missing : IsMissing f) :
    OffersColumn c s (ofStatement c.provider dialect warn s) f j := by
  have members : ∀ m, (ofStatement c.provider dialect warn s).member j = some m →
      ∃ t, c.checked? s m.1 = some t ∧ Suggests f t.namesOfColumns m.2.value := by
    intro m member
    rw [(verdict_of_member _ member).1] at h
    exact exists_checked_of_mem_memberVerdict h
  cases j with
  | name id =>
    have suggests := unknownName_suggests (mem_unknownName h missing)
    simp only [OffersColumn]
    split
    next table =>
      rwa [if_pos table] at suggests
    next other =>
      rw [if_neg other] at suggests
      have offered := suggests.congr (c.nearest_columnChoices s id.value)
      exact ⟨offered, suggestsAmong_iff offered⟩
  | path parts =>
    simp only [OffersColumn]
    split
    next table column member => exact members (table, column) member
    next unresolved => exact help_of_pathMember_eq_none unresolved h
  | star qualifier => exact help_of_qualifierVerdict h
  | target t =>
    simp only [OffersColumn]
    split
    next table column member => exact members (table, column) member
    next unresolved =>
      cases t with
      | column table name => cases unresolved
      | path parts => exact help_of_pathMember_eq_none unresolved h

end ColumnCheck

/-! ### The findings on a statement -/

/-- Every finding on tables is the verdict on a table that is used; outside of schemas it offers the
nearest name of a table of the catalog, those of the default schema first. Every finding on columns
is the verdict on a name that is judged, and offers what it should. A table whose name is used for no
other one enters the scope. -/
theorem suggestions_nearest_iff (c : Catalog) (s : Statement) (dialect : Dialect)
    (warn checkSchemas : Bool) :
    let symbols := Symbols.collect s
    let check := ColumnCheck.ofStatement c.provider dialect warn s
    ((∀ f ∈ tableFindings c.provider checkSchemas symbols,
        ∃ u ∈ symbols.uses, f ∈ tableVerdict c.provider checkSchemas symbols u) ∧
      (c.Built → ∀ u, ∀ f ∈ tableVerdict c.provider checkSchemas symbols u,
        if u.schema.isSome && checkSchemas then f.help = none
        else Suggests f (c.offered.map (·.name.name)) u.table.value) ∧
      ∀ t, t ∈ c.offered ↔ t ∈ c.tables) ∧
    (∀ f ∈ columnFindings c.provider dialect warn symbols s,
        ∃ j ∈ ColumnCheck.judged s, f ∈ check.verdict j) ∧
      (∀ j, ∀ f ∈ check.verdict j, IsMissing f → OffersColumn c s check f j) ∧
      ∀ u ∈ symbols.uses, ∀ t, (∀ v ∈ symbols.uses,
        lower v.table.value = lower u.table.value → c.usedTable? v = some t) → t ∈ c.entered s := by
  refine ⟨⟨fun f hf => ?_, fun built u f hf => ?_, fun t => Catalog.mem_offered⟩, fun f hf => ?_,
    fun j f => ColumnCheck.verdict_offers dialect warn j,
    fun u hu t => Catalog.mem_entered_of_only hu⟩
  · obtain ⟨u, hu, verdict⟩ := List.mem_flatMap.1 hf
    exact ⟨u, (mem_of_mem_firstByKey hu).1, verdict⟩
  · have suggests := tableVerdict_suggests hf
    rwa [built.wellFormed.knownTables_eq] at suggests
  · have checked : f ∈ (ColumnCheck.ofStatement c.provider dialect warn s).findings s := hf
    rw [ColumnCheck.findings_eq_flatMap] at checked
    obtain ⟨j, hj, verdict⟩ := List.mem_flatMap.1 checked
    exact ⟨j, ColumnCheck.mem_judged_of_mem_checked _ rfl hj, verdict⟩

/-- The tables `orders` and `items`, and `Border` in the schema `shop`. -/
def threeTables : Catalog :=
  let orders := ((TableDef.table (.plain "orders")).addColumn (.of "total" "INT")).addColumn
    (.of "name" "TEXT")
  let items := (TableDef.table (.plain "items")).addColumn (.of "nave" "TEXT")
  ((Catalog.initial.addTable (.table (.within "shop" "Border"))).addTable orders).addTable items

/-- `SELECT o.totl, nane FROM orders AS o, items, order`. -/
def misspelled : Statement :=
  .query (.mk []
    (.select (.mk []
      [.plain (.path [.onLine "o" 7, .onLine "totl" 9]), .plain (.name (.onLine "nane" 15))]
      [.mk (.table [.onLine "orders" 25] (some ⟨.onLine "o" 35, []⟩) false []) [],
        .mk (.table [.onLine "items" 38] none false []) [],
        .mk (.table [.onLine "order" 45] none false []) []] [] none []))
    [])

/-- As near as `orders` to `order` is `Border`, and as near as `name` to `nane` is `nave`. -/
theorem misspelled_suggests :
    let check := ColumnCheck.ofStatement threeTables.provider .generic true misspelled
    let f := (Finding.error .tableNotFound (Ident.onLine "order" 45).range
      "Table 'order' not found").withHelp "Did you mean 'orders'?"
    let g := (Finding.error .columnNotFound (Ident.onLine "totl" 9).range
      "Column 'totl' not found in table 'orders'").withHelp "Did you mean 'total'?"
    let h := (Finding.error .columnNotFound (Ident.onLine "nane" 15).range
      "Column 'nane' not found in any referenced table").withHelp "Did you mean 'name'?"
    tableFindings threeTables.provider true (.collect misspelled) = [f] ∧
      columnFindings threeTables.provider .generic true (.collect misspelled) misspelled = [g, h] ∧
      threeTables.Built ∧ Suggests f (threeTables.offered.map (·.name.name)) "order" ∧
      OffersColumn threeTables misspelled check g (.path [.onLine "o" 7, .onLine "totl" 9]) ∧
      OffersColumn threeTables misspelled check h (.name (.onLine "nane" 15)) := by
  intro check f g h
  have built : threeTables.Built :=
    .addTable (.addColumn _ (.table _)) (.addTable (.addColumn _ (.addColumn _ (.table _)))
      (.addTable (.table _) (.ofDefault "public")))
  obtain ⟨⟨_, tables, _⟩, _, columns, _⟩ :=
    suggestions_nearest_iff threeTables misspelled .generic true true
  exact ⟨by decide, by decide, built, tables built ⟨none, .onLine "order" 45, none⟩ f (by decide),
    columns _ g (by decide) (.inr rfl), columns _ h (by decide) (.inr rfl)⟩

/-- A table `t` in the schema `a`, and one in the schema `b`. -/
def sharedName : Catalog :=
  (Catalog.initial.addTable ((TableDef.table (.within "a" "t")).addColumn (.of "id" "INT"))).addTable
    ((TableDef.table (.within "b" "t")).addColumn (.of "email" "TEXT"))

/-- `SELECT emial FROM a.t, b.t`. -/
def fromShared : Statement :=
  .query (.mk []
    (.select (.mk [] [.plain (.name (.onLine "emial" 7))]
      [.mk (.table [.onLine "a" 18, .onLine "t" 20] none false []) [],
        .mk (.table [.onLine "b" 23, .onLine "t" 25] none false []) []] [] none []))
    [])

/-- The column `email` of a table in scope is near, but nothing is offered. -/
theorem fromShared_suggests_nothing :
    let f := Finding.error .columnNotFound (Ident.onLine "emial" 7).range
      "Column 'emial' not found in any referenced table"
    sharedName.Built ∧
      columnFindings sharedName.provider .generic true (.collect fromShared) fromShared = [f] ∧
      sharedName.IsColumnInScope fromShared "email" ∧ apart "emial" "email" = 2 ∧
      ¬SuggestsAmong f (sharedName.IsColumnInScope fromShared) "emial" := by
  intro f
  have built : sharedName.Built :=
    .addTable (.addColumn _ (.table _)) (.addTable (.addColumn _ (.table _)) (.ofDefault "public"))
  have inScope : sharedName.IsColumnInScope fromShared "email" := by
    refine ⟨(TableDef.table (.within "b" "t")).addColumn (.of "email" "TEXT"), ?_, by decide⟩
    exact ⟨⟨some (.onLine "b" 23), .onLine "t" 25, none⟩, by decide, by decide, by decide⟩
  have edits : apart "emial" "email" = 2 := by
    rw [apart, ← distance_eq]
    decide
  refine ⟨built, by decide, inScope, edits, fun among => ?_⟩
  have far := among.far rfl "email" inScope
  rw [edits] at far
  omega

end Names

end SqlAudit
