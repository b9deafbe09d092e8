import Mathlib.Data.List.Basic
import SqlAudit.Proofs.Names.Columns
import SqlAudit.Proofs.Names.Tables

/-!
Common tables that bear the name of catalog tables, the check of a statement being compared to that
against the catalog without those tables. The tables of the name are the only ones whose columns are
no longer known; qualifiers stand for what they stood for, and no table is missed.
-/

namespace SqlAudit

open Sql Text

namespace Names

namespace TableText

def bare (name : String) : TableText := ⟨none, name, none⟩

/-- A table is looked up under a name, if at all, by this name alone. -/
def PlainFor (t : TableText) (name : String) : Prop :=
  ∀ n ∈ lookupNames t.schema t.name, lower n.name = lower name → t.schema = none ∧ DotFree t.name

instance (t : TableText) (name : String) : Decidable (t.PlainFor name) :=
  List.decidableBAll _ _

variable {t : TableText} {name : String}

theorem PlainFor.of_eq (h : t.PlainFor name) (same : lower t.name = lower name) :
    t.schema = none ∧ DotFree t.name := h (.plain t.name) List.mem_cons_self same

theorem eq_plain_of_mem_lookupNames {table : String} (dotFree : DotFree table) {n : TableName}
    (h : n ∈ lookupNames none table) : n = .plain table := by
  rw [lookupNames, TableName.ofText_of_dotFree dotFree] at h
  simpa using h

theorem PlainFor.eq_plain (h : t.PlainFor name) {n : TableName}
    (hn : n ∈ lookupNames t.schema t.name) (same : lower n.name = lower name) :
    n = .plain t.name := by
  obtain ⟨hschema, hdot⟩ := h n hn same
  rw [hschema] at hn
  exact eq_plain_of_mem_lookupNames hdot hn

theorem PlainFor.other (h : t.PlainFor name) (apart : lower t.name ≠ lower name) :
    ∀ n ∈ lookupNames t.schema t.name, lower n.name ≠ lower name := by
  intro n hn same
  rw [h.eq_plain hn same] at same
  exact apart same

theorem PlainFor.bare_of_sameName (h : t.PlainFor name) {other : String}
    (same : sameName t.name other = true) : (bare other).PlainFor name := by
  have hdotFree : DotFree t.name → DotFree other := by
    intro hdot hmem
    have hfold : (foldAscii t.name).toList = (foldAscii other).toList :=
      congrArg String.toList (sameName_iff.1 same)
    have hin : '.' ∈ (foldAscii other).toList := by
      rw [foldAscii, String.toList_ofList]
      exact List.mem_map.2 ⟨'.', hmem, rfl⟩
    rw [← hfold, foldAscii, String.toList_ofList] at hin
    obtain ⟨c, hc, hlower⟩ := List.mem_map.1 hin
    have hdotc := TableName.isDot_toLower c
    rw [hlower] at hdotc
    have hc' : c = '.' := by simpa using hdotc
    rw [hc'] at hc
    exact hdot hc
  intro n hn hname
  have htext := lower_eq_of_sameName (TableName.sameName_ofText same)
  have hfound : ∃ m ∈ lookupNames t.schema t.name, lower m.name = lower name := by
    simp only [bare, lookupNames, Option.map_none, Option.toList_none, List.mem_cons,
      List.not_mem_nil, or_false] at hn
    rcases hn with rfl | rfl
    · exact ⟨.plain t.name, List.mem_cons_self, (lower_eq_of_sameName same).trans hname⟩
    · exact ⟨.ofText t.name, by simp [lookupNames], htext.trans hname⟩
  obtain ⟨m, hm, hmname⟩ := hfound
  exact ⟨rfl, hdotFree (h m hm hmname).2⟩

theorem PlainFor.columnsGiven_without (h : t.PlainFor name) (c : Catalog) :
    columnsGiven (c.without name).provider t =
      if lower t.name = lower name then none else columnsGiven c.provider t := by
  split
  next same =>
    obtain ⟨hschema, hdot⟩ := h.of_eq same
    rw [columnsGiven, hschema, c.columns?_without_of_eq hdot same]
    rfl
  next apart => rw [columnsGiven, c.columns?_without_of_ne (h.other apart), ← columnsGiven]

end TableText

/-! ### Known tables -/

def othersOf (name : String) (known : List KnownTable) : List KnownTable :=
  known.filter (·.key != lower name)

def namesakesOf (name : String) (known : List KnownTable) : List KnownTable :=
  known.filter (·.key == lower name)

theorem any_key_othersOf {name key : String} (apart : key ≠ lower name)
    (known : List KnownTable) :
    (othersOf name known).any (·.key == key) = known.any (·.key == key) := by
  rw [othersOf, List.any_filter]
  congr 1
  funext k
  by_cases hkey : k.key = key
  · simp [hkey, apart]
  · simp [hkey]

theorem othersOf_append (name : String) (ks ls : List KnownTable) :
    othersOf name (ks ++ ls) = othersOf name ks ++ othersOf name ls :=
  List.filter_append ks ls

/-- Without the tables of a name, all other known tables are known as before. -/
theorem knownTablesOf_without (c : Catalog) {name : String} {tables : List TableText}
    (plain : ∀ t ∈ tables, t.PlainFor name) :
    knownTablesOf (c.without name).provider tables =
      othersOf name (knownTablesOf c.provider tables) := by
  induction tables using List.reverseRecOn with
  | nil => rfl
  | append_singleton ts t ih =>
    have hgiven := (plain t (by simp)).columnsGiven_without c
    have hknown := ih fun u hu => plain u (by simp [hu])
    rw [knownTablesOf_concat, knownTablesOf_concat, hknown, learn, learn, hgiven]
    by_cases same : lower t.name = lower name
    -- what the catalog knows of a table of the name is left out again
    · have hdropped : othersOf name
          ((columnsGiven c.provider t).map (KnownTable.mk t.name)).toList = [] := by
        cases columnsGiven c.provider t <;> simp [othersOf, KnownTable.key, same]
      have hkeep : othersOf name (if (knownTablesOf c.provider ts).any (·.key == lower t.name) then
          knownTablesOf c.provider ts else knownTablesOf c.provider ts ++
            ((columnsGiven c.provider t).map (KnownTable.mk t.name)).toList) =
          othersOf name (knownTablesOf c.provider ts) := by
        split
        next => rfl
        next => rw [othersOf_append, hdropped, List.append_nil]
      rw [hkeep, if_pos same]
      simp
    · have hkept : othersOf name
          ((columnsGiven c.provider t).map (KnownTable.mk t.name)).toList =
            ((columnsGiven c.provider t).map (KnownTable.mk t.name)).toList := by
        cases columnsGiven c.provider t <;> simp [othersOf, KnownTable.key, same]
      rw [if_neg same, any_key_othersOf same]
      split
      next => rfl
      next => rw [othersOf_append, hkept]

/-! ### Qualifiers and columns -/

/-- The tables that a statement refers to: those it uses and those it writes to. -/
def references (s : Statement) : List TableText :=
  (Symbols.collect s).uses.map (·.text) ++ (ColumnCheck.targets s).filterMap fun
    | .column table _ => some (.bare table)
    | .path _ => none

/-- A common table of a statement bears a name, and what the statement refers to by that name it
refers to without a schema. -/
structure Hides (s : Statement) (name : String) : Prop where
  bound : (Symbols.collect s).isCte name = true
  plain : ∀ t ∈ references s, t.PlainFor name

namespace Hides

open ColumnCheck

variable {s : Statement} {name : String} {dialect : Dialect} {warn : Bool}

theorem plain_use (h : Hides s name) {u : TableUse} (hu : u ∈ (Symbols.collect s).uses) :
    u.text.PlainFor name :=
  h.plain u.text (List.mem_append_left _ (List.mem_map_of_mem hu))

theorem plain_target (h : Hides s name) {table : String} {column : Ident}
    (ht : .column table column ∈ targets s) : (TableText.bare table).PlainFor name :=
  h.plain _ (List.mem_append_right _ (List.mem_filterMap.2 ⟨_, ht, rfl⟩))

theorem knownOf_without (h : Hides s name) (c : Catalog) :
    knownOf (c.without name).provider s = othersOf name (knownOf c.provider s) := by
  refine knownTablesOf_without c fun t ht => ?_
  obtain ⟨u, hu, rfl⟩ := exists_use_of_mem_distinctTexts ht
  exact h.plain_use hu

theorem columnsOf_without (h : Hides s name) (c : Catalog) (dialect : Dialect) (warn : Bool)
    (table : String) :
    (ofStatement (c.without name).provider dialect warn s).scope.columnsOf table =
      if lower table = lower name then none
      else (ofStatement c.provider dialect warn s).scope.columnsOf table := by
  rw [scope_ofStatement.columnsOf_eq, scope_ofStatement.columnsOf_eq, h.knownOf_without, othersOf,
    List.find?_filter]
  split
  next same =>
    rw [Option.map_eq_none_iff, List.find?_eq_none]
    intro k _
    simp [same]
  next apart =>
    congr 2
    funext k
    by_cases hkey : k.key = lower table
    · simp [hkey, apart]
    · simp [hkey]

theorem isOpaque (h : Hides s name) {qualifier : String} (same : lower qualifier = lower name) :
    (Symbols.collect s).isOpaque qualifier = true := by
  have hbound : (Symbols.collect s).ctes.contains (lower qualifier) = true := by
    rw [same]
    exact h.bound
  rw [Symbols.isOpaque, hbound, Bool.or_true, Bool.true_or]

theorem qualified_without (h : Hides s name) (c : Catalog) (qualifier : String) :
    (ofStatement (c.without name).provider dialect warn s).qualified qualifier =
      (ofStatement c.provider dialect warn s).qualified qualifier := by
  have hcolumns := h.columnsOf_without c dialect warn qualifier
  unfold qualified
  rw [hcolumns]
  by_cases same : lower qualifier = lower name
  · have hqualifier : (Symbols.collect s).isQualifier qualifier = true := by
      rw [Symbols.isQualifier, h.isOpaque same, Bool.or_true, Bool.true_or]
    simp [ofStatement, hqualifier]
  · rw [if_neg same]
    rfl

theorem columnsFor_bare (h : Hides s name) (c : Catalog) (dialect : Dialect) (warn : Bool)
    {table : String} (plain : (TableText.bare table).PlainFor name) :
    (ofStatement (c.without name).provider dialect warn s).columnsFor table =
      if lower table = lower name then none
      else (ofStatement c.provider dialect warn s).columnsFor table := by
  have hcolumns := h.columnsOf_without c dialect warn table
  unfold columnsFor
  rw [hcolumns]
  split
  next same =>
    have hnone : (c.without name).provider.columns? none table = none :=
      c.columns?_without_of_eq (plain.of_eq same).2 same
    change (Option.or none ((c.without name).provider.columns? none table)).filter _ = none
    rw [hnone]
    rfl
  next apart =>
    have hkept : (c.without name).provider.columns? none table = c.provider.columns? none table :=
      c.columns?_without_of_ne (plain.other apart)
    change (Option.or _ ((c.without name).provider.columns? none table)).filter _ = _
    rw [hkept]
    rfl

theorem plain_of_qualified (h : Hides s name) {p : Provider} {qualifier table : String}
    (stands : (ofStatement p dialect warn s).qualified qualifier = .table table) :
    (TableText.bare table).PlainFor name ∨
      lower table ≠ lower name ∧ ((ofStatement p dialect warn s).scope.columnsOf table).isSome := by
  unfold qualified at stands
  split at stands
  next stood halias =>
    obtain ⟨u, hu, _, _, _, rfl⟩ := exists_use_of_get?_aliasTables halias
    cases stands
    exact Or.inl ((h.plain_use hu).bare_of_sameName (sameName_refl _))
  next halias =>
    by_cases htable : (Symbols.collect s).isTable qualifier = true
    · obtain ⟨u, hu, hname⟩ := Symbols.isTable_collect_iff.1 htable
      have hplain := (h.plain_use hu).bare_of_sameName hname
      split at stands
      next => cases stands
      next =>
        split at stands
        next => cases stands
        next =>
          cases stands
          exact Or.inl hplain
    -- neither an alias nor a table: only known columns make it stand for one, not being the name
    · have hnot : (Symbols.collect s).isTable qualifier = false := Bool.eq_false_iff.2 htable
      have hqualifier := Symbols.isQualifier_of_noAlias halias
      rw [hnot, Bool.or_false] at hqualifier
      simp only [ofStatement, hqualifier, hnot, Bool.not_false, Bool.and_true] at stands
      cases hunknown : (Symbols.collect s).isOpaque qualifier with
      | true => simp [hunknown] at stands
      | false =>
        have happart : lower qualifier ≠ lower name := by
          intro same
          rw [h.isOpaque same] at hunknown
          cases hunknown
        cases hcolumns : (Scope.ofSymbols p (Symbols.collect s)).columnsOf qualifier with
        | none => simp [hunknown, hcolumns] at stands
        | some columns =>
          simp only [hunknown, hcolumns, Bool.not_false, Option.isNone_some, Bool.and_false,
            Bool.false_eq_true, if_false, Qualified.table.injEq] at stands
          subst stands
          exact Or.inr ⟨happart, by simp [ofStatement, hcolumns]⟩

theorem columnsFor_of_qualified (h : Hides s name) (c : Catalog) {qualifier table : String}
    (stands : (ofStatement c.provider dialect warn s).qualified qualifier = .table table) :
    (ofStatement (c.without name).provider dialect warn s).columnsFor table =
      if lower table = lower name then none
      else (ofStatement c.provider dialect warn s).columnsFor table := by
  rcases h.plain_of_qualified stands with plain | ⟨apart, hknown⟩
  · exact h.columnsFor_bare c dialect warn plain
  · have hcolumns := h.columnsOf_without c dialect warn table
    obtain ⟨columns, hscope⟩ := Option.isSome_iff_exists.1 hknown
    rw [if_neg apart, hscope] at hcolumns
    rw [if_neg apart, columnsFor, columnsFor, hcolumns, hscope, Option.some_or, Option.some_or]

end Hides

/-! ### Verdicts on columns of tables -/

namespace Hides

open ColumnCheck

variable {s : Statement} {name : String} {dialect : Dialect} {warn : Bool}

theorem memberVerdict_eq (c : Catalog) {table : String}
    (columns : (ofStatement (c.without name).provider dialect warn s).columnsFor table =
      if lower table = lower name then none
      else (ofStatement c.provider dialect warn s).columnsFor table) (column : Ident) :
    (ofStatement (c.without name).provider dialect warn s).memberVerdict table column =
      if lower table = lower name then []
      else (ofStatement c.provider dialect warn s).memberVerdict table column := by
  rw [memberVerdict, memberVerdict, columns]
  by_cases same : lower table = lower name
  · simp [same]
  · simp [same]

theorem memberVerdict_briefs_eq_iff (c : Catalog) {table : String}
    (columns : (ofStatement (c.without name).provider dialect warn s).columnsFor table =
      if lower table = lower name then none
      else (ofStatement c.provider dialect warn s).columnsFor table) (column : Ident) :
    ((ofStatement (c.without name).provider dialect warn s).memberVerdict table column).map
        Finding.brief =
        ((ofStatement c.provider dialect warn s).memberVerdict table column).map Finding.brief ↔
      (lower table = lower name →
        (ofStatement c.provider dialect warn s).accepts table column = true) := by
  rw [memberVerdict_eq c columns, ← memberVerdict_eq_nil_iff]
  by_cases same : lower table = lower name
  · rw [if_pos same, List.map_nil, eq_comm, List.map_eq_nil_iff]
    exact ⟨fun hnil _ => hnil, fun hnil => hnil same⟩
  · simp [same]

theorem qualifierVerdict_without (h : Hides s name) (c : Catalog) (qualifier : Ident) :
    (ofStatement (c.without name).provider dialect warn s).qualifierVerdict qualifier =
      (ofStatement c.provider dialect warn s).qualifierVerdict qualifier := by
  rw [qualifierVerdict, qualifierVerdict, h.qualified_without]

theorem pathMember_without (h : Hides s name) (c : Catalog) (parts : Path) :
    (ofStatement (c.without name).provider dialect warn s).pathMember parts =
      (ofStatement c.provider dialect warn s).pathMember parts := by
  simp only [pathMember, h.qualified_without]

theorem member_without (h : Hides s name) (c : Catalog) (j : Judged) :
    (ofStatement (c.without name).provider dialect warn s).member j =
      (ofStatement c.provider dialect warn s).member j := by
  cases j with
  | path parts => exact h.pathMember_without c parts
  | target t =>
    cases t with
    | path parts => exact h.pathMember_without c parts
    | column => rfl
  | star | name => rfl

theorem pathVerdict_briefs_eq_iff (h : Hides s name) (c : Catalog) (parts : Path) :
    ((ofStatement (c.without name).provider dialect warn s).pathVerdict parts).map Finding.brief =
        ((ofStatement c.provider dialect warn s).pathVerdict parts).map Finding.brief ↔
      ∀ table column, (ofStatement c.provider dialect warn s).pathMember parts =
        some (table, column) → lower table = lower name →
          (ofStatement c.provider dialect warn s).accepts table column = true := by
  unfold pathVerdict pathMember
  match parts.reverse with
  | [] => simp
  | [_] => simp
  | column :: qualifier :: _ =>
    simp only [h.qualified_without c qualifier.value]
    cases stands : (ofStatement c.provider dialect warn s).qualified qualifier.value with
    | table table =>
      have hcolumns := h.columnsFor_of_qualified c stands
      simp [memberVerdict_briefs_eq_iff c hcolumns column]
    | unchecked => simp
    | unknown => simp

/-! ### Verdicts on tables -/

theorem tableVerdict_briefs {c : Catalog} (h : Hides s name) (wf : c.WellFormed)
    (checkSchemas : Bool) {u : TableUse} (hu : u ∈ (Symbols.collect s).uses) :
    (tableVerdict (c.without name).provider checkSchemas (.collect s) u).map Finding.brief =
      (tableVerdict c.provider checkSchemas (.collect s) u).map Finding.brief := by
  by_cases same : lower u.table.value = lower name
  · have hschema : u.schema = none := by
      have hplain := ((h.plain_use hu).of_eq same).1
      simpa [TableUse.text] using hplain
    have hcte : (Symbols.collect s).isCte u.table.value = true := by
      rw [Symbols.isCte, same]
      exact h.bound
    have hexempt : isExempt (.collect s) u = true := by simp [isExempt, hschema, hcte]
    unfold tableVerdict
    rw [if_pos hexempt, if_pos hexempt]
  · exact (wf.listsAlike_without same).tableVerdict_briefs checkSchemas (.collect s)

end Hides

end Names

end SqlAudit
