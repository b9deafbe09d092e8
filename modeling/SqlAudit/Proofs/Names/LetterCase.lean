import SqlAudit.Audit
import SqlAudit.Proofs.Catalog.Removal
import SqlAudit.Proofs.Names.Tables
import SqlAudit.Proofs.Sql.LetterCase

/-!
The checks of names in another letter case. Folding a statement folds the names collected from it,
and whatever is asked about these names has the answer it had before, so that the same rules are
broken at the same places.
-/

namespace SqlAudit

open Sql Text

namespace OrderedMap

variable {α : Type}

theorem contains_mapValues (m : OrderedMap α) (f : α → α) (key : String) :
    (m.mapValues f).contains key = m.contains key := by
  rw [contains, contains, mapValues, List.any_map]
  rfl

theorem get?_mapValues (m : OrderedMap α) (f : α → α) (key : String) :
    (m.mapValues f).get? key = (m.get? key).map f := by
  simp only [get?, mapValues, List.find?_map, Option.map_map]
  rfl

theorem insert_mapValues (m : OrderedMap α) (f : α → α) (key : String) (value : α) :
    (m.mapValues f).insert key (f value) = (m.insert key value).mapValues f := by
  rw [insert, insert, contains_mapValues]
  split
  · simp only [mapValues, List.map_map]
    congr 1
    refine List.map_congr_left fun e _ => ?_
    by_cases he : e.1 = key <;> simp [he]
  · simp [mapValues]

theorem insertNew_mapValues (m : OrderedMap α) (f : α → α) (key : String) (value : α) :
    (m.mapValues f).insertNew key (f value) = (m.insertNew key value).mapValues f := by
  rw [insertNew, insertNew, contains_mapValues, insert_mapValues]
  split <;> rfl

end OrderedMap

namespace Position

theorem insertOn_map {α : Type} {start : α → Position} {f : α → α}
    (keep : ∀ a, start (f a) = start a) (items : List α) (a : α) :
    insertOn start (items.map f) (f a) = (insertOn start items a).map f := by
  simp only [insertOn, keep, List.takeWhile_map, List.dropWhile_map, List.map_append, List.map_cons,
    Function.comp_def]

theorem sortOn_map {α : Type} {start : α → Position} {f : α → α}
    (keep : ∀ a, start (f a) = start a) (items : List α) :
    sortOn start (items.map f) = (sortOn start items).map f := by
  rw [sortOn, sortOn, List.foldl_map]
  change List.foldl _ (List.map f []) items = _
  exact List.foldl_hom (List.map f) fun sorted a => insertOn_map keep sorted a

end Position

namespace Finding

def outline (f : Finding) : Rule × Severity × Range := (f.rule, f.severity, f.range)

@[simp] theorem outline_error (rule : Rule) (range : Range) (message : String) :
    (error rule range message).outline = (rule, .error, range) := rfl

@[simp] theorem outline_warning (rule : Rule) (range : Range) (message : String) :
    (warning rule range message).outline = (rule, .warning, range) := rfl

@[simp] theorem outline_withHelp (f : Finding) (help : String) :
    (f.withHelp help).outline = f.outline := rfl

@[simp] theorem outline_suggesting (f : Finding) (candidates : List String) (name : String) :
    (Names.suggesting f candidates name).outline = f.outline := by
  unfold Names.suggesting
  split <;> rfl

end Finding

namespace Names

/-! ### Folded names -/

def TableUse.foldCase (u : TableUse) : TableUse :=
  ⟨u.schema.map Ident.foldCase, u.table.foldCase, u.alias?.map Ident.foldCase⟩

def TableText.foldCase (t : TableText) : TableText :=
  ⟨t.schema.map foldAscii, foldAscii t.name, t.alias?.map foldAscii⟩

def AliasDefinition.foldCase (d : AliasDefinition) : AliasDefinition :=
  { d with name := d.name.foldCase }

def Symbols.foldCase (s : Symbols) : Symbols :=
  { s with
    uses := s.uses.map TableUse.foldCase
    tables := s.tables.map TableText.foldCase
    aliases := s.aliases.mapValues foldAscii
    definitions := s.definitions.map AliasDefinition.foldCase
    starQualifiers := s.starQualifiers.map Ident.foldCase }

theorem TableUse.ofPath_fold (name : Path) (a : Option Ident) :
    ofPath (foldPath name) (a.map Ident.foldCase) = (ofPath name a).map foldCase := by
  unfold ofPath
  rw [foldPath, ← List.map_reverse]
  rcases name.reverse with _ | ⟨table, _ | ⟨schema, rest⟩⟩ <;> rfl

theorem TableUse.text_foldCase (u : TableUse) : u.foldCase.text = u.text.foldCase := by
  simp only [text, foldCase, TableText.foldCase, Option.map_map, Ident.value_foldCase]
  rfl

theorem TableText.same_foldCase (t u : TableText) : t.foldCase.same u.foldCase = t.same u := by
  have hlower : ∀ schema : Option String,
      (schema.map foldAscii).map lower = schema.map lower := by
    intro schema
    simp only [Option.map_map, Function.comp_def, lower_foldAscii]
  simp only [same, foldCase, hlower, sameName_foldAscii_left, sameName_foldAscii_right]

end Names

namespace Sql.Visit

open Names

variable (v : Visit)

theorem uses_foldCase : v.foldCase.uses = v.uses.map TableUse.foldCase := by
  cases v with
  | statement s =>
    cases s with
    | insert target a columns source es => exact TableUse.ofPath_fold target a
    | query | update | delete | explain | prepare | define | other => rfl
  | factor f =>
    cases f with
    | table name a called es =>
      cases called with
      | true => rfl
      | false =>
        have hname : (a.map TableAlias.foldCase).map (·.name) =
            (a.map (·.name)).map Ident.foldCase := by
          simp only [Option.map_map]
          rfl
        change TableUse.ofPath (foldPath name) ((a.map TableAlias.foldCase).map (·.name)) = _
        rw [hname, TableUse.ofPath_fold]
        rfl
    | derived | nested | function | pivot | document => rfl
  | enter | leave | expr => rfl

theorem opaqueAlias_foldCase : v.foldCase.opaqueAlias = v.opaqueAlias.map TableAlias.foldCase := by
  cases v with
  | factor f =>
    cases f with
    | table name a called es => cases called <;> rfl
    | derived | nested | function | pivot | document => rfl
  | statement | enter | leave | expr => rfl

theorem ctes_query_foldCase (q : Query) : q.foldCase.ctes = q.ctes.map Cte.foldCase := by
  obtain ⟨ctes, body, tail⟩ := q
  exact foldCtes_eq_map ctes

theorem header_foldCase (c : Cte) : c.foldCase.header = c.header.foldCase := by
  cases c
  rfl

theorem columnLists_foldCase :
    v.foldCase.columnLists = v.columnLists.map TableAlias.foldCase := by
  cases v with
  | enter q =>
    simp only [foldCase, columnLists, ctes_query_foldCase, List.map_map, Function.comp_def,
      header_foldCase]
  | factor f =>
    simp only [foldCase, columnLists, Factor.alias?_foldCase]
    cases f.alias? <;> rfl
  | statement | leave | expr => rfl

theorem ctes_foldCase : v.foldCase.ctes = v.ctes.map Ident.foldCase := by
  cases v with
  | enter q =>
    simp only [foldCase, ctes, ctes_query_foldCase, List.map_map, Function.comp_def,
      header_foldCase]
    rfl
  | statement | leave | factor | expr => rfl

theorem items_foldCase : v.foldCase.items = v.items.map SelectItem.foldCase := by
  cases v with
  | enter q =>
    obtain ⟨ctes, body, tail⟩ := q
    exact body.items_foldCase
  | statement | leave | factor | expr => rfl

theorem columns_foldCase (lists : List TableAlias) :
    (lists.map TableAlias.foldCase).flatMap (·.columns) =
      (lists.flatMap (·.columns)).map Ident.foldCase := by
  rw [List.flatMap_map, List.map_flatMap]
  rfl

theorem targets_foldCase : v.foldCase.targets = v.targets.map Ident.foldCase := by
  cases v with
  | enter q =>
    simp only [foldCase, targets, ctes_query_foldCase, List.flatMap_map, List.map_flatMap,
      header_foldCase]
    rfl
  | factor f =>
    have hlists := columnLists_foldCase (.factor f)
    change (columnLists (factor f).foldCase).flatMap (·.columns) = _
    rw [hlists, columns_foldCase]
    rfl
  | statement | leave | expr => rfl

theorem aliases_foldCase : v.foldCase.aliases = v.aliases.map fun a => (a.1.foldCase, a.2) := by
  have huses : (v.foldCase.uses.filterMap (·.alias?)).map (·, AliasKind.table) =
      ((v.uses.filterMap (·.alias?)).map (·, AliasKind.table)).map
        fun a => (a.1.foldCase, a.2) := by
    rw [uses_foldCase, List.filterMap_map, List.map_map, List.map_filterMap, List.map_filterMap]
    congr 1
    funext u
    cases h : u.alias? <;> simp [TableUse.foldCase, h]
  have hopaque : v.foldCase.opaqueAlias.toList.map (fun a => (a.name, AliasKind.table)) =
      (v.opaqueAlias.toList.map fun a => (a.name, AliasKind.table)).map
        fun a => (a.1.foldCase, a.2) := by
    rw [opaqueAlias_foldCase]
    cases v.opaqueAlias <;> rfl
  rw [aliases, aliases, List.map_append, List.map_append, huses, hopaque]
  congr 1
  rw [items_foldCase, List.filterMap_map, List.map_filterMap]
  congr 1
  funext item
  cases item <;> rfl

theorem starQualifiers_foldCase :
    v.foldCase.starQualifiers = v.starQualifiers.map Ident.foldCase := by
  rw [starQualifiers, starQualifiers, items_foldCase, List.filterMap_map, List.map_filterMap]
  congr 1
  funext item
  cases item with
  | qualifiedStar qualifier es => exact List.getLast?_map
  | plain | aliased | star => rfl

theorem depthAt_foldCase (depth : Nat) : v.foldCase.depthAt depth = v.depthAt depth := by
  cases v <;> rfl

end Sql.Visit

namespace Names

/-! ### Folded symbols -/

theorem distinctTexts_fold (us : List TableUse) :
    distinctTexts (us.map TableUse.foldCase) = (distinctTexts us).map TableText.foldCase := by
  rw [distinctTexts, distinctTexts, List.foldl_map]
  change List.foldl _ (List.map TableText.foldCase []) us = _
  refine List.foldl_hom (List.map TableText.foldCase) fun ts u => ?_
  have hany : (ts.map TableText.foldCase).any (·.same u.foldCase.text) =
      ts.any (·.same u.text) := by
    simp only [List.any_map, Function.comp_def, TableUse.text_foldCase, TableText.same_foldCase]
  rw [hany, TableUse.text_foldCase]
  split
  · rfl
  · rw [List.map_append, List.map_singleton]

theorem aliasTables_fold (us : List TableUse) :
    aliasTables (us.map TableUse.foldCase) = (aliasTables us).mapValues foldAscii := by
  rw [aliasTables, aliasTables, List.foldl_map]
  change List.foldl _ (OrderedMap.empty.mapValues foldAscii) us = _
  refine List.foldl_hom (OrderedMap.mapValues · foldAscii) fun m u => ?_
  cases ha : u.alias? with
  | none => simp [TableUse.foldCase, ha]
  | some a => simp [TableUse.foldCase, ha, lower_foldAscii, OrderedMap.insert_mapValues]

theorem definitionsFrom_fold (depth : Nat) (visits : List Visit) :
    definitionsFrom depth (visits.map Visit.foldCase) =
      (definitionsFrom depth visits).map AliasDefinition.foldCase := by
  induction visits generalizing depth with
  | nil => rfl
  | cons v visits ih =>
    rw [List.map_cons, definitionsFrom, definitionsFrom, Visit.depthAt_foldCase, ih,
      Visit.aliases_foldCase, List.map_map, List.map_append, List.map_map]
    rfl

theorem lowers_fold (ids : List Ident) :
    (ids.map Ident.foldCase).map (fun i => lower i.value) = ids.map fun i => lower i.value := by
  rw [List.map_map]
  exact List.map_congr_left fun i _ => lower_foldAscii i.value

theorem keys_fold (ids : List Ident) :
    (ids.map Ident.foldCase).filterMap Ident.key = ids.filterMap Ident.key := by
  rw [List.filterMap_map]
  rfl

namespace Symbols

/-- What is collected of a folded statement is what is collected of the statement, folded. -/
theorem collect_foldCase (s : Statement) : collect s.foldCase = (collect s).foldCase := by
  have huses : (s.visits.map Visit.foldCase).flatMap Visit.uses =
      (s.visits.flatMap Visit.uses).map TableUse.foldCase := by
    rw [List.flatMap_map, List.map_flatMap]
    simp only [Visit.uses_foldCase]
  have hderived : ((s.visits.map Visit.foldCase).filterMap Visit.opaqueAlias).map
      (fun a => lower a.name.value) =
        (s.visits.filterMap Visit.opaqueAlias).map fun a => lower a.name.value := by
    have hname : ∀ a : TableAlias, lower a.foldCase.name.value = lower a.name.value :=
      fun a => lower_foldAscii a.name.value
    simp only [List.filterMap_map, List.map_filterMap, Function.comp_def,
      Visit.opaqueAlias_foldCase, Option.map_map, hname]
  have hctes : ((s.visits.map Visit.foldCase).flatMap Visit.ctes) =
      (s.visits.flatMap Visit.ctes).map Ident.foldCase := by
    rw [List.flatMap_map, List.map_flatMap]
    simp only [Visit.ctes_foldCase]
  have hcolumns : ((s.visits.map Visit.foldCase).flatMap Visit.columnLists).flatMap (·.columns) =
      ((s.visits.flatMap Visit.columnLists).flatMap (·.columns)).map Ident.foldCase := by
    rw [List.flatMap_map]
    simp only [Visit.columnLists_foldCase]
    rw [← List.map_flatMap, Visit.columns_foldCase]
  have haliases : (((s.visits.map Visit.foldCase).flatMap Visit.aliases).filter
      (·.2 == .column)).map (·.1) =
        (((s.visits.flatMap Visit.aliases).filter (·.2 == .column)).map (·.1)).map
          Ident.foldCase := by
    rw [List.flatMap_map]
    simp only [Visit.aliases_foldCase]
    rw [← List.map_flatMap, List.filter_map, List.map_map, List.map_map]
    rfl
  have hdefinitions : Position.sortOn (·.name.range.start)
      (definitionsFrom 0 (s.visits.map Visit.foldCase)) =
        (Position.sortOn (·.name.range.start) (definitionsFrom 0 s.visits)).map
          AliasDefinition.foldCase := by
    rw [definitionsFrom_fold]
    exact Position.sortOn_map (f := AliasDefinition.foldCase) (fun _ => rfl) _
  have htargets : ((s.visits.map Visit.foldCase).flatMap Visit.targets).filterMap Ident.key =
      (s.visits.flatMap Visit.targets).filterMap Ident.key := by
    rw [List.flatMap_map]
    simp only [Visit.targets_foldCase]
    rw [← List.map_flatMap, keys_fold]
  have hstars : (s.visits.map Visit.foldCase).flatMap Visit.starQualifiers =
      (s.visits.flatMap Visit.starQualifiers).map Ident.foldCase := by
    rw [List.flatMap_map, List.map_flatMap]
    simp only [Visit.starQualifiers_foldCase]
  rw [collect, collect, Statement.visits_foldCase, ofVisits, ofVisits, huses, hderived, hctes,
    hcolumns, haliases, hdefinitions, htargets, hstars, distinctTexts_fold, aliasTables_fold,
    ← List.map_append, lowers_fold, lowers_fold]
  rfl

variable (s : Symbols) (name : String)

theorem isCte_foldCase : s.foldCase.isCte (foldAscii name) = s.isCte name := by
  rw [isCte, lower_foldAscii]
  rfl

theorem isOpaque_foldCase : s.foldCase.isOpaque (foldAscii name) = s.isOpaque name := by
  rw [isOpaque, lower_foldAscii]
  rfl

theorem isOutput_foldCase : s.foldCase.isOutput (foldAscii name) = s.isOutput name := by
  rw [isOutput, lower_foldAscii]
  rfl

theorem isAlias_foldCase : s.foldCase.isAlias (foldAscii name) = s.isAlias name := by
  rw [isAlias, lower_foldAscii, foldCase, OrderedMap.contains_mapValues]
  rfl

theorem isTable_foldCase : s.foldCase.isTable (foldAscii name) = s.isTable name := by
  simp only [isTable, foldCase, List.any_map, Function.comp_def, TableText.foldCase,
    sameName_foldAscii_left, sameName_foldAscii_right]

theorem isQualifier_foldCase : s.foldCase.isQualifier (foldAscii name) = s.isQualifier name := by
  have hcalled : ∀ a : Option String,
      (a.map foldAscii).any (sameName · name) = a.any (sameName · name) := by
    intro a
    cases a <;> simp
  have htables : s.foldCase.tables.any (fun t => sameName t.name (foldAscii name) ||
      t.alias?.any (sameName · (foldAscii name))) =
        s.tables.any fun t => sameName t.name name || t.alias?.any (sameName · name) := by
    simp only [foldCase, List.any_map, Function.comp_def, TableText.foldCase, hcalled,
      sameName_foldAscii_left, sameName_foldAscii_right]
  rw [isQualifier, isQualifier, isOpaque_foldCase, htables, lower_foldAscii, foldCase,
    OrderedMap.contains_mapValues]

end Symbols

/-! ### The scope of folded symbols -/

namespace Scope

def foldCase (s : Scope) : Scope := { s with tableAliases := s.tableAliases.mapValues foldAscii }

variable {p : Provider}

theorem add_foldCase (s : Scope) (t : TableText) (columns : List ColumnInfo) :
    s.foldCase.add t.foldCase columns = (s.add t columns).foldCase := by
  cases h : t.alias? <;>
    simp [add, foldCase, TableText.foldCase, h, lower_foldAscii, OrderedMap.insert_mapValues]

theorem extend_foldCase (h : p.IgnoresCase) (s : Scope) (t : TableText) :
    s.foldCase.extend p t.foldCase = (s.extend p t).foldCase := by
  have hcolumns : p.columns? t.foldCase.schema t.foldCase.name = p.columns? t.schema t.name :=
    h.columns? t.schema t.name
  have hcontains : s.foldCase.tableColumns.contains (lower t.foldCase.name) =
      s.tableColumns.contains (lower t.name) := by
    rw [TableText.foldCase, lower_foldAscii]
    rfl
  rw [extend, extend, hcontains, hcolumns]
  split
  · rfl
  · split
    · rfl
    · split
      · rfl
      · exact s.add_foldCase t _

theorem ofTables_fold (h : p.IgnoresCase) (tables : List TableText) :
    ofTables p (tables.map TableText.foldCase) = (ofTables p tables).foldCase := by
  rw [ofTables, ofTables, List.foldl_map]
  change List.foldl _ empty.foldCase tables = _
  exact List.foldl_hom foldCase fun s t => extend_foldCase h s t

theorem ofSymbols_foldCase (h : p.IgnoresCase) (symbols : Symbols) :
    ofSymbols p symbols.foldCase = (ofSymbols p symbols).foldCase := by
  change (symbols.aliases.entries.map fun a => (a.1, foldAscii a.2)).foldl _
    (ofTables p (symbols.tables.map TableText.foldCase)) = _
  rw [ofTables_fold h, List.foldl_map]
  refine List.foldl_hom foldCase fun s a => ?_
  simp only [lower_foldAscii]
  change (if s.tableColumns.contains (lower a.2) then
    { s.foldCase with tableAliases := s.foldCase.tableAliases.insertNew a.1 (foldAscii a.2) }
    else s.foldCase) = _
  split
  · simp only [foldCase, OrderedMap.insertNew_mapValues]
  · rfl

variable (s : Scope) (name : String)

theorem columnsOf_foldCase : s.foldCase.columnsOf (foldAscii name) = s.columnsOf name := by
  rw [columnsOf, lower_foldAscii]
  rfl

theorem candidates_foldCase : s.foldCase.candidates (foldAscii name) = s.candidates name := by
  rw [candidates, lower_foldAscii]
  rfl

theorem owners_foldCase : s.foldCase.owners (foldAscii name) = s.owners name := by
  rw [owners, owners, candidates_foldCase]

end Scope

/-! ### The first item of every key -/

theorem firstByKey_map {α : Type} {key : α → Option Position} {f : α → α}
    (keep : ∀ a, key (f a) = key a) (seen : List Position) (as : List α) :
    firstByKey key seen (as.map f) = (firstByKey key seen as).map f := by
  induction as generalizing seen with
  | nil => rfl
  | cons a as ih =>
    rw [List.map_cons, firstByKey, firstByKey, keep]
    split
    · rw [ih, List.map_cons]
    · split
      · exact ih seen
      · rw [ih, List.map_cons]

theorem outlines_flatMap {α : Type} {f : α → α} {find find' : α → List Finding}
    (alike : ∀ a, (find' (f a)).map Finding.outline = (find a).map Finding.outline) (as : List α) :
    ((as.map f).flatMap find').map Finding.outline = (as.flatMap find).map Finding.outline := by
  rw [List.flatMap_map, List.map_flatMap, List.map_flatMap]
  simp only [alike]

/-! ### Tables -/

theorem isPartialKeyword_foldAscii (name : String) :
    Lint.isPartialKeyword (foldAscii name) = Lint.isPartialKeyword name := by
  rw [Lint.isPartialKeyword, Lint.isPartialKeyword, map_toUpper_foldAscii, utf8ByteSize_foldAscii]

theorem holdsName_foldAscii (names : List String) (name : String) :
    holdsName names (foldAscii name) = holdsName names name := by
  simp only [holdsName, sameName_foldAscii_right]

variable {p : Provider}

theorem isExempt_foldCase (s : Symbols) (u : TableUse) :
    isExempt s.foldCase u.foldCase = isExempt s u := by
  have hschema : u.foldCase.schema.isNone = u.schema.isNone := Option.isNone_map
  have hvalue : u.foldCase.table.value = foldAscii u.table.value := rfl
  rw [isExempt, isExempt, hschema, hvalue, isEmpty_foldAscii, Symbols.isCte_foldCase,
    isPartialKeyword_foldAscii]

theorem plainTable_outlines (table : Ident) :
    (plainTable p table.foldCase).map Finding.outline =
      (plainTable p table).map Finding.outline := by
  have hany : inAnySchema p (foldAscii table.value) = inAnySchema p table.value := by
    simp only [inAnySchema, sameName_foldAscii_right]
  rw [plainTable, plainTable, Ident.value_foldCase, holdsName_foldAscii, hany]
  split <;> simp

theorem qualifiedTable_outlines (h : p.IgnoresCase) (schema table : Ident) :
    (qualifiedTable p schema.foldCase table.foldCase).map Finding.outline =
      (qualifiedTable p schema table).map Finding.outline := by
  rw [qualifiedTable, qualifiedTable, Ident.value_foldCase, h.tablesIn]
  split
  · simp
  · rw [Ident.value_foldCase, holdsName_foldAscii]
    split <;> simp

theorem tableVerdict_outlines (h : p.IgnoresCase) (checkSchemas : Bool) (s : Symbols)
    (u : TableUse) :
    (tableVerdict p checkSchemas s.foldCase u.foldCase).map Finding.outline =
      (tableVerdict p checkSchemas s u).map Finding.outline := by
  -- the match is on the schema and the flag together, so both are taken apart first
  unfold tableVerdict
  rw [isExempt_foldCase]
  obtain ⟨schema, table, a⟩ := u
  split
  · rfl
  · cases schema with
    | none => exact plainTable_outlines table
    | some schema =>
      cases checkSchemas with
      | true => exact qualifiedTable_outlines h schema table
      | false => exact plainTable_outlines table

theorem tableFindings_outlines (h : p.IgnoresCase) (checkSchemas : Bool) (s : Symbols) :
    (tableFindings p checkSchemas s.foldCase).map Finding.outline =
      (tableFindings p checkSchemas s).map Finding.outline := by
  have huses : firstByKey (·.table.key) [] (s.uses.map TableUse.foldCase) =
      (firstByKey (·.table.key) [] s.uses).map TableUse.foldCase :=
    firstByKey_map (f := TableUse.foldCase) (fun _ => rfl) [] s.uses
  rw [tableFindings, tableFindings, Symbols.foldCase, huses]
  exact outlines_flatMap (tableVerdict_outlines h checkSchemas s) _

/-! ### Unused aliases -/

theorem usedQualifiers_foldCase (symbols : Symbols) (s : Statement) :
    usedQualifiers symbols.foldCase s.foldCase = usedQualifiers symbols s := by
  have hpaths : (pathsOf s.foldCase.visits).flatMap List.dropLast =
      ((pathsOf s.visits).flatMap List.dropLast).map Ident.foldCase := by
    rw [Statement.visits_foldCase, pathsOf_fold, List.flatMap_map, List.map_flatMap]
    simp only [foldPath, List.map_dropLast]
  rw [usedQualifiers, usedQualifiers, hpaths, Symbols.foldCase, ← List.map_append, lowers_fold]

theorem firstByName_fold (seen : List String) (ds : List AliasDefinition) :
    firstByName seen (ds.map AliasDefinition.foldCase) =
      (firstByName seen ds).map AliasDefinition.foldCase := by
  induction ds generalizing seen with
  | nil => rfl
  | cons d ds ih =>
    have hname : lower d.foldCase.name.value = lower d.name.value :=
      lower_foldAscii d.name.value
    simp only [List.map_cons, firstByName, hname, ih]
    split <;> rfl

theorem outline_unusedAlias (d : AliasDefinition) :
    (unusedAlias d).outline = (.unusedAlias, .warning, d.name.range) := rfl

theorem unusedAliases_outlines (symbols : Symbols) (s : Statement) :
    (unusedAliases symbols.foldCase s.foldCase).map Finding.outline =
      (unusedAliases symbols s).map Finding.outline := by
  have houter : symbols.foldCase.definitions.filter (·.outer) =
      (symbols.definitions.filter (·.outer)).map AliasDefinition.foldCase := by
    rw [Symbols.foldCase, List.filter_map]
    rfl
  rw [unusedAliases, unusedAliases, usedQualifiers_foldCase, houter, firstByName_fold]
  simp only [List.map_map, Function.comp_def, outline_unusedAlias]
  rfl

end Names

end SqlAudit
