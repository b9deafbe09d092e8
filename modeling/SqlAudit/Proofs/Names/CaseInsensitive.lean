import SqlAudit.Proofs.Audit.Phases
import SqlAudit.Proofs.Names.LetterCase

/-!
The case of ASCII letters in a statement makes no difference to what is found about its names, but
for the texts of the findings. The check of columns is followed verdict by verdict; each compares
names only by their lower-case forms or up to the case of ASCII letters, and tells identifiers apart
by their places.
-/

namespace SqlAudit

open Sql Text

namespace Names

def Qualified.foldCase : Qualified → Qualified
  | .table name => .table (foldAscii name)
  | .unchecked => .unchecked
  | .unknown => .unknown

namespace ColumnCheck

def foldCase (c : ColumnCheck) : ColumnCheck :=
  { c with symbols := c.symbols.foldCase, scope := c.scope.foldCase }

def Target.foldCase : Target → Target
  | .column table name => .column (foldAscii table) name.foldCase
  | .path parts => .path (foldPath parts)

variable (c : ColumnCheck)

/-! ### Names with a qualifier -/

theorem qualified_foldCase (qualifier : String) :
    c.foldCase.qualified (foldAscii qualifier) = (c.qualified qualifier).foldCase := by
  have halias : c.foldCase.symbols.aliases.get? (lower (foldAscii qualifier)) =
      (c.symbols.aliases.get? (lower qualifier)).map foldAscii := by
    rw [lower_foldAscii]
    exact OrderedMap.get?_mapValues c.symbols.aliases foldAscii (lower qualifier)
  have hqualifier : c.foldCase.symbols.isQualifier (foldAscii qualifier) =
      c.symbols.isQualifier qualifier := c.symbols.isQualifier_foldCase qualifier
  have hcolumns : c.foldCase.scope.columnsOf (foldAscii qualifier) =
      c.scope.columnsOf qualifier := c.scope.columnsOf_foldCase qualifier
  have hopaque : c.foldCase.symbols.isOpaque (foldAscii qualifier) =
      c.symbols.isOpaque qualifier := c.symbols.isOpaque_foldCase qualifier
  have htable : c.foldCase.symbols.isTable (foldAscii qualifier) =
      c.symbols.isTable qualifier := c.symbols.isTable_foldCase qualifier
  rw [qualified, qualified, halias, hqualifier, hcolumns, hopaque, htable]
  cases c.symbols.aliases.get? (lower qualifier) with
  | some table => rfl
  | none =>
    simp only [Option.map_none]
    split
    · rfl
    · split <;> rfl

variable {c}

theorem columnsFor_foldCase (h : c.provider.IgnoresCase) (table : String) :
    c.foldCase.columnsFor (foldAscii table) = c.columnsFor table := by
  have hscope : c.foldCase.scope.columnsOf (foldAscii table) = c.scope.columnsOf table :=
    c.scope.columnsOf_foldCase table
  have hprovider : c.foldCase.provider.columns? none (foldAscii table) =
      c.provider.columns? none table := h.columns? none table
  rw [columnsFor, columnsFor, hscope, hprovider]

theorem memberVerdict_outlines (h : c.provider.IgnoresCase) (table : String) (column : Ident) :
    (c.foldCase.memberVerdict (foldAscii table) column.foldCase).map Finding.outline =
      (c.memberVerdict table column).map Finding.outline := by
  rw [memberVerdict, memberVerdict, columnsFor_foldCase h, Ident.value_foldCase, isEmpty_foldAscii,
    foldAscii_beq_star]
  split
  · rfl
  · cases c.columnsFor table with
    | none => rfl
    | some columns =>
      simp only [sameName_foldAscii_right]
      split <;> simp

theorem qualifierVerdict_outlines (qualifier : Ident) :
    (c.foldCase.qualifierVerdict qualifier.foldCase).map Finding.outline =
      (c.qualifierVerdict qualifier).map Finding.outline := by
  rw [qualifierVerdict, qualifierVerdict, Ident.value_foldCase, qualified_foldCase]
  cases c.qualified qualifier.value <;> rfl

theorem pathVerdict_outlines (h : c.provider.IgnoresCase) (parts : Path) :
    (c.foldCase.pathVerdict (foldPath parts)).map Finding.outline =
      (c.pathVerdict parts).map Finding.outline := by
  rw [pathVerdict, pathVerdict, foldPath, ← List.map_reverse]
  rcases parts.reverse with _ | ⟨column, _ | ⟨qualifier, rest⟩⟩
  · rfl
  · rfl
  · simp only [List.map_cons, Ident.value_foldCase, qualified_foldCase]
    cases c.qualified qualifier.value with
    | table table => exact memberVerdict_outlines h table column
    | unchecked => rfl
    | unknown => rfl

/-! ### Names without a qualifier -/

theorem isNoColumn_foldCase (id : Ident) : c.foldCase.isNoColumn id.foldCase = c.isNoColumn id := by
  have halias : c.foldCase.symbols.isAlias (foldAscii id.value) = c.symbols.isAlias id.value :=
    c.symbols.isAlias_foldCase id.value
  have hcte : c.foldCase.symbols.isCte (foldAscii id.value) = c.symbols.isCte id.value :=
    c.symbols.isCte_foldCase id.value
  have houtput : c.foldCase.symbols.isOutput (foldAscii id.value) = c.symbols.isOutput id.value :=
    c.symbols.isOutput_foldCase id.value
  have htext : c.foldCase.isText id.foldCase = c.isText id := rfl
  rw [isNoColumn, isNoColumn, htext, Ident.value_foldCase, halias, hcte, houtput,
    isEmpty_foldAscii, foldAscii_beq_star]

theorem looksLikeColumn_foldAscii (name : String) :
    Lint.looksLikeColumn (foldAscii name) = Lint.looksLikeColumn name := by
  simp only [Lint.looksLikeColumn, sameName_foldAscii_right]

theorem unknownName_outlines (id : Ident) :
    (c.foldCase.unknownName id.foldCase).map Finding.outline =
      (c.unknownName id).map Finding.outline := by
  have htable : c.foldCase.symbols.isTable (foldAscii id.value) = c.symbols.isTable id.value :=
    c.symbols.isTable_foldCase id.value
  have hscope : c.foldCase.scope.hasTables = c.scope.hasTables := rfl
  rw [unknownName, unknownName, Ident.value_foldCase, htable, hscope, looksLikeColumn_foldAscii]
  split
  · simp
  · split <;> simp

theorem knownName_outlines (id : Ident) :
    (c.foldCase.knownName id.foldCase).map Finding.outline =
      (c.knownName id).map Finding.outline := by
  have howners : c.foldCase.scope.owners (foldAscii id.value) = c.scope.owners id.value :=
    c.scope.owners_foldCase id.value
  have hwarn : c.foldCase.warnAmbiguous = c.warnAmbiguous := rfl
  rw [knownName, knownName, Ident.value_foldCase, howners, hwarn]
  split
  · split <;> simp
  · rfl

theorem nameVerdict_outlines (id : Ident) :
    (c.foldCase.nameVerdict id.foldCase).map Finding.outline =
      (c.nameVerdict id).map Finding.outline := by
  have hcandidates : c.foldCase.scope.candidates (foldAscii id.value) =
      c.scope.candidates id.value := c.scope.candidates_foldCase id.value
  rw [nameVerdict, nameVerdict, isNoColumn_foldCase, Ident.value_foldCase, hcandidates]
  split
  · rfl
  · split
    · exact unknownName_outlines id
    · exact knownName_outlines id

/-! ### Targets -/

theorem tableName_foldPath (name : Path) :
    tableName (foldPath name) = (tableName name).map foldAscii := by
  rw [tableName, tableName, foldPath, List.getLast?_map, Option.map_map, Option.map_map]
  rfl

theorem targets_foldCase (s : Statement) :
    targets s.foldCase = (targets s).map Target.foldCase := by
  cases s with
  | insert target a columns source es =>
    simp only [Statement.foldCase, targets, tableName_foldPath]
    cases tableName target with
    | none => rfl
    | some table =>
      simp only [Option.map_some, List.map_map]
      rfl
  | update target names values sources filter tail =>
    obtain ⟨factor, joins⟩ := target
    simp only [Statement.foldCase, Source.foldCase, targets, Source.factor, List.flatMap_map,
      List.map_flatMap]
    congr 1
    funext parts
    rcases parts with _ | ⟨column, _ | ⟨next, rest⟩⟩
    · rfl
    · cases factor with
      | table name a called es =>
        simp only [foldPath, List.map_cons, List.map_nil, Factor.foldCase]
        rw [← foldPath, tableName_foldPath]
        cases tableName name <;> rfl
      | derived | nested | function | pivot | document => rfl
    · rfl
  | query | delete | explain | prepare | define | other => rfl

theorem targetVerdict_outlines (h : c.provider.IgnoresCase) (t : Target) :
    (c.foldCase.targetVerdict t.foldCase).map Finding.outline =
      (c.targetVerdict t).map Finding.outline := by
  cases t with
  | column table name => exact memberVerdict_outlines h table name
  | path parts => exact pathVerdict_outlines h parts

theorem targetKey_foldCase (t : Target) : targetKey t.foldCase = targetKey t := by
  cases t <;> rfl

/-! ### The whole statement -/

theorem excluded_foldCase (s : Statement) : c.foldCase.excluded s.foldCase = c.excluded s := by
  have hpaths : (pathsOf s.foldCase.visits).flatten =
      (pathsOf s.visits).flatten.map Ident.foldCase := by
    rw [Statement.visits_foldCase, pathsOf_fold, List.map_flatten]
    rfl
  have huses : (c.foldCase.symbols.uses.flatMap fun u =>
      u.table :: u.schema.toList ++ u.alias?.toList) =
        (c.symbols.uses.flatMap fun u => u.table :: u.schema.toList ++ u.alias?.toList).map
          Ident.foldCase := by
    simp only [foldCase, Symbols.foldCase, List.flatMap_map, List.map_flatMap]
    congr 1
    funext u
    obtain ⟨schema, table, a⟩ := u
    cases schema <;> cases a <;> rfl
  have hdefinitions : c.foldCase.symbols.definitions.map (·.name) =
      (c.symbols.definitions.map (·.name)).map Ident.foldCase := by
    simp only [foldCase, Symbols.foldCase, List.map_map]
    rfl
  rw [excluded, excluded, hpaths, huses, hdefinitions]
  simp only [foldCase, Symbols.foldCase, ← List.map_append, keys_fold]

theorem changeFilter_foldCase (s : Statement) :
    changeFilter s.foldCase = foldExpr? (changeFilter s) := by
  cases s <;> rfl

theorem sweep_foldCase (s : Statement) : sweep s.foldCase = (sweep s).map Ident.foldCase := by
  have hitems : (s.selects.map Select.foldCase).flatMap
      (fun select => namesOf (itemListVisits select.items)) =
        (s.selects.flatMap fun select => namesOf (itemListVisits select.items)).map
          Ident.foldCase := by
    simp only [List.flatMap_map, List.map_flatMap, Select.items_foldCase, itemListVisits_fold,
      namesOf_fold]
  have hfilters : (s.selects.map Select.foldCase).flatMap
      (fun select => namesOf (exprOptionVisits select.filter)) =
        (s.selects.flatMap fun select => namesOf (exprOptionVisits select.filter)).map
          Ident.foldCase := by
    simp only [List.flatMap_map, List.map_flatMap, Select.filter_foldCase, exprOptionVisits_fold,
      namesOf_fold]
  rw [sweep, sweep, Statement.selects_foldCase, hitems, hfilters, changeFilter_foldCase,
    exprOptionVisits_fold, namesOf_fold, Statement.visits_foldCase, namesOf_fold]
  simp only [List.map_append]

theorem namesToCheck_fold (seen : List Position) (names : List Ident) :
    namesToCheck seen (names.map Ident.foldCase) =
      (namesToCheck seen names).map Ident.foldCase := by
  have hplaced : (names.map Ident.foldCase).filter (·.key.isSome) =
      (names.filter (·.key.isSome)).map Ident.foldCase := List.filter_map
  rw [namesToCheck, namesToCheck, hplaced]
  exact firstByKey_map (f := Ident.foldCase) (fun _ => rfl) seen _

theorem findings_outlines (h : c.provider.IgnoresCase) (s : Statement) :
    (c.foldCase.findings s.foldCase).map Finding.outline =
      (c.findings s).map Finding.outline := by
  have hpaths : pathsOf s.foldCase.visits = (pathsOf s.visits).map foldPath := by
    rw [Statement.visits_foldCase, pathsOf_fold]
  have hwritten : firstByKey targetKey [] ((targets s).map Target.foldCase) =
      (firstByKey targetKey [] (targets s)).map Target.foldCase :=
    firstByKey_map targetKey_foldCase [] (targets s)
  have hkeys : ((targets s).map Target.foldCase).filterMap targetKey =
      (targets s).filterMap targetKey := by
    simp only [List.filterMap_map, Function.comp_def, targetKey_foldCase]
  have hstars : c.foldCase.symbols.starQualifiers =
      c.symbols.starQualifiers.map Ident.foldCase := rfl
  -- folding moves no name, so the same places are excluded and the same names are met first
  rw [findings, findings, excluded_foldCase, targets_foldCase, sweep_foldCase]
  simp only [hpaths, hstars, hwritten, hkeys, namesToCheck_fold, List.map_append]
  rw [outlines_flatMap (pathVerdict_outlines h), outlines_flatMap qualifierVerdict_outlines,
    outlines_flatMap (targetVerdict_outlines h), outlines_flatMap nameVerdict_outlines]

end ColumnCheck

theorem columnFindings_outlines {p : Provider} (h : p.IgnoresCase) (dialect : Dialect)
    (warn : Bool) (symbols : Symbols) (s : Statement) :
    (columnFindings p dialect warn symbols.foldCase s.foldCase).map Finding.outline =
      (columnFindings p dialect warn symbols s).map Finding.outline := by
  rw [columnFindings, columnFindings, Scope.ofSymbols_foldCase h]
  exact ColumnCheck.findings_outlines (c := ⟨p, symbols, .ofSymbols p symbols, dialect, warn⟩) h s

end Names

namespace Audit

variable {p : Provider} {settings : Settings} {d d' : Document}

theorem rule_outlines {found found' : List Finding} (on : Bool)
    (alike : found.map Finding.outline = found'.map Finding.outline) :
    (rule on found).map Finding.outline = (rule on found').map Finding.outline := by
  cases on with
  | true => exact alike
  | false => rfl

theorem flatMap_named_outlines {find : Statement × Names.Symbols → List Finding}
    (alike : ∀ s : Statement, (find (s.foldCase, .collect s.foldCase)).map Finding.outline =
      (find (s, .collect s)).map Finding.outline) :
    ((d.statements.map Statement.foldCase).flatMap fun s =>
        (find (s, .collect s)).map Finding.outline) =
      (d.named.flatMap find).map Finding.outline := by
  rw [Document.named, List.flatMap_map, List.flatMap_map, List.map_flatMap]
  simp only [alike]

theorem named_outlines
    (h : d.statements.map Statement.foldCase = d'.statements.map Statement.foldCase)
    {find : Statement × Names.Symbols → List Finding}
    (alike : ∀ s : Statement, (find (s.foldCase, .collect s.foldCase)).map Finding.outline =
      (find (s, .collect s)).map Finding.outline) :
    (d.named.flatMap find).map Finding.outline = (d'.named.flatMap find).map Finding.outline := by
  rw [← flatMap_named_outlines alike, ← flatMap_named_outlines alike, h]

theorem catalogFindings_outlines (ignores : p.IgnoresCase)
    (h : d.statements.map Statement.foldCase = d'.statements.map Statement.foldCase) :
    (catalogFindings p settings d).map Finding.outline =
      (catalogFindings p settings d').map Finding.outline := by
  rw [catalogFindings, catalogFindings, List.map_append, List.map_append]
  congr 1
  · refine rule_outlines _ (named_outlines h fun s => ?_)
    rw [Names.Symbols.collect_foldCase]
    exact Names.tableFindings_outlines ignores settings.checkSchemaReferences (.collect s)
  · refine rule_outlines _ (named_outlines h fun s => ?_)
    rw [Names.Symbols.collect_foldCase]
    exact Names.columnFindings_outlines ignores settings.dialect settings.warnOnAmbiguousColumn
      (.collect s) s

/-- Statements that are alike but for the case of ASCII letters break the same rules of names at the
same places, with the same severities and in the same order. -/
theorem names_ignoreCase (c : Catalog) (settings : Settings)
    (h : d.statements.map Statement.foldCase = d'.statements.map Statement.foldCase) :
    (catalogFindings c.provider settings d).map Finding.outline =
        (catalogFindings c.provider settings d').map Finding.outline ∧
      (Phase.unusedAliases.findings (some c.provider) settings d).map Finding.outline =
        (Phase.unusedAliases.findings (some c.provider) settings d').map Finding.outline := by
  refine ⟨catalogFindings_outlines c.ignoresCase h,
    rule_outlines _ (named_outlines h fun s => ?_)⟩
  rw [Names.Symbols.collect_foldCase]
  exact Names.unusedAliases_outlines (.collect s) s

def usersOnly : Catalog :=
  Catalog.initial.addTable ((TableDef.table (.plain "users")).addColumn (.of "id" "INT"))

/-- `SELECT u.no, u.id FROM users AS u, x AS y`, where three of the names are given. -/
def fromUsers (column qualifier table : String) : Document :=
  ⟨[], [.query (.mk []
    (.select (.mk []
      [.plain (.path [.onLine "u" 7, .onLine column 9]),
        .plain (.path [.onLine qualifier 13, .onLine "id" 15])]
      [.mk (.table [.onLine table 23] (some ⟨.onLine "u" 32, []⟩) false []) [],
        .mk (.table [.onLine "x" 35] (some ⟨.onLine "y" 40, []⟩) false []) []]
      [] none []))
    [])]⟩

theorem fromUsers_ignoresCase :
    let settings : Settings := { warnOnUnusedAlias := true }
    let d := fromUsers "no" "u" "users"
    let d' := fromUsers "No" "U" "USERS"
    d.statements.map Statement.foldCase = d'.statements.map Statement.foldCase ∧
      (catalogFindings usersOnly.provider settings d').map Finding.outline =
        [(.tableNotFound, .error, (Ident.onLine "x" 35).range),
          (.columnNotFound, .error, (Ident.onLine "no" 9).range)] ∧
      (Phase.unusedAliases.findings (some usersOnly.provider) settings d').map Finding.outline =
        [(.unusedAlias, .warning, (Ident.onLine "y" 40).range)] := by
  intro settings d d'
  have hcolumn : (Ident.onLine "no" 9).foldCase = (Ident.onLine "No" 9).foldCase := by decide
  have hqualifier : (Ident.onLine "u" 13).foldCase = (Ident.onLine "U" 13).foldCase := by decide
  have htable : (Ident.onLine "users" 23).foldCase = (Ident.onLine "USERS" 23).foldCase := by decide
  have h : d.statements.map Statement.foldCase = d'.statements.map Statement.foldCase := by
    simp only [d, d', fromUsers, List.map_cons, List.map_nil, Statement.foldCase, Query.foldCase,
      SetExpr.foldCase, Select.foldCase, foldItems, SelectItem.foldCase, Expr.foldCase, foldPath,
      foldSources, Source.foldCase, Factor.foldCase, hcolumn, hqualifier, htable]
  obtain ⟨hcatalog, haliases⟩ := names_ignoreCase usersOnly settings h
  exact ⟨h, hcatalog.symm.trans (by decide), haliases.symm.trans (by decide)⟩

end Audit

end SqlAudit
