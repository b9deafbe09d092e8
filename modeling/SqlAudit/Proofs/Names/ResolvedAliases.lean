import SqlAudit.Proofs.Names.LastAlias
import SqlAudit.Proofs.Names.Rules

/-!
The qualifiers that the check of columns resolves, against those that make an alias count as used.
Both read the paths of expressions and the stars of items; only the check of columns reads the
targets of an UPDATE, so that an alias that qualifies nothing but targets is found unused.
-/

namespace SqlAudit

open Sql Text

namespace Names

/-! ### The first definition of every name -/

theorem mem_of_mem_firstByName {seen : List String} {ds : List AliasDefinition}
    {d : AliasDefinition} (h : d ∈ firstByName seen ds) : d ∈ ds ∧ lower d.name.value ∉ seen := by
  induction ds generalizing seen with
  | nil => cases h
  | cons e ds ih =>
    rw [firstByName] at h
    split at h
    next => exact ⟨List.mem_cons_of_mem e (ih h).1, (ih h).2⟩
    next fresh =>
      rcases List.mem_cons.1 h with rfl | h
      · exact ⟨List.mem_cons_self, by simpa using fresh⟩
      · obtain ⟨hd, unseen⟩ := ih h
        exact ⟨List.mem_cons_of_mem e hd, fun known => unseen (List.mem_cons_of_mem _ known)⟩

theorem exists_mem_firstByName {seen : List String} {ds : List AliasDefinition}
    {d : AliasDefinition} (h : d ∈ ds) (fresh : lower d.name.value ∉ seen) :
    ∃ e ∈ firstByName seen ds, lower e.name.value = lower d.name.value := by
  induction ds generalizing seen with
  | nil => cases h
  | cons e ds ih =>
    by_cases same : lower e.name.value = lower d.name.value
    · have kept : firstByName seen (e :: ds) =
          e :: firstByName (lower e.name.value :: seen) ds := by
        rw [firstByName, if_neg]
        simpa [same] using fresh
      exact ⟨e, kept ▸ List.mem_cons_self, same⟩
    · have behind : d ∈ ds := (List.mem_cons.1 h).resolve_left fun first => same (by rw [first])
      rw [firstByName]
      split
      next => exact ih behind fresh
      next =>
        have unseen : lower d.name.value ∉ lower e.name.value :: seen := by
          rw [List.mem_cons, not_or]
          exact ⟨Ne.symm same, fresh⟩
        obtain ⟨f, hf, name⟩ := ih behind unseen
        exact ⟨f, List.mem_cons_of_mem e hf, name⟩

/-! ### Aliases that are reported -/

/-- Whether an alias of a name is reported as unused. -/
def IsReportedAlias (s : Statement) (name : String) : Prop :=
  ∃ d ∈ (Symbols.collect s).definitions, lower d.name.value = lower name ∧
    unusedAlias d ∈ unusedAliases (.collect s) s

def IsOuterAlias (s : Statement) (name : String) : Prop :=
  ∃ d ∈ (Symbols.collect s).definitions, d.outer = true ∧ lower d.name.value = lower name

theorem name_eq_of_unusedAlias {d e : AliasDefinition} (h : unusedAlias d = unusedAlias e) :
    d.name.value = e.name.value := by
  have message : "Alias '" ++ d.name.value ++ "' is defined but never used" =
      "Alias '" ++ e.name.value ++ "' is defined but never used" := congrArg Finding.message h
  exact String.append_right_inj _ |>.1 (String.append_left_inj _ |>.1 message)

theorem isReportedAlias_iff (s : Statement) (name : String) :
    IsReportedAlias s name ↔
      IsOuterAlias s name ∧ lower name ∉ usedQualifiers (.collect s) s := by
  constructor
  · rintro ⟨d, _, hname, reported⟩
    obtain ⟨e, he, same⟩ := List.mem_map.1 reported
    obtain ⟨outer, unused⟩ := mem_of_mem_firstByName he
    obtain ⟨defined, outer⟩ := List.mem_filter.1 outer
    rw [name_eq_of_unusedAlias same, hname] at unused
    exact ⟨⟨e, defined, outer, by rw [name_eq_of_unusedAlias same, hname]⟩, unused⟩
  · rintro ⟨⟨d, defined, outer, hname⟩, unused⟩
    rw [← hname] at unused
    obtain ⟨e, he, same⟩ := exists_mem_firstByName (List.mem_filter.2 ⟨defined, outer⟩) unused
    have kept := (List.mem_filter.1 (mem_of_mem_firstByName he).1).1
    exact ⟨e, kept, same.trans hname, List.mem_map_of_mem he⟩

/-! ### Qualifiers that are resolved -/

def qualifier? (parts : Path) : Option Ident := parts.dropLast.getLast?

theorem qualifier?_eq (parts : Path) : qualifier? parts = parts.reverse.tail.head? := by
  rw [qualifier?, List.tail_reverse, List.head?_reverse]

namespace ColumnCheck

def Target.qualifier? : Target → Option Ident
  | .column _ _ => none
  | .path parts => Names.qualifier? parts

end ColumnCheck

/-- The qualifiers in the expressions of a statement and of the stars of its items. -/
def readQualifiers (s : Statement) : List Ident :=
  (pathsOf s.visits).filterMap qualifier? ++ (Symbols.collect s).starQualifiers

/-- The qualifiers of the columns that an UPDATE sets. -/
def writtenQualifiers (s : Statement) : List Ident :=
  (ColumnCheck.targets s).filterMap ColumnCheck.Target.qualifier?

theorem filterMap_firstByKey {α β : Type} {key : α → Option Position} {f : α → Option β}
    (keyless : ∀ a, key a ≠ none → f a = none) (seen : List Position) (as : List α) :
    (firstByKey key seen as).filterMap f = as.filterMap f := by
  induction as generalizing seen with
  | nil => rfl
  | cons a as ih =>
    rw [firstByKey]
    split
    next => rw [List.filterMap_cons, List.filterMap_cons, ih]
    next k hk =>
      have silent : f a = none := keyless a (by simp [hk])
      rw [List.filterMap_cons_none silent]
      split
      next => exact ih seen
      next => rw [List.filterMap_cons_none silent, ih]

namespace ColumnCheck

variable (c : ColumnCheck)

def isUnknown (qualifier : Ident) : Bool := c.qualified qualifier.value == .unknown

theorem memberVerdict_unknown (table : String) (column : Ident) :
    (c.memberVerdict table column).filter (·.rule == .tableNotFound) = [] :=
  (c.memberVerdict_onlyOf table column).filter_rule_eq_nil (· == .tableNotFound) (by decide)

theorem qualifierVerdict_unknown (qualifier : Ident) :
    (c.qualifierVerdict qualifier).filter (·.rule == .tableNotFound) =
      ([qualifier].filter c.isUnknown).map unknownQualifier := by
  rw [qualifierVerdict, List.filter_singleton, isUnknown]
  cases c.qualified qualifier.value <;> rfl

theorem pathVerdict_unknown (parts : Path) :
    (c.pathVerdict parts).filter (·.rule == .tableNotFound) =
      ((qualifier? parts).toList.filter c.isUnknown).map unknownQualifier := by
  rw [pathVerdict, qualifier?_eq]
  rcases parts.reverse with _ | ⟨column, _ | ⟨qualifier, front⟩⟩
  · rfl
  · rfl
  · change _ = ([qualifier].filter c.isUnknown).map unknownQualifier
    rw [List.filter_singleton, isUnknown]
    dsimp only
    cases c.qualified qualifier.value with
    | table table => exact c.memberVerdict_unknown table column
    | unchecked => rfl
    | unknown => rfl

theorem targetVerdict_unknown (t : Target) :
    (c.targetVerdict t).filter (·.rule == .tableNotFound) =
      (t.qualifier?.toList.filter c.isUnknown).map unknownQualifier := by
  cases t with
  | path parts => exact c.pathVerdict_unknown parts
  | column table name => exact c.memberVerdict_unknown table name

theorem filter_flatMap_unknown {α : Type} {verdict : α → List Finding} {f : α → Option Ident}
    (h : ∀ a, (verdict a).filter (·.rule == .tableNotFound) =
      ((f a).toList.filter c.isUnknown).map unknownQualifier) (as : List α) :
    (as.flatMap verdict).filter (·.rule == .tableNotFound) =
      ((as.filterMap f).filter c.isUnknown).map unknownQualifier := by
  rw [List.filter_flatMap, List.filterMap_eq_flatMap_toList, List.filter_flatMap, List.map_flatMap]
  exact congrArg as.flatMap (funext h)

/-- The qualifiers that are resolved are told by those that stand for nothing: each of these is
reported where it stands, and no other one. -/
theorem findings_unknown (s : Statement) :
    (c.findings s).filter (·.rule == .tableNotFound) =
      (((pathsOf s.visits).filterMap qualifier? ++ c.symbols.starQualifiers ++
        writtenQualifiers s).filter c.isUnknown).map unknownQualifier := by
  have stars := c.filter_flatMap_unknown (f := some) c.qualifierVerdict_unknown
    c.symbols.starQualifiers
  rw [List.filterMap_some] at stars
  have written := c.filter_flatMap_unknown c.targetVerdict_unknown
    (firstByKey targetKey [] (targets s))
  have keyless : ∀ t : Target, targetKey t ≠ none → t.qualifier? = none := by
    rintro (_ | _) h
    · rfl
    · exact absurd rfl h
  rw [filterMap_firstByKey keyless] at written
  have names (ids : List Ident) :
      (ids.flatMap c.nameVerdict).filter (·.rule == .tableNotFound) = [] :=
    (Finding.OnlyOf.flatMap c.nameVerdict_onlyOf).filter_rule_eq_nil (· == .tableNotFound)
      (by decide)
  rw [findings, List.filter_append, List.filter_append, List.filter_append, names, stars, written,
    c.filter_flatMap_unknown c.pathVerdict_unknown, List.append_nil, List.filter_append,
    List.filter_append, List.map_append, List.map_append]
  rfl

end ColumnCheck

/-! ### Resolved qualifiers that count as used -/

theorem lower_mem_usedQualifiers {s : Statement} {q : Ident} (h : q ∈ readQualifiers s) :
    lower q.value ∈ usedQualifiers (.collect s) s := by
  refine List.mem_map_of_mem (f := fun i : Ident => lower i.value) (List.mem_append.2 ?_)
  rcases List.mem_append.1 h with path | star
  · obtain ⟨parts, hparts, hq⟩ := List.mem_filterMap.1 path
    exact .inr (List.mem_flatMap.2 ⟨parts, hparts, List.mem_of_getLast? hq⟩)
  · exact .inl star

/-- The qualifiers that are resolved, told by those that stand for nothing, are those that are read
and those that are written. An alias that one of the first resolves is not reported as unused; an
alias of the outer query that one of the second resolves is not reported just where it qualifies
something in an expression or a star as well. -/
theorem resolved_alias_unreported_iff (s : Statement) :
    (∀ (p : Provider) (dialect : Dialect) (warn : Bool),
      let c := ColumnCheck.ofStatement p dialect warn s
      (c.findings s).filter (·.rule == .tableNotFound) =
        ((readQualifiers s ++ writtenQualifiers s).filter c.isUnknown).map
          ColumnCheck.unknownQualifier) ∧
    (∀ q ∈ readQualifiers s, ¬IsReportedAlias s q.value) ∧
    ∀ q ∈ writtenQualifiers s, ¬IsReportedAlias s q.value ↔
      (IsOuterAlias s q.value → lower q.value ∈ usedQualifiers (.collect s) s) := by
  refine ⟨fun p dialect warn => (ColumnCheck.ofStatement p dialect warn s).findings_unknown s,
    fun q hq reported => ?_, fun q _ => ?_⟩
  · exact ((isReportedAlias_iff s q.value).1 reported).2 (lower_mem_usedQualifiers hq)
  · rw [isReportedAlias_iff, not_and, not_not]

/-- `UPDATE users AS u SET u.x = 1`. -/
def qualifiedUpdate : Statement :=
  .update (.mk (.table [.onLine "users" 7] (some ⟨.onLine "u" 16, []⟩) false []) [])
    [[.onLine "u" 22, .onLine "x" 24]] [.literal "1"] [] none []

/-- The alias is what the target is resolved by, and is reported as unused. -/
theorem qualifiedUpdate_alias_reported :
    let p := (twoTables "users" "orders").provider
    let c := ColumnCheck.ofStatement p .generic true qualifiedUpdate
    writtenQualifiers qualifiedUpdate = [.onLine "u" 22] ∧
      c.qualified "u" = .table "users" ∧ c.findings qualifiedUpdate = [] ∧
      unusedAliases (.collect qualifiedUpdate) qualifiedUpdate =
        [unusedAlias ⟨.onLine "u" 16, .table, true⟩] := by
  decide

end Names

end SqlAudit
