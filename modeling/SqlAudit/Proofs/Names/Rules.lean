import SqlAudit.Names.UnusedAlias
import SqlAudit.Proofs.Names.Columns

/-!
The rules that the checks of names report. Only names that several tables have a column of are found
ambiguous, so a check that does not warn of them finds what else a check that does would find, in the
same order.
-/

namespace SqlAudit

open Sql

namespace Finding

def OnlyOf (rules : List Rule) (found : List Finding) : Prop := ∀ f ∈ found, f.rule ∈ rules

namespace OnlyOf

variable {rules more : List Rule} {found rest : List Finding} {r : Rule}

@[simp] theorem nil : OnlyOf rules [] := fun _ hf => absurd hf List.not_mem_nil

@[simp] theorem singleton_iff {f : Finding} : OnlyOf rules [f] ↔ f.rule ∈ rules := by
  simp [OnlyOf]

theorem append (h : OnlyOf rules found) (h' : OnlyOf rules rest) : OnlyOf rules (found ++ rest) :=
  fun f hf => (List.mem_append.1 hf).elim (h f) (h' f)

theorem flatMap {α : Type} {as : List α} {find : α → List Finding}
    (h : ∀ a, OnlyOf rules (find a)) : OnlyOf rules (as.flatMap find) := by
  intro f hf
  obtain ⟨a, _, hfa⟩ := List.mem_flatMap.1 hf
  exact h a f hfa

theorem mono (h : OnlyOf rules found) (sub : rules ⊆ more) : OnlyOf more found :=
  fun f hf => sub (h f hf)

theorem filter_rule_eq_self (h : OnlyOf rules found) (keep : Rule → Bool)
    (kept : ∀ q ∈ rules, keep q = true) : found.filter (fun f => keep f.rule) = found :=
  List.filter_eq_self.2 fun f hf => kept f.rule (h f hf)

theorem filter_rule_eq_nil (h : OnlyOf rules found) (keep : Rule → Bool)
    (dropped : ∀ q ∈ rules, keep q = false) : found.filter (fun f => keep f.rule) = [] :=
  List.filter_eq_nil_iff.2 fun f hf => Bool.eq_false_iff.1 (dropped f.rule (h f hf))

theorem filter_eq_self (h : OnlyOf rules found) (hr : r ∉ rules) :
    found.filter (·.rule != r) = found :=
  h.filter_rule_eq_self (· != r) fun _ hq => bne_iff_ne.2 fun same => hr (same ▸ hq)

theorem filter_eq_nil (h : OnlyOf [r] found) : found.filter (·.rule != r) = [] :=
  h.filter_rule_eq_nil (· != r) fun q hq => by simp [List.mem_singleton.1 hq]

end OnlyOf

end Finding

namespace Names

open Finding

@[simp] theorem rule_suggesting (f : Finding) (candidates : List String) (name : String) :
    (suggesting f candidates name).rule = f.rule :=
  congrArg Prod.fst (ColumnCheck.mark_suggesting f candidates name)

/-! ### Tables and aliases -/

theorem plainTable_onlyOf (p : Provider) (table : Ident) :
    OnlyOf [.tableNotFound] (plainTable p table) := by
  unfold plainTable
  split
  · exact .nil
  · simp [error, of]

theorem tableVerdict_onlyOf (p : Provider) (checkSchemas : Bool) (symbols : Symbols)
    (u : TableUse) :
    OnlyOf [.invalidSchema, .tableNotFound] (tableVerdict p checkSchemas symbols u) := by
  have hplain : OnlyOf [.invalidSchema, .tableNotFound] (plainTable p u.table) :=
    (plainTable_onlyOf p u.table).mono (by simp)
  unfold tableVerdict
  split
  · exact .nil
  · split
    next schema _ =>
      unfold qualifiedTable
      split
      · simp [error, of]
      · split
        · exact .nil
        · simp [error, of]
    next => exact hplain

theorem tableFindings_onlyOf (p : Provider) (checkSchemas : Bool) (symbols : Symbols) :
    OnlyOf [.invalidSchema, .tableNotFound] (tableFindings p checkSchemas symbols) :=
  .flatMap (tableVerdict_onlyOf p checkSchemas symbols)

theorem unusedAliases_onlyOf (symbols : Symbols) (s : Statement) :
    OnlyOf [.unusedAlias] (unusedAliases symbols s) := by
  intro f hf
  obtain ⟨d, _, rfl⟩ := List.mem_map.1 hf
  exact List.mem_singleton.2 rfl

/-! ### Columns -/

namespace ColumnCheck

variable (c : ColumnCheck)

theorem memberVerdict_onlyOf (table : String) (column : Ident) :
    OnlyOf [.columnNotFound] (c.memberVerdict table column) := by
  unfold memberVerdict
  split
  · exact .nil
  · split
    · exact .nil
    · split
      · exact .nil
      · simp [error, of]

theorem qualifierVerdict_onlyOf (qualifier : Ident) :
    OnlyOf [.tableNotFound] (c.qualifierVerdict qualifier) := by
  unfold qualifierVerdict
  split
  · simp [unknownQualifier, error, of]
  · exact .nil

theorem pathVerdict_onlyOf (parts : Path) :
    OnlyOf [.tableNotFound, .columnNotFound] (c.pathVerdict parts) := by
  unfold pathVerdict
  split
  · split
    next table _ => exact (c.memberVerdict_onlyOf table _).mono (by simp)
    next => exact .nil
    next => simp [unknownQualifier, error, of]
  · exact .nil

theorem targetVerdict_onlyOf (t : Target) :
    OnlyOf [.tableNotFound, .columnNotFound] (c.targetVerdict t) := by
  cases t with
  | column table name => exact (c.memberVerdict_onlyOf table name).mono (by simp)
  | path parts => exact c.pathVerdict_onlyOf parts

theorem unknownName_onlyOf (id : Ident) : OnlyOf [.columnNotFound] (c.unknownName id) := by
  unfold unknownName
  split
  · simp [error, of]
  · split
    · simp [error, of]
    · exact .nil

theorem knownName_onlyOf (id : Ident) : OnlyOf [.ambiguousColumn] (c.knownName id) := by
  unfold knownName
  split
  · split
    · simp [warning, withHelp, of]
    · exact .nil
  · exact .nil

theorem nameVerdict_onlyOf (id : Ident) :
    OnlyOf [.columnNotFound, .ambiguousColumn] (c.nameVerdict id) := by
  unfold nameVerdict
  split
  · exact .nil
  · split
    · exact (c.unknownName_onlyOf id).mono (by simp)
    · exact (c.knownName_onlyOf id).mono (by simp)

theorem findings_onlyOf (s : Statement) :
    OnlyOf [.tableNotFound, .columnNotFound, .ambiguousColumn] (c.findings s) := by
  refine .append (.append (.append ?_ ?_) ?_) ?_
  · exact .flatMap fun parts => (c.pathVerdict_onlyOf parts).mono (by simp)
  · exact .flatMap fun qualifier => (c.qualifierVerdict_onlyOf qualifier).mono (by simp)
  · exact .flatMap fun t => (c.targetVerdict_onlyOf t).mono (by simp)
  · exact .flatMap fun id => (c.nameVerdict_onlyOf id).mono (by simp)

/-! ### Without warnings of ambiguous names -/

def quiet : ColumnCheck := { c with warnAmbiguous := false }

theorem knownName_quiet (id : Ident) : c.quiet.knownName id = [] := by
  unfold knownName
  split <;> rfl

theorem nameVerdict_quiet (id : Ident) :
    c.quiet.nameVerdict id = (c.nameVerdict id).filter (·.rule != .ambiguousColumn) := by
  have hunknown : c.quiet.unknownName id = c.unknownName id := rfl
  have hnone : c.quiet.isNoColumn id = c.isNoColumn id := rfl
  have hscope : c.quiet.scope = c.scope := rfl
  rw [nameVerdict, nameVerdict, hnone, hscope, hunknown, c.knownName_quiet]
  split
  · rfl
  · split
    · exact ((c.unknownName_onlyOf id).filter_eq_self (by simp)).symm
    · exact (c.knownName_onlyOf id).filter_eq_nil.symm

/-- Warnings of ambiguous names come on top of what is found without them. -/
theorem findings_quiet (s : Statement) :
    c.quiet.findings s = (c.findings s).filter (·.rule != .ambiguousColumn) := by
  have hpaths : OnlyOf [.tableNotFound, .columnNotFound]
      ((pathsOf s.visits).flatMap c.pathVerdict) := .flatMap c.pathVerdict_onlyOf
  have hstars : OnlyOf [.tableNotFound] (c.symbols.starQualifiers.flatMap c.qualifierVerdict) :=
    .flatMap c.qualifierVerdict_onlyOf
  have htargets : OnlyOf [.tableNotFound, .columnNotFound]
      ((firstByKey targetKey [] (targets s)).flatMap c.targetVerdict) :=
    .flatMap c.targetVerdict_onlyOf
  simp only [findings, List.filter_append, List.filter_flatMap (l := namesToCheck _ _),
    hpaths.filter_eq_self (r := .ambiguousColumn) (by simp),
    hstars.filter_eq_self (r := .ambiguousColumn) (by simp),
    htargets.filter_eq_self (r := .ambiguousColumn) (by simp), ← nameVerdict_quiet]
  rfl

end ColumnCheck

theorem columnFindings_onlyOf (p : Provider) (dialect : Dialect) (warn : Bool) (symbols : Symbols)
    (s : Statement) :
    OnlyOf [.tableNotFound, .columnNotFound, .ambiguousColumn]
      (columnFindings p dialect warn symbols s) := ColumnCheck.findings_onlyOf _ s

theorem columnFindings_quiet (p : Provider) (dialect : Dialect) (warn : Bool) (symbols : Symbols)
    (s : Statement) :
    columnFindings p dialect false symbols s =
      (columnFindings p dialect warn symbols s).filter (·.rule != .ambiguousColumn) :=
  ColumnCheck.findings_quiet ⟨p, symbols, .ofSymbols p symbols, dialect, warn⟩ s

end Names

end SqlAudit
