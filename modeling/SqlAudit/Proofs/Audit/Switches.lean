import Mathlib
import SqlAudit.Command.Run
import SqlAudit.Proofs.Audit.Phases

/-!
The switches of the optional rules. Turning a rule off leaves its findings out of an audit and changes
nothing else; a project that disables the rule's code reports the same.
-/

namespace SqlAudit

open Finding

namespace Finding

theorem select_of_mem_iff {disabled more : List Rule} {r : Rule}
    (h : ∀ q, q ∈ more ↔ q = r ∨ q ∈ disabled) (max : Nat) (found : List Finding) :
    select more max found = select disabled max (found.filter (·.rule != r)) := by
  have hkept : ∀ q : Rule, (!more.contains q) = ((!disabled.contains q) && q != r) := by
    intro q
    have hmem : more.contains q = (q == r || disabled.contains q) := by
      rw [Bool.eq_iff_iff]
      simpa using h q
    rw [hmem, Bool.not_or, Bool.and_comm]
    rfl
  simp only [select, List.filter_filter, hkept]

end Finding

namespace Audit

/-- The switches of the optional rules; comparisons with NULL have two. -/
inductive Switch
  | syntaxChecks
  | nullComparisons
  | wordCases
  | semicolons
  | ambiguousNames
  | selectStars
  | unusedAliases
  | implicitJoins
  deriving DecidableEq, Repr

namespace Switch

def rule : Switch → Rule
  | syntaxChecks => .nullComparison
  | nullComparisons => .nullComparison
  | wordCases => .reservedWordCase
  | semicolons => .missingSemicolon
  | ambiguousNames => .ambiguousColumn
  | selectStars => .selectStar
  | unusedAliases => .unusedAlias
  | implicitJoins => .implicitJoin

def phase : Switch → Phase
  | syntaxChecks => .nullComparisons
  | nullComparisons => .nullComparisons
  | wordCases => .wordCases
  | semicolons => .semicolons
  | ambiguousNames => .catalog
  | selectStars => .selectStars
  | unusedAliases => .unusedAliases
  | implicitJoins => .implicitJoins

def off : Switch → Settings → Settings
  | syntaxChecks, s => { s with checkSyntax := false }
  | nullComparisons, s => { s with warnOnNullComparison := false }
  | wordCases, s => { s with checkReservedWordCase := .off }
  | semicolons, s => { s with checkMissingSemicolon := .off }
  | ambiguousNames, s => { s with warnOnAmbiguousColumn := false }
  | selectStars, s => { s with warnOnSelectStar := false }
  | unusedAliases, s => { s with warnOnUnusedAlias := false }
  | implicitJoins, s => { s with warnOnImplicitJoin := false }

variable (sw : Switch) (p : Option Provider) (s : Settings) (d : Document)

theorem enabled_off : (sw.off s).enabled = s.enabled := by cases sw <;> rfl

theorem maxDiagnostics_off : (sw.off s).maxDiagnostics = s.maxDiagnostics := by cases sw <;> rfl

theorem ofCode?_rule : Rule.ofCode? (Text.trimBlanks sw.rule.code) = some sw.rule := by
  cases sw <;> decide

/-! ### What a switch changes -/

theorem rule_not_mem {phase : Phase} (h : phase ≠ sw.phase) : sw.rule ∉ phase.rules := by
  revert h
  cases sw <;> cases phase <;> decide

theorem findings_off_of_ne {phase : Phase} (h : phase ≠ sw.phase) :
    phase.findings p (sw.off s) d = phase.findings p s d := by
  cases sw with
  | syntaxChecks | nullComparisons =>
    cases phase with
    | nullComparisons => exact absurd rfl h
    | _ => rfl
  | wordCases =>
    cases phase with
    | wordCases => exact absurd rfl h
    | _ => rfl
  | semicolons =>
    cases phase with
    | semicolons => exact absurd rfl h
    | _ => rfl
  | ambiguousNames =>
    cases phase with
    | catalog => exact absurd rfl h
    | _ => rfl
  | selectStars =>
    cases phase with
    | selectStars => exact absurd rfl h
    | _ => rfl
  | unusedAliases =>
    cases phase with
    | unusedAliases => exact absurd rfl h
    | _ => rfl
  | implicitJoins =>
    cases phase with
    | implicitJoins => exact absurd rfl h
    | _ => rfl

theorem rules_eq {sw : Switch} (h : sw ≠ ambiguousNames) : sw.phase.rules = [sw.rule] := by
  cases sw with
  | ambiguousNames => exact absurd rfl h
  | _ => rfl

theorem findings_off_eq_nil {sw : Switch} (h : sw ≠ ambiguousNames) :
    sw.phase.findings p (sw.off s) d = [] := by
  cases sw with
  | nullComparisons => simp [phase, off, Phase.findings, Audit.rule]
  | ambiguousNames => exact absurd rfl h
  | _ => rfl

theorem catalogFindings_ambiguousNames (p : Provider) :
    catalogFindings p (ambiguousNames.off s) d =
      (catalogFindings p s d).filter (·.rule != .ambiguousColumn) := by
  have htables : OnlyOf [.invalidSchema, .tableNotFound]
      (Audit.rule s.checkTableReferences
        (d.named.flatMap fun n => Names.tableFindings p s.checkSchemaReferences n.2)) :=
    rule_onlyOf _ (.flatMap fun n => Names.tableFindings_onlyOf p s.checkSchemaReferences n.2)
  have hcolumns : d.named.flatMap (fun n => Names.columnFindings p s.dialect false n.2 n.1) =
      (d.named.flatMap fun n => Names.columnFindings p s.dialect s.warnOnAmbiguousColumn n.2
        n.1).filter (·.rule != .ambiguousColumn) := by
    rw [List.filter_flatMap]
    congr 1
    funext n
    exact Names.columnFindings_quiet p s.dialect s.warnOnAmbiguousColumn n.2 n.1
  rw [catalogFindings, catalogFindings, List.filter_append, htables.filter_eq_self (by simp)]
  congr 1
  change Audit.rule s.checkColumnReferences
    (d.named.flatMap fun n => Names.columnFindings p s.dialect false n.2 n.1) = _
  rw [hcolumns]
  cases s.checkColumnReferences <;> rfl

theorem findings_off (phase : Phase) :
    phase.findings p (sw.off s) d = (phase.findings p s d).filter (·.rule != sw.rule) := by
  have honly := phase.findings_onlyOf p s d
  by_cases hphase : phase = sw.phase
  · subst hphase
    by_cases hsw : sw = ambiguousNames
    · subst hsw
      cases p with
      | none => rfl
      | some p => exact catalogFindings_ambiguousNames s d p
    · rw [rules_eq hsw] at honly
      rw [findings_off_eq_nil p s d hsw, honly.filter_eq_nil]
  · rw [sw.findings_off_of_ne p s d hphase, honly.filter_eq_self (sw.rule_not_mem hphase)]

theorem syntaxError_ne_rule : (Rule.syntaxError != sw.rule) = true := by cases sw <;> rfl

theorem audit_off_eq_filter {s : Settings} (unlimited : s.maxDiagnostics = 0) (text : String) :
    audit p (sw.off s) text = (audit p s text).filter (·.rule != sw.rule) :=
  audit_eq_filter (· != sw.rule) sw.syntaxError_ne_rule (sw.enabled_off s)
    ((sw.maxDiagnostics_off s).trans unlimited) unlimited (fun d phase => sw.findings_off p s d phase)
    text

/-! ### Projects -/

def disabledIn (q : Project) : Project := { q with disable := q.disable ++ [sw.rule.code] }

def offIn (q : Project) : Project := { q with settings := sw.off q.settings }

theorem auditSettings_offIn (q : Project) :
    (sw.offIn q).auditSettings = sw.off q.auditSettings := by
  cases sw <;> rfl

theorem mem_disabledRules_disabledIn (q : Project) (r : Rule) :
    r ∈ (sw.disabledIn q).disabledRules ↔ r = sw.rule ∨ r ∈ q.disabledRules := by
  simp [disabledIn, Project.disabledRules, List.filterMap_append, sw.ofCode?_rule, or_comm]

/-- An optional rule is a filter of its own: switching it off takes its findings out of those of an
audit, and so does disabling its code, whatever else is disabled and however few findings are
kept. -/
theorem audit_off (sw : Switch) {s : Settings} (unlimited : s.maxDiagnostics = 0)
    (p : Option Provider) (text : String) :
    audit p (sw.off s) text = (audit p s text).filter (·.rule != sw.rule) ∧
    (∀ (disabled more : List Rule) (max : Nat), (∀ r, r ∈ more ↔ r = sw.rule ∨ r ∈ disabled) →
      select more max (audit p s text) = select disabled max (audit p (sw.off s) text)) ∧
    ∀ (q : Project) (c : Option Catalog),
      (sw.disabledIn q).findings c text = (sw.offIn q).findings c text := by
  refine ⟨sw.audit_off_eq_filter p unlimited text, fun disabled more max hmore => ?_, fun q c => ?_⟩
  · rw [sw.audit_off_eq_filter p unlimited text, select_of_mem_iff hmore]
  · have hlimit : (sw.offIn q).settings.maxDiagnostics = q.settings.maxDiagnostics :=
      sw.maxDiagnostics_off q.settings
    have haudit := sw.audit_off_eq_filter (c.map Catalog.provider) (s := q.auditSettings) rfl text
    rw [Project.findings, Project.findings, hlimit, sw.auditSettings_offIn, haudit,
      select_of_mem_iff (sw.mem_disabledRules_disabledIn q)]
    rfl

/-- A star and a joined list are found; without the switch of the star only the list is. -/
theorem selectStars_off :
    let s : Settings := { maxDiagnostics := 0 }
    let text := "SELECT * FROM a, b"
    s.maxDiagnostics = 0 ∧ (audit none s text).map (·.rule) = [.selectStar, .implicitJoin] ∧
      audit none (selectStars.off s) text =
        (audit none s text).filter (·.rule != .selectStar) ∧
      select [.selectStar, .unusedAlias] 1 (audit none s text) =
        select [.unusedAlias] 1 (audit none (selectStars.off s) text) := by
  intro s text
  have off := audit_off selectStars (s := s) rfl none text
  exact ⟨rfl, by cbv, off.1, off.2.1 [.unusedAlias] [.selectStar, .unusedAlias] 1 (by simp [rule])⟩

end Switch

end Audit

end SqlAudit
