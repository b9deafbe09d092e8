import SqlAudit.Audit
import SqlAudit.Proofs.Names.Rules

/-!
The phases of an audit. Its findings are those of seven phases one after the other, and each phase
finds what its own rules are about and nothing else.
-/

namespace SqlAudit

open Finding

namespace Lint

open Sql

theorem nullComparisons_onlyOf (slice : List Lexeme) :
    OnlyOf [.nullComparison] (nullComparisons slice) := by
  intro f hf
  obtain ⟨r, _, rfl⟩ := List.mem_map.1 hf
  exact List.mem_singleton.2 rfl

theorem wordCases_onlyOf (wanted : KeywordCase) (severity : Severity) (slice : List Lexeme) :
    OnlyOf [.reservedWordCase] (wordCases wanted severity slice) := by
  intro f hf
  obtain ⟨l, _, hl⟩ := List.mem_filterMap.1 hf
  unfold wordCase? at hl
  split at hl
  · split at hl
    · rw [← Option.some.inj hl]
      exact List.mem_singleton.2 rfl
    · cases hl
  · cases hl

theorem missingSemicolon_onlyOf (severity : Severity) (slice : List Lexeme) :
    OnlyOf [.missingSemicolon] (missingSemicolon severity slice) := by
  unfold missingSemicolon
  split
  · split
    · exact .nil
    · simp [of]
  · exact .nil

theorem selectStars_onlyOf (slice : List Lexeme) : OnlyOf [.selectStar] (selectStars slice) := by
  intro f hf
  obtain ⟨r, _, rfl⟩ := List.mem_map.1 hf
  exact List.mem_singleton.2 rfl

theorem implicitJoins_onlyOf (slice : List Lexeme) :
    OnlyOf [.implicitJoin] (implicitJoins slice) := by
  unfold implicitJoins
  split
  · simp [warning, of]
  · exact .nil

end Lint

namespace Audit

/-- The parts of an audit, in the order of their findings. -/
inductive Phase
  | nullComparisons
  | wordCases
  | semicolons
  | catalog
  | selectStars
  | unusedAliases
  | implicitJoins
  deriving DecidableEq, Repr

namespace Phase

def all : List Phase :=
  [nullComparisons, wordCases, semicolons, catalog, selectStars, unusedAliases, implicitJoins]

def rules : Phase → List Rule
  | nullComparisons => [.nullComparison]
  | wordCases => [.reservedWordCase]
  | semicolons => [.missingSemicolon]
  | catalog => [.invalidSchema, .tableNotFound, .columnNotFound, .ambiguousColumn]
  | selectStars => [.selectStar]
  | unusedAliases => [.unusedAlias]
  | implicitJoins => [.implicitJoin]

def findings (p : Option Provider) (s : Settings) (d : Document) : Phase → List Finding
  | nullComparisons =>
    rule (s.checkSyntax && s.warnOnNullComparison) (d.slices.flatMap Lint.nullComparisons)
  | wordCases =>
    gradedRule s.checkReservedWordCase
      (fun severity => d.slices.flatMap (Lint.wordCases s.preferredKeywordCase severity))
  | semicolons =>
    gradedRule s.checkMissingSemicolon
      (fun severity => d.slices.flatMap (Lint.missingSemicolon severity))
  | catalog =>
    match p with
    | some p => catalogFindings p s d
    | none => []
  | selectStars => rule s.warnOnSelectStar (d.slices.flatMap Lint.selectStars)
  | unusedAliases =>
    rule s.warnOnUnusedAlias (d.named.flatMap fun n => Names.unusedAliases n.2 n.1)
  | implicitJoins => rule s.warnOnImplicitJoin (d.slices.flatMap Lint.implicitJoins)

end Phase

theorem documentFindings_eq (p : Option Provider) (s : Settings) (d : Document) :
    documentFindings p s d = Phase.all.flatMap (Phase.findings p s d) := by
  cases p <;> simp [documentFindings, Phase.all, Phase.findings]

/-! ### The rules of a phase -/

variable {rules : List Rule} {found : List Finding}

theorem rule_onlyOf (on : Bool) (h : OnlyOf rules found) : OnlyOf rules (rule on found) := by
  cases on with
  | true => exact h
  | false => exact .nil

theorem gradedRule_onlyOf (severity : RuleSeverity) {find : Severity → List Finding}
    (h : ∀ grade, OnlyOf rules (find grade)) : OnlyOf rules (gradedRule severity find) := by
  cases severity with
  | on grade => exact h grade
  | off => exact .nil

theorem catalogFindings_onlyOf (p : Provider) (s : Settings) (d : Document) :
    OnlyOf Phase.catalog.rules (catalogFindings p s d) := by
  refine .append (rule_onlyOf _ (.flatMap fun n => ?_)) (rule_onlyOf _ (.flatMap fun n => ?_))
  · exact (Names.tableFindings_onlyOf p s.checkSchemaReferences n.2).mono (by simp [Phase.rules])
  · exact (Names.columnFindings_onlyOf p s.dialect s.warnOnAmbiguousColumn n.2 n.1).mono
      (by simp [Phase.rules])

theorem Phase.findings_onlyOf (p : Option Provider) (s : Settings) (d : Document) (phase : Phase) :
    OnlyOf phase.rules (phase.findings p s d) := by
  cases phase with
  | nullComparisons => exact rule_onlyOf _ (.flatMap Lint.nullComparisons_onlyOf)
  | wordCases =>
    exact gradedRule_onlyOf _ fun grade =>
      .flatMap (Lint.wordCases_onlyOf s.preferredKeywordCase grade)
  | semicolons =>
    exact gradedRule_onlyOf _ fun grade => .flatMap (Lint.missingSemicolon_onlyOf grade)
  | catalog =>
    cases p with
    | none => exact .nil
    | some p => exact catalogFindings_onlyOf p s d
  | selectStars => exact rule_onlyOf _ (.flatMap Lint.selectStars_onlyOf)
  | unusedAliases => exact rule_onlyOf _ (.flatMap fun n => Names.unusedAliases_onlyOf n.2 n.1)
  | implicitJoins => exact rule_onlyOf _ (.flatMap Lint.implicitJoins_onlyOf)

theorem Phase.eq_of_mem_rules {phase q : Phase} {r : Rule} (own : phase.rules = [r])
    (h : r ∈ q.rules) : q = phase := by
  revert own h
  cases r <;> cases phase <;> cases q <;> decide

theorem filter_rule_eq_findings (phase : Phase) {r : Rule} (own : phase.rules = [r])
    (p : Option Provider) (s : Settings) (d : Document) :
    (documentFindings p s d).filter (·.rule == r) = phase.findings p s d := by
  have kept : (phase.findings p s d).filter (·.rule == r) = phase.findings p s d :=
    (own ▸ phase.findings_onlyOf p s d).filter_rule_eq_self (· == r) (by simp)
  have dropped {q : Phase} (h : q ≠ phase) : (q.findings p s d).filter (·.rule == r) = [] :=
    (q.findings_onlyOf p s d).filter_rule_eq_nil (· == r) fun _ hr =>
      beq_eq_false_iff_ne.2 fun same => h (Phase.eq_of_mem_rules own (same ▸ hr))
  rw [documentFindings_eq, List.filter_flatMap, Phase.all]
  cases phase <;> simp [kept, dropped]

/-- Where every phase of an audit finds what is kept of the same phase of another, so does the audit,
unless the finding of an unreadable document is dropped. -/
theorem audit_eq_filter_of_phases {p q : Option Provider} {s t : Settings} {keep : Finding → Bool}
    {text : String} (syntaxKept : ∀ f : Finding, f.rule = .syntaxError → keep f = true)
    (enabled : s.enabled = t.enabled) (unlimited : s.maxDiagnostics = 0)
    (unlimited' : t.maxDiagnostics = 0)
    (phases : ∀ d, Document.ofText text = .ok d → ∀ phase : Phase,
      phase.findings p s d = (phase.findings q t d).filter keep) :
    audit p s text = (audit q t text).filter keep := by
  rw [audit, audit, unlimited, unlimited', enabled]
  cases t.enabled with
  | false => rfl
  | true =>
    rw [if_pos rfl, if_pos rfl, limit_zero, limit_zero]
    cases hread : Document.ofText text with
    | ok d =>
      change documentFindings p s d = (documentFindings q t d).filter _
      rw [documentFindings_eq, documentFindings_eq, List.filter_flatMap]
      exact List.flatMap_congr fun phase _ => phases d hread phase
    | error e => exact (List.filter_eq_self.2 fun f hf => by
        rw [List.mem_singleton.1 hf]
        exact syntaxKept _ rfl).symm

theorem audit_eq_filter {p q : Option Provider} {s t : Settings} (keep : Rule → Bool)
    (syntaxKept : keep .syntaxError = true) (enabled : s.enabled = t.enabled)
    (unlimited : s.maxDiagnostics = 0) (unlimited' : t.maxDiagnostics = 0)
    (phases : ∀ (d : Document) (phase : Phase),
      phase.findings p s d = (phase.findings q t d).filter fun f => keep f.rule)
    (text : String) : audit p s text = (audit q t text).filter fun f => keep f.rule :=
  audit_eq_filter_of_phases (fun f hf => by rw [hf]; exact syntaxKept) enabled unlimited unlimited'
    fun d _ phase => phases d phase

end Audit

end SqlAudit
