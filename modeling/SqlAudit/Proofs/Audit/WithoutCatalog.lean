import SqlAudit.Proofs.Audit.Limit
import SqlAudit.Proofs.Audit.Phases

/-!
Audits with and without a catalog. A catalog adds the findings of its own four rules among the others
and does nothing else: what the other rules find is the same with it, with another one and without.
-/

namespace SqlAudit

open Finding

/-- Whether a rule compares a document with the tables and columns of a catalog. -/
def Rule.needsCatalog : Rule → Bool
  | .invalidSchema => true
  | .tableNotFound => true
  | .columnNotFound => true
  | .ambiguousColumn => true
  | _ => false

namespace Audit

namespace Phase

theorem needsCatalog_of_mem_rules {phase : Phase} {r : Rule} (hr : r ∈ phase.rules) :
    r.needsCatalog = (phase == catalog) := by
  revert hr
  cases phase <;> cases r <;> decide

theorem findings_of_ne {phase : Phase} (h : phase ≠ catalog) (p q : Option Provider)
    (s : Settings) (d : Document) : phase.findings p s d = phase.findings q s d := by
  cases phase with
  | catalog => exact absurd rfl h
  | _ => rfl

theorem findings_none (phase : Phase) (p : Option Provider) (s : Settings) (d : Document) :
    phase.findings none s d =
      (phase.findings p s d).filter fun f => !f.rule.needsCatalog := by
  have only := phase.findings_onlyOf p s d
  by_cases h : phase = catalog
  · subst h
    have dropped : ∀ r ∈ catalog.rules, (!r.needsCatalog) = false := fun r hr => by
      simp [needsCatalog_of_mem_rules hr]
    exact (only.filter_rule_eq_nil (fun r => !r.needsCatalog) dropped).symm
  · have kept : ∀ r ∈ phase.rules, (!r.needsCatalog) = true := fun r hr => by
      simp [needsCatalog_of_mem_rules hr, h]
    rw [only.filter_rule_eq_self (fun r => !r.needsCatalog) kept]
    exact findings_of_ne h none p s d

end Phase

theorem audit_none_eq_filter (p : Option Provider) {s : Settings}
    (unlimited : s.maxDiagnostics = 0) (text : String) :
    audit none s text = (audit p s text).filter fun f => !f.rule.needsCatalog :=
  audit_eq_filter (fun r => !r.needsCatalog) rfl rfl unlimited unlimited
    (fun d phase => phase.findings_none p s d) text

theorem needsCatalog_of_mem_audit {s : Settings} {text : String} {f : Finding}
    (hf : f ∈ audit none s text) : f.rule.needsCatalog = false := by
  have kept := (limit_firstOf s.maxDiagnostics (audit none { s with maxDiagnostics := 0 } text)).start
  rw [← audit_eq_limit] at kept
  have all := kept.subset hf
  rw [audit_none_eq_filter none rfl text] at all
  simpa using (List.mem_filter.1 all).2

/-- An audit without a catalog finds what it finds with one, less the findings of the rules that
need one: those it never has, and those of every other rule do not depend on the catalog. -/
theorem catalog_only_adds {s : Settings} (unlimited : s.maxDiagnostics = 0) (text : String) :
    (∀ p : Provider,
      audit none s text = (audit (some p) s text).filter fun f => !f.rule.needsCatalog) ∧
    (∀ (t : Settings), ∀ f ∈ audit none t text, f.rule.needsCatalog = false) ∧
    ∀ (p q : Option Provider) (r : Rule), r.needsCatalog = false →
      (audit p s text).filter (·.rule == r) = (audit q s text).filter (·.rule == r) := by
  refine ⟨fun p => audit_none_eq_filter (some p) unlimited text,
    fun t f hf => needsCatalog_of_mem_audit hf, fun p q r hr => ?_⟩
  have through (p : Option Provider) :
      (audit p s text).filter (·.rule == r) = (audit none s text).filter (·.rule == r) := by
    rw [audit_none_eq_filter p unlimited text, List.filter_filter]
    refine List.filter_congr fun f _ => ?_
    cases same : f.rule == r with
    | false => rfl
    | true => simp [beq_iff_eq.1 same, hr]
  rw [through p, through q]

/-- The missing table is found with a catalog only, the comparison with NULL either way. -/
theorem deletion_without_catalog :
    let s : Settings := { maxDiagnostics := 0 }
    let text := "DELETE FROM ghost WHERE x = NULL"
    let p := (Catalog.ofDefault "public").provider
    s.maxDiagnostics = 0 ∧
      (audit (some p) s text).map (·.rule) = [.nullComparison, .tableNotFound] ∧
      audit none s text = (audit (some p) s text).filter (fun f => !f.rule.needsCatalog) ∧
      Rule.needsCatalog .nullComparison = false ∧
      (audit none s text).filter (·.rule == .nullComparison) =
        (audit (some p) s text).filter (·.rule == .nullComparison) := by
  intro s text p
  obtain ⟨less, _, same⟩ := catalog_only_adds (s := s) rfl text
  exact ⟨rfl, by decide +kernel, less p, rfl, same none (some p) .nullComparison rfl⟩

end Audit

end SqlAudit
