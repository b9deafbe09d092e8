import Mathlib
import SqlAudit.Command.Run

/-!
How many findings are kept. The limit of an audit and the limit of a report keep the first findings
there are, after those of disabled rules have been left out; so the two agree where no rule is
disabled, and a wider limit only adds findings at the end.
-/

namespace SqlAudit

namespace Finding

/-- The first `max` of some findings, all of them when `max` is zero. -/
structure FirstOf (max : Nat) (all kept : List Finding) : Prop where
  start : kept <+: all
  length : kept.length = if max = 0 then all.length else min max all.length

/-- Whether a limit keeps at least as much as another. -/
def Widens (max wider : Nat) : Prop := wider = 0 ∨ max ≠ 0 ∧ max ≤ wider

theorem limit_firstOf (max : Nat) (all : List Finding) : FirstOf max all (limit max all) := by
  by_cases h : max = 0
  · subst h
    exact ⟨List.prefix_rfl, rfl⟩
  · simp only [limit, if_neg h]
    exact ⟨List.take_prefix max all, by simp [h]⟩

theorem limit_prefix_limit {max wider : Nat} (h : Widens max wider) (all : List Finding) :
    limit max all <+: limit wider all := by
  rcases h with rfl | ⟨limited, le⟩
  · exact (limit_firstOf max all).start
  · have widerLimited : wider ≠ 0 := by omega
    simp only [limit, if_neg limited, if_neg widerLimited]
    exact List.take_prefix_take_left le

end Finding

namespace Audit

open Finding

theorem audit_eq_limit (p : Option Provider) (s : Settings) (text : String) :
    audit p s text = limit s.maxDiagnostics (audit p { s with maxDiagnostics := 0 } text) := by
  unfold audit
  cases s.enabled with
  | true => rfl
  | false => simp [limit]

/-- Every limit keeps the first findings of the audit without one. A report, which leaves out disabled
rules before it counts, keeps the first of the others; it is the limited audit where nothing is
disabled. -/
theorem limit_keeps_first (p : Option Provider) (text : String) :
    (∀ s : Settings,
      FirstOf s.maxDiagnostics (audit p { s with maxDiagnostics := 0 } text) (audit p s text)) ∧
    (∀ q : Project,
      select [] q.settings.maxDiagnostics (audit p q.auditSettings text) =
        audit p q.settings text ∧
      ∀ (disabled : List Rule) (max : Nat),
        FirstOf max
          ((audit p { q.settings with maxDiagnostics := 0 } text).filter
            fun f => !disabled.contains f.rule)
          (select disabled max (audit p q.auditSettings text)) ∧
        ∀ wider, Widens max wider →
          select disabled max (audit p q.auditSettings text) <+:
            select disabled wider (audit p q.auditSettings text)) ∧
    ∀ (q : Project) (c : Option Catalog),
      FirstOf q.settings.maxDiagnostics
        ((audit (c.map Catalog.provider) { q.settings with maxDiagnostics := 0 } text).filter
          fun f => !q.disabledRules.contains f.rule)
        (q.findings c text) := by
  refine ⟨fun s => ?_, fun q => ⟨?_, fun disabled max => ⟨?_, fun wider widens => ?_⟩⟩,
    fun q c => ?_⟩
  · rw [audit_eq_limit p s text]
    exact limit_firstOf _ _
  · rw [select_nil]
    exact (audit_eq_limit p q.settings text).symm
  · exact limit_firstOf max _
  · exact limit_prefix_limit widens _
  · exact limit_firstOf _ _

/-- Three findings, of which the first is of a disabled rule: one is reported, then another. -/
theorem deletion_limited :
    let p := some (Catalog.ofDefault "public").provider
    let q : Project := { settings := { checkMissingSemicolon := .on .hint, maxDiagnostics := 1 } }
    let found := audit p q.auditSettings "DELETE FROM ghost WHERE x = NULL"
    found.map (·.rule) = [.nullComparison, .missingSemicolon, .tableNotFound] ∧ Widens 1 2 ∧
      (select [.nullComparison] 2 found).map (·.rule) = [.missingSemicolon, .tableNotFound] ∧
      select [.nullComparison] 1 found <+: select [.nullComparison] 2 found := by
  intro p q found
  have wider : Widens 1 2 := .inr ⟨by decide, by decide⟩
  have kept := (limit_keeps_first p "DELETE FROM ghost WHERE x = NULL").2.1 q
  exact ⟨by decide +kernel, wider, by decide +kernel, (kept.2 [.nullComparison] 1).2 2 wider⟩

end Audit

end SqlAudit
