import SqlAudit.Proofs.Audit.Phases

/-!
Audits of a document against different catalogs, compared by what a reader looks at in findings. The
comparison is made phase by phase, and comes down to the phase of the catalog.
-/

namespace SqlAudit.Audit

variable {β : Type} {view : Finding → β}

theorem map_rule (on : Bool) (findings : List Finding) :
    (rule on findings).map view = if on then findings.map view else [] := by
  cases on <;> rfl

namespace Document

def audit (p : Option Provider) (settings : Settings) (d : Document) : List Finding :=
  if settings.enabled then Finding.limit settings.maxDiagnostics (documentFindings p settings d)
  else []

theorem audit_of_ofText {text : String} {d : Document} (h : ofText text = .ok d)
    (p : Option Provider) (settings : Settings) :
    SqlAudit.audit p settings text = d.audit p settings := by
  rw [SqlAudit.audit, h]
  rfl

theorem exists_of_any {text : String} {test : Document → Bool}
    (h : (ofText text).toOption.any test = true) : ∃ d, ofText text = .ok d ∧ test d = true := by
  cases read : ofText text with
  | error e =>
    rw [read] at h
    cases h
  | ok d =>
    rw [read] at h
    exact ⟨d, rfl, h⟩

/-- However few findings are kept, they look the same if all of them do. -/
theorem map_audit_congr {p q : Option Provider} {settings : Settings} {d : Document}
    (same : (documentFindings p settings d).map view = (documentFindings q settings d).map view) :
    (d.audit p settings).map view = (d.audit q settings).map view := by
  unfold audit Finding.limit
  split
  next =>
    split
    next => exact same
    next => rw [List.map_take, List.map_take, same]
  next => rfl

end Document

theorem mem_documentFindings_of_mem_audit {p : Option Provider} {s : Settings} {text : String}
    {d : Document} {f : Finding} (read : Document.ofText text = .ok d) (h : f ∈ audit p s text) :
    f ∈ documentFindings p s d := by
  rw [Document.audit_of_ofText read, Document.audit] at h
  split at h
  next =>
    unfold Finding.limit at h
    split at h
    next => exact h
    next => exact List.mem_of_mem_take h
  next => cases h

theorem audit_filter_rule_eq (phase : Phase) {r : Rule} (own : phase.rules = [r])
    (p : Option Provider) {s : Settings} (enabled : s.enabled = true) (unlimited : s.maxDiagnostics = 0)
    {text : String} {d : Document} (read : Document.ofText text = .ok d) :
    (audit p s text).filter (·.rule == r) = phase.findings p s d := by
  rw [Document.audit_of_ofText read, Document.audit, if_pos enabled, unlimited,
    Finding.limit_zero]
  exact filter_rule_eq_findings phase own p s d

theorem map_documentFindings_eq_iff {p q : Provider} {settings : Settings} {d : Document} :
    (documentFindings (some p) settings d).map view =
        (documentFindings (some q) settings d).map view ↔
      (catalogFindings p settings d).map view = (catalogFindings q settings d).map view := by
  simp [documentFindings]

/-! ### Audits that find less -/

theorem map_rule_sublist (on : Bool) {found more : List Finding}
    (h : (found.map view).Sublist (more.map view)) :
    ((rule on found).map view).Sublist ((rule on more).map view) := by
  cases on with
  | true => exact h
  | false => exact List.Sublist.refl _

theorem map_audit_sublist {p q : Option Provider} {s t : Settings}
    (enabled : s.enabled = t.enabled) (unlimited : s.maxDiagnostics = 0)
    (unlimited' : t.maxDiagnostics = 0)
    (phases : ∀ (d : Document) (phase : Phase),
      ((phase.findings p s d).map view).Sublist ((phase.findings q t d).map view))
    (text : String) : ((audit p s text).map view).Sublist ((audit q t text).map view) := by
  rw [audit, audit, unlimited, unlimited', enabled]
  cases t.enabled with
  | false => rw [if_neg Bool.false_ne_true, if_neg Bool.false_ne_true]
  | true =>
    rw [if_pos rfl, if_pos rfl, Finding.limit_zero, Finding.limit_zero]
    cases Document.ofText text with
    | error e => exact List.Sublist.refl _
    | ok d =>
      change ((documentFindings p s d).map view).Sublist ((documentFindings q t d).map view)
      rw [documentFindings_eq, documentFindings_eq, List.map_flatMap, List.map_flatMap]
      exact List.Sublist.flatMap_right Phase.all fun phase _ => phases d phase

end SqlAudit.Audit
