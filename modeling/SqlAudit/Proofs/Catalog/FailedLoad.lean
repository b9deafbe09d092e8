import SqlAudit.Catalog.Loader

/-!
Loading that fails. The pieces of a script are run before it is known whether any statement could be
read; where none could, nothing has been run, so a loader that fails is left as it was.
-/

namespace SqlAudit.Loader

open Sql Text

variable {d : Dialect} {pieces : List String}

theorem readable_eq_nil_iff :
    readable d pieces = [] ↔
      ∀ piece ∈ pieces, ∀ statements, parse d (trimBlanks piece) = .ok statements →
        statements = [] := by
  rw [readable, List.flatMap_eq_nil_iff]
  refine forall₂_congr fun piece _ => ?_
  cases parse d (trimBlanks piece) with
  | error e => simp
  | ok statements => simp

/-- The count tells whether anything has been run: pieces that count as nothing change nothing. -/
theorem runPieces_of_count_zero {l : Loader} (uncounted : (l.runPieces pieces).2 = 0) :
    (l.runPieces pieces).1 = l := by
  rw [runPieces_eq, List.length_eq_zero_iff] at uncounted
  rw [runPieces_eq, uncounted]
  rfl

/-- A loader that fails on a script keeps its catalog and its warnings. It fails exactly on a script
that is not blank, cannot be read as a whole and has no piece with a statement that can be read, and
for the reason that the whole cannot be read. -/
theorem failed_load_keeps_loader (l : Loader) (script : String) :
    (∀ e, (l.loadInPlace script).2 = some e → (l.loadInPlace script).1 = l) ∧
      ∀ e, (l.loadInPlace script).2 = some e ↔
        isBlankText script.toList = false ∧ parse l.dialect script = .error e ∧
          ∀ piece ∈ Catalog.pieces script, ∀ statements,
            parse l.dialect (trimBlanks piece) = .ok statements → statements = [] := by
  simp only [← readable_eq_nil_iff, loadInPlace]
  cases parse l.dialect script with
  | ok statements => simp
  | error whole =>
    simp only [Option.ite_none_right_eq_some, Option.some.injEq, Except.error.injEq]
    constructor
    · rintro e ⟨⟨uncounted, -⟩, -⟩
      exact runPieces_of_count_zero uncounted
    · intro e
      rw [runPieces_eq, List.length_eq_zero_iff]
      constructor
      · rintro ⟨⟨unread, text⟩, same⟩
        exact ⟨text, same, unread⟩
      · rintro ⟨text, same, unread⟩
        exact ⟨⟨unread, text⟩, same⟩

end SqlAudit.Loader
