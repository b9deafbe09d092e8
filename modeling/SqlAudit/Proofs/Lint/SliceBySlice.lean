import SqlAudit.Lint.NullComparison
import SqlAudit.Lint.Semicolon
import SqlAudit.Proofs.Lint.ListCommas

/-!
Rules that do not see where a text is cut. A semicolon outside parentheses leaves a scan as it is at
the start of a text, so the slices one by one have the reports of the text as a whole.
-/

namespace SqlAudit.Lint

open Sql

variable {depth : Nat} {froms : List Nat} {inSet : Bool} {before : Option Token} {l : Lexeme}
  {s rest text : List Lexeme}

/-! ### Slices put together -/

theorem Complete.exists_semicolon (h : Complete depth s) :
    ∃ body l, s = body ++ [l] ∧ l.token = .semicolon := by
  induction h with
  | @semicolon l hl => exact ⟨[], l, rfl, hl⟩
  | @cons _ first _ _ _ ih =>
    obtain ⟨body, l, rfl, hl⟩ := ih
    exact ⟨first :: body, l, rfl, hl⟩

theorem significant_concat_semicolon (body : List Lexeme) (hl : l.token = .semicolon) :
    significant (body ++ [l]) = significant body ++ [l] := by
  have means : l.isSignificant = true := by rw [Lexeme.isSignificant, hl]; rfl
  rw [significant, List.filter_append, List.filter_cons_of_pos means]
  rfl

theorem semicolon_of_not_hasContent (h : hasContent s = false) (hl : l ∈ significant s) :
    l.token = .semicolon := by
  obtain ⟨mem, means⟩ := List.mem_filter.1 hl
  simpa [means] using List.any_eq_false.1 h l mem

section

variable {α : Type} {report : List Lexeme → List α}

theorem flatMap_filter_hasContent (empty : ∀ s, hasContent s = false → report s = [])
    (slices : List (List Lexeme)) :
    (slices.filter hasContent).flatMap report = slices.flatMap report := by
  induction slices with
  | nil => rfl
  | cons s slices ih =>
    cases content : hasContent s with
    | true => rw [List.filter_cons_of_pos content, List.flatMap_cons, List.flatMap_cons, ih]
    | false =>
      rw [List.filter_cons_of_neg (by simp [content]), List.flatMap_cons, empty s content, ih]
      rfl

/-- A report is told slice by slice if a complete slice adds its own to that on the rest and slices
without content have none. -/
theorem flatMap_statementSlices
    (complete : ∀ s rest, Complete 0 s → report (s ++ rest) = report s ++ report rest)
    (empty : ∀ s, hasContent s = false → report s = []) (text : List Lexeme) :
    (statementSlices text).flatMap report = report text := by
  obtain ⟨slices, last, rfl, all, unended⟩ := exists_slices text
  rw [statementSlices, cut_flatten_append all unended, flatMap_filter_hasContent empty]
  induction slices with
  | nil => simp
  | cons s slices ih =>
    rw [List.forall_mem_cons] at all
    rw [List.cons_append, List.flatMap_cons, ih all.2, List.flatten_cons, List.append_assoc,
      complete _ _ all.1]

end

/-! ### Comparisons with NULL -/

theorem nullComparisonRanges_cons_semicolon (hl : l.token = .semicolon) :
    nullComparisonRanges inSet before (l :: rest) = nullComparisonRanges false none rest := by
  -- it closes a SET list, and it is no NULL in front of an operator
  have closed : setOpenAfter inSet l.token = false := by rw [hl]; rfl
  rw [nullComparisonRanges, closed, hl]
  cases rest <;> rfl

theorem nullComparisonRanges_semicolon (body : List Lexeme) (hl : l.token = .semicolon) :
    nullComparisonRanges inSet before (body ++ l :: rest) =
      nullComparisonRanges inSet before (body ++ [l]) ++ nullComparisonRanges false none rest := by
  induction body generalizing inSet before with
  | nil =>
    rw [List.nil_append, List.nil_append, nullComparisonRanges_cons_semicolon hl,
      nullComparisonRanges_cons_semicolon hl]
    rfl
  | cons first body ih =>
    have next : (body ++ l :: rest).head? = (body ++ [l]).head? := by cases body <;> rfl
    rw [List.cons_append, List.cons_append, nullComparisonRanges, nullComparisonRanges, ih, next,
      List.append_assoc]

theorem nullComparisons_append (h : Complete depth s) :
    nullComparisons (s ++ rest) = nullComparisons s ++ nullComparisons rest := by
  obtain ⟨body, l, rfl, hl⟩ := h.exists_semicolon
  have cutAt : significant (body ++ [l] ++ rest) = significant body ++ l :: significant rest := by
    rw [significant, List.filter_append, ← significant, significant_concat_semicolon body hl,
      List.append_assoc]
    rfl
  rw [nullComparisons, cutAt, nullComparisonRanges_semicolon _ hl, List.map_append,
    ← significant_concat_semicolon body hl]
  rfl

theorem nullComparisonRanges_eq_nil (h : ∀ l ∈ text, isComparison l.token = false) :
    nullComparisonRanges inSet before text = [] := by
  induction text generalizing inSet before with
  | nil => rfl
  | cons l rest ih =>
    rw [List.forall_mem_cons] at h
    rw [nullComparisonRanges, ih h.2, h.1]
    rfl

theorem nullComparisons_of_not_hasContent (h : hasContent s = false) : nullComparisons s = [] := by
  have none : ∀ l ∈ significant s, isComparison l.token = false := fun l hl => by
    rw [semicolon_of_not_hasContent h hl]
    rfl
  rw [nullComparisons, nullComparisonRanges_eq_nil none]
  rfl

/-! ### Commas of FROM lists -/

theorem listCommas_append (h : Complete depth s) :
    listCommas depth froms (s ++ rest) = listCommas depth froms s ++ listCommas 0 [] rest := by
  induction h generalizing froms with
  | @semicolon l hl =>
    rw [List.singleton_append, listCommas, listCommas, hl]
    rfl
  | cons _ _ ih => rw [List.cons_append, listCommas, listCommas, ih, List.append_assoc]

theorem listCommas_eq_nil (h : ∀ l ∈ text, l.token ≠ .comma) :
    listCommas depth froms text = [] := by
  induction text generalizing depth froms with
  | nil => rfl
  | cons l rest ih =>
    rw [List.forall_mem_cons] at h
    rw [listCommas, ih h.2, decide_eq_false h.1]
    rfl

theorem listCommas_of_not_hasContent (h : hasContent s = false) : listCommas 0 [] s = [] := by
  refine listCommas_eq_nil fun l hl comma => ?_
  have means : l.isSignificant = true := by rw [Lexeme.isSignificant, comma]; rfl
  have semicolon := semicolon_of_not_hasContent h (List.mem_filter.2 ⟨hl, means⟩)
  rw [comma] at semicolon
  cases semicolon

/-- Slice by slice a text has the comparisons with NULL that it has as a whole, in the same order,
and the last implicit join among its slices is the one that it has as a whole. -/
theorem scans_sliceBySlice (text : List Lexeme) :
    nullComparisons text = (statementSlices text).flatMap nullComparisons ∧
      implicitJoin? text = ((statementSlices text).filterMap implicitJoin?).getLast? := by
  have nulls := flatMap_statementSlices (fun _ _ => nullComparisons_append)
    (fun _ => nullComparisons_of_not_hasContent) text
  have commas := flatMap_statementSlices (fun _ _ => listCommas_append)
    (fun _ => listCommas_of_not_hasContent) text
  have joins : implicitJoin? = fun s => (listCommas 0 [] s).getLast? := funext implicitJoin?_eq
  refine ⟨nulls.symm, ?_⟩
  rw [implicitJoin?_eq, ← commas, List.getLast?_flatMap, List.getLast?_filterMap, joins]

/-! ### Missing semicolons -/

theorem missingSemicolon_append (severity : Severity) (h : Complete depth s) :
    missingSemicolon severity (s ++ rest) =
      missingSemicolon severity s ++ missingSemicolon severity rest := by
  obtain ⟨body, l, rfl, hl⟩ := h.exists_semicolon
  have ended : (significant (body ++ [l])).getLast? = some l := by
    rw [significant_concat_semicolon body hl, List.getLast?_concat]
  have last : (significant (body ++ [l] ++ rest)).getLast? =
      (significant rest).getLast?.or (some l) := by
    rw [significant, List.filter_append, List.getLast?_append, ← ended]
    rfl
  simp only [missingSemicolon, last, ended, hl, if_true, List.nil_append]
  cases (significant rest).getLast? with
  | none => exact if_pos hl
  | some _ => rfl

theorem missingSemicolon_of_not_hasContent (severity : Severity) (h : hasContent s = false) :
    missingSemicolon severity s = [] := by
  rw [missingSemicolon]
  split
  next l hl => rw [if_pos (semicolon_of_not_hasContent h (List.mem_of_getLast? hl))]
  next => rfl

/-- A missing semicolon is reported once for all slices of a text, just behind its last significant
token, and only where that token is there and is no semicolon. -/
theorem missingSemicolons_atEnd (severity : Severity) (text : List Lexeme) :
    (statementSlices text).flatMap (missingSemicolon severity) =
      (((significant text).getLast?.filter (·.token != .semicolon)).map fun l =>
        Finding.of .missingSemicolon severity (.point l.range.stop)
          "Missing semicolon at end of statement").toList := by
  rw [flatMap_statementSlices (fun _ _ => missingSemicolon_append severity)
    (fun _ => missingSemicolon_of_not_hasContent severity) text, missingSemicolon]
  cases (significant text).getLast? with
  | none => rfl
  | some l => by_cases hl : l.token = .semicolon <;> simp [Option.filter, hl]

end SqlAudit.Lint
