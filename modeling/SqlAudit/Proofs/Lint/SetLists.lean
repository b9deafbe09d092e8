import Mathlib.Data.Nat.Find
import SqlAudit.Lint.NullComparison
import SqlAudit.Proofs.Lint.Places
import SqlAudit.Sql.Token.Scan

/-!
Comparisons with NULL, place by place. Behind a SET every operator is taken for an assignment, up to
the next WHERE, FROM, RETURNING or semicolon; the scan does not ask how deep that stands. So an
assignment beside NULL is reported where such a token, within the parentheses of an earlier value, is
the last one before it to open or close a list.
-/

namespace SqlAudit.Lint

open Sql

def closesSet (t : Token) : Bool := t.isAnyKeyword setClosers || t == .semicolon

/-- Whether a SET stands before a place and nothing at any depth has closed its list since. -/
def IsBehindSet (text : List Lexeme) (i : Nat) : Prop :=
  ∃ j < i, IsOpen text "SET" (fun _ _ => closesSet) j i

def isBesideNull (text : List Lexeme) (i : Nat) : Bool :=
  isNull (tokenBefore? text i) || isNull (tokenAt? text (i + 1))

/-- Whether the operator at a place is reported. -/
def IsNullComparison (text : List Lexeme) (i : Nat) : Prop :=
  (tokenAt? text i).any isComparison = true ∧ isBesideNull text i = true ∧ ¬ IsBehindSet text i

/-- What ends the assignments of a SET: a token that closes its list at its own depth. -/
def endsAssignments (own depth : Nat) (t : Token) : Bool := closesSet t && depth == own

/-- Whether an assignment of the SET at an earlier place is made at a place. -/
def IsAssignment (text : List Lexeme) (j i : Nat) : Prop :=
  tokenAt? text i = some .equal ∧ j < i ∧ depthAt text j = depthAt text i ∧
    IsOpen text "SET" endsAssignments j i

/-- Whether the list of a SET is closed for the scan before a place, by a token at another depth with
no further SET behind it. -/
def IsCutShort (text : List Lexeme) (j i : Nat) : Prop :=
  ∃ k < i, j < k ∧ depthAt text k ≠ depthAt text j ∧ (tokenAt? text k).any closesSet = true ∧
    ∀ m < i, k < m → (tokenAt? text m).any (·.isKeyword "SET") = false

instance (text : List Lexeme) : DecidablePred (IsBehindSet text) :=
  fun i => inferInstanceAs (Decidable (∃ j < i, _))

instance (text : List Lexeme) : DecidablePred (IsNullComparison text) :=
  fun _ => inferInstanceAs (Decidable (_ ∧ _))

instance (text : List Lexeme) (j i : Nat) : Decidable (IsAssignment text j i) :=
  inferInstanceAs (Decidable (_ ∧ _))

instance (text : List Lexeme) (j i : Nat) : Decidable (IsCutShort text j i) :=
  inferInstanceAs (Decidable (∃ k < i, _))

variable {text rest : List Lexeme} {i j : Nat} {inSet : Bool} {l : Lexeme} {t : Token}

/-! ### The scan -/

theorem closesSet_of_set (h : t.isKeyword "SET" = true) : closesSet t = false := by
  cases t with
  | word w =>
    obtain ⟨bare, set⟩ := Bool.and_eq_true_iff.1 h
    simp [closesSet, Token.isAnyKeyword, beq_iff_eq.1 set, setClosers]
  | _ => cases h

theorem setOpenAfter_eq (inSet : Bool) (t : Token) :
    setOpenAfter inSet t = (t.isKeyword "SET" || inSet && !closesSet t) := by
  rw [setOpenAfter, ← closesSet]
  cases t.isKeyword "SET" <;> cases closesSet t <;> cases inSet <;> rfl

theorem setOpenAfter_iff (h : inSet = true ↔ IsBehindSet text i) (ht : tokenAt? text i = some t) :
    setOpenAfter inSet t = true ↔ IsBehindSet text (i + 1) := by
  have next := @exists_isOpen_succ_iff text t i "SET" (fun _ _ => closesSet) ht fun _ => True
  simp only [and_true, ← and_assoc, exists_and_right] at next
  rw [setOpenAfter_eq, Bool.or_eq_true, Bool.and_eq_true, Bool.not_eq_true', h, or_comm]
  exact next.symm

theorem tokenAt?_succ_of_drop (h : text.drop i = l :: rest) :
    tokenAt? text (i + 1) = rest.head?.map (·.token) := by
  have next := drop_succ_of_drop h
  cases rest with
  | nil => simp [tokenAt?, List.drop_eq_nil_iff.1 next]
  | cons l' rest => exact tokenAt?_of_drop next

theorem isNullComparison_iff (ht : tokenAt? text i = some t) (h : inSet = true ↔ IsBehindSet text i) :
    (isComparison t && !inSet && isBesideNull text i) = true ↔ IsNullComparison text i := by
  rw [IsNullComparison, ht, Option.any_some, ← h, Bool.not_eq_true, Bool.and_eq_true,
    Bool.and_eq_true, Bool.not_eq_true', and_assoc, and_comm (a := inSet = false)]

/-- From a place on the scan reports the comparisons that the text has there. -/
theorem nullComparisonRanges_of_drop (h : inSet = true ↔ IsBehindSet text i)
    (hrest : text.drop i = rest) :
    nullComparisonRanges inSet (tokenBefore? text i) rest =
      ((rest.zipIdx i).filter fun e => IsNullComparison text e.2).map (·.1.range) := by
  induction rest generalizing i inSet with
  | nil => rfl
  | cons l rest ih =>
    have ht := tokenAt?_of_drop hrest
    have behind := ih (setOpenAfter_iff h ht) (drop_succ_of_drop hrest)
    rw [tokenBefore?, ht] at behind
    rw [nullComparisonRanges, behind, ← tokenAt?_succ_of_drop hrest, ← isBesideNull,
      if_congr (isNullComparison_iff ht h) rfl rfl, map_range_zipIdx_cons]

theorem nullComparisons_eq (lexemes : List Lexeme) :
    nullComparisons lexemes =
      (((significant lexemes).zipIdx.filter fun e =>
        IsNullComparison (significant lexemes) e.2).map fun e =>
          .warning .nullComparison e.1.range nullComparisonMessage) := by
  have start : false = true ↔ IsBehindSet (significant lexemes) 0 :=
    iff_of_false Bool.false_ne_true nofun
  have ranges : nullComparisonRanges false none (significant lexemes) = _ :=
    nullComparisonRanges_of_drop start rfl
  rw [nullComparisons, ranges, List.map_map]
  rfl

/-! ### Assignments -/

theorem exists_last_set (set : (tokenAt? text j).any (·.isKeyword "SET") = true) (lt : j < i) :
    ∃ m < i, j ≤ m ∧ (tokenAt? text m).any (·.isKeyword "SET") = true ∧
      ∀ n < i, m < n → (tokenAt? text n).any (·.isKeyword "SET") = false := by
  let isSet (n : Nat) : Prop := (tokenAt? text n).any (·.isKeyword "SET") = true
  have le : j ≤ i - 1 := Nat.le_sub_one_of_lt lt
  have below : Nat.findGreatest isSet (i - 1) ≤ i - 1 := Nat.findGreatest_le _
  refine ⟨Nat.findGreatest isSet (i - 1), by omega, Nat.le_findGreatest le set,
    Nat.findGreatest_spec (P := isSet) le set, fun n hn behind => ?_⟩
  exact Bool.eq_false_iff.2 (Nat.findGreatest_is_greatest behind (Nat.le_sub_one_of_lt hn))

/-- At the depth of a SET nothing has closed its list, so that only tokens elsewhere can have. -/
theorem isBehindSet_iff (assigns : IsAssignment text j i) :
    IsBehindSet text i ↔ ¬ IsCutShort text j i := by
  obtain ⟨-, lt, -, set, goesOn⟩ := assigns
  constructor
  · rintro ⟨m, hm, set', stays⟩ ⟨k, hk, -, -, closes, noSet⟩
    have le : m ≤ k := Nat.le_of_not_lt fun after => by simp [noSet m hm after] at set'
    rcases Nat.lt_or_eq_of_le le with before | rfl
    · simp [stays k hk before] at closes
    · obtain ⟨t, ht, isSet⟩ := (Option.any_eq_true _ _).1 set'
      simp [ht, closesSet_of_set isSet] at closes
  · intro whole
    obtain ⟨m, hm, le, set', last⟩ := exists_last_set set lt
    refine ⟨m, hm, set', fun k hk after => Bool.eq_false_iff.2 fun closes => whole ?_⟩
    have elsewhere : depthAt text k ≠ depthAt text j := by
      intro same
      obtain ⟨t, ht, hcloses⟩ := (Option.any_eq_true _ _).1 closes
      simpa [ht, endsAssignments, hcloses, same] using goesOn k hk (Nat.lt_of_le_of_lt le after)
    exact ⟨k, hk, Nat.lt_of_le_of_lt le after, elsewhere, closes,
      fun n hn later => last n hn (Nat.lt_trans after later)⟩

/-- The comparisons with NULL that are reported are, in the order of the text, the operators beside
NULL that are not behind a SET. An assignment beside NULL is among them exactly where its list is cut
short. -/
theorem assignments_reported_iff (lexemes : List Lexeme) :
    let text := significant lexemes
    nullComparisons lexemes =
        ((text.zipIdx.filter fun e => IsNullComparison text e.2).map fun e =>
          .warning .nullComparison e.1.range nullComparisonMessage) ∧
      ∀ j i, IsAssignment text j i →
        (IsNullComparison text i ↔ isBesideNull text i = true ∧ IsCutShort text j i) := by
  intro text
  refine ⟨nullComparisons_eq lexemes, fun j i assigns => ?_⟩
  have compares : (tokenAt? text i).any isComparison = true := by rw [assigns.1]; rfl
  rw [IsNullComparison, isBehindSet_iff assigns, not_not, and_iff_right compares]

theorem exists_scan_of_any {text : String} {test : List Lexeme → Bool}
    (h : (scan .generic text).toOption.any test = true) :
    ∃ lexemes, scan .generic text = .ok lexemes ∧ test lexemes = true := by
  cases read : scan .generic text with
  | error e => simp [read, Except.toOption] at h
  | ok lexemes => exact ⟨lexemes, rfl, by simpa [read, Except.toOption] using h⟩

/-- Two assignments of NULL, before and behind a query that a third value is taken from. -/
theorem assignedNulls_reported :
    ∃ lexemes,
      scan .generic "UPDATE t SET a = NULL, b = (SELECT x FROM u), c = NULL" = .ok lexemes ∧
      (IsAssignment (significant lexemes) 2 4 ∧ ¬ IsNullComparison (significant lexemes) 4) ∧
      IsAssignment (significant lexemes) 2 17 ∧ IsNullComparison (significant lexemes) 17 := by
  have facts : ((scan .generic
      "UPDATE t SET a = NULL, b = (SELECT x FROM u), c = NULL").toOption.any fun lexemes =>
        (IsAssignment (significant lexemes) 2 4 ∧ ¬ IsCutShort (significant lexemes) 2 4) ∧
          IsAssignment (significant lexemes) 2 17 ∧ isBesideNull (significant lexemes) 17 = true ∧
            IsCutShort (significant lexemes) 2 17) = true := by
    decide +kernel
  obtain ⟨lexemes, read, facts⟩ := exists_scan_of_any facts
  obtain ⟨⟨first, whole⟩, second, beside, cutShort⟩ := of_decide_eq_true facts
  have reported := (assignments_reported_iff lexemes).2
  exact ⟨lexemes, read, ⟨first, fun told => whole ((reported 2 4 first).1 told).2⟩, second,
    (reported 2 17 second).2 ⟨beside, cutShort⟩⟩

/-- The FROM of a query in parentheses closes the list for the scan, so an assignment behind it is
reported. -/
theorem assignment_behind_query_reported :
    ∃ lexemes, scan .generic "UPDATE t SET a = (SELECT x FROM u), b = NULL" = .ok lexemes ∧
      IsAssignment (significant lexemes) 2 13 ∧
      (nullComparisons lexemes).map (·.range) = (significant lexemes)[13]?.toList.map (·.range) := by
  have facts : ((scan .generic
      "UPDATE t SET a = (SELECT x FROM u), b = NULL").toOption.any fun lexemes =>
        IsAssignment (significant lexemes) 2 13 ∧
          (nullComparisons lexemes).map (·.range) =
            (significant lexemes)[13]?.toList.map (·.range)) = true := by
    decide +kernel
  obtain ⟨lexemes, read, facts⟩ := exists_scan_of_any facts
  exact ⟨lexemes, read, of_decide_eq_true facts⟩

end SqlAudit.Lint
