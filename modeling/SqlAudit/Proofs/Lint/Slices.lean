import Mathlib.Data.List.Basic
import SqlAudit.Lint.Slices

/-!
The slices of a text. A text is complete slices, each with a semicolon outside parentheses at its end
and nowhere else, and a rest that has none; cutting finds exactly these. So the slices with content
follow each other in the text, hold all that means something, and are found again in what is left of
the text without the others.
-/

namespace SqlAudit.Lint

open Sql

variable {depth i : Nat} {l : Lexeme} {rest s : List Lexeme} {slices : List (List Lexeme)}

/-! ### Semicolons outside parentheses -/

def depthBehind (depth : Nat) (lexemes : List Lexeme) : Nat :=
  lexemes.foldl (fun d l => depthAfter d l.token) depth

/-- Whether a semicolon outside parentheses stands at a place of lexemes that begin at a depth. -/
def IsBreak (depth : Nat) (lexemes : List Lexeme) (i : Nat) : Prop :=
  lexemes[i]?.map (·.token) = some .semicolon ∧ depthBehind depth (lexemes.take i) = 0

theorem isBreak_zero_iff :
    IsBreak depth (l :: rest) 0 ↔ depth = 0 ∧ l.token = .semicolon := by
  simp [IsBreak, depthBehind, and_comm]

theorem isBreak_succ_iff :
    IsBreak depth (l :: rest) (i + 1) ↔ IsBreak (depthAfter depth l.token) rest i := Iff.rfl

theorem not_isBreak_nil : ¬ IsBreak depth [] i := by
  simp [IsBreak]

/-- A slice with its only break at its end. -/
inductive Complete : Nat → List Lexeme → Prop
  | semicolon {l : Lexeme} (h : l.token = .semicolon) : Complete 0 [l]
  | cons {depth : Nat} {l : Lexeme} {slice : List Lexeme}
    (inside : ¬ (depth = 0 ∧ l.token = .semicolon))
    (rest : Complete (depthAfter depth l.token) slice) : Complete depth (l :: slice)

inductive Unended : Nat → List Lexeme → Prop
  | nil {depth : Nat} : Unended depth []
  | cons {depth : Nat} {l : Lexeme} {slice : List Lexeme}
    (inside : ¬ (depth = 0 ∧ l.token = .semicolon))
    (rest : Unended (depthAfter depth l.token) slice) : Unended depth (l :: slice)

theorem Complete.ne_nil (h : Complete depth s) : s ≠ [] := by
  cases h <;> exact List.cons_ne_nil _ _

theorem Complete.isBreak_iff (h : Complete depth s) (i : Nat) :
    IsBreak depth s i ↔ i + 1 = s.length := by
  induction h generalizing i with
  | semicolon h =>
    cases i with
    | zero => simp [isBreak_zero_iff, h]
    | succ i => simp [isBreak_succ_iff, not_isBreak_nil]
  | cons inside rest ih =>
    cases i with
    | zero =>
      rw [isBreak_zero_iff, List.length_cons, Nat.add_right_cancel_iff]
      exact iff_of_false inside fun empty => rest.ne_nil (List.length_eq_zero_iff.1 empty.symm)
    | succ i => rw [isBreak_succ_iff, ih, List.length_cons, Nat.add_right_cancel_iff]

theorem Unended.not_isBreak (h : Unended depth s) (i : Nat) : ¬ IsBreak depth s i := by
  induction h generalizing i with
  | nil => exact not_isBreak_nil
  | cons inside _ ih =>
    cases i with
    | zero => rwa [isBreak_zero_iff]
    | succ i => exact ih i

/-! ### What cutting finds -/

theorem Complete.cut_append (h : Complete depth s) (rest : List Lexeme) :
    cut depth (s ++ rest) = s :: cut 0 rest := by
  induction h with
  | semicolon h => rw [List.singleton_append, cut, if_pos ⟨rfl, h⟩]
  | cons inside _ ih => rw [List.cons_append, cut, if_neg inside, ih, prepend]

theorem Unended.cut_eq (h : Unended depth s) : cut depth s = [s] := by
  induction h with
  | nil => rfl
  | cons inside _ ih => rw [cut, if_neg inside, ih, prepend]

theorem unended_or_complete (depth : Nat) (lexemes : List Lexeme) :
    Unended depth lexemes ∨ ∃ slice rest, lexemes = slice ++ rest ∧ Complete depth slice := by
  induction lexemes generalizing depth with
  | nil => exact .inl .nil
  | cons l rest ih =>
    by_cases ends : depth = 0 ∧ l.token = .semicolon
    · obtain ⟨rfl, h⟩ := ends
      exact .inr ⟨[l], rest, rfl, .semicolon h⟩
    · rcases ih (depthAfter depth l.token) with unended | ⟨slice, rest, rfl, complete⟩
      · exact .inl (.cons ends unended)
      · exact .inr ⟨l :: slice, rest, rfl, .cons ends complete⟩

theorem exists_slices (lexemes : List Lexeme) :
    ∃ (slices : List (List Lexeme)) (last : List Lexeme),
      lexemes = slices.flatten ++ last ∧ (∀ s ∈ slices, Complete 0 s) ∧ Unended 0 last := by
  induction hn : lexemes.length using Nat.strongRecOn generalizing lexemes with
  | ind n ih =>
    rcases unended_or_complete 0 lexemes with unended | ⟨s, rest, rfl, complete⟩
    · exact ⟨[], lexemes, rfl, nofun, unended⟩
    · have shorter : rest.length < n := by
        rw [← hn, List.length_append]
        exact Nat.lt_add_of_pos_left (List.length_pos_of_ne_nil complete.ne_nil)
      obtain ⟨slices, last, rfl, all, unended⟩ := ih _ shorter rest rfl
      exact ⟨s :: slices, last, by simp, List.forall_mem_cons.2 ⟨complete, all⟩, unended⟩

/-- Complete slices and a rest without a break are found again. -/
theorem cut_flatten_append {last : List Lexeme} (complete : ∀ s ∈ slices, Complete 0 s)
    (unended : Unended 0 last) : cut 0 (slices.flatten ++ last) = slices ++ [last] := by
  induction slices with
  | nil => exact unended.cut_eq
  | cons slice slices ih =>
    rw [List.forall_mem_cons] at complete
    rw [List.flatten_cons, List.append_assoc, complete.1.cut_append, ih complete.2,
      List.cons_append]

theorem statementSlices_flatten_append {last : List Lexeme} (complete : ∀ s ∈ slices, Complete 0 s)
    (unended : Unended 0 last) :
    statementSlices (slices.flatten ++ last) =
      slices.filter hasContent ++ [last].filter hasContent := by
  rw [statementSlices, cut_flatten_append complete unended, List.filter_append]

/-! ### Slices as runs of the text -/

/-- A run of lexemes: the place of the first one and the place behind the last one. -/
structure Run where
  start : Nat
  stop : Nat

namespace Run

def slice (r : Run) (lexemes : List Lexeme) : List Lexeme := lexemes.extract r.start r.stop

def Holds (r : Run) (i : Nat) : Prop := r.start ≤ i ∧ i < r.stop

theorem Holds.mem_slice {r : Run} {lexemes : List Lexeme} (h : r.Holds i)
    (here : lexemes[i]? = some l) : l ∈ r.slice lexemes := by
  have place : i - r.start < r.stop - r.start := Nat.sub_lt_sub_right h.1 h.2
  apply List.mem_of_getElem? (i := i - r.start)
  rw [slice, List.extract_eq_take_drop, List.getElem?_take_of_lt place, List.getElem?_drop,
    Nat.add_sub_cancel' h.1, here]

end Run

def runsFrom (start : Nat) : List (List Lexeme) → List Run
  | [] => []
  | slice :: slices => ⟨start, start + slice.length⟩ :: runsFrom (start + slice.length) slices

theorem slice_runsFrom (before : List Lexeme) (slices : List (List Lexeme)) :
    (runsFrom before.length slices).map (·.slice (before ++ slices.flatten)) = slices := by
  induction slices generalizing before with
  | nil => rfl
  | cons slice slices ih =>
    have rest := ih (before ++ slice)
    rw [List.length_append, List.append_assoc] at rest
    rw [runsFrom, List.map_cons, List.flatten_cons, rest]
    simp [Run.slice, List.extract_eq_take_drop]

theorem le_of_mem_runsFrom {start : Nat} {r : Run} (h : r ∈ runsFrom start slices) :
    start ≤ r.start ∧ r.start ≤ r.stop ∧ r.stop ≤ start + slices.flatten.length := by
  induction slices generalizing start with
  | nil => cases h
  | cons slice slices ih =>
    rw [List.flatten_cons, List.length_append]
    rcases List.mem_cons.1 h with rfl | h
    · dsimp only
      omega
    · have := ih h
      omega

theorem runsFrom_pairwise (start : Nat) (slices : List (List Lexeme)) :
    (runsFrom start slices).Pairwise fun r r' => r.stop ≤ r'.start := by
  induction slices generalizing start with
  | nil => exact .nil
  | cons slice slices ih => exact .cons (fun _ h => (le_of_mem_runsFrom h).1) (ih _)

theorem exists_run {start i : Nat} (le : start ≤ i) (lt : i < start + slices.flatten.length) :
    ∃ r ∈ runsFrom start slices, r.Holds i := by
  induction slices generalizing start with
  | nil => simp at lt; omega
  | cons slice slices ih =>
    rw [List.flatten_cons, List.length_append] at lt
    by_cases here : i < start + slice.length
    · exact ⟨_, List.mem_cons_self, le, here⟩
    · have behind : start + slice.length ≤ i := Nat.le_of_not_lt here
      obtain ⟨r, hr, holds⟩ := ih behind (by omega)
      exact ⟨r, List.mem_cons_of_mem _ hr, holds⟩

def isContent (l : Lexeme) : Bool := l.isSignificant && l.token != .semicolon

/-- Slices as disjoint runs of a text, in its order, with all content of the text in them. -/
structure Partition (lexemes : List Lexeme) (slices : List (List Lexeme)) (runs : List Run) :
    Prop where
  slices_eq : slices = runs.map (·.slice lexemes)
  inside : ∀ r ∈ runs, r.start < r.stop ∧ r.stop ≤ lexemes.length
  apart : runs.Pairwise fun r r' => r.stop ≤ r'.start
  holds : ∀ i l, lexemes[i]? = some l → isContent l = true →
    ∃! k : Nat, ∃ r : Run, runs[k]? = some r ∧ r.Holds i

theorem eq_of_holds {runs : List Run} (apart : runs.Pairwise fun r r' => r.stop ≤ r'.start)
    {k k' : Nat} {r r' : Run} (hk : runs[k]? = some r) (hk' : runs[k']? = some r')
    (h : r.Holds i) (h' : r'.Holds i) : k = k' := by
  have less {k k' : Nat} {r r' : Run} (hk : runs[k]? = some r) (hk' : runs[k']? = some r')
      (lt : k < k') : r.stop ≤ r'.start := by
    obtain ⟨bound, rfl⟩ := List.getElem?_eq_some_iff.1 hk
    obtain ⟨bound', rfl⟩ := List.getElem?_eq_some_iff.1 hk'
    exact List.pairwise_iff_getElem.1 apart k k' bound bound' lt
  rcases Nat.lt_trichotomy k k' with lt | eq | lt
  · exact absurd (less hk hk' lt) (Nat.not_le.2 (Nat.lt_of_le_of_lt h'.1 h.2))
  · exact eq
  · exact absurd (less hk' hk lt) (Nat.not_le.2 (Nat.lt_of_le_of_lt h.1 h'.2))

theorem exists_partition (lexemes : List Lexeme) :
    ∃ runs, Partition lexemes (statementSlices lexemes) runs := by
  have runs_slice : (runsFrom 0 (cut 0 lexemes)).map (·.slice lexemes) = cut 0 lexemes := by
    have whole := slice_runsFrom [] (cut 0 lexemes)
    rwa [List.nil_append, flatten_cut] at whole
  have length_cut : (cut 0 lexemes).flatten.length = lexemes.length := by rw [flatten_cut]
  have apart := (runsFrom_pairwise 0 (cut 0 lexemes)).filter fun r => hasContent (r.slice lexemes)
  refine ⟨(runsFrom 0 (cut 0 lexemes)).filter fun r => hasContent (r.slice lexemes),
    ?_, ?_, apart, ?_⟩
  · rw [statementSlices]
    conv_lhs => rw [← runs_slice]
    rw [List.filter_map]
    rfl
  · intro r hr
    obtain ⟨hr, content⟩ := List.mem_filter.1 hr
    have bounds := le_of_mem_runsFrom hr
    refine ⟨Nat.lt_of_le_of_ne bounds.2.1 fun empty => ?_, by omega⟩
    simp [Run.slice, List.extract_eq_take_drop, empty, hasContent] at content
  · intro i l here content
    have lt : i < 0 + (cut 0 lexemes).flatten.length := by
      rw [length_cut, Nat.zero_add]
      exact (List.getElem?_eq_some_iff.1 here).1
    obtain ⟨r, hr, holds⟩ := exists_run (Nat.zero_le i) lt
    have kept : r ∈ (runsFrom 0 (cut 0 lexemes)).filter fun r => hasContent (r.slice lexemes) :=
      List.mem_filter.2 ⟨hr, List.any_eq_true.2 ⟨l, holds.mem_slice here, content⟩⟩
    obtain ⟨k, hk⟩ := List.mem_iff_getElem?.1 kept
    refine ⟨k, ⟨r, hk, holds⟩, ?_⟩
    rintro k' ⟨r', hk', holds'⟩
    exact eq_of_holds apart hk' hk holds' holds

/-! ### Slices with content -/

/-- The slices of a text: complete ones, and perhaps a last one without a break. -/
theorem exists_statementSlices (lexemes : List Lexeme) :
    ∃ (slices : List (List Lexeme)) (last : Option (List Lexeme)),
      statementSlices lexemes = slices ++ last.toList ∧
        (∀ s ∈ slices, Complete 0 s ∧ hasContent s = true) ∧
        ∀ s ∈ last, Unended 0 s ∧ hasContent s = true := by
  obtain ⟨slices, last, rfl, complete, unended⟩ := exists_slices lexemes
  have kept : ∀ s ∈ slices.filter hasContent, Complete 0 s ∧ hasContent s = true := by
    intro s hs
    obtain ⟨hs, content⟩ := List.mem_filter.1 hs
    exact ⟨complete s hs, content⟩
  rw [statementSlices_flatten_append complete unended]
  cases content : hasContent last with
  | false => exact ⟨_, none, by rw [List.filter_cons_of_neg (by simp [content])]; rfl, kept, nofun⟩
  | true =>
    refine ⟨_, some last, by rw [List.filter_cons_of_pos content]; rfl, kept, ?_⟩
    intro s hs
    obtain rfl := Option.some.inj hs
    exact ⟨unended, content⟩

theorem statementSlices_of_slices {last : List Lexeme}
    (kept : ∀ s ∈ slices, Complete 0 s ∧ hasContent s = true) (unended : Unended 0 last) :
    statementSlices (slices.flatten ++ last) = slices ++ [last].filter hasContent := by
  rw [statementSlices_flatten_append (fun s hs => (kept s hs).1) unended,
    List.filter_eq_self.2 fun s hs => (kept s hs).2]

/-- A text is cut into runs that hold all of its content, each run with content of its own. All slices
but the last one end with a semicolon outside parentheses, counted from the slice on, and no slice has
another one. A slice is cut into itself, and all slices put together are cut into the same slices. -/
theorem statementSlices_partition (lexemes : List Lexeme) :
    (∃ runs, Partition lexemes (statementSlices lexemes) runs) ∧
      (∀ s ∈ statementSlices lexemes, ∃ l ∈ s, isContent l = true) ∧
      (∀ s ∈ (statementSlices lexemes).dropLast, IsBreak 0 s (s.length - 1)) ∧
      (∀ s ∈ statementSlices lexemes, ∀ i, IsBreak 0 s i → i + 1 = s.length) ∧
      (∀ s ∈ statementSlices lexemes, statementSlices s = [s]) ∧
      statementSlices (statementSlices lexemes).flatten = statementSlices lexemes := by
  refine ⟨exists_partition lexemes, fun s hs => List.any_eq_true.1 (List.mem_filter.1 hs).2, ?_⟩
  obtain ⟨slices, last, hslices, kept, rest⟩ := exists_statementSlices lexemes
  rw [hslices]
  refine ⟨fun s hs => ?_, fun s hs i ends => ?_, fun s hs => ?_, ?_⟩
  · have complete : Complete 0 s := by
      cases last with
      | none =>
        rw [Option.toList_none, List.append_nil] at hs
        exact (kept s (List.dropLast_subset _ hs)).1
      | some last => exact (kept s (by simpa using hs)).1
    rw [complete.isBreak_iff, Nat.sub_add_cancel (List.length_pos_of_ne_nil complete.ne_nil)]
  · rcases List.mem_append.1 hs with hs | hs
    · exact ((kept s hs).1.isBreak_iff i).1 ends
    · exact absurd ends ((rest s (Option.mem_toList.1 hs)).1.not_isBreak i)
  · rcases List.mem_append.1 hs with hs | hs
    · have alone : ∀ t ∈ [s], Complete 0 t ∧ hasContent t = true := by simpa using kept s hs
      have again := statementSlices_of_slices alone .nil
      simpa [hasContent] using again
    · obtain ⟨unended, content⟩ := rest s (Option.mem_toList.1 hs)
      have none : ∀ t ∈ ([] : List (List Lexeme)), Complete 0 t ∧ hasContent t = true := nofun
      have again := statementSlices_of_slices none unended
      rwa [List.filter_cons_of_pos content] at again
  · cases last with
    | none =>
      have again := statementSlices_of_slices kept .nil
      simpa [hasContent] using again
    | some last =>
      obtain ⟨unended, content⟩ := rest last rfl
      have again := statementSlices_of_slices kept unended
      rw [List.filter_cons_of_pos content] at again
      simpa using again

end SqlAudit.Lint
