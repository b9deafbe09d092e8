import Mathlib.Data.List.Infix
import SqlAudit.Proofs.Text.Edits
import SqlAudit.Text.Distance
import SqlAudit.Text.RollingRows

/-!
The edit distance is the least number of edits, computed over suffixes row by row or over prefixes
in two rows that take turns. For the rows that take turns, what is kept is that a row holds the
distances of the characters read so far, up to the entry that is written next.
-/

namespace SqlAudit.Text

/-! ### Rows over suffixes -/

theorem emptyRow_eq (t : List Char) : emptyRow t = t.tails.map (leastEdits []) := by
  induction t with
  | nil => simp [emptyRow]
  | cons d t ih => simp [emptyRow, ih]

theorem headD_map_tails (f : List Char → Nat) (t : List Char) (x : Nat) :
    (t.tails.map f).headD x = f t := by
  cases t <;> rfl

theorem extendRow_eq (c : Char) (s t : List Char) :
    extendRow c t (t.tails.map (leastEdits s)) = t.tails.map (leastEdits (c :: s)) := by
  induction t with
  | nil => simp [extendRow]
  | cons d t ih =>
    rw [extendRow, List.tails_cons, List.map_cons, List.tail_cons, ih, List.map_cons,
      headD_map_tails, headD_map_tails, leastEdits_cons_cons, List.headD_cons]

theorem distanceRow_eq (t s : List Char) : distanceRow t s = t.tails.map (leastEdits s) := by
  induction s with
  | nil => exact emptyRow_eq t
  | cons c s ih => rw [distanceRow, ih, extendRow_eq]

theorem distance_eq (s t : String) : distance s t = leastEdits s.toList t.toList := by
  rw [distance, distanceRow_eq, headD_map_tails]

/-! ### Rows that take turns -/

namespace RollingRows

theorem foldlM_range' {α : Type} {step : α → Nat → Option α} {P : Nat → α → Prop} {n : Nat} {a : α}
    (start : P 0 a) (next : ∀ j < n, ∀ a, P j a → ∃ b, step a (j + 1) = some b ∧ P (j + 1) b) :
    ∃ b, (List.range' 1 n).foldlM step a = some b ∧ P n b := by
  induction n with
  | zero => exact ⟨a, rfl, start⟩
  | succ n ih =>
    obtain ⟨b, run, reached⟩ := ih fun j hj => next j (Nat.lt_succ_of_lt hj)
    obtain ⟨b', last, done⟩ := next n (Nat.lt_succ_self n) b reached
    refine ⟨b', ?_, done⟩
    rw [List.range'_1_concat, List.foldlM_append, run, Nat.add_comm 1 n]
    simp [last]

structure Holds (s t : List Char) (upTo : Nat) (row : Array Nat) : Prop where
  size_eq : row.size = t.length + 1
  entries : ∀ j ≤ upTo, row[j]? = some (leastEdits s (t.take j))

variable {s t : List Char} {row above : Array Nat} {c : Char}

theorem holds_range (t : List Char) : Holds [] t t.length (Array.range (t.length + 1)) where
  size_eq := Array.size_range
  entries j hj := by
    rw [Array.getElem?_range, leastEdits_nil_left, List.length_take]
    simp
    omega

theorem write?_eq {j : Nat} (h : j < row.size) (entry : Nat) :
    write? row j entry = some (row.setIfInBounds j entry) := if_pos h

theorem holds_first (size : row.size = t.length + 1) :
    Holds s t 0 (row.setIfInBounds 0 s.length) where
  size_eq := by rw [Array.size_setIfInBounds, size]
  entries j hj := by
    have first : 0 < row.size := by omega
    obtain rfl : j = 0 := Nat.le_zero.1 hj
    rw [Array.getElem?_setIfInBounds_self_of_lt first, List.take_zero, leastEdits_nil_right]

theorem cell?_eq {j : Nat} (hj : j < t.length) (habove : Holds s t t.length above)
    (hrow : Holds (s ++ [c]) t j row) :
    cell? c t.toArray above row (j + 1) = some (leastEdits (s ++ [c]) (t.take (j + 1))) := by
  have upper := habove.entries (j + 1) hj
  have between := habove.entries j hj.le
  have before := hrow.entries j le_rfl
  have char : t.toArray[j]? = some t[j] := by simp [hj]
  rw [cell?, Nat.add_sub_cancel, char, upper, between, before, List.take_succ_eq_append_getElem hj,
    leastEdits_concat_concat]
  by_cases same : c = t[j] <;> simp [same]

theorem Holds.next {j : Nat} (hj : j < t.length) (h : Holds s t j row) :
    Holds s t (j + 1) (row.setIfInBounds (j + 1) (leastEdits s (t.take (j + 1)))) where
  size_eq := by rw [Array.size_setIfInBounds, h.size_eq]
  entries k hk := by
    have inside : j + 1 < row.size := by
      rw [h.size_eq]
      omega
    rcases Nat.lt_or_eq_of_le hk with less | rfl
    · rw [Array.getElem?_setIfInBounds_ne (by omega)]
      exact h.entries k (Nat.le_of_lt_succ less)
    · exact Array.getElem?_setIfInBounds_self_of_lt inside

theorem exists_fill (habove : Holds s t t.length above) (size : row.size = t.length + 1) :
    ∃ filled, fill? c t.toArray (s.length + 1) above row = some filled ∧
      Holds (s ++ [c]) t t.length filled := by
  have first : Holds (s ++ [c]) t 0 (row.setIfInBounds 0 (s.length + 1)) := by
    simpa using holds_first (s := s ++ [c]) size
  have inside : 0 < row.size := by omega
  rw [fill?, write?_eq inside, List.size_toArray]
  refine foldlM_range' first fun j hj row hrow => ?_
  have room : j + 1 < row.size := by
    rw [hrow.size_eq]
    omega
  refine ⟨_, ?_, hrow.next hj⟩
  rw [writeCell?, cell?_eq hj habove hrow]
  exact write?_eq room _

/-- What is kept while the rows take turns: the first one holds the distances of the characters read
so far. -/
structure Turn (s t : List Char) (i : Nat) (rows : Array Nat × Array Nat) : Prop where
  holds : Holds (s.take i) t t.length rows.1
  size_eq : rows.2.size = t.length + 1

theorem turn_start (s t : List Char) :
    Turn s t 0 (Array.range (t.length + 1), Array.replicate (t.length + 1) 0) where
  holds := holds_range t
  size_eq := Array.size_replicate

theorem exists_pass {i : Nat} (hi : i < s.length) {rows : Array Nat × Array Nat}
    (h : Turn s t i rows) :
    ∃ passed, pass? s.toArray t.toArray rows (i + 1) = some passed ∧ Turn s t (i + 1) passed := by
  have char : s.toArray[i]? = some s[i] := by simp [hi]
  obtain ⟨filled, hfill, hfilled⟩ := exists_fill (c := s[i]) h.holds h.size_eq
  rw [List.length_take_of_le hi.le] at hfill
  refine ⟨(filled, rows.1), ?_, ?_, h.holds.size_eq⟩
  · rw [pass?, Nat.add_sub_cancel, char]
    simp [hfill]
  · rw [List.take_succ_eq_append_getElem hi]
    exact hfilled

/-- The rows give a result, and it is the least number of edits. -/
theorem distance?_eq (a b : String) :
    distance? a b = some (leastEdits a.toList b.toList) := by
  unfold distance?
  generalize a.toList = s
  generalize b.toList = t
  obtain ⟨rows, run, turned⟩ :=
    foldlM_range' (turn_start s t) fun i hi rows h => exists_pass hi h
  have last := turned.holds.entries t.length le_rfl
  rw [List.take_length, List.take_length] at last
  simp only [List.size_toArray, List.length_eq_zero_iff]
  split
  next empty => rw [empty, leastEdits_nil_left]
  next =>
    split
    next empty => rw [empty, leastEdits_nil_right]
    next => simp [run, last]

example : distance? "kitten" "sitting" = some 3 := by decide

end RollingRows

/-! ### The least number of edits -/

/-- The edit distance is the least number of insertions, deletions and substitutions that lead from
one text to the other. The recursion over first characters, the rows over suffixes and the rows that
take turns all give it. So it is zero for equal texts only, symmetric, and no longer by way of a
third text. -/
theorem distance_isLeast (s t : String) :
    IsLeast {n | Edits n s.toList t.toList} (distance s t) ∧
      distance s t = leastEdits s.toList t.toList ∧
      RollingRows.distance? s t = some (distance s t) ∧
      (distance s t = 0 ↔ s = t) ∧
      distance s t = distance t s ∧
      ∀ u, distance s u ≤ distance s t + distance t u := by
  have zero : leastEdits s.toList t.toList = 0 ↔ s = t := by
    rw [leastEdits_eq_zero_iff, String.toList_inj]
  simp only [distance_eq]
  exact ⟨leastEdits_isLeast _ _, trivial, RollingRows.distance?_eq s t, zero, leastEdits_comm _ _,
    fun u => leastEdits_triangle _ _ _⟩

end SqlAudit.Text
