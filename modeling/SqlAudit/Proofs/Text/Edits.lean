import Mathlib.Order.Bounds.Basic

/-!
Edits of texts: characters inserted, deleted and substituted one by one, at any place and in any
order. The least number of edits between two texts is given by a recursion over their first
characters; it is a distance, and it may as well be read from the ends of the texts.
-/

namespace SqlAudit.Text

inductive Edit : List Char → List Char → Prop
  | insert (front back : List Char) (c : Char) : Edit (front ++ back) (front ++ c :: back)
  | delete (front back : List Char) (c : Char) : Edit (front ++ c :: back) (front ++ back)
  | substitute (front back : List Char) (c d : Char) :
    Edit (front ++ c :: back) (front ++ d :: back)

namespace Edit

variable {s t : List Char}

theorem symm (e : Edit s t) : Edit t s := by
  cases e with
  | insert front back c => exact .delete front back c
  | delete front back c => exact .insert front back c
  | substitute front back c d => exact .substitute front back d c

theorem cons (e : Edit s t) (c : Char) : Edit (c :: s) (c :: t) := by
  cases e with
  | insert front back d => exact .insert (c :: front) back d
  | delete front back d => exact .delete (c :: front) back d
  | substitute front back d d' => exact .substitute (c :: front) back d d'

theorem reverse (e : Edit s t) : Edit s.reverse t.reverse := by
  cases e with
  | insert front back c => simpa using Edit.insert back.reverse front.reverse c
  | delete front back c => simpa using Edit.delete back.reverse front.reverse c
  | substitute front back c d => simpa using Edit.substitute back.reverse front.reverse c d

end Edit

/-- A text becomes another one by a number of edits. -/
inductive Edits : Nat → List Char → List Char → Prop
  | none (s : List Char) : Edits 0 s s
  | more {n : Nat} {s t u : List Char} (h : Edits n s t) (e : Edit t u) : Edits (n + 1) s u

namespace Edits

variable {m n : Nat} {s t u : List Char}

theorem trans (h : Edits m s t) (h' : Edits n t u) : Edits (m + n) s u := by
  induction h' with
  | none => exact h
  | more _ e ih => exact (ih h).more e

theorem first (e : Edit s t) (h : Edits n t u) : Edits (n + 1) s u := by
  rw [Nat.add_comm]
  exact ((none s).more e).trans h

theorem symm (h : Edits n s t) : Edits n t s := by
  induction h with
  | none s => exact none s
  | more _ e ih => exact ih.first e.symm

theorem cons (h : Edits n s t) (c : Char) : Edits n (c :: s) (c :: t) := by
  induction h with
  | none s => exact none (c :: s)
  | more _ e ih => exact ih.more (e.cons c)

theorem reverse (h : Edits n s t) : Edits n s.reverse t.reverse := by
  induction h with
  | none s => exact none s.reverse
  | more _ e ih => exact ih.more e.reverse

theorem min (h : Edits m s t) (h' : Edits n s t) : Edits (min m n) s t := by
  rcases Nat.le_total m n with le | le
  · rwa [Nat.min_eq_left le]
  · rwa [Nat.min_eq_right le]

theorem from_nil (t : List Char) : Edits t.length [] t := by
  induction t with
  | nil => exact none []
  | cons c t ih => exact ih.more (.insert [] t c)

end Edits

/-- The least number of edits between two texts: the first character of one of them is deleted or
inserted, or the two first characters are brought together. -/
def leastEdits : List Char → List Char → Nat
  | [], t => t.length
  | _ :: s, [] => s.length + 1
  | c :: s, d :: t =>
    min (min (leastEdits s (d :: t) + 1) (leastEdits (c :: s) t + 1))
      (leastEdits s t + if c = d then 0 else 1)
termination_by s t => s.length + t.length

@[simp] theorem leastEdits_nil_left (t : List Char) : leastEdits [] t = t.length := by
  rw [leastEdits]

@[simp] theorem leastEdits_nil_right (s : List Char) : leastEdits s [] = s.length := by
  cases s <;> simp [leastEdits]

theorem leastEdits_cons_cons (c d : Char) (s t : List Char) :
    leastEdits (c :: s) (d :: t) =
      min (min (leastEdits s (d :: t) + 1) (leastEdits (c :: s) t + 1))
        (leastEdits s t + if c = d then 0 else 1) := by
  rw [leastEdits]

theorem leastEdits_self (s : List Char) : leastEdits s s = 0 := by
  induction s with
  | nil => simp
  | cons c s ih => simp [leastEdits_cons_cons, ih]

/-! ### Enough edits -/

theorem edits_leastEdits (s t : List Char) : Edits (leastEdits s t) s t := by
  induction s, t using leastEdits.induct with
  | case1 t =>
    rw [leastEdits_nil_left]
    exact .from_nil t
  | case2 c s =>
    rw [leastEdits_nil_right]
    exact (Edits.from_nil (c :: s)).symm
  | case3 c s d t deleted inserted together =>
    have less : Edits (leastEdits s (d :: t) + 1) (c :: s) (d :: t) :=
      deleted.first (.delete [] s c)
    have greater : Edits (leastEdits (c :: s) t + 1) (c :: s) (d :: t) :=
      inserted.more (.insert [] t d)
    have equal : Edits (leastEdits s t + if c = d then 0 else 1) (c :: s) (d :: t) := by
      split
      next same =>
        rw [same]
        exact together.cons d
      next => exact (together.cons d).first (.substitute [] s c d)
    rw [leastEdits_cons_cons]
    exact (less.min greater).min equal

/-! ### No fewer edits

An edit of one text changes the recursion by one at most: at the first character by cases, behind
it by induction on what stands in front. -/

theorem leastEdits_cons_left_le (c : Char) (s t : List Char) :
    leastEdits (c :: s) t ≤ leastEdits s t + 1 := by
  cases t with
  | nil => simp
  | cons d t =>
    rw [leastEdits_cons_cons]
    omega

theorem leastEdits_cons_right_le (s : List Char) (d : Char) (t : List Char) :
    leastEdits s (d :: t) ≤ leastEdits s t + 1 := by
  cases s with
  | nil => simp
  | cons c s =>
    rw [leastEdits_cons_cons]
    omega

theorem leastEdits_le_cons_right (s : List Char) (d : Char) (t : List Char) :
    leastEdits s t ≤ leastEdits s (d :: t) + 1 := by
  induction s with
  | nil =>
    simp only [leastEdits_nil_left, List.length_cons]
    omega
  | cons c s ih =>
    have left := leastEdits_cons_left_le c s t
    rw [leastEdits_cons_cons]
    omega

theorem leastEdits_substitute_le (s : List Char) (d d' : Char) (t : List Char) :
    leastEdits s (d' :: t) ≤ leastEdits s (d :: t) + 1 := by
  induction s with
  | nil => simp
  | cons c s ih =>
    rw [leastEdits_cons_cons, leastEdits_cons_cons]
    split <;> split <;> omega

theorem leastEdits_cons_le {t u : List Char} (near : ∀ s, leastEdits s u ≤ leastEdits s t + 1)
    (d : Char) (s : List Char) : leastEdits s (d :: u) ≤ leastEdits s (d :: t) + 1 := by
  induction s with
  | nil => simpa using near []
  | cons c s ih =>
    have inserted := near (c :: s)
    have together := near s
    rw [leastEdits_cons_cons, leastEdits_cons_cons]
    omega

theorem leastEdits_append_le {t u : List Char} (near : ∀ s, leastEdits s u ≤ leastEdits s t + 1)
    (front s : List Char) : leastEdits s (front ++ u) ≤ leastEdits s (front ++ t) + 1 := by
  induction front generalizing s with
  | nil => exact near s
  | cons d front ih => exact leastEdits_cons_le ih d s

theorem Edit.leastEdits_le {t u : List Char} (e : Edit t u) (s : List Char) :
    leastEdits s u ≤ leastEdits s t + 1 := by
  cases e with
  | insert front back d =>
    exact leastEdits_append_le (fun s => leastEdits_cons_right_le s d back) front s
  | delete front back d =>
    exact leastEdits_append_le (fun s => leastEdits_le_cons_right s d back) front s
  | substitute front back d d' =>
    exact leastEdits_append_le (fun s => leastEdits_substitute_le s d d' back) front s

theorem Edits.leastEdits_le {n : Nat} {s t : List Char} (h : Edits n s t) : leastEdits s t ≤ n := by
  induction h with
  | none s => exact (leastEdits_self s).le
  | more _ e ih => exact (e.leastEdits_le _).trans (Nat.succ_le_succ ih)

theorem leastEdits_isLeast (s t : List Char) : IsLeast {n | Edits n s t} (leastEdits s t) :=
  ⟨edits_leastEdits s t, fun _ h => h.leastEdits_le⟩

/-! ### A distance -/

theorem leastEdits_eq_zero_iff {s t : List Char} : leastEdits s t = 0 ↔ s = t := by
  constructor
  · intro h
    have none := edits_leastEdits s t
    rw [h] at none
    cases none
    rfl
  · rintro rfl
    exact leastEdits_self s

theorem leastEdits_comm (s t : List Char) : leastEdits s t = leastEdits t s :=
  le_antisymm (edits_leastEdits t s).symm.leastEdits_le (edits_leastEdits s t).symm.leastEdits_le

theorem leastEdits_triangle (s t u : List Char) :
    leastEdits s u ≤ leastEdits s t + leastEdits t u :=
  ((edits_leastEdits s t).trans (edits_leastEdits t u)).leastEdits_le

/-! ### From the ends -/

theorem leastEdits_reverse (s t : List Char) :
    leastEdits s.reverse t.reverse = leastEdits s t := by
  refine le_antisymm (edits_leastEdits s t).reverse.leastEdits_le ?_
  have back := (edits_leastEdits s.reverse t.reverse).reverse
  rw [List.reverse_reverse, List.reverse_reverse] at back
  exact back.leastEdits_le

/-- The recursion over the last characters. -/
theorem leastEdits_concat_concat (s t : List Char) (c d : Char) :
    leastEdits (s ++ [c]) (t ++ [d]) =
      min (min (leastEdits s (t ++ [d]) + 1) (leastEdits (s ++ [c]) t + 1))
        (leastEdits s t + if c = d then 0 else 1) := by
  rw [← leastEdits_reverse (s ++ [c]) (t ++ [d]), ← leastEdits_reverse s (t ++ [d]),
    ← leastEdits_reverse (s ++ [c]) t, ← leastEdits_reverse s t, List.reverse_concat,
    List.reverse_concat, leastEdits_cons_cons]

end SqlAudit.Text
