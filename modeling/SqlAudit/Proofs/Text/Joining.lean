import Mathlib.Algebra.GroupWithZero.Nat

/-!
Texts that are joined with a separator. Their length tells how many parts there are: with fewer parts
a joined text is another one.
-/

namespace SqlAudit.Text

theorem length_intercalate (sep : String) {parts : List String} (h : parts ≠ []) :
    (sep.intercalate parts).length + sep.length =
      (parts.map fun part => part.length + sep.length).sum := by
  induction parts with
  | nil => exact absurd rfl h
  | cons part rest ih =>
    cases rest with
    | nil => simp
    | cons next rest =>
      have hrest := ih (List.cons_ne_nil next rest)
      rw [String.intercalate_cons_of_ne_nil (List.cons_ne_nil next rest), List.map_cons,
        List.sum_cons, ← hrest, String.length_append, String.length_append]
      omega

theorem sum_add_length_le {f : String → Nat} (pos : ∀ part, 0 < f part)
    {parts all : List String} (sub : parts.Sublist all) :
    (parts.map f).sum + all.length ≤ (all.map f).sum + parts.length := by
  induction sub with
  | slnil => simp
  | cons part _ ih =>
    have hpart := pos part
    simp only [List.map_cons, List.sum_cons, List.length_cons]
    omega
  | cons_cons part _ ih =>
    simp only [List.map_cons, List.sum_cons, List.length_cons]
    omega

theorem intercalate_ne {sep : String} (separates : 0 < sep.length) {parts all : List String}
    (sub : parts.Sublist all) (fewer : parts.length < all.length) (some : parts ≠ []) :
    sep.intercalate parts ≠ sep.intercalate all := by
  intro same
  have hall : all ≠ [] := by
    rintro rfl
    simp at fewer
  have hparts := length_intercalate sep some
  have hwhole := length_intercalate sep hall
  have hless := sum_add_length_le (f := fun part => part.length + sep.length)
    (fun part => Nat.lt_of_lt_of_le separates (Nat.le_add_left _ _)) sub
  rw [← hparts, ← hwhole, same] at hless
  omega

end SqlAudit.Text
