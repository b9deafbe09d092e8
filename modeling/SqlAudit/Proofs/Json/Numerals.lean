import Mathlib.Data.List.TakeDrop
import SqlAudit.Json.Decode
import SqlAudit.Proofs.Json.RoundTrip

/-!
Whole numbers in JSON. A number is written in digits, the first of which is zero for zero alone, so it
is read as it is written and keeps its value.
-/

namespace SqlAudit.Json

theorem toList_toString (n : Nat) : (toString n).toList = Nat.toDigits 10 n := by
  rw [Nat.toString_eq_repr, Nat.repr_eq_ofList_toDigits, String.toList_ofList]

theorem isDigit_of_mem {n : Nat} {c : Char} (h : c ∈ Nat.toDigits 10 n) : c.isDigit = true :=
  Nat.isDigit_of_mem_toDigits (by decide) (by decide) h

theorem toDigits_ne_nil (n : Nat) : Nat.toDigits 10 n ≠ [] :=
  List.ne_nil_of_length_pos Nat.length_toDigits_pos

theorem head?_toDigits_ne {n : Nat} (h : 0 < n) : (Nat.toDigits 10 n).head? ≠ some '0' := by
  induction n using Nat.strongRecOn with
  | ind n ih =>
    rw [Nat.toDigits_eq_if (by decide)]
    split
    next small =>
      have digits : ∀ d < 10, 0 < d → [d.digitChar].head? ≠ some '0' := by decide
      exact digits n small h
    next large =>
      have further := ih (n / 10) (by omega) (by omega)
      rw [List.head?_append_of_ne_nil _ (toDigits_ne_nil _)]
      exact further

theorem endsNumeral_cases {rest : List Char} (h : EndsNumeral rest) :
    rest = [] ∨ ∃ c tail, rest = c :: tail ∧ c.isDigit = false ∧ c ≠ '.' ∧ c ≠ 'e' ∧ c ≠ 'E' := by
  cases rest with
  | nil => exact .inl rfl
  | cons c tail =>
    have hc := h c rfl
    simp only [continuesNumeral, Bool.or_eq_false_iff, beq_eq_false_iff_ne] at hc
    exact .inr ⟨c, tail, rfl, hc.1.1.1, hc.1.1.2, hc.1.2, hc.2⟩

theorem fraction?_ends {rest : List Char} (h : EndsNumeral rest) :
    fraction? rest = some ([], rest) := by
  rcases endsNumeral_cases h with rfl | ⟨c, tail, rfl, _, hpoint, _⟩
  · rfl
  · simp [fraction?, hpoint]

theorem exponent?_ends {rest : List Char} (h : EndsNumeral rest) :
    exponent? rest = some ([], rest) := by
  rcases endsNumeral_cases h with rfl | ⟨c, tail, rfl, _, _, hlower, hupper⟩
  · rfl
  · simp [exponent?, hlower, hupper]

theorem digits?_append {digits rest : List Char} (nonempty : digits ≠ [])
    (h : ∀ c ∈ digits, c.isDigit = true) (ends : EndsNumeral rest) :
    digits? (digits ++ rest) = some (digits, rest) := by
  have stop : rest.takeWhile Char.isDigit = [] ∧ rest.dropWhile Char.isDigit = rest := by
    rcases endsNumeral_cases ends with rfl | ⟨c, tail, rfl, hdigit, _⟩
    · exact ⟨rfl, rfl⟩
    · simp [hdigit]
  rw [digits?, List.span_eq_takeWhile_dropWhile, List.takeWhile_append_of_pos h,
    List.dropWhile_append_of_pos h, stop.1, stop.2, List.append_nil]
  split
  next heq => exact absurd (congrArg Prod.fst heq) nonempty
  next => rfl

theorem whole?_toDigits (n : Nat) {rest : List Char} (ends : EndsNumeral rest) :
    whole? (Nat.toDigits 10 n ++ rest) = some (Nat.toDigits 10 n, rest) := by
  rcases Nat.eq_zero_or_pos n with rfl | positive
  · rfl
  · have first : (Nat.toDigits 10 n ++ rest).head? ≠ some '0' := by
      rw [List.head?_append_of_ne_nil _ (toDigits_ne_nil n)]
      exact head?_toDigits_ne positive
    rw [← digits?_append (toDigits_ne_nil n) (fun _ => isDigit_of_mem) ends]
    unfold whole?
    split
    next tail heq =>
      rw [heq] at first
      exact absurd rfl first
    next => rfl

theorem number?_toDigits (n : Nat) {rest : List Char} (ends : EndsNumeral rest) :
    number? (Nat.toDigits 10 n ++ rest) = some (String.ofList (Nat.toDigits 10 n), rest) := by
  have whole := whole?_toDigits n ends
  obtain ⟨c, cs, digits⟩ := List.exists_cons_of_ne_nil (toDigits_ne_nil n)
  have unsigned : c ≠ '-' := by
    rintro rfl
    have first : '-' ∈ Nat.toDigits 10 n := by rw [digits]; exact List.mem_cons_self
    exact absurd (isDigit_of_mem first) (by decide)
  rw [digits, List.cons_append] at whole ⊢
  simp [number?, unsigned, whole, fraction?_ends ends, exponent?_ends ends]

theorem isNumeral_toString (n : Nat) : IsNumeral (toString n) := by
  constructor
  · obtain ⟨c, cs, hcs⟩ := List.exists_cons_of_ne_nil (toDigits_ne_nil n)
    rw [toList_toString, hcs]
    exact ⟨c, rfl, .inr (isDigit_of_mem (n := n) (hcs ▸ List.mem_cons_self))⟩
  · intro rest ends
    rw [toList_toString, number?_toDigits n ends, ← toList_toString, String.ofList_toList]

theorem numerals_ofNat (n : Nat) : (ofNat n).Numerals := by
  rw [ofNat, Numerals]
  exact isNumeral_toString n

theorem decimal_toDigits (n : Nat) : decimal (Nat.toDigits 10 n) = n := by
  have same : decimal (Nat.toDigits 10 n) = Nat.ofDigitChars 10 (Nat.toDigits 10 n) 0 := by
    rw [decimal, Nat.ofDigitChars]
    exact List.foldl_ext _ _ 0 fun n _ _ => by rw [Nat.mul_comm]
  rw [same, Nat.ofDigitChars_ten_toDigits]

theorem natBelow?_ofNat {bound n : Nat} (h : n < bound) : natBelow? bound (.ofNat n) = some n := by
  have all : (Nat.toDigits 10 n).all Char.isDigit = true := List.all_eq_true.2 fun _ => isDigit_of_mem
  have nonempty : (Nat.toDigits 10 n).isEmpty = false := by
    rw [List.isEmpty_eq_false_iff]
    exact toDigits_ne_nil n
  simp [natBelow?, Json.ofNat, all, nonempty, decimal_toDigits, h]

end SqlAudit.Json
