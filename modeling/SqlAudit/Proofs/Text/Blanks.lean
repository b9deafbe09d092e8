import SqlAudit.Proofs.Text.LowerCase

/-!
Blanks at the ends of a text. A blank is its own lower-case form, so a text whose lower-case form has
none has none itself, and nothing is trimmed off it.
-/

namespace SqlAudit.Text

def highBlanks : List Nat := blankRanges.flatMap fun r => List.range' r.1 (r.2 + 1 - r.1)

theorem mem_highBlanks {c : Char} (h : blankRanges.contains c = true) : c.toNat ∈ highBlanks := by
  obtain ⟨r, hr, hc⟩ := List.any_eq_true.1 h
  simp only [Bool.and_eq_true, decide_eq_true_eq] at hc
  refine List.mem_flatMap.2 ⟨r, hr, List.mem_range'_1.2 ⟨hc.1, ?_⟩⟩
  omega

theorem isLower_of_isBlank {c : Char} (h : isBlank c = true) : IsLower c := by
  unfold isBlank at h
  split at h
  next ascii =>
    exact forall_ascii
      (P := fun c => (decide (c = ' ') || decide (9 ≤ c.toNat) && decide (c.toNat ≤ 13)) = true →
        IsLower c) (by decide +kernel) ascii h
  next =>
    have all : ∀ n ∈ highBlanks, ∀ r ∈ loweredRuns, r.covers n = false := by decide +kernel
    exact all c.toNat (mem_highBlanks h)

theorem mem_lowerAfter_of_isBlank {before s : List Char} {c : Char} (blank : isBlank c = true)
    (h : c ∈ s) : c ∈ lowerAfter before s := by
  induction s generalizing before with
  | nil => cases h
  | cons d s ih =>
    rw [lowerAfter, List.mem_append]
    rcases List.mem_cons.1 h with rfl | h
    · have hlower := isLower_of_isBlank blank
      rw [hlower.not_sigma, hlower.lowerChar_eq]
      exact .inl List.mem_cons_self
    · exact .inr (ih h)

theorem dropWhile_isBlank_of_forall {s : List Char} (h : ∀ c ∈ s, isBlank c = false) :
    s.dropWhile isBlank = s := by
  cases s with
  | nil => rfl
  | cons c s => rw [List.dropWhile_cons_of_neg (by simp [h c List.mem_cons_self])]

theorem trimBlanks_of_forall {s : String} (h : ∀ c ∈ s.toList, isBlank c = false) :
    trimBlanks s = s := by
  have reversed : ∀ c ∈ s.toList.reverse, isBlank c = false := fun c hc =>
    h c (List.mem_reverse.1 hc)
  rw [trimBlanks, dropWhile_isBlank_of_forall h, dropWhile_isBlank_of_forall reversed,
    List.reverse_reverse, String.ofList_toList]

theorem trimBlanks_of_lower {s : String} (h : ∀ c ∈ (lower s).toList, isBlank c = false) :
    trimBlanks s = s := by
  refine trimBlanks_of_forall fun c hc => Bool.eq_false_iff.2 fun blank => ?_
  have hmem : c ∈ (lower s).toList := by
    rw [lower, String.toList_ofList]
    exact mem_lowerAfter_of_isBlank blank hc
  rw [h c hmem] at blank
  cases blank

end SqlAudit.Text
