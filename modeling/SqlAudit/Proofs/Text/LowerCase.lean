import SqlAudit.Proofs.Text.Folding

/-!
The lower-case form of a text is its own lower-case form: the tables map no code point onto one that
they map again.
-/

namespace SqlAudit.Text

def loweredRuns : List CaseShift := ⟨0x41, 0x5A, 1, 32⟩ :: ⟨0x130, 0x130, 1, 0⟩ :: lowerShifts

def IsLower (c : Char) : Prop := ∀ r ∈ loweredRuns, r.covers c.toNat = false

instance (c : Char) : Decidable (IsLower c) :=
  decidable_of_iff (loweredRuns.all fun r => !r.covers c.toNat) (by simp [IsLower])

namespace CaseShift

/-- Whether no code point that a run maps is mapped into another run. A run of steps of two, or of
one code point, may be mapped between the code points of another one. -/
def misses (r r' : CaseShift) : Bool :=
  let first := (r.first + r.shift).toNat
  Nat.blt (r.last + r.shift).toNat r'.first || Nat.blt r'.last first ||
    Nat.blt 0 first && (r.step == 2 || r.first == r.last) && r'.step == 2 &&
      (first + r'.first) % 2 == 1

theorem not_covers_of_misses {r r' : CaseShift} {n : Nat} (h : r.misses r' = true)
    (hn : r.covers n = true) : r'.covers (n + r.shift).toNat = false := by
  simp only [covers, Bool.and_eq_true, decide_eq_true_eq, beq_iff_eq] at hn
  obtain ⟨⟨first, last⟩, step⟩ := hn
  rw [Bool.eq_false_iff]
  intro hcovers
  simp only [covers, Bool.and_eq_true, decide_eq_true_eq, beq_iff_eq] at hcovers
  obtain ⟨⟨first', last'⟩, step'⟩ := hcovers
  simp only [misses, Bool.or_eq_true, Bool.and_eq_true, beq_iff_eq, Nat.blt_eq] at h
  rcases h with (before | behind) | ⟨⟨⟨positive, single⟩, two'⟩, parity⟩
  · omega
  · omega
  · rw [two'] at step'
    rcases single with two | single
    · rw [two] at step
      omega
    · omega

end CaseShift

theorem lowerShifts_miss : ∀ r ∈ lowerShifts, ∀ r' ∈ loweredRuns, r.misses r' = true := by
  have all : (lowerShifts.all fun r => loweredRuns.all (r.misses ·)) = true := by decide +kernel
  simpa only [List.all_eq_true] using all

theorem isLower_ofNat {n : Nat} (h : ∀ r ∈ loweredRuns, r.covers n = false) :
    IsLower (Char.ofNat n) := by
  by_cases valid : n.isValidChar
  · have same : (Char.ofNat n).toNat = n := by
      unfold Char.ofNat
      rw [dif_pos valid]
      rfl
    rwa [IsLower, same]
  · have null : Char.ofNat n = Char.ofNat 0 := by
      unfold Char.ofNat
      rw [dif_neg valid]
      rfl
    rw [null]
    decide +kernel

theorem isLower_iff_of_high {c : Char} (high : ¬c.toNat < 0x80) :
    IsLower c ↔ lowerExpansions.find? (·.1 == c.toNat) = none ∧
      lowerShifts.find? (·.covers c.toNat) = none := by
  have notCapital : (⟨0x41, 0x5A, 1, 32⟩ : CaseShift).covers c.toNat = false := by
    have bound : ¬c.toNat ≤ 0x5A := by omega
    simp [CaseShift.covers, bound]
  have dotted : (⟨0x130, 0x130, 1, 0⟩ : CaseShift).covers c.toNat = (0x130 == c.toNat) := by
    rw [Bool.eq_iff_iff]
    simp only [CaseShift.covers, Bool.and_eq_true, decide_eq_true_eq, beq_iff_eq]
    omega
  simp [IsLower, loweredRuns, lowerExpansions, notCapital, dotted]

theorem isLower_of_mem_lowerChar {c d : Char} (h : d ∈ lowerChar c) : IsLower d := by
  unfold lowerChar at h
  split at h
  next ascii =>
    rw [List.mem_singleton.1 h]
    exact forall_ascii (P := fun c => IsLower c.toLower) (by decide +kernel) ascii
  next high =>
    unfold mapCase at h
    split at h
    next codes hfind =>
      have expansion := List.mem_of_find?_eq_some hfind
      simp only [lowerExpansions, List.mem_singleton, Prod.mk.injEq] at expansion
      rw [expansion.2] at h
      simp only [List.map_cons, List.map_nil, List.mem_cons, List.not_mem_nil, or_false] at h
      rcases h with rfl | rfl
      · exact isLower_ofNat (by decide +kernel)
      · exact isLower_ofNat (by decide +kernel)
    next unexpanded =>
      split at h
      next r hfind =>
        rw [List.mem_singleton.1 h]
        have hr := List.mem_of_find?_eq_some hfind
        have mapped : r.covers c.toNat = true := by simpa using List.find?_some hfind
        exact isLower_ofNat fun r' hr' => CaseShift.not_covers_of_misses
          (lowerShifts_miss r hr r' hr') mapped
      next unshifted =>
        rw [List.mem_singleton.1 h]
        exact (isLower_iff_of_high high).2 ⟨unexpanded, unshifted⟩

/-- Every character of a lower-case form is its own lower-case form. -/
theorem isLower_of_mem_lowerAfter {before s : List Char} {d : Char}
    (h : d ∈ lowerAfter before s) : IsLower d := by
  induction s generalizing before with
  | nil => cases h
  | cons c s ih =>
    rw [lowerAfter, List.mem_append] at h
    rcases h with here | rest
    · split at here
      next =>
        rw [List.mem_singleton.1 here]
        split
        next => decide +kernel
        next => decide +kernel
      next => exact isLower_of_mem_lowerChar here
    · exact ih rest

theorem IsLower.lowerChar_eq {c : Char} (h : IsLower c) : lowerChar c = [c] := by
  unfold lowerChar
  split
  next ascii =>
    have same : c.toLower = c :=
      forall_ascii (P := fun c => IsLower c → c.toLower = c) (by decide +kernel) ascii h
    rw [same]
  next high =>
    obtain ⟨unexpanded, unshifted⟩ := (isLower_iff_of_high high).1 h
    rw [mapCase, unexpanded, unshifted]

theorem IsLower.not_sigma {c : Char} (h : IsLower c) : (c.toNat == 0x3A3) = false := by
  rw [beq_eq_false_iff_ne]
  intro sigma
  rw [IsLower, sigma] at h
  exact absurd h (by decide +kernel)

theorem lowerAfter_of_isLower (before : List Char) {s : List Char} (h : ∀ c ∈ s, IsLower c) :
    lowerAfter before s = s := by
  induction s generalizing before with
  | nil => rfl
  | cons c s ih =>
    have hc : IsLower c := h c List.mem_cons_self
    rw [lowerAfter, hc.not_sigma, ih (c :: before) fun d hd => h d (List.mem_cons_of_mem c hd)]
    simp [hc.lowerChar_eq]

@[simp] theorem lower_lower (s : String) : lower (lower s) = lower s := by
  have same : lowerAfter [] (lowerAfter [] s.toList) = lowerAfter [] s.toList :=
    lowerAfter_of_isLower [] fun _ hd => isLower_of_mem_lowerAfter hd
  rw [lower, lower, String.toList_ofList, same]

end SqlAudit.Text
