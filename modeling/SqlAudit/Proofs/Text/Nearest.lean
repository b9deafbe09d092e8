import SqlAudit.Proofs.Text.Distance

/-!
The nearest of several names. It is found in one pass over the candidates that keeps the best one so
far and gives it up for a strictly better one only, so among equals it is the first.
-/

namespace SqlAudit.Text

/-- The least number of edits between two names, both in lower case. -/
def apart (a b : String) : Nat := leastEdits (lower a).toList (lower b).toList

/-- A candidate at most three edits away from a name, nearer than all candidates before it and at
least as near as those behind it. -/
structure IsNearest (candidates : List String) (name x : String) : Prop where
  near : apart name x ≤ 3
  first : ∃ before behind, candidates = before ++ x :: behind ∧
    (∀ c ∈ before, apart name x < apart name c) ∧ ∀ c ∈ behind, apart name x ≤ apart name c

namespace IsNearest

variable {candidates : List String} {name x c : String}

theorem mem (h : IsNearest candidates name x) : x ∈ candidates := by
  obtain ⟨before, behind, rfl, _⟩ := h.first
  simp

theorem le (h : IsNearest candidates name x) (hc : c ∈ candidates) : apart name x ≤ apart name c := by
  obtain ⟨before, behind, rfl, nearer, asNear⟩ := h.first
  rcases List.mem_append.1 hc with hc | hc
  · exact (nearer c hc).le
  · rcases List.mem_cons.1 hc with rfl | hc
    · exact le_rfl
    · exact asNear c hc

theorem find?_eq (h : IsNearest candidates name x) :
    candidates.find? (fun c => decide (apart name c ≤ apart name x)) = some x := by
  obtain ⟨before, behind, split, nearer, -⟩ := h.first
  rw [List.find?_eq_some_iff_append]
  refine ⟨decide_eq_true le_rfl, before, behind, split, fun c hc => ?_⟩
  simpa using nearer c hc

theorem unique {y : String} (hx : IsNearest candidates name x) (hy : IsNearest candidates name y) :
    x = y := by
  have same : apart name x = apart name y := le_antisymm (hx.le hy.mem) (hy.le hx.mem)
  have first := hx.find?_eq
  rw [same, hy.find?_eq] at first
  exact (Option.some.inj first).symm

theorem concat (h : IsNearest candidates name x) (farther : apart name x ≤ apart name c) :
    IsNearest (candidates ++ [c]) name x := by
  obtain ⟨before, behind, rfl, nearer, asNear⟩ := h.first
  refine ⟨h.near, before, behind ++ [c], by simp, nearer, ?_⟩
  rw [List.forall_mem_append, List.forall_mem_singleton]
  exact ⟨asNear, farther⟩

theorem of_nearer (near : apart name c ≤ 3) (nearer : ∀ b ∈ candidates, apart name c < apart name b) :
    IsNearest (candidates ++ [c]) name c :=
  ⟨near, candidates, [], rfl, nearer, fun _ hb => nomatch hb⟩

end IsNearest

/-! ### One pass over the candidates -/

def better (best : Option (Nat × String)) (e : Nat × String) : Option (Nat × String) :=
  match best with
  | some b => if b.1 ≤ e.1 then some b else some e
  | none => some e

def keepNearer (name : String) (best : Option (Nat × String)) (candidate : String) :
    Option (Nat × String) :=
  match scored name candidate with
  | some e => better best e
  | none => best

theorem leastScored_concat (es : List (Nat × String)) (e : Nat × String) :
    leastScored (es ++ [e]) = better (leastScored es) e := by
  induction es with
  | nil => rfl
  | cons a es ih =>
    rw [List.cons_append, leastScored, leastScored, ih]
    cases leastScored es with
    | none => by_cases h : a.1 ≤ e.1 <;> simp [better, h, Nat.not_lt.2, Nat.not_le.1]
    | some b =>
      by_cases hb : b.1 < a.1 <;> by_cases he : b.1 ≤ e.1 <;> by_cases ha : a.1 ≤ e.1 <;>
        simp [better, hb, he, ha] <;> omega

def kept (name : String) (candidates : List String) : Option (Nat × String) :=
  candidates.foldl (keepNearer name) none

theorem kept_concat (name : String) (candidates : List String) (c : String) :
    kept name (candidates ++ [c]) = keepNearer name (kept name candidates) c := by
  rw [kept, List.foldl_append, ← kept]
  rfl

theorem nearest_eq_kept (candidates : List String) (name : String) :
    nearest candidates name = (kept name candidates).map (·.2) := by
  rw [nearest]
  congr 1
  induction candidates using List.reverseRecOn with
  | nil => rfl
  | append_singleton candidates c ih =>
    rw [List.filterMap_append, kept_concat, ← ih]
    unfold keepNearer
    cases h : scored name c with
    | none => simp [h]
    | some e => simp [h, leastScored_concat]

theorem scored_eq (name c : String) :
    scored name c = if apart name c ≤ 3 then some (apart name c, c) else none := by
  rw [scored, distance_eq]
  rfl

/-- What a pass keeps after some candidates: the nearest of them with its distance, or nothing if all
of them are too far away. -/
def KeptAfter (name : String) (candidates : List String) : Option (Nat × String) → Prop
  | some (d, x) => d = apart name x ∧ IsNearest candidates name x
  | none => ∀ c ∈ candidates, 3 < apart name c

theorem KeptAfter.step {name : String} {candidates : List String} {best : Option (Nat × String)}
    (h : KeptAfter name candidates best) (c : String) :
    KeptAfter name (candidates ++ [c]) (keepNearer name best c) := by
  unfold keepNearer
  rw [scored_eq]
  by_cases near : apart name c ≤ 3
  · rw [if_pos near]
    match best, h with
    | none, h => exact ⟨rfl, .of_nearer near fun b hb => near.trans_lt (h b hb)⟩
    | some (d, x), ⟨hd, nearest⟩ =>
      by_cases asNear : d ≤ apart name c
      · simp only [better, asNear, if_true]
        exact ⟨hd, nearest.concat (hd ▸ asNear)⟩
      · simp only [better, asNear, if_false]
        refine ⟨rfl, .of_nearer near fun b hb => lt_of_lt_of_le ?_ (nearest.le hb)⟩
        rw [← hd]
        exact Nat.not_le.1 asNear
  · rw [if_neg near]
    have far : 3 < apart name c := Nat.not_le.1 near
    match best, h with
    | none, h =>
      rw [KeptAfter, List.forall_mem_append, List.forall_mem_singleton]
      exact ⟨h, far⟩
    | some (d, x), ⟨hd, nearest⟩ => exact ⟨hd, nearest.concat (nearest.near.trans far.le)⟩

theorem keptAfter_kept (name : String) (candidates : List String) :
    KeptAfter name candidates (kept name candidates) := by
  induction candidates using List.reverseRecOn with
  | nil => exact fun _ hc => nomatch hc
  | append_singleton candidates c ih =>
    rw [kept_concat]
    exact ih.step c

section

variable {candidates : List String} {name : String}

theorem isNearest_of_nearest {x : String} (h : nearest candidates name = some x) :
    IsNearest candidates name x := by
  rw [nearest_eq_kept] at h
  obtain ⟨⟨d, y⟩, keeps, rfl⟩ := Option.map_eq_some_iff.1 h
  have after := keptAfter_kept name candidates
  rw [keeps] at after
  exact after.2

theorem far_of_nearest_eq_none (h : nearest candidates name = none) :
    ∀ c ∈ candidates, 3 < apart name c := by
  rw [nearest_eq_kept] at h
  have after := keptAfter_kept name candidates
  rwa [Option.map_eq_none_iff.1 h] at after

theorem nearest_eq_some_iff {x : String} :
    nearest candidates name = some x ↔ IsNearest candidates name x := by
  refine ⟨isNearest_of_nearest, fun h => ?_⟩
  cases found : nearest candidates name with
  | none => exact absurd h.near (Nat.not_le.2 (far_of_nearest_eq_none found x h.mem))
  | some y => rw [(isNearest_of_nearest found).unique h]

theorem nearest_eq_none_iff :
    nearest candidates name = none ↔ ∀ c ∈ candidates, 3 < apart name c := by
  refine ⟨far_of_nearest_eq_none, fun far => ?_⟩
  cases found : nearest candidates name with
  | none => rfl
  | some x =>
    have h := isNearest_of_nearest found
    exact absurd h.near (Nat.not_le.2 (far x h.mem))

end

/-! ### Candidates that differ in letter case only -/

theorem apart_congr {name c d : String} (same : lower c = lower d) : apart name c = apart name d := by
  rw [apart, same, apart]

theorem keepNearer_of_lower {name : String} {candidates : List String} {c d : String}
    (h : d ∈ candidates) (same : lower d = lower c) :
    keepNearer name (kept name candidates) c = kept name candidates := by
  have after := keptAfter_kept name candidates
  unfold keepNearer
  rw [scored_eq, ← apart_congr same]
  cases keeps : kept name candidates with
  | none =>
    rw [keeps] at after
    rw [if_neg (Nat.not_le.2 (after d h))]
  | some e =>
    rw [keeps] at after
    have asNear : e.1 ≤ apart name d := after.1.symm ▸ after.2.le h
    by_cases near : apart name d ≤ 3
    · simp only [near, if_true, better, asNear]
    · simp only [near, if_false]

theorem kept_append (name : String) (front back : List String) :
    kept name (front ++ back) = back.foldl (keepNearer name) (kept name front) :=
  List.foldl_append

theorem kept_append_cons_of_lower (name : String) {front : List String} {c d : String}
    (h : d ∈ front) (same : lower d = lower c) (back : List String) :
    kept name (front ++ c :: back) = kept name (front ++ back) := by
  rw [kept_append, List.foldl_cons, keepNearer_of_lower h same, kept_append]

theorem kept_append_congr {name : String} {xs ys : List String}
    (same : kept name xs = kept name ys) (back : List String) :
    kept name (xs ++ back) = kept name (ys ++ back) := by
  rw [kept_append, same, kept_append]

end SqlAudit.Text
