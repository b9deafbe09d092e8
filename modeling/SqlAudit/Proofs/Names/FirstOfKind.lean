import Mathlib.Data.List.Induction

/-!
Lists of which the first one of every kind is kept, a relation telling whether one item is of the
kind of another.
-/

namespace List

variable {α β : Type} {r : α → α → Bool} {as : List α} {a : α}

theorem eraseDupsBy_loop_concat (r : α → α → Bool) (as seen : List α) (a : α) :
    eraseDupsBy.loop r (as ++ [a]) seen =
      let kept := eraseDupsBy.loop r as seen
      if kept.any (r a) then kept else kept ++ [a] := by
  induction as generalizing seen with
  | nil =>
    rw [nil_append, eraseDupsBy.loop, eraseDupsBy.loop]
    cases hany : seen.any (r a) <;> simp [eraseDupsBy.loop, hany]
  | cons b as ih =>
    rw [cons_append, eraseDupsBy.loop, eraseDupsBy.loop]
    cases seen.any (r b) with
    | true => exact ih seen
    | false => exact ih (b :: seen)

theorem eraseDupsBy_concat (r : α → α → Bool) (as : List α) (a : α) :
    (as ++ [a]).eraseDupsBy r =
      if (as.eraseDupsBy r).any (r a) then as.eraseDupsBy r else as.eraseDupsBy r ++ [a] :=
  eraseDupsBy_loop_concat r as [] a

theorem foldl_eq_eraseDupsBy (r : α → α → Bool) (f : β → α) (bs : List β) :
    bs.foldl (fun kept b => if kept.any (r (f b)) then kept else kept ++ [f b]) [] =
      (bs.map f).eraseDupsBy r := by
  induction bs using List.reverseRecOn with
  | nil => rfl
  | append_singleton bs b ih =>
    rw [foldl_append, ih, map_append, map_singleton, eraseDupsBy_concat]
    rfl

theorem mem_of_mem_eraseDupsBy (h : a ∈ as.eraseDupsBy r) : a ∈ as := by
  induction as using List.reverseRecOn with
  | nil => cases h
  | append_singleton as b ih =>
    rw [eraseDupsBy_concat] at h
    split at h
    next => exact mem_append_left _ (ih h)
    next => exact (mem_append.1 h).elim (fun h => mem_append_left _ (ih h)) (mem_append_right _)

theorem exists_mem_eraseDupsBy (refl : ∀ a, r a a = true) (h : a ∈ as) :
    ∃ b ∈ as.eraseDupsBy r, r a b = true := by
  induction as using List.reverseRecOn with
  | nil => cases h
  | append_singleton as c ih =>
    rw [eraseDupsBy_concat]
    rcases mem_append.1 h with h | h
    · obtain ⟨b, hb, kind⟩ := ih h
      refine ⟨b, ?_, kind⟩
      split
      next => exact hb
      next => exact mem_append_left _ hb
    · obtain rfl := mem_singleton.1 h
      split
      next hany => exact any_eq_true.1 hany
      next => exact ⟨a, mem_append_right _ mem_cons_self, refl a⟩

theorem pairwise_eraseDupsBy (r : α → α → Bool) (as : List α) :
    (as.eraseDupsBy r).Pairwise fun a b => r b a = false := by
  induction as using List.reverseRecOn with
  | nil => exact Pairwise.nil
  | append_singleton as c ih =>
    rw [eraseDupsBy_concat]
    split
    next => exact ih
    next hany =>
      rw [pairwise_append]
      refine ⟨ih, pairwise_singleton _ _, fun a ha b hb => ?_⟩
      rw [mem_singleton.1 hb]
      exact Bool.eq_false_iff.2 fun kind => hany (any_eq_true.2 ⟨a, ha, kind⟩)

/-- Items that are the first ones of their kinds among others, one for every kind, in the order in
which the kinds come first. -/
structure FirstOfKinds (r : α → α → Bool) (kept as : List α) : Prop where
  first : ∀ a ∈ kept, as.find? (r a) = some a
  covers : ∀ a ∈ as, ∃ b ∈ kept, r a b = true
  ordered : kept.Pairwise fun a b => as.findIdx (r a) < as.findIdx (r b)

namespace FirstOfKinds

variable {kept : List α}

theorem findIdx_append (h : FirstOfKinds r kept as) (ha : a ∈ kept) (bs : List α) :
    (as ++ bs).findIdx (r a) = as.findIdx (r a) ∧ as.findIdx (r a) < as.length := by
  have found : as.findIdx (r a) < as.length :=
    findIdx_lt_length.2 ⟨a, mem_of_find?_eq_some (h.first a ha), find?_some (h.first a ha)⟩
  rw [List.findIdx_append, if_pos found]
  exact ⟨rfl, found⟩

theorem concat_of_any (h : FirstOfKinds r kept as) (known : kept.any (r a) = true) :
    FirstOfKinds r kept (as ++ [a]) where
  first b hb := by rw [find?_append, h.first b hb, Option.some_or]
  covers b hb := by
    rcases mem_append.1 hb with hb | hb
    · exact h.covers b hb
    · rw [mem_singleton.1 hb]
      exact any_eq_true.1 known
  ordered := h.ordered.imp_of_mem fun {b c} hb hc lt => by
    rwa [(h.findIdx_append hb [a]).1, (h.findIdx_append hc [a]).1]

theorem concat_of_not_any (h : FirstOfKinds r kept as) (self : r a a = true)
    (fresh : ∀ b ∈ as, r a b = false) : FirstOfKinds r (kept ++ [a]) (as ++ [a]) where
  first b hb := by
    rw [find?_append]
    rcases mem_append.1 hb with hb | hb
    · rw [h.first b hb, Option.some_or]
    · obtain rfl := mem_singleton.1 hb
      have unseen : as.find? (r b) = none :=
        find?_eq_none.2 fun c hc => Bool.eq_false_iff.1 (fresh c hc)
      rw [unseen, Option.none_or, find?_singleton, self]
      rfl
  covers b hb := by
    rcases mem_append.1 hb with hb | hb
    · obtain ⟨c, hc, kind⟩ := h.covers b hb
      exact ⟨c, mem_append_left _ hc, kind⟩
    · obtain rfl := mem_singleton.1 hb
      exact ⟨b, mem_append_right _ mem_cons_self, self⟩
  ordered := by
    have unseen : as.findIdx (r a) = as.length := findIdx_eq_length.2 fresh
    have last : (as ++ [a]).findIdx (r a) = as.length := by
      rw [List.findIdx_append, unseen, if_neg (Nat.lt_irrefl _), findIdx_singleton, self,
        if_pos rfl, Nat.zero_add]
    rw [pairwise_append]
    refine ⟨h.ordered.imp_of_mem fun {b c} hb hc lt => ?_, pairwise_singleton _ _, ?_⟩
    · rwa [(h.findIdx_append hb [a]).1, (h.findIdx_append hc [a]).1]
    · intro b hb c hc
      rw [mem_singleton.1 hc, last, (h.findIdx_append hb [a]).1]
      exact (h.findIdx_append hb [a]).2

theorem distinct (h : FirstOfKinds r kept as) (congr : ∀ a b, r a b = true → r a = r b) :
    kept.Pairwise fun a b => r a b = false :=
  h.ordered.imp fun {a b} lt => by
    rw [Bool.eq_false_iff]
    intro kind
    rw [congr a b kind] at lt
    exact Nat.lt_irrefl _ lt

end FirstOfKinds

/-- Keeping the items whose kind is not kept yet leaves the first ones of all kinds. -/
theorem firstOfKinds_eraseDupsBy (refl : ∀ a, r a a = true)
    (congr : ∀ a b, r a b = true → r a = r b) (as : List α) :
    FirstOfKinds r (as.eraseDupsBy r) as := by
  induction as using List.reverseRecOn with
  | nil => exact ⟨nofun, nofun, Pairwise.nil⟩
  | append_singleton as c ih =>
    rw [eraseDupsBy_concat]
    split
    next known => exact ih.concat_of_any known
    next new =>
      refine ih.concat_of_not_any (refl c) fun a ha => Bool.eq_false_iff.2 fun kind => ?_
      obtain ⟨b, hb, hab⟩ := ih.covers a ha
      exact new (any_eq_true.2 ⟨b, hb, by rwa [congr c a kind]⟩)

theorem filter_eraseDupsBy {p : α → Bool} (respects : ∀ a b, r a b = true → p a = p b)
    (as : List α) : (as.eraseDupsBy r).filter p = (as.filter p).eraseDupsBy r := by
  induction as using List.reverseRecOn with
  | nil => rfl
  | append_singleton as c ih =>
    rw [eraseDupsBy_concat, filter_append]
    cases hp : p c with
    | false =>
      have dropped : [c].filter p = [] := by simp [hp]
      rw [dropped, append_nil, ← ih]
      split
      next => rfl
      next => rw [filter_append, dropped, append_nil]
    | true =>
      have kept : [c].filter p = [c] := by simp [hp]
      have hany : ((as.eraseDupsBy r).filter p).any (r c) = (as.eraseDupsBy r).any (r c) := by
        rw [any_filter]
        congr 1
        funext a
        cases kind : r c a with
        | false => simp
        | true => simp [← respects c a kind, hp]
      rw [kept, eraseDupsBy_concat, ← ih, hany]
      split
      next => rfl
      next => rw [filter_append, kept]

end List
