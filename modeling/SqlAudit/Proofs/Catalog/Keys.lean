import Mathlib.Data.List.Pairwise
import SqlAudit.Catalog.OrderedMap

/-!
The keys of ordered maps: maps whose entries are stored under names of their own, and maps of which
no two keys differ in letter case only.
-/

namespace SqlAudit

open Text

namespace OrderedMap

variable {α : Type} {m : OrderedMap α}

/-- Every entry is stored under its own name. -/
def KeyedBy (m : OrderedMap α) (name : α → String) : Prop := ∀ e ∈ m.entries, e.1 = name e.2

def DistinctNames (m : OrderedMap α) : Prop := m.keys.Pairwise fun a b => sameName a b = false

theorem keyedBy_empty {name : α → String} : (empty : OrderedMap α).KeyedBy name := by
  simp [KeyedBy, empty]

theorem distinctNames_empty : (empty : OrderedMap α).DistinctNames := by
  simp [DistinctNames, empty, keys]

/-! ### Entries after an operation -/

theorem mem_insert {key : String} {value : α} {e : String × α}
    (h : e ∈ (m.insert key value).entries) : e ∈ m.entries ∨ e = (key, value) := by
  unfold insert at h
  split at h
  · obtain ⟨e', he', rfl⟩ := List.mem_map.1 h
    by_cases hk : e'.1 == key
    · right
      rw [if_pos hk, beq_iff_eq.1 hk]
    · left
      rwa [if_neg hk]
  · rcases List.mem_append.1 h with h | h
    · exact Or.inl h
    · exact Or.inr (List.mem_singleton.1 h)

theorem mem_insertNew {key : String} {value : α} {e : String × α}
    (h : e ∈ (m.insertNew key value).entries) : e ∈ m.entries ∨ e = (key, value) := by
  unfold insertNew at h
  split at h
  next => exact Or.inl h
  next => exact mem_insert h

theorem mem_eraseName {name : String} {e : String × α} :
    e ∈ (m.eraseName name).entries ↔ e ∈ m.entries ∧ sameName e.1 name = false := by
  simp [eraseName]

theorem mem_erase {key : String} {e : String × α} (h : e ∈ (m.erase key).entries) :
    e ∈ m.entries := (List.mem_filter.1 h).1

theorem mem_updateFirst {name : String} {f : α → α} {es : List (String × α)} {e : String × α}
    (h : e ∈ updateFirst name f es) :
    e ∈ es ∨ ∃ e' ∈ es, sameName e'.1 name = true ∧ e = (e'.1, f e'.2) := by
  induction es with
  | nil => cases h
  | cons d es ih =>
    rw [updateFirst] at h
    split at h
    next hd =>
      rcases List.mem_cons.1 h with rfl | h
      · exact Or.inr ⟨d, List.mem_cons_self, hd, rfl⟩
      · exact Or.inl (List.mem_cons_of_mem d h)
    next hd =>
      rcases List.mem_cons.1 h with rfl | h
      · exact Or.inl List.mem_cons_self
      · rcases ih h with h | ⟨e', he', hname, rfl⟩
        · exact Or.inl (List.mem_cons_of_mem d h)
        · exact Or.inr ⟨e', List.mem_cons_of_mem d he', hname, rfl⟩

theorem mem_update {name : String} {f : α → α} {e : String × α}
    (h : e ∈ (m.update name f).entries) :
    e ∈ m.entries ∨ ∃ e' ∈ m.entries, sameName e'.1 name = true ∧ e = (e'.1, f e'.2) :=
  mem_updateFirst h

theorem entries_insert_of_new {key : String} (new : m.contains key = false) (value : α) :
    (m.insert key value).entries = m.entries ++ [(key, value)] := by
  simp [insert, new]

/-! ### Looking up -/

theorem contains_insert (m : OrderedMap α) (key k : String) (value : α) :
    (m.insert key value).contains k = (key == k || m.contains k) := by
  rw [← isSome_get?, get?_insert, ← isSome_get?]
  by_cases h : key = k <;> simp [h]

theorem get?_insertNew (m : OrderedMap α) (key k : String) (value : α) :
    (m.insertNew key value).get? k = (m.get? k).or (if key = k then some value else none) := by
  unfold insertNew
  split
  next there =>
    by_cases h : key = k
    · obtain ⟨old, hold⟩ := Option.isSome_iff_exists.1 ((isSome_get? m key).trans there)
      rw [← h, hold, Option.some_or]
    · rw [if_neg h, Option.or_none]
  next new =>
    rw [get?_insert]
    by_cases h : key = k
    · have hnone : m.get? key = none := by
        rw [← Option.not_isSome_iff_eq_none, isSome_get?]
        exact new
      rw [if_pos h, ← h, hnone, Option.none_or, if_pos rfl]
    · rw [if_neg h, if_neg h, Option.or_none]

theorem lookup?_eq_some {name : String} {e : String × α} (h : m.lookup? name = some e) :
    e ∈ m.entries ∧ sameName e.1 name = true := by
  unfold lookup? at h
  have hname := List.find?_some h
  exact ⟨List.mem_of_find?_eq_some h, hname⟩

theorem find?_eq_some {name : String} {value : α} (h : m.find? name = some value) :
    ∃ key, (key, value) ∈ m.entries ∧ sameName key name = true := by
  obtain ⟨⟨key, _⟩, he, rfl⟩ := Option.map_eq_some_iff.1 h
  exact ⟨key, lookup?_eq_some he⟩

theorem find?_eq_none {name : String} :
    m.find? name = none ↔ ∀ e ∈ m.entries, sameName e.1 name = false := by
  rw [find?, Option.map_eq_none_iff, lookup?, List.find?_eq_none]
  simp only [Bool.not_eq_true]

theorem isSome_find? {name : String} :
    (m.find? name).isSome = true ↔ ∃ e ∈ m.entries, sameName e.1 name = true := by
  simp [find?, lookup?, List.find?_isSome]

theorem find?_congr {a b : String} (h : sameName a b = true) : m.find? a = m.find? b := by
  simp only [find?, lookup?, sameName_congr_right h]

/-! ### Keys after an operation -/

theorem KeyedBy.insert {name : α → String} (h : m.KeyedBy name) (value : α) :
    (m.insert (name value) value).KeyedBy name := by
  intro e he
  rcases mem_insert he with he | rfl
  · exact h e he
  · rfl

theorem KeyedBy.eraseName {name : α → String} (h : m.KeyedBy name) (n : String) :
    (m.eraseName n).KeyedBy name := fun e he => h e (mem_eraseName.1 he).1

theorem KeyedBy.erase {name : α → String} (h : m.KeyedBy name) (key : String) :
    (m.erase key).KeyedBy name := fun e he => h e (mem_erase he)

theorem KeyedBy.update {name : α → String} (h : m.KeyedBy name) (n : String) {f : α → α}
    (keep : ∀ a, name (f a) = name a) : (m.update n f).KeyedBy name := by
  intro e he
  rcases mem_update he with he | ⟨e', he', _, rfl⟩
  · exact h e he
  · rw [keep]
    exact h e' he'

theorem DistinctNames.eraseName (h : m.DistinctNames) (name : String) :
    (m.eraseName name).DistinctNames :=
  List.Pairwise.sublist (List.filter_sublist.map _) h

theorem DistinctNames.update (h : m.DistinctNames) (name : String) (f : α → α) :
    (m.update name f).DistinctNames := by
  rw [DistinctNames, keys_update]
  exact h

theorem DistinctNames.insert (h : m.DistinctNames) {key : String} (value : α)
    (fresh : ∀ e ∈ m.entries, sameName e.1 key = false) : (m.insert key value).DistinctNames := by
  have hkeys : ∀ k ∈ m.keys, sameName k key = false := by
    intro k hk
    obtain ⟨e, he, rfl⟩ := List.mem_map.1 hk
    exact fresh e he
  rw [DistinctNames, keys_insert]
  split
  · exact h
  · rw [List.pairwise_append]
    refine ⟨h, List.pairwise_singleton _ _, fun a ha b hb => ?_⟩
    rw [List.mem_singleton.1 hb]
    exact hkeys a ha

theorem DistinctNames.find?_of_mem (h : m.DistinctNames) {key name : String} {value : α}
    (mem : (key, value) ∈ m.entries) (same : sameName key name = true) :
    m.find? name = some value := by
  unfold DistinctNames keys at h
  unfold find? lookup?
  generalize m.entries = es at h mem
  induction es with
  | nil => cases mem
  | cons e es ih =>
    rw [List.map_cons, List.pairwise_cons] at h
    rw [List.find?_cons]
    rcases List.mem_cons.1 mem with rfl | hmem
    · simp [same]
    · have hother : sameName e.1 name = false := by
        rw [← sameName_congr_right same]
        exact h.1 key (List.mem_map.2 ⟨_, hmem, rfl⟩)
      rw [hother]
      exact ih h.2 hmem

end OrderedMap

end SqlAudit
