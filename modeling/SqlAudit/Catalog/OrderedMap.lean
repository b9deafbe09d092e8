import SqlAudit.Text.Case

/-!
Maps from texts that keep the order in which their keys came. Writing to a key that is there
replaces its value in place; a new key goes to the end. Beside the exact look-up there is one that
ignores the case of ASCII letters and takes the first key that fits.
-/

namespace SqlAudit

open Text

structure OrderedMap (α : Type) where
  entries : List (String × α)
  deriving DecidableEq, Repr, Inhabited

namespace OrderedMap

variable {α β : Type}

def empty : OrderedMap α := ⟨[]⟩

def keys (m : OrderedMap α) : List String := m.entries.map (·.1)

def values (m : OrderedMap α) : List α := m.entries.map (·.2)

def size (m : OrderedMap α) : Nat := m.entries.length

def isEmpty (m : OrderedMap α) : Bool := m.entries.isEmpty

def get? (m : OrderedMap α) (key : String) : Option α :=
  (m.entries.find? (·.1 == key)).map (·.2)

def contains (m : OrderedMap α) (key : String) : Bool := m.entries.any (·.1 == key)

@[simp] theorem get?_empty (key : String) : (empty : OrderedMap α).get? key = none := rfl

theorem contains_iff_mem_keys {m : OrderedMap α} {key : String} :
    m.contains key = true ↔ key ∈ m.keys := by
  simp [contains, keys]

theorem isSome_get? (m : OrderedMap α) (key : String) : (m.get? key).isSome = m.contains key := by
  rw [get?, contains, Option.isSome_map, List.isSome_find?]

def insert (m : OrderedMap α) (key : String) (value : α) : OrderedMap α :=
  if m.contains key then
    ⟨m.entries.map fun e => if e.1 == key then (e.1, value) else e⟩
  else ⟨m.entries ++ [(key, value)]⟩

private theorem find_map_replace (es : List (String × α)) (key k : String) (value : α) :
    (es.map fun e => if e.1 == key then (e.1, value) else e).find? (·.1 == k) =
      (es.find? (·.1 == k)).map fun e => if e.1 == key then (e.1, value) else e := by
  induction es with
  | nil => rfl
  | cons e es ih =>
    by_cases h : e.1 == k <;> by_cases hk : e.1 == key <;> simp_all

theorem get?_insert (m : OrderedMap α) (key k : String) (value : α) :
    (m.insert key value).get? k = if key = k then some value else m.get? k := by
  unfold insert
  split
  next h =>
    simp only [get?, find_map_replace, Option.map_map]
    by_cases hk : key = k
    · subst hk
      obtain ⟨e, he⟩ := Option.isSome_iff_exists.1 ((isSome_get? m key).trans h)
      obtain ⟨e', he', rfl⟩ := Option.map_eq_some_iff.1 he
      have := List.find?_some he'
      simp_all
    · cases he : m.entries.find? (·.1 == k) with
      | none => simp [hk]
      | some e =>
        have := List.find?_some he
        simp_all [Ne.symm hk]
  next h =>
    by_cases hk : key = k
    · subst hk
      have hn : m.get? key = none := by
        rw [← Option.not_isSome_iff_eq_none, isSome_get?]
        exact h
      have hf := Option.map_eq_none_iff.1 hn
      simp [get?, List.find?_append, hf]
    · cases he : m.entries.find? (·.1 == k) <;> simp [get?, List.find?_append, he, hk]

theorem keys_insert (m : OrderedMap α) (key : String) (value : α) :
    (m.insert key value).keys = if m.contains key then m.keys else m.keys ++ [key] := by
  unfold insert
  split
  · simp only [keys, List.map_map]
    refine List.map_congr_left fun e _ => ?_
    by_cases h : e.1 == key <;> simp only [Function.comp, h] <;> rfl
  · simp [keys]

def insertNew (m : OrderedMap α) (key : String) (value : α) : OrderedMap α :=
  if m.contains key then m else m.insert key value

def ofList (entries : List (String × α)) : OrderedMap α :=
  entries.foldl (fun m e => m.insert e.1 e.2) empty

/-- The first entry whose key is a name up to letter case. -/
def lookup? (m : OrderedMap α) (name : String) : Option (String × α) :=
  m.entries.find? (sameName ·.1 name)

def find? (m : OrderedMap α) (name : String) : Option α := (m.lookup? name).map (·.2)

/-- Drops every key that is a name up to letter case. -/
def eraseName (m : OrderedMap α) (name : String) : OrderedMap α :=
  ⟨m.entries.filter fun e => !sameName e.1 name⟩

theorem find?_eraseName (m : OrderedMap α) (name k : String) :
    (m.eraseName name).find? k = if sameName name k then none else m.find? k := by
  simp only [find?, lookup?, eraseName]
  induction m.entries with
  | nil => cases sameName name k <;> rfl
  | cons e es ih =>
    rw [List.filter_cons, List.find?_cons]
    cases he : sameName e.1 name with
    | true =>
      rw [sameName_congr_left he k]
      rw [Bool.not_true, if_neg Bool.false_ne_true, ih]
      cases sameName name k <;> rfl
    | false =>
      rw [Bool.not_false, if_pos rfl, List.find?_cons]
      cases hk : sameName e.1 k with
      | false => exact ih
      | true =>
        have hn : sameName name k = false := by
          rw [sameName_comm, ← sameName_congr_left hk name, he]
        rw [hn]
        rfl

def erase (m : OrderedMap α) (key : String) : OrderedMap α :=
  ⟨m.entries.filter fun e => !(e.1 == key)⟩

theorem get?_erase (m : OrderedMap α) (key k : String) :
    (m.erase key).get? k = if key = k then none else m.get? k := by
  simp only [get?, erase]
  induction m.entries with
  | nil => simp
  | cons e es ih =>
    rw [List.filter_cons, List.find?_cons]
    cases he : e.1 == key with
    | true =>
      rw [Bool.not_true, if_neg Bool.false_ne_true, ih]
      by_cases h : key = k
      · simp [h]
      · have hk : (e.1 == k) = false := by
          rw [beq_iff_eq.1 he]
          exact beq_eq_false_iff_ne.2 h
        rw [hk]
    | false =>
      rw [Bool.not_false, if_pos rfl, List.find?_cons]
      cases hk : e.1 == k with
      | false => exact ih
      | true =>
        have h : key ≠ k := by
          rintro rfl
          exact Bool.false_ne_true (he.symm.trans hk)
        simp [h]

/-- Changes the value of the first key that is a name up to letter case. -/
def updateFirst (name : String) (f : α → α) : List (String × α) → List (String × α)
  | [] => []
  | e :: es => if sameName e.1 name then (e.1, f e.2) :: es else e :: updateFirst name f es

def update (m : OrderedMap α) (name : String) (f : α → α) : OrderedMap α :=
  ⟨updateFirst name f m.entries⟩

theorem keys_updateFirst (name : String) (f : α → α) (es : List (String × α)) :
    (updateFirst name f es).map (·.1) = es.map (·.1) := by
  induction es with
  | nil => rfl
  | cons e es ih => by_cases h : sameName e.1 name <;> simp [updateFirst, h, ih]

theorem keys_update (m : OrderedMap α) (name : String) (f : α → α) :
    (m.update name f).keys = m.keys := keys_updateFirst name f m.entries

theorem find?_update (m : OrderedMap α) (name k : String) (f : α → α) :
    (m.update name f).find? k = if sameName name k then (m.find? k).map f else m.find? k := by
  simp only [find?, lookup?, update]
  induction m.entries with
  | nil => simp [updateFirst]
  | cons e es ih =>
    unfold updateFirst
    cases he : sameName e.1 name with
    | true =>
      rw [← sameName_congr_left he k]
      cases hk : sameName e.1 k <;> simp [hk]
    | false =>
      cases hk : sameName e.1 k with
      | false => simpa [List.find?_cons, hk] using ih
      | true =>
        have hn : sameName name k = false := by
          rw [sameName_comm, ← sameName_congr_left hk name, he]
        simp [hk, hn]

end OrderedMap

end SqlAudit
