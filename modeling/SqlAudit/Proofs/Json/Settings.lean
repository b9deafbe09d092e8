import SqlAudit.Json.Settings
import SqlAudit.Proofs.Json.Compact
import SqlAudit.Proofs.Json.Numerals
import SqlAudit.Settings.Fields

/-!
Settings in JSON. An object gives a value to each field it names and leaves the others as they are;
the order of its fields and the keys that name no field are of no importance. As an object that is
written names all fields, settings are read back from it.
-/

namespace SqlAudit

/-! ### Objects -/

namespace Json

variable {V : Type}

theorem eraseDups_of_nodup {names : List String} (distinct : names.Nodup) :
    names.eraseDups = names := by
  induction names with
  | nil => rfl
  | cons name names ih =>
    obtain ⟨fresh, distinct⟩ := List.nodup_cons.1 distinct
    have others : names.filter (fun n => !n == name) = names := by
      rw [List.filter_eq_self]
      intro n hn
      simpa using ne_of_mem_of_not_mem hn fresh
    rw [List.eraseDups_cons, others, ih distinct]

theorem record?_object {names : List String} {fields : List (String × Json)}
    (once : ((fields.map (·.1)).filter names.contains).Nodup) :
    record? names (.object fields) = some (fields.filter (names.contains ·.1)) := by
  have single : repeatsKey names fields = false := by
    simp [repeatsKey, eraseDups_of_nodup once]
  rw [record?, single]
  rfl

theorem find?_of_mem {fields : List (String × V)} (distinct : (fields.map (·.1)).Nodup)
    {key : String} {v : V} (h : (key, v) ∈ fields) :
    fields.find? (·.1 == key) = some (key, v) := by
  induction fields with
  | nil => cases h
  | cons f fields ih =>
    rw [List.map_cons, List.nodup_cons] at distinct
    rcases List.mem_cons.1 h with rfl | further
    · exact List.find?_cons_of_pos (by simp)
    · have other : f.1 ≠ key := by
        rintro rfl
        exact distinct.1 (List.mem_map.2 ⟨_, further, rfl⟩)
      rw [List.find?_cons_of_neg (by simpa using other)]
      exact ih distinct.2 further

theorem find?_of_not_mem {fields : List (String × V)} {key : String}
    (h : ∀ v, (key, v) ∉ fields) : fields.find? (·.1 == key) = none := by
  rw [List.find?_eq_none]
  rintro ⟨k, v⟩ mem same
  rw [beq_iff_eq] at same
  subst same
  exact h v mem

end Json

namespace Settings

/-! ### Values -/

/-- How a value of a kind is written. A case is written by its name, alone or as the key of a field
that holds nothing, and a number must fit into 64 bits. -/
inductive Writes : (kind : ValueKind) → kind.Value → Json → Prop
  | flag (b : Bool) : Writes .flag b (.bool b)
  | severity (s : RuleSeverity) : Writes .severity s (.string s.label)
  | severityCase (s : RuleSeverity) : Writes .severity s (.object [(s.label, .null)])
  | letterCase (c : KeywordCase) : Writes .letterCase c (.string c.name)
  | letterCaseCase (c : KeywordCase) : Writes .letterCase c (.object [(c.name, .null)])
  | count {n : Nat} (fits : n < UInt64.size) : Writes .count n (.ofNat n)
  | text (t : String) : Writes .text t (.string t)

theorem Writes.read? {kind : ValueKind} {a : kind.Value} {v : Json} (h : Writes kind a v) :
    kind.read? Json.decoder v = some a := by
  cases h with
  | flag b => rfl
  | severity s => rcases s with (_ | _ | _ | _) | _ <;> rfl
  | severityCase s => rcases s with (_ | _ | _ | _) | _ <;> rfl
  | letterCase c => cases c <;> rfl
  | letterCaseCase c => cases c <;> rfl
  | count fits => exact Json.natBelow?_ofNat fits
  | text t => rfl

theorem Writes.unique {kind : ValueKind} {a b : kind.Value} {v : Json} (ha : Writes kind a v)
    (hb : Writes kind b v) : a = b :=
  Option.some.inj (ha.read?.symm.trans hb.read?)

/-! ### Objects that hold settings -/

/-- Fields of an object that are settings, none of them twice and each with a value of its kind,
among fields of any other name. -/
structure WellTyped (fields : List (String × Json)) : Prop where
  once : ((fields.map (·.1)).filter fieldNames.contains).Nodup
  typed : ∀ {kind : ValueKind} (f : Field kind) {v : Json},
    (f.key, v) ∈ fields → ∃ a, Writes kind a v

/-- The settings `base` with exactly the values that the fields of an object give. -/
structure Replaces (base s : Settings) (fields : List (String × Json)) : Prop where
  given : ∀ {kind : ValueKind} (f : Field kind) {v : Json},
    (f.key, v) ∈ fields → Writes kind (f.get s) v
  kept : ∀ {kind : ValueKind} (f : Field kind),
    (∀ v, (f.key, v) ∉ fields) → f.get s = f.get base

/-- At most one settings value has given replacements. -/
theorem Replaces.unique {base s t : Settings} {fields : List (String × Json)}
    (hs : Replaces base s fields) (ht : Replaces base t fields) : s = t := by
  apply ext_get
  intro kind f
  by_cases named : ∃ v, (f.key, v) ∈ fields
  · obtain ⟨v, mem⟩ := named
    exact (hs.given f mem).unique (ht.given f mem)
  · rw [not_exists] at named
    rw [hs.kept f named, ht.kept f named]

variable {fields : List (String × Json)}

theorem WellTyped.find?_of_mem (h : WellTyped fields) {kind : ValueKind} (f : Field kind) {v : Json}
    (mem : (f.key, v) ∈ fields) :
    (fields.filter (fieldNames.contains ·.1)).find? (·.1 == f.key) = some (f.key, v) := by
  have known : fieldNames.contains f.key = true := List.contains_iff_mem.2 f.key_mem_fieldNames
  have distinct := h.once
  rw [List.filter_map] at distinct
  exact Json.find?_of_mem distinct (List.mem_filter.2 ⟨mem, known⟩)

theorem WellTyped.exists_read (h : WellTyped fields) (base : Settings) {kind : ValueKind}
    (f : Field kind) :
    ∃ a, Decoder.defaulted (fields.filter (fieldNames.contains ·.1)) f.key
        (kind.read? Json.decoder) (f.get base) = some a ∧
      (∀ v, (f.key, v) ∈ fields → Writes kind a v) ∧
      ((∀ v, (f.key, v) ∉ fields) → a = f.get base) := by
  by_cases named : ∃ v, (f.key, v) ∈ fields
  · obtain ⟨v, mem⟩ := named
    obtain ⟨a, written⟩ := h.typed f mem
    refine ⟨a, ?_, fun w other => ?_, fun unnamed => absurd mem (unnamed v)⟩
    · rw [Decoder.defaulted, h.find?_of_mem f mem]
      exact written.read?
    · have same := (h.find?_of_mem f mem).symm.trans (h.find?_of_mem f other)
      simp only [Option.some.injEq, Prod.mk.injEq, true_and] at same
      exact same ▸ written
  · rw [not_exists] at named
    refine ⟨f.get base, ?_, fun v mem => absurd mem (named v), fun _ => rfl⟩
    rw [Decoder.defaulted, Json.find?_of_not_mem]
    intro v mem
    exact named v (List.mem_filter.1 mem).1

theorem WellTyped.exists_replaces (h : WellTyped fields) (base : Settings) :
    ∃ s, ofJsonOver? base (.object fields) = some s ∧ Replaces base s fields := by
  choose values read given kept using
    fun (kind : ValueKind) (f : Field kind) => h.exists_read base f
  refine ⟨ofValues values, ?_, ?_, ?_⟩
  · exact decode?_of_fields (Json.record?_object h.once) fun {kind} f => read kind f
  · intro kind f v mem
    rw [get_ofValues]
    exact given kind f v mem
  · intro kind f unnamed
    rw [get_ofValues]
    exact kept kind f unnamed

/-! ### Settings that are written -/

def ValueKind.write : (kind : ValueKind) → kind.Value → Json
  | flag, b => .bool b
  | severity, s => .string s.label
  | letterCase, c => .string c.name
  | count, n => .ofNat n
  | text, t => .string t

theorem exists_fields_toJson (s : Settings) :
    ∃ fields, s.toJson = .object fields ∧ fields.map (·.1) = fieldNames ∧
      ∀ {kind : ValueKind} (f : Field kind), (f.key, kind.write (f.get s)) ∈ fields := by
  refine ⟨_, rfl, rfl, fun f => ?_⟩
  cases f <;> simp [Field.key, Field.get, ValueKind.write]

theorem nodup_fieldNames : fieldNames.Nodup := by decide

theorem writes_write {s : Settings} (fits : s.maxDiagnostics < UInt64.size) {kind : ValueKind}
    (f : Field kind) : Writes kind (f.get s) (kind.write (f.get s)) := by
  cases kind with
  | flag => exact .flag _
  | severity => exact .severity _
  | letterCase => exact .letterCase _
  | count =>
    cases f with
    | maxDiagnostics => exact .count fits
  | text => exact .text _

theorem ofJson?_toJson {s : Settings} (fits : s.maxDiagnostics < UInt64.size) :
    ofJson? s.toJson = some s := by
  obtain ⟨fields, written, names, values⟩ := s.exists_fields_toJson
  have distinct : (fields.map (·.1)).Nodup := names ▸ nodup_fieldNames
  have single : ∀ {kind : ValueKind} (f : Field kind) {v : Json},
      (f.key, v) ∈ fields → v = kind.write (f.get s) := by
    intro kind f v mem
    have same := (Json.find?_of_mem distinct mem).symm.trans (Json.find?_of_mem distinct (values f))
    simpa using same
  have typed : WellTyped fields := by
    refine ⟨distinct.filter _, fun f v mem => ⟨f.get s, ?_⟩⟩
    rw [single f mem]
    exact writes_write fits f
  have own : Replaces {} s fields := by
    refine ⟨fun f v mem => ?_, fun f unnamed => absurd (values f) (unnamed _)⟩
    rw [single f mem]
    exact writes_write fits f
  obtain ⟨t, read, replaces⟩ := typed.exists_replaces {}
  rw [ofJson?, written, read, replaces.unique own]

theorem numerals_toJson (s : Settings) : s.toJson.Numerals := by
  simp [toJson, Json.Numerals, Json.FieldNumerals, Json.numerals_ofNat]

end Settings

end SqlAudit
