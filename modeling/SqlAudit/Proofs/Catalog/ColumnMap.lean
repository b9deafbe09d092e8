import Mathlib.Data.List.Induction
import SqlAudit.Proofs.Catalog.DistinctKeys
import SqlAudit.Proofs.Catalog.TableMap

/-!
The columns of a table as a map from names taken up to letter case. A column is stored under its very
spelling but found under every spelling, the first one that fits. So the columns are such a map just
as long as a name that is added, or given to a column, is spelled like the column of that name that
is there; a second spelling is stored behind the first one and never found.
-/

namespace SqlAudit

open Sql Text

namespace OrderedMap

variable {α : Type} {m : OrderedMap α}

theorem lookup?_eq_none {name : String} (h : m.lookup? name = none) :
    ∀ e ∈ m.entries, sameName e.1 name = false := by
  rw [← find?_eq_none, find?, h, Option.map_none]

theorem lookup?_congr {a b : String} (h : sameName a b = true) : m.lookup? a = m.lookup? b := by
  simp only [lookup?, sameName_congr_right h]

theorem lookup?_insert_of_contains {key : String} (h : m.contains key = true) (value : α)
    (k : String) :
    (m.insert key value).lookup? k =
      (m.lookup? k).map fun e => if e.1 == key then (e.1, value) else e := by
  have unmoved : (fun e : String × α => sameName e.1 k) ∘
      (fun e => if e.1 == key then (e.1, value) else e) = fun e => sameName e.1 k := by
    funext e
    by_cases same : e.1 = key <;> simp [same]
  rw [lookup?, insert, if_pos h, List.find?_map, unmoved, lookup?]

theorem lookup?_insert_of_new {key : String} (h : m.contains key = false) (value : α) (k : String) :
    (m.insert key value).lookup? k =
      (m.lookup? k).or (if sameName key k then some (key, value) else none) := by
  rw [lookup?, entries_insert_of_new h, List.find?_append, lookup?, List.find?_singleton]

/-- The value that a key finds after it has been set: the new one, unless another spelling of it
comes first. -/
def valueFor (m : OrderedMap α) (key : String) (value : α) : α :=
  match m.lookup? key with
  | some (first, old) => if first = key then value else old
  | none => value

theorem find?_insert (m : OrderedMap α) (key k : String) (value : α) :
    (m.insert key value).find? k =
      if sameName key k then some (m.valueFor key value) else m.find? k := by
  rw [valueFor]
  cases found : m.lookup? key with
  | none => rw [find?_insert_of_fresh (lookup?_eq_none found)]
  | some e =>
    obtain ⟨first, old⟩ := e
    cases there : m.contains key with
    | true =>
      rw [find?, lookup?_insert_of_contains there]
      split
      next same =>
        rw [← lookup?_congr same, found]
        by_cases h : first = key <;> simp [h]
      next other =>
        cases hk : m.lookup? k with
        | none => simp [find?, hk]
        | some e =>
          have apart : e.1 ≠ key := by
            rintro rfl
            exact other (lookup?_eq_some hk).2
          simp [find?, hk, apart]
    | false =>
      have apart : first ≠ key := by
        rintro rfl
        have mem := List.mem_map_of_mem (f := (·.1)) (lookup?_eq_some found).1
        rw [← Bool.not_eq_true, contains_iff_mem_keys] at there
        exact there mem
      rw [find?, lookup?_insert_of_new there]
      split
      next same => simp [← lookup?_congr same, found, apart]
      next => rw [Option.or_none, find?]

theorem DistinctNames.eq_of_sameName (h : m.DistinctNames) {a b : String} (ha : a ∈ m.keys)
    (hb : b ∈ m.keys) (same : sameName a b = true) : a = b := by
  have symm : Std.Symm fun a b => sameName a b = false :=
    ⟨fun a b hab => (sameName_comm b a).trans hab⟩
  by_contra apart
  have differ := List.Pairwise.forall h ha hb apart
  rw [differ] at same
  cases same

theorem DistinctNames.insert_iff (h : m.DistinctNames) (key : String) (value : α) :
    (m.insert key value).DistinctNames ↔ ∀ k ∈ m.keys, sameName k key = true → k = key := by
  rw [DistinctNames, keys_insert]
  split
  next there =>
    rw [contains_iff_mem_keys] at there
    exact ⟨fun _ k hk same => h.eq_of_sameName hk there same, fun _ => h⟩
  next new =>
    rw [contains_iff_mem_keys] at new
    constructor
    · intro distinct k hk same
      have differ := (List.pairwise_append.1 distinct).2.2 k hk key (List.mem_singleton_self key)
      rw [differ] at same
      cases same
    · intro spelling
      refine List.pairwise_append.2 ⟨h, List.pairwise_singleton _ _, fun k hk b hb => ?_⟩
      rw [List.mem_singleton.1 hb, ← Bool.not_eq_true]
      intro same
      exact new (spelling k hk same ▸ hk)

theorem DistinctNames.erase_eq (h : m.DistinctNames) {name key : String} {value : α}
    (found : m.lookup? name = some (key, value)) : m.erase key = m.eraseName name := by
  obtain ⟨mem, same⟩ := lookup?_eq_some found
  have hkey : key ∈ m.keys := List.mem_map_of_mem (f := (·.1)) mem
  rw [erase, OrderedMap.eraseName]
  congr 1
  refine List.filter_congr fun e he => ?_
  congr 1
  rw [Bool.eq_iff_iff, beq_iff_eq]
  constructor
  · rintro rfl
    exact same
  · intro hname
    have agree : sameName e.1 key = true := by rw [sameName_congr_right same, hname]
    exact h.eq_of_sameName (List.mem_map_of_mem he) hkey agree

end OrderedMap

namespace ColumnDef

theorem name_applyOption (c : ColumnDef) (option : ColumnOption) :
    (c.applyOption option).name = c.name := by
  cases option <;> rfl

theorem name_ofSpec (spec : ColumnSpec) : (ofSpec spec).name = spec.name.value :=
  List.foldlRecOn spec.options applyOption (motive := fun c => c.name = spec.name.value) rfl
    fun c h option _ => (c.name_applyOption option).trans h

end ColumnDef

namespace TableDef

/-- A table as adding columns and changing them builds it. -/
inductive Reached : TableDef → Prop
  | table (name : TableName) : Reached (.table name)
  | view (name : TableName) : Reached (.view name)
  | addColumn {t : TableDef} (c : ColumnDef) (h : Reached t) : Reached (t.addColumn c)
  | applyChange {t : TableDef} (change : TableChange) (h : Reached t) : Reached (t.applyChange change)

variable {t : TableDef}

theorem Reached.wellFormed (h : t.Reached) : t.WellFormed := by
  induction h with
  | table name => exact wellFormed_table name
  | view name => exact wellFormed_view name
  | addColumn c _ ih => exact ih.addColumn c
  | applyChange change _ ih => exact ih.applyChange change

def DistinctNames (t : TableDef) : Prop := t.columns.DistinctNames

/-- No column has a name in another spelling. -/
def KeepsSpelling (t : TableDef) (name : String) : Prop :=
  ∀ key ∈ t.columnNames, sameName key name = true → key = name

def foundFor (t : TableDef) (c : ColumnDef) : ColumnDef := t.columns.valueFor c.name c

/-! ### What is found -/

theorem column?_addColumn (t : TableDef) (c : ColumnDef) (name : String) :
    (t.addColumn c).column? name =
      if sameName c.name name then some (t.foundFor c) else t.column? name :=
  t.columns.find?_insert c.name name c

theorem WellFormed.foundFor_eq_iff (h : t.WellFormed) (c : ColumnDef) :
    t.foundFor c = c ↔ ∀ first ∈ t.columns.lookup? c.name, first.1 = c.name := by
  rw [foundFor, OrderedMap.valueFor]
  cases found : t.columns.lookup? c.name with
  | none => simp
  | some e =>
    obtain ⟨first, old⟩ := e
    have keyed : first = old.name := h _ (OrderedMap.lookup?_eq_some found).1
    simp only [Option.mem_some_iff, forall_eq']
    constructor
    · intro same
      by_contra apart
      rw [if_neg apart] at same
      rw [keyed, same] at apart
      exact apart rfl
    · intro same
      rw [if_pos same]

theorem column?_addColumn_iff (h : t.WellFormed) (c : ColumnDef) :
    (∀ name, (t.addColumn c).column? name =
        if sameName c.name name then some c else t.column? name) ↔
      ∀ first ∈ t.columns.lookup? c.name, first.1 = c.name := by
  rw [← h.foundFor_eq_iff]
  simp only [column?_addColumn]
  constructor
  · intro law
    have own := law c.name
    rw [sameName_refl, if_pos rfl, if_pos rfl] at own
    exact Option.some.inj own
  · intro found name
    rw [found]

/-! ### Distinct names -/

theorem DistinctNames.addColumn_iff (h : t.DistinctNames) (c : ColumnDef) :
    (t.addColumn c).DistinctNames ↔ t.KeepsSpelling c.name :=
  OrderedMap.DistinctNames.insert_iff h c.name c

theorem DistinctNames.dropColumn (h : t.DistinctNames) (name : String) :
    (t.dropColumn name).DistinctNames := OrderedMap.DistinctNames.eraseName h name

theorem DistinctNames.renameColumn_iff (h : t.DistinctNames) (old new : String) :
    (t.renameColumn old new).DistinctNames ↔
      (t.hasColumn old = true → (t.dropColumn old).KeepsSpelling new) := by
  rw [hasColumn, column?, OrderedMap.find?, Option.isSome_map, renameColumn]
  cases found : t.columns.lookup? old with
  | none => simpa using h
  | some e =>
    obtain ⟨key, c⟩ := e
    have erased : { t with columns := t.columns.erase key } = t.dropColumn old := by
      rw [TableDef.dropColumn, OrderedMap.DistinctNames.erase_eq h found]
    simp only [erased, Option.isSome_some, forall_const]
    exact (h.dropColumn old).addColumn_iff { c with name := new }

end TableDef

/-- A change brings no second spelling of the name of a column. -/
def Sql.TableChange.KeepsSpelling (t : TableDef) : TableChange → Prop
  | .addColumn column _ => t.KeepsSpelling column.name.value
  | .renameColumn old new =>
    t.hasColumn old.value = true → (t.dropColumn old.value).KeepsSpelling new.value
  | .dropColumn _ | .renameTable _ | .other => True

namespace TableDef

variable {t : TableDef}

theorem DistinctNames.applyChange_iff (h : t.DistinctNames) (change : TableChange) :
    (t.applyChange change).DistinctNames ↔ change.KeepsSpelling t := by
  cases change with
  | addColumn column _ =>
    rw [TableChange.KeepsSpelling, ← ColumnDef.name_ofSpec]
    exact h.addColumn_iff (.ofSpec column)
  | dropColumn name => exact iff_of_true (h.dropColumn name.value) trivial
  | renameColumn old new => exact h.renameColumn_iff old.value new.value
  | renameTable | other => exact iff_of_true h trivial

/-- Changes keep the names distinct all along if each of them, where its turn comes, brings no second
spelling. -/
theorem DistinctNames.applyChanges_iff (h : t.DistinctNames) (changes : List TableChange) :
    (∀ done, done <+: changes → (done.foldl applyChange t).DistinctNames) ↔
      ∀ done change, done ++ [change] <+: changes →
        change.KeepsSpelling (done.foldl applyChange t) := by
  constructor
  · intro distinct done change ahead
    have before := distinct done ((List.prefix_append done [change]).trans ahead)
    have after := distinct (done ++ [change]) ahead
    rw [List.foldl_append] at after
    exact (before.applyChange_iff change).1 after
  · intro spelling done
    induction done using List.reverseRecOn with
    | nil => exact fun _ => h
    | append_singleton done change ih =>
      intro ahead
      have before := ih ((List.prefix_append done [change]).trans ahead)
      rw [List.foldl_append]
      exact (before.applyChange_iff change).2 (spelling done change ahead)

/-! ### The columns as a map -/

/-- After a column has been added its name finds it under every spelling, and every other name finds
what it found, just when the first column of the name that is there is spelled like it; otherwise
that column is still found. The names of columns stay distinct just when nothing brings a second
spelling of one of them. -/
theorem columns_map_iff (reached : t.Reached) :
    (∀ c name, (t.addColumn c).column? name =
        if sameName c.name name then some (t.foundFor c) else t.column? name) ∧
      (∀ c, (∀ name, (t.addColumn c).column? name =
            if sameName c.name name then some c else t.column? name) ↔
          ∀ first ∈ t.columns.lookup? c.name, first.1 = c.name) ∧
      (t.DistinctNames → ∀ c, (t.addColumn c).DistinctNames ↔ t.KeepsSpelling c.name) ∧
      (t.DistinctNames → ∀ changes : List TableChange,
        (∀ done, done <+: changes → (done.foldl applyChange t).DistinctNames) ↔
          ∀ done change, done ++ [change] <+: changes →
            change.KeepsSpelling (done.foldl applyChange t)) :=
  ⟨t.column?_addColumn, column?_addColumn_iff reached.wellFormed, fun h => h.addColumn_iff,
    fun h => h.applyChanges_iff⟩

/-- A table with the columns `ID` and `label`; `label` had another name, and a third column has been
dropped. -/
def relabelled : TableDef :=
  ((((table (.plain "t")).addColumn (.of "ID" "INT")).addColumn (.of "name" "TEXT")).addColumn
      (.of "note" "TEXT")).applyChange (.dropColumn ⟨"NOTE", none, none⟩) |>.applyChange
    (.renameColumn ⟨"NAME", none, none⟩ ⟨"label", none, none⟩)

theorem relabelled_reached : relabelled.Reached :=
  .applyChange _ (.applyChange _ (.addColumn _ (.addColumn _ (.addColumn _ (.table _)))))

theorem relabelled_takes_label :
    relabelled.Reached ∧ relabelled.columnNames = ["ID", "label"] ∧
      ∀ name, (relabelled.addColumn (.of "label" "INT")).column? name =
        if sameName "label" name then some (.of "label" "INT") else relabelled.column? name :=
  ⟨relabelled_reached, by decide,
    ((columns_map_iff relabelled_reached).2.1 (.of "label" "INT")).2 (by decide)⟩

/-- A column `ID` that is added to a column `id` is not found, not even as `ID`; a column that is
given the name `ID` is not found by it either. -/
theorem second_spelling_hidden :
    let t := (table (.plain "t")).addColumn (.of "id" "INT")
    let added := t.addColumn (.of "ID" "TEXT")
    let renamed := (t.addColumn (.of "key" "TEXT")).renameColumn "key" "ID"
    added.columnNames = ["id", "ID"] ∧ sameName "id" "ID" = true ∧
      added.column? "ID" = some (.of "id" "INT") ∧ ColumnDef.of "id" "INT" ≠ .of "ID" "TEXT" ∧
      renamed.columnNames = ["id", "ID"] ∧ renamed.column? "ID" = some (.of "id" "INT") := by
  decide

end TableDef

end SqlAudit
