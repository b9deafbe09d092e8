import SqlAudit.Proofs.Catalog.Frame
import SqlAudit.Proofs.Catalog.TableCount

/-!
A new name for a table moves it: it is found under the new name, with the changes that come along
made to its columns, and no more under the old one. Of several new names the last one counts; without
a schema it is a name in the schema that the table's own name gives.
-/

namespace SqlAudit

open Sql Text

namespace TableDef

theorem kind_renameColumn (t : TableDef) (old new : String) :
    (t.renameColumn old new).kind = t.kind := by
  unfold renameColumn
  split <;> rfl

theorem kind_applyChange (t : TableDef) (change : TableChange) :
    (t.applyChange change).kind = t.kind := by
  cases change with
  | renameColumn old new => exact t.kind_renameColumn old.value new.value
  | addColumn | dropColumn | renameTable | other => rfl

theorem kind_applyChanges (changes : List TableChange) (t : TableDef) :
    (changes.foldl applyChange t).kind = t.kind :=
  List.foldlRecOn changes applyChange (motive := fun u : TableDef => u.kind = t.kind) rfl
    fun u h change _ => (u.kind_applyChange change).trans h

end TableDef

namespace Catalog

variable {c : Catalog} {n new : TableName} {t : TableDef}

theorem newName?_append (earlier later : List TableChange) :
    newName? (earlier ++ later) = (newName? later).or (newName? earlier) := by
  rw [newName?, List.filterMap_append, List.getLast?_append, newName?, newName?]

theorem newName?_eq_none {changes : List TableChange}
    (unnamed : ∀ path, .renameTable path ∉ changes) : newName? changes = none := by
  rw [newName?, List.getLast?_eq_none_iff, List.filterMap_eq_nil_iff]
  intro change hchange
  cases change with
  | renameTable path => exact absurd hchange (unnamed path)
  | addColumn | dropColumn | renameColumn | other => rfl

theorem newName?_of_last {later : List TableChange} (last : ∀ path, .renameTable path ∉ later)
    (earlier : List TableChange) (path : Path) :
    newName? (earlier ++ .renameTable path :: later) = some (.ofPath path) := by
  have one : newName? [.renameTable path] = some (.ofPath path) := rfl
  rw [List.append_cons, newName?_append, newName?_append, newName?_eq_none last, one,
    Option.none_or, Option.some_or]

theorem table?_moveTable (found : c.table? n = some t) (new k : TableName) :
    (c.moveTable n new).table? k =
      if c.sameTable k (new.inSchemaOf t.name) then some { t with name := new.inSchemaOf t.name }
      else if c.sameTable k n then none else c.table? k := by
  rw [moveTable, found]
  exact ((c.dropTable n).table?_addTable { t with name := new.inSchemaOf t.name } k).trans
    (by rw [table?_dropTable]; rfl)

theorem table?_alterTable (found : c.table? n = some t) {changes : List TableChange}
    (hnew : newName? changes = some new) (k : TableName) :
    (c.alterTable n changes).table? k =
      if c.sameTable k (new.inSchemaOf t.name) then
        some { changes.foldl TableDef.applyChange t with name := new.inSchemaOf t.name }
      else if c.sameTable k n then none
      else c.table? k := by
  have changed := c.table?_updateTable_self found fun t => changes.foldl TableDef.applyChange t
  have same (a b : TableName) :
      (c.updateTable n fun t => changes.foldl TableDef.applyChange t).sameTable a b =
        c.sameTable a b := rfl
  rw [alterTable, hnew]
  refine (table?_moveTable changed new k).trans ?_
  rw [(TableDef.applyChanges_spec changes t).1, same, same, table?_updateTable]
  split
  next => rfl
  next =>
    split
    next => rfl
    next => rfl

/-! ### The number of tables -/

/-- A table that is moved takes the place of another one that has the new name. -/
theorem WellFormed.length_tableNames_moveTable (h : c.WellFormed) (found : c.table? n = some t)
    (new : TableName) :
    (c.moveTable n new).tableNames.length +
        (if !c.sameTable (new.inSchemaOf t.name) n && c.hasTable (new.inSchemaOf t.name) then 1
          else 0) =
      c.tableNames.length := by
  have fewer := h.length_tableNames_dropTable found
  have added := (h.dropTable n).length_tableNames_addTable
    { t with name := new.inSchemaOf t.name }
  have replaced : (c.dropTable n).hasTable (new.inSchemaOf t.name) =
      (!c.sameTable (new.inSchemaOf t.name) n && c.hasTable (new.inSchemaOf t.name)) := by
    rw [hasTable, table?_dropTable]
    cases c.sameTable (new.inSchemaOf t.name) n <;> rfl
  rw [replaced, fewer] at added
  rw [Catalog.moveTable, found]
  exact added

theorem WellFormed.length_tableNames_alterTable (h : c.WellFormed) (found : c.table? n = some t)
    {changes : List TableChange} (hnew : newName? changes = some new) :
    (c.alterTable n changes).tableNames.length +
        (if !c.sameTable (new.inSchemaOf t.name) n && c.hasTable (new.inSchemaOf t.name) then 1
          else 0) =
      c.tableNames.length := by
  have spec := TableDef.applyChanges_spec changes
  have wf := h.updateTable n (fun t => (spec t).1) fun t => (spec t).2
  have changed := c.table?_updateTable_self found fun t => changes.foldl TableDef.applyChange t
  have count := wf.length_tableNames_moveTable changed new
  rw [length_tableNames_updateTable found, hasTable_updateTable, (spec t).1] at count
  rw [Catalog.alterTable, hnew]
  exact count

end Catalog

namespace Loader

theorem catalog_run_alter {l : Loader} {name : Path} {t : TableDef}
    (found : l.catalog.table? (.ofPath name) = some t) (changes : List TableChange)
    (operands : List Expr) (query : Option Query) (tail : List Expr) :
    (l.run (.define (.alter name changes) operands query tail)).catalog =
      l.catalog.alterTable (.ofPath name) changes := by
  have there : l.catalog.hasTable (.ofPath name) = true := by
    rw [Catalog.hasTable, found]
    rfl
  change (l.define query (.alter name changes)).catalog = _
  rw [define, if_pos there]
  rfl

/-- A table that is given a new name is found under it, with the changes of its columns made in
order, its kind kept and its own name replaced; it is not found under the old name, unless the two
are the same up to letter case. Other tables stay, apart from one of the new name, which it takes the
place of; so the catalog has as many tables as before, or one less where there was such a table. -/
theorem renamed_table_moves {l : Loader} (built : l.catalog.Built) {name : Path} {t : TableDef}
    (found : l.catalog.table? (.ofPath name) = some t) (earlier : List TableChange) (path : Path)
    {later : List TableChange} (last : ∀ other, .renameTable other ∉ later)
    (operands : List Expr) (query : Option Query) (tail : List Expr) :
    let c := l.catalog
    let changes := earlier ++ .renameTable path :: later
    let old := TableName.ofPath name
    let new := (TableName.ofPath path).inSchemaOf t.name
    let moved := { changes.foldl TableDef.applyChange t with name := new }
    let after := (l.run (.define (.alter name changes) operands query tail)).catalog
    after.table? new = some moved ∧ moved.kind = t.kind ∧
      (c.sameTable old new = false → after.table? old = none) ∧
      (∀ k, c.sameTable k old = false → c.sameTable k new = false →
        after.table? k = c.table? k) ∧
      (c.table? new = none ∨ c.sameTable old new = true →
        after.tableNames.length = c.tableNames.length) ∧
      (c.table? new ≠ none → c.sameTable old new = false →
        after.tableNames.length + 1 = c.tableNames.length) := by
  intro c changes old new moved after
  have hnew : Catalog.newName? changes = some (.ofPath path) :=
    Catalog.newName?_of_last last earlier path
  have ran : after = c.alterTable old changes :=
    catalog_run_alter found changes operands query tail
  have lookup := Catalog.table?_alterTable found hnew
  have count := built.wellFormed.length_tableNames_alterTable found hnew
  rw [← ran] at lookup count
  refine ⟨?_, TableDef.kind_applyChanges changes t, ?_, ?_, ?_, ?_⟩
  · rw [lookup, if_pos (c.sameTable_refl new)]
  · intro apart
    rw [lookup, apart, if_neg Bool.false_ne_true, if_pos (c.sameTable_refl old)]
  · intro k apart apart'
    rw [lookup, apart', apart, if_neg Bool.false_ne_true, if_neg Bool.false_ne_true]
  · intro stays
    have kept : (!c.sameTable new old && c.hasTable new) = false := by
      rcases stays with free | same
      · rw [Catalog.hasTable, free, Option.isSome_none, Bool.and_false]
      · rw [c.sameTable_comm new, same]
        rfl
    rwa [kept, if_neg Bool.false_ne_true] at count
  · intro taken apart
    have replaced : (!c.sameTable new old && c.hasTable new) = true := by
      rw [c.sameTable_comm new, apart, Catalog.hasTable, Option.isSome_iff_ne_none.2 taken]
      rfl
    rwa [replaced, if_pos rfl] at count

def staff : Loader :=
  ⟨.generic, (Catalog.initial.addTable ((TableDef.table (.plain "Users")).addColumn
    (.of "id" "INT"))).addTable (.table (.within "sales" "people")), []⟩

theorem staff_built : staff.catalog.Built :=
  .addTable (.table _) (.addTable (.addColumn _ (.table _)) (.ofDefault "public"))

/-- `ALTER TABLE USERS RENAME TO members, ADD COLUMN name TEXT, RENAME TO Sales.PEOPLE, DROP COLUMN
ID` takes the place of `sales.people`. -/
theorem staff_moves :
    let alteration : Definition := .alter [⟨"USERS", none, none⟩]
      [.renameTable [⟨"members", none, none⟩], .addColumn ⟨⟨"name", none, none⟩, "TEXT", []⟩ false,
        .renameTable [⟨"Sales", none, none⟩, ⟨"PEOPLE", none, none⟩],
        .dropColumn ⟨"ID", none, none⟩]
    let after := (staff.run (.define alteration [] none [])).catalog
    staff.catalog.Built ∧ (staff.catalog.table? (.plain "USERS")).isSome = true ∧
      after.table? (.within "Sales" "PEOPLE") =
        some ((TableDef.table (.within "Sales" "PEOPLE")).addColumn (.of "name" "TEXT")) ∧
      after.table? (.plain "USERS") = none ∧
      after.tableNames.length + 1 = staff.catalog.tableNames.length := by
  have found : staff.catalog.table? (.ofPath [⟨"USERS", none, none⟩]) =
      some ((TableDef.table (.plain "Users")).addColumn (.of "id" "INT")) := rfl
  have last : ∀ path, .renameTable path ∉ [TableChange.dropColumn ⟨"ID", none, none⟩] := by simp
  have moves := renamed_table_moves staff_built found
    [.renameTable [⟨"members", none, none⟩], .addColumn ⟨⟨"name", none, none⟩, "TEXT", []⟩ false]
    [⟨"Sales", none, none⟩, ⟨"PEOPLE", none, none⟩] last [] none []
  exact ⟨staff_built, by decide, moves.1, moves.2.2.1 (by decide),
    moves.2.2.2.2.2 (by decide) (by decide)⟩

end Loader

end SqlAudit
