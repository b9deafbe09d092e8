import SqlAudit.Proofs.Catalog.TableMap

/-!
What definitions leave alone. A definition touches the tables that it names: the one it makes or
changes, the ones it drops, and the one that a new name is given to. Under every other name the
catalog has after a statement, or after a script, what it had before.
-/

namespace SqlAudit

open Sql Text

namespace TableName

/-- A name without a schema, taken in the schema of another one. -/
def inSchemaOf (new n : TableName) : TableName := ⟨new.schema.or n.schema, new.name⟩

end TableName

namespace TableDef

theorem name_foldl {α : Type} {f : TableDef → α → TableDef} (keep : ∀ t a, (f t a).name = t.name)
    (as : List α) (t : TableDef) : (as.foldl f t).name = t.name := by
  induction as generalizing t with
  | nil => rfl
  | cons a as ih => exact (ih (f t a)).trans (keep t a)

theorem name_ofSpecs (name : TableName) (columns : List ColumnSpec) (keys : List Ident) :
    (ofSpecs name columns keys).name = name := by
  unfold ofSpecs
  refine (name_foldl ?_ keys _).trans (name_foldl ?_ columns (table name))
  · exact fun _ _ => rfl
  · exact fun _ _ => rfl

theorem name_ofNames (name : TableName) (columns : List String) :
    (ofNames name columns).name = name := by
  unfold ofNames
  refine name_foldl ?_ columns (view name)
  exact fun _ _ => rfl

end TableDef

/-- The tables that a definition makes, changes, drops or moves to. Of several new names for a table
the last one counts; without a schema it is a name in the schema that the table is in. -/
def Sql.Definition.tables : Definition → List TableName
  | .schema _ => []
  | .table name _ _ _ => [.ofPath name]
  | .view name _ _ => [.ofPath name]
  | .alter name changes =>
    .ofPath name :: (Catalog.newName? changes).toList.map (·.inSchemaOf (.ofPath name))
  | .drop names => names.map .ofPath

def Sql.Statement.tables : Statement → List TableName
  | .define definition _ _ _ => definition.tables
  | _ => []

namespace Catalog

/-- A catalog has the tables of another one, apart from those of some names. -/
structure ChangesOnly (names : List TableName) (c d : Catalog) : Prop where
  default_eq : d.defaultSchema = c.defaultSchema
  others : ∀ n, (∀ m ∈ names, c.sameTable n m = false) → d.table? n = c.table? n

namespace ChangesOnly

variable {c d e : Catalog} {names more : List TableName}

theorem sameTable_eq (h : ChangesOnly names c d) (n m : TableName) :
    d.sameTable n m = c.sameTable n m := by
  simp only [sameTable, schemaName, h.default_eq]

theorem refl (c : Catalog) : ChangesOnly [] c c := ⟨rfl, fun _ _ => rfl⟩

theorem trans (h : ChangesOnly names c d) (h' : ChangesOnly more d e) :
    ChangesOnly (names ++ more) c e := by
  refine ⟨h'.default_eq.trans h.default_eq, fun n apart => ?_⟩
  rw [List.forall_mem_append] at apart
  have hmore : ∀ m ∈ more, d.sameTable n m = false := by
    intro m hm
    rw [h.sameTable_eq]
    exact apart.2 m hm
  rw [h'.others n hmore, h.others n apart.1]

theorem mono (h : ChangesOnly names c d) (sub : names ⊆ more) : ChangesOnly more c d :=
  ⟨h.default_eq, fun n apart => h.others n fun m hm => apart m (sub hm)⟩

end ChangesOnly

variable (c : Catalog)

/-! ### Operations -/

theorem changesOnly_ensureSchema (name : String) : ChangesOnly [] c (c.ensureSchema name) :=
  ⟨c.defaultSchema_ensureSchema name, fun n _ => c.table?_ensureSchema name n⟩

theorem changesOnly_addTable (t : TableDef) : ChangesOnly [t.name] c (c.addTable t) where
  default_eq := c.defaultSchema_ensureSchema _
  others n apart := by
    rw [table?_addTable, apart t.name List.mem_cons_self, if_neg Bool.false_ne_true]

theorem changesOnly_dropTable (m : TableName) : ChangesOnly [m] c (c.dropTable m) where
  default_eq := rfl
  others n apart := by
    rw [table?_dropTable, apart m List.mem_cons_self, if_neg Bool.false_ne_true]

theorem changesOnly_updateTable (m : TableName) (f : TableDef → TableDef) :
    ChangesOnly [m] c (c.updateTable m f) where
  default_eq := rfl
  others n apart := by
    rw [table?_updateTable, apart m List.mem_cons_self, if_neg Bool.false_ne_true]

theorem changesOnly_dropTables (names : List Path) :
    ChangesOnly (names.map .ofPath) c (names.foldl (fun c n => c.dropTable (.ofPath n)) c) := by
  induction names generalizing c with
  | nil => exact .refl c
  | cons n names ih => exact (c.changesOnly_dropTable (.ofPath n)).trans (ih _)

variable {c}

theorem WellFormed.table_home (h : c.WellFormed) {n : TableName} {t : TableDef}
    (ht : c.table? n = some t) : sameName (c.schemaName t.name) (c.schemaName n) = true := by
  obtain ⟨e, he, hschema, key, hkey, _⟩ := exists_of_table?_eq_some ht
  have hhome : sameName (c.schemaName t.name) e.1 = true := (h.schemas e he).tables_home (key, t) hkey
  exact sameName_trans hhome hschema

theorem WellFormed.sameTable_inSchemaOf (h : c.WellFormed) {n : TableName} {t : TableDef}
    (ht : c.table? n = some t) (new k : TableName) :
    c.sameTable k (new.inSchemaOf t.name) = c.sameTable k (new.inSchemaOf n) := by
  have hname : (new.inSchemaOf t.name).name = (new.inSchemaOf n).name := rfl
  have hschema : sameName (c.schemaName (new.inSchemaOf t.name))
      (c.schemaName (new.inSchemaOf n)) = true := by
    cases hnew : new.schema with
    | none =>
      simp only [schemaName, TableName.inSchemaOf, hnew, Option.none_or]
      exact h.table_home ht
    | some schema => simp [schemaName, TableName.inSchemaOf, hnew]
  rw [sameTable, sameTable, hname, sameName_congr_right hschema]

theorem WellFormed.changesOnly_moveTable (h : c.WellFormed) (n new : TableName) :
    ChangesOnly [n, new.inSchemaOf n] c (c.moveTable n new) := by
  unfold Catalog.moveTable
  split
  next t ht =>
    have hmoved : ChangesOnly [n, new.inSchemaOf t.name] c
        ((c.dropTable n).addTable { t with name := new.inSchemaOf t.name }) :=
      (c.changesOnly_dropTable n).trans
        ((c.dropTable n).changesOnly_addTable { t with name := new.inSchemaOf t.name })
    refine ⟨hmoved.default_eq, fun k apart => hmoved.others k ?_⟩
    rw [List.forall_mem_cons, List.forall_mem_singleton] at apart ⊢
    rw [h.sameTable_inSchemaOf ht]
    exact apart
  next => exact (ChangesOnly.refl c).mono (List.nil_subset _)

theorem WellFormed.changesOnly_alterTable (h : c.WellFormed) (n : TableName)
    (changes : List TableChange) :
    ChangesOnly (n :: (newName? changes).toList.map (·.inSchemaOf n)) c
      (c.alterTable n changes) := by
  have hwell : (c.updateTable n fun t => changes.foldl TableDef.applyChange t).WellFormed :=
    h.updateTable n (fun t => (TableDef.applyChanges_spec changes t).1)
      fun t => (TableDef.applyChanges_spec changes t).2
  have hchanged := c.changesOnly_updateTable n fun t => changes.foldl TableDef.applyChange t
  unfold Catalog.alterTable
  cases newName? changes with
  | none => exact hchanged
  | some new => exact (hchanged.trans (hwell.changesOnly_moveTable n new)).mono (by simp)

end Catalog

namespace Loader

open Catalog

variable {l : Loader}

/-! ### Statements -/

theorem changesOnly_define (h : l.catalog.WellFormed) (query : Option Query)
    (definition : Definition) :
    ChangesOnly definition.tables l.catalog (l.define query definition).catalog := by
  cases definition with
  | schema name =>
    cases name with
    | none => exact .refl _
    | some name => exact l.catalog.changesOnly_ensureSchema name.value
  | table name columns keys ifNotExists =>
    have hname : (TableDef.ofSpecs (.ofPath name) columns keys).name = .ofPath name :=
      TableDef.name_ofSpecs _ _ _
    rw [Definition.tables, ← hname]
    exact l.catalog.changesOnly_addTable _
  | view name columns ifNotExists =>
    have hname : (TableDef.ofNames (.ofPath name) (viewColumns l.catalog columns query)).name =
        .ofPath name := TableDef.name_ofNames _ _
    rw [Definition.tables, ← hname]
    exact l.catalog.changesOnly_addTable _
  | alter name changes =>
    simp only [define]
    split
    · exact h.changesOnly_alterTable (.ofPath name) changes
    · exact (ChangesOnly.refl _).mono (List.nil_subset _)
  | drop names => exact l.catalog.changesOnly_dropTables names

theorem changesOnly_run (h : l.catalog.WellFormed) (s : Statement) :
    ChangesOnly s.tables l.catalog (l.run s).catalog := by
  cases s with
  | define definition operands query tail => exact changesOnly_define h query definition
  | query | insert | update | delete | explain | prepare | other => exact .refl _

/-- A script touches what its statements touch, each of them on its own. -/
theorem changesOnly_runAll (h : l.catalog.WellFormed) (statements : List Statement) :
    ChangesOnly (statements.flatMap Statement.tables) l.catalog (l.runAll statements).catalog := by
  induction statements generalizing l with
  | nil => exact .refl _
  | cons s statements ih =>
    rw [List.flatMap_cons]
    exact (changesOnly_run h s).trans (ih (h.run s))

/-! ### Scripts -/

/-- The statements that a script is read as: those of the whole, or of the pieces that can be
read. -/
def statementsOf (d : Dialect) (script : String) : List Statement :=
  match parse d script with
  | .ok statements => statements
  | .error _ => readable d (pieces script)

theorem eq_runAll_of_load {loaded : Loader} {script : String} (h : l.load script = .ok loaded) :
    loaded = l.runAll (statementsOf l.dialect script) := by
  rw [statementsOf]
  simp only [load_eq] at h
  cases hparse : parse l.dialect script with
  | ok statements =>
    rw [hparse] at h
    exact (Except.ok.inj h).symm
  | error e =>
    simp only [hparse] at h
    split at h
    · cases h
    · exact (Except.ok.inj h).symm

/-- Whatever a statement does, it does to the tables that it names: a table of any other name is
found as before. So a list of statements, and a script however it is read, leave every table that
none of them names. -/
theorem unnamed_tables_stay (built : l.catalog.Built) (n : TableName) :
    (∀ s : Statement, (∀ m ∈ s.tables, l.catalog.sameTable n m = false) →
      (l.run s).catalog.table? n = l.catalog.table? n) ∧
    (∀ statements : List Statement,
      (∀ s ∈ statements, ∀ m ∈ s.tables, l.catalog.sameTable n m = false) →
      (l.runAll statements).catalog.table? n = l.catalog.table? n) ∧
    ∀ (script : String) (loaded : Loader), l.load script = .ok loaded →
      (∀ s ∈ statementsOf l.dialect script, ∀ m ∈ s.tables, l.catalog.sameTable n m = false) →
      loaded.catalog.table? n = l.catalog.table? n := by
  have h : l.catalog.WellFormed := built.wellFormed
  have hscript : ∀ statements : List Statement,
      (∀ s ∈ statements, ∀ m ∈ s.tables, l.catalog.sameTable n m = false) →
      (l.runAll statements).catalog.table? n = l.catalog.table? n := by
    intro statements apart
    refine (changesOnly_runAll h statements).others n fun m hm => ?_
    obtain ⟨s, hs, hms⟩ := List.mem_flatMap.1 hm
    exact apart s hs m hms
  refine ⟨fun s apart => (changesOnly_run h s).others n apart, hscript, ?_⟩
  intro script loaded hload apart
  rw [eq_runAll_of_load hload]
  exact hscript _ apart

def shop : Loader :=
  ⟨.generic, (Catalog.initial.addTable (.table (.plain "orders"))).addTable
    (.table (.plain "users")), []⟩

/-- Makes a table, drops tables that are not there, and moves `users`; its first piece cannot be
read. -/
def reshaping : String :=
  "not sql; CREATE TABLE v (x INT); DROP TABLE a, b; " ++
    "ALTER TABLE USERS ADD COLUMN x INT, RENAME TO sales.people"

theorem reshaping_spares_orders :
    shop.catalog.Built ∧ (shop.load reshaping).isOk = true ∧
      ((statementsOf .generic reshaping).flatMap Statement.tables =
        [.plain "v", .plain "a", .plain "b", .plain "USERS", .within "sales" "people"]) ∧
      (shop.catalog.table? (.within "PUBLIC" "orders")).isSome = true ∧
      ∀ loaded, shop.load reshaping = .ok loaded →
        loaded.catalog.table? (.within "PUBLIC" "orders") =
          shop.catalog.table? (.within "PUBLIC" "orders") := by
  have built : shop.catalog.Built :=
    .addTable (.table _) (.addTable (.table _) (.ofDefault "public"))
  have apart : ∀ s ∈ statementsOf .generic reshaping, ∀ m ∈ s.tables,
      shop.catalog.sameTable (.within "PUBLIC" "orders") m = false := by decide +kernel
  have stays := (unnamed_tables_stay built (.within "PUBLIC" "orders")).2.2 reshaping
  exact ⟨built, by decide +kernel, by decide +kernel, by decide +kernel,
    fun loaded h => stays loaded h apart⟩

end Loader

end SqlAudit
