import SqlAudit.Proofs.Names.Columns

/-!
What the verdicts on columns report, apart from the help that they offer: the message names what is
missing, and the tables known to the check only decide whether there is one.
-/

namespace SqlAudit

open Sql Text

namespace Finding

def withoutHelp (f : Finding) : Finding := { f with help := none }

@[simp] theorem withoutHelp_suggesting (f : Finding) (candidates : List String) (name : String) :
    (Names.suggesting f candidates name).withoutHelp = f.withoutHelp := by
  unfold Names.suggesting
  split <;> rfl

/-- What a finding reports: all of it but its help. -/
def brief (f : Finding) : Rule × Severity × Range × String :=
  (f.rule, f.severity, f.range, f.message)

@[simp] theorem brief_error (rule : Rule) (range : Range) (message : String) :
    (error rule range message).brief = (rule, .error, range, message) := rfl

@[simp] theorem brief_warning (rule : Rule) (range : Range) (message : String) :
    (warning rule range message).brief = (rule, .warning, range, message) := rfl

@[simp] theorem brief_withHelp (f : Finding) (help : String) : (f.withHelp help).brief = f.brief :=
  rfl

@[simp] theorem brief_suggesting (f : Finding) (candidates : List String) (name : String) :
    (Names.suggesting f candidates name).brief = f.brief := by
  unfold Names.suggesting
  split <;> rfl

end Finding

namespace Names.ColumnCheck

variable (c : ColumnCheck)

theorem memberVerdict_briefs (table : String) (column : Ident) :
    (c.memberVerdict table column).map Finding.brief =
      if c.accepts table column then []
      else [(.columnNotFound, .error, column.range,
        "Column '" ++ column.value ++ "' not found in table '" ++ table ++ "'")] := by
  rw [memberVerdict, accepts]
  cases column.value.isEmpty || column.value == "*" with
  | true => rfl
  | false =>
    cases c.columnsFor table with
    | none => rfl
    | some columns => cases h : columns.any (sameName ·.name column.value) <;> simp [h]

def ambiguousMessage (column : String) (owners : List String) : String :=
  "Column '" ++ column ++ "' is ambiguous, found in tables: " ++ ", ".intercalate owners

theorem knownName_briefs (id : Ident) :
    (c.knownName id).map Finding.brief =
      if c.warnAmbiguous = true ∧ 2 ≤ (c.scope.owners id.value).length then
        [(.ambiguousColumn, .warning, id.range,
          ambiguousMessage id.value (c.scope.owners id.value))]
      else [] := by
  rw [knownName]
  rcases c.scope.owners id.value with _ | ⟨first, _ | ⟨second, more⟩⟩
  · simp
  · simp
  · cases c.warnAmbiguous <;> simp [ambiguousMessage]

theorem unknownName_briefs (id : Ident) :
    (c.unknownName id).map Finding.brief =
      if c.symbols.isTable id.value = true then
        [(.columnNotFound, .error, id.range, "'" ++ id.value ++
          "' is a table name, not a column. Did you mean '" ++ id.value ++ ".column_name'?")]
      else if c.scope.hasTables = true ∧ Lint.looksLikeColumn id.value = true then
        [(.columnNotFound, .error, id.range,
          "Column '" ++ id.value ++ "' not found in any referenced table")]
      else [] := by
  rw [unknownName]
  cases c.symbols.isTable id.value with
  | true => simp
  | false => cases c.scope.hasTables <;> cases Lint.looksLikeColumn id.value <;> simp

end Names.ColumnCheck

end SqlAudit
