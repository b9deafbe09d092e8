import Mathlib
import SqlAudit.Command.Run
import SqlAudit.Proofs.Audit.Limit

/-!
The exit code of a check. A check first prepares its job and then checks the files of it one by one.
It counts the errors that it reports, so an error behind as many other findings of its file as are
shown does not count: the exit code depends on the limit unless some file has an error early enough.
-/

namespace SqlAudit

namespace Task

variable {m : Type → Type} [Monad m] [LawfulMonad m] {α β : Type}
variable {printed after last : List Printed}

def Yields (t : Task m α) (printed : List Printed) (a : α) (after : List Printed) : Prop :=
  t.run.run printed = pure (.ok a, after)

omit [LawfulMonad m] in
theorem yields_pure (a : α) : (pure a : Task m α).Yields printed a printed := rfl

theorem Yields.bind {t : Task m α} {next : α → Task m β} {a : α} {b : β}
    (first : t.Yields printed a after) (second : (next a).Yields after b last) :
    (t >>= next).Yields printed b last := by
  unfold Yields at *
  simp only [ExceptT.run_bind, StateT.run_bind, first, pure_bind]
  exact second

omit [LawfulMonad m] in
theorem yields_ofExcept_ok {ε : Type} (failure : ε → Failure) (a : α) :
    (ofExcept failure (.ok a) : Task m α).Yields printed a printed := rfl

theorem Yields.map {t : Task m α} {a : α} (h : t.Yields printed a after) (g : α → β) :
    (g <$> t).Yields printed (g a) after := by
  rw [map_eq_pure_bind]
  exact h.bind (yields_pure (g a))

theorem yields_print (p : Printed) :
    (print p : Task m Unit).Yields printed () (printed ++ [p]) := by
  change (Except.ok <$> (modify (· ++ [p]) : StateT (List Printed) m PUnit)).run printed = _
  simp

theorem yields_ask {answer : m α} {a : α} (h : answer = pure a) :
    (ask answer).Yields printed a printed := by
  simp [Yields, ask, h]

theorem yields_flatMapM {as : List α} {work : α → Task m (List β)} {result : α → List β}
    (each : ∀ a ∈ as, ∀ printed, ∃ after, (work a).Yields printed (result a) after)
    (printed : List Printed) :
    ∃ after, (as.flatMapM work).Yields printed (as.flatMap result) after := by
  induction as generalizing printed with
  | nil => exact ⟨printed, yields_pure []⟩
  | cons a as ih =>
    obtain ⟨between, first⟩ := each a List.mem_cons_self printed
    obtain ⟨after, rest⟩ := ih (fun b hb => each b (List.mem_cons_of_mem a hb)) between
    refine ⟨after, ?_⟩
    rw [List.flatMapM_cons]
    exact first.bind (rest.bind (yields_pure _))

theorem Yields.outcome {t : Task m Nat} {code : Nat} (h : t.Yields [] code after) :
    t.outcome = pure ⟨after, .exit code⟩ := by
  unfold Task.outcome
  rw [h, pure_bind]

end Task

def Project.limited (p : Project) (k : Nat) : Project :=
  { p with settings := { p.settings with maxDiagnostics := k } }

def CheckOptions.limited (o : CheckOptions) (k : Nat) : CheckOptions :=
  { o with maxDiagnostics := some k }

namespace Command

variable {m : Type → Type} [Monad m] [LawfulMonad m]

/-- What a check works on: the project with the options in place, the paths that it names and its
catalog. -/
structure Job where
  project : Project
  paths : List String
  catalog : Option Catalog
  deriving DecidableEq

def baseProject (f : Files m) (o : CheckOptions) : Task m Project :=
  match o.config with
  | some path => readProject f path
  | none => findProject f

def jobOf (f : Files m) (p : Project) : Task m Job := do
  warnOfDriver p
  if let some code := p.unknownCode? then throw (.unknownCode code)
  let paths ← expand f p.files
  if paths.isEmpty then throw .noFiles
  let c ← loadCatalog f p
  return ⟨p, paths, c⟩

def prepare (f : Files m) (o : CheckOptions) : Task m Job := do
  jobOf f ((← baseProject f o).withOptions o)

def checkAll (f : Files m) (quiet : Bool) (j : Job) : Task m Nat := do
  let findings ← j.paths.flatMapM (checkFile f j.project j.catalog)
  if !quiet then
    Task.print (.message (Report.summary (Finding.count .error findings)
      (Finding.count .warning findings) j.paths.length))
  return Report.exitCode findings

theorem jobOf_bind {α : Type} (f : Files m) (p : Project) (next : Job → Task m α) :
    jobOf f p >>= next = (do
      warnOfDriver p
      if let some code := p.unknownCode? then throw (.unknownCode code)
      let paths ← expand f p.files
      if paths.isEmpty then throw .noFiles
      let c ← loadCatalog f p
      next ⟨p, paths, c⟩) := by
  rw [jobOf, bind_assoc]
  refine bind_congr fun _ => ?_
  cases p.unknownCode? with
  | some code => simp
  | none =>
    simp only [bind_assoc]
    refine bind_congr fun paths => ?_
    cases paths.isEmpty with
    | true => simp
    | false => simp

theorem runCheck_eq (f : Files m) (quiet : Bool) (o : CheckOptions) :
    runCheck f quiet o = prepare f o >>= checkAll f quiet := by
  simp only [prepare, bind_assoc, jobOf_bind]
  rw [runCheck, baseProject]
  cases o.config with
  | some path => rfl
  | none => rfl

/-! ### One file, all files -/

theorem readFile_yields {f : Files m} {path text : String} (h : f.read path = pure (.ok text))
    (printed : List Printed) : (readFile f path).Yields printed text printed :=
  (Task.yields_ask h).bind (Task.yields_ofExcept_ok _ text)

theorem checkFile_yields {f : Files m} {path text : String} (h : f.read path = pure (.ok text))
    (p : Project) (c : Option Catalog) (printed : List Printed) :
    ∃ after, (checkFile f p c path).Yields printed (p.findings c text) after := by
  unfold checkFile
  cases silent : (p.findings c text).isEmpty with
  | true =>
    refine ⟨printed, (readFile_yields h printed).bind ?_⟩
    simp only [silent]
    exact Task.yields_pure _
  | false =>
    refine ⟨printed ++ [Report.print (p.format.getD .human) path text (p.findings c text)],
      (readFile_yields h printed).bind ?_⟩
    simp only [silent]
    exact (Task.yields_print _).bind (Task.yields_pure _)

/-- The exit code of a check of a job whose files have the given texts. -/
def Job.exitCode (j : Job) (text : String → String) : Nat :=
  Report.exitCode (j.paths.flatMap fun path => j.project.findings j.catalog (text path))

theorem checkAll_yields {f : Files m} {j : Job} {text : String → String}
    (readable : ∀ path ∈ j.paths, f.read path = pure (.ok (text path))) (quiet : Bool)
    (printed : List Printed) :
    ∃ after, (checkAll f quiet j).Yields printed (j.exitCode text) after := by
  obtain ⟨between, checked⟩ := Task.yields_flatMapM
    (fun path hpath => checkFile_yields (readable path hpath) j.project j.catalog) printed
  cases quiet with
  | true => exact ⟨between, checked.bind (Task.yields_pure _)⟩
  | false => exact ⟨_, checked.bind ((Task.yields_print _).bind (Task.yields_pure _))⟩

theorem runCheck_exits {f : Files m} {o : CheckOptions} {j : Job} {printed : List Printed}
    {text : String → String} (prepared : (prepare f o).Yields [] j printed)
    (readable : ∀ path ∈ j.paths, f.read path = pure (.ok (text path))) (quiet : Bool) :
    ∃ out, (runCheck f quiet o).outcome = pure ⟨out, .exit (j.exitCode text)⟩ := by
  obtain ⟨out, done⟩ := checkAll_yields readable quiet printed
  rw [runCheck_eq]
  exact ⟨out, (prepared.bind done).outcome⟩

/-! ### The limit -/

def Job.limited (j : Job) (k : Nat) : Job := { j with project := j.project.limited k }

theorem jobOf_limited (f : Files m) (p : Project) (k : Nat) :
    jobOf f (p.limited k) = (·.limited k) <$> jobOf f p := by
  rw [map_eq_pure_bind, jobOf_bind]
  rfl

theorem prepare_limited (f : Files m) (o : CheckOptions) (k : Nat) :
    prepare f (o.limited k) = (·.limited k) <$> prepare f o := by
  have base : baseProject f (o.limited k) = baseProject f o := rfl
  rw [prepare, prepare, map_bind, base]
  exact bind_congr fun base => jobOf_limited f (base.withOptions o) k

/-! ### Errors that come early enough -/

namespace Job

variable (j : Job) (text : String → String)

/-- The findings of a text before any limit, without those of disabled rules. -/
def due (text : String) : List Finding :=
  (audit (j.catalog.map Catalog.provider) j.project.auditSettings text).filter
    fun x => !j.project.disabledRules.contains x.rule

/-- Whether a file has an error of a rule that is not disabled. -/
def Broken : Prop :=
  ∃ path ∈ j.paths,
    ∃ x ∈ audit (j.catalog.map Catalog.provider) j.project.auditSettings (text path),
      x.isError = true ∧ x.rule ∉ j.project.disabledRules

/-- Whether a file has one with fewer than `k` findings before it. -/
def BreaksWithin (k : Nat) : Prop :=
  ∃ path ∈ j.paths, ∃ (i : Nat) (x : Finding),
    (k = 0 ∨ i < k) ∧ (j.due (text path))[i]? = some x ∧ x.isError = true

theorem mem_limit_iff {k : Nat} {all : List Finding} {x : Finding} :
    x ∈ Finding.limit k all ↔ ∃ i, (k = 0 ∨ i < k) ∧ all[i]? = some x := by
  unfold Finding.limit
  split
  next h => simp [h, List.mem_iff_getElem?]
  next h => simp [h, List.mem_iff_getElem?, List.getElem?_take]

theorem exitCode_eq_one_iff (k : Nat) :
    (j.limited k).exitCode text = 1 ↔ j.BreaksWithin text k := by
  have shown (path : String) : (j.limited k).project.findings (j.limited k).catalog (text path) =
      Finding.limit k (j.due (text path)) := rfl
  have code (found : List Finding) : Report.exitCode found = 1 ↔ ∃ x ∈ found, x.isError = true := by
    simp [Report.exitCode]
  rw [exitCode, code]
  simp only [List.mem_flatMap, shown, mem_limit_iff, BreaksWithin]
  constructor
  · rintro ⟨x, ⟨path, hpath, i, early, hx⟩, error⟩
    exact ⟨path, hpath, i, x, early, hx, error⟩
  · rintro ⟨path, hpath, i, x, early, hx, error⟩
    exact ⟨x, ⟨path, hpath, i, early, hx⟩, error⟩

theorem exitCode_zero_or_one : j.exitCode text = 0 ∨ j.exitCode text = 1 := by
  unfold exitCode Report.exitCode
  split
  · exact .inr rfl
  · exact .inl rfl

theorem breaksWithin_zero_iff : j.BreaksWithin text 0 ↔ j.Broken text := by
  have due (text : String) (x : Finding) : (∃ i : Nat, (j.due text)[i]? = some x) ↔
      x ∈ audit (j.catalog.map Catalog.provider) j.project.auditSettings text ∧
        x.rule ∉ j.project.disabledRules := by
    rw [← List.mem_iff_getElem?, Job.due, List.mem_filter]
    simp
  constructor
  · rintro ⟨path, hpath, i, x, _, hx, error⟩
    obtain ⟨found, enabled⟩ := (due (text path) x).1 ⟨i, hx⟩
    exact ⟨path, hpath, x, found, error, enabled⟩
  · rintro ⟨path, hpath, x, found, error, enabled⟩
    obtain ⟨i, hx⟩ := (due (text path) x).2 ⟨found, enabled⟩
    exact ⟨path, hpath, i, x, .inl rfl, hx, error⟩

theorem breaksWithin_one_iff :
    j.BreaksWithin text 1 ↔
      ∃ path ∈ j.paths, ∃ x, (j.due (text path)).head? = some x ∧ x.isError = true := by
  simp [BreaksWithin, List.head?_eq_getElem?]

variable {j text} in
theorem BreaksWithin.widen {k wider : Nat} (h : j.BreaksWithin text k)
    (widens : Finding.Widens k wider) : j.BreaksWithin text wider := by
  obtain ⟨path, hpath, i, x, early, hx, error⟩ := h
  refine ⟨path, hpath, i, x, ?_, hx, error⟩
  rcases widens with rfl | ⟨limited, le⟩
  · exact .inl rfl
  · omega

theorem exitCode_unlimited_iff : (j.limited 0).exitCode text = 1 ↔ j.Broken text :=
  (j.exitCode_eq_one_iff text 0).trans (j.breaksWithin_zero_iff text)

theorem exitCode_eq_unlimited_iff (k : Nat) :
    (j.limited k).exitCode text = (j.limited 0).exitCode text ↔
      (j.Broken text → j.BreaksWithin text k) := by
  have limited := (j.limited k).exitCode_zero_or_one text
  have unlimited := (j.limited 0).exitCode_zero_or_one text
  have shown : (j.limited k).exitCode text = 1 → (j.limited 0).exitCode text = 1 := by
    rw [exitCode_eq_one_iff, exitCode_eq_one_iff]
    exact fun early => early.widen (.inl rfl)
  rw [← exitCode_eq_one_iff, ← exitCode_unlimited_iff]
  omega

/-- A limit of one shows the least, and what it shows is shown under every limit. -/
theorem exitCode_constant_iff :
    (∀ k l, (j.limited k).exitCode text = (j.limited l).exitCode text) ↔
      (j.Broken text → j.BreaksWithin text 1) := by
  constructor
  · exact fun same => (j.exitCode_eq_unlimited_iff text 1).1 (same 1 0)
  · intro early
    have unlimited (k : Nat) : (j.limited k).exitCode text = (j.limited 0).exitCode text := by
      refine (j.exitCode_eq_unlimited_iff text k).2 fun broken => (early broken).widen ?_
      unfold Finding.Widens
      omega
    exact fun k l => (unlimited k).trans (unlimited l).symm

end Job

/-- A check whose files can be read ends with 1 exactly if some file has an error among the findings it
shows, and with 0 otherwise. Without a limit these are all errors of rules that are not disabled; the
exit code is the same under every limit exactly if there are none or a file begins with one. -/
theorem limit_decides_exit {f : Files m} {o : CheckOptions} {j : Job} {printed : List Printed}
    {text : String → String} (prepared : (prepare f o).Yields [] j printed)
    (readable : ∀ path ∈ j.paths, f.read path = pure (.ok (text path))) (quiet : Bool) :
    (∃ out, (runCheck f quiet o).outcome = pure ⟨out, .exit (j.exitCode text)⟩) ∧
    (∀ k, ∃ out, (runCheck f quiet (o.limited k)).outcome =
      pure ⟨out, .exit ((j.limited k).exitCode text)⟩) ∧
    (∀ k, ((j.limited k).exitCode text = 0 ∨ (j.limited k).exitCode text = 1) ∧
      ((j.limited k).exitCode text = 1 ↔ j.BreaksWithin text k) ∧
      ((j.limited k).exitCode text = (j.limited 0).exitCode text ↔
        (j.Broken text → j.BreaksWithin text k))) ∧
    ((j.limited 0).exitCode text = 1 ↔ j.Broken text) ∧
    ((∀ k l, (j.limited k).exitCode text = (j.limited l).exitCode text) ↔
      (j.Broken text →
        ∃ path ∈ j.paths, ∃ x, (j.due (text path)).head? = some x ∧ x.isError = true)) := by
  refine ⟨runCheck_exits prepared readable quiet, fun k => ?_,
    fun k => ⟨(j.limited k).exitCode_zero_or_one text, j.exitCode_eq_one_iff text k,
      j.exitCode_eq_unlimited_iff text k⟩,
    j.exitCode_unlimited_iff text, ?_⟩
  · have limited : (prepare f (o.limited k)).Yields [] (j.limited k) printed := by
      rw [prepare_limited]
      exact prepared.map _
    exact runCheck_exits limited readable quiet
  · rw [← Job.breaksWithin_one_iff]
    exact j.exitCode_constant_iff text

/-- A file that deletes from a table which the script of the schema does not create. -/
def deletion : Files Id where
  read path :=
    if path = "q.sql" then .ok "DELETE FROM ghost WHERE x = NULL"
    else if path = "schema.sql" then .ok "CREATE TABLE t (x INT)"
    else .error .missing
  present _ := false
  isFolder _ := false
  names _ := []
  folders := []

def deletionCatalog : Option Catalog :=
  ((Loader.start .generic).load "CREATE TABLE t (x INT)").toOption.map (·.catalog)

/-- The error stands behind a warning, which is all that a limit of one leaves. -/
theorem hidden_error_passes :
    let args (limit : String) :=
      ["check", "q.sql", "--schema", "schema.sql", "--max-diagnostics", limit]
    (audit (deletionCatalog.map Catalog.provider) { maxDiagnostics := 0 }
        "DELETE FROM ghost WHERE x = NULL").map (fun x => (x.rule, x.severity)) =
        [(.nullComparison, .warning), (.tableNotFound, .error)] ∧
      (run deletion (args "0")).ending = .exit 1 ∧ (run deletion (args "1")).ending = .exit 0 :=
  ⟨by decide +kernel, by decide +kernel, by decide +kernel⟩

theorem deletion_exits :
    let o : CheckOptions := { files := ["q.sql"], source := { schema := ["schema.sql"] } }
    let j : Job := ⟨{ files := ["q.sql"], schema := ["schema.sql"] }, ["q.sql"], deletionCatalog⟩
    let text := fun _ : String => "DELETE FROM ghost WHERE x = NULL"
    (prepare deletion o).Yields [] j [] ∧
      (∀ path ∈ j.paths, deletion.read path = pure (.ok (text path))) ∧
      (∃ out, (runCheck deletion true (o.limited 1)).outcome = pure ⟨out, .exit 0⟩) ∧
      (∃ out, (runCheck deletion true (o.limited 2)).outcome = pure ⟨out, .exit 1⟩) := by
  intro o j text
  have prepared : (prepare deletion o).Yields [] j [] := by
    have done : Id.run ((prepare deletion o).run.run []) = (.ok j, []) := by decide +kernel
    exact done
  have readable : ∀ path ∈ j.paths, deletion.read path = pure (.ok (text path)) := by
    intro path hpath
    rw [List.mem_singleton.1 hpath]
    rfl
  obtain ⟨_, exits, _⟩ := limit_decides_exit prepared readable true
  have passes : (j.limited 1).exitCode text = 0 := by decide +kernel
  have fails : (j.limited 2).exitCode text = 1 := by decide +kernel
  exact ⟨prepared, readable, passes ▸ exits 1, fails ▸ exits 2⟩

end Command

end SqlAudit
