import SqlAudit.Command.Run
import SqlAudit.Proofs.Text.Blanks

/-!
The names of drivers. A dialect that is known by its name is the dialect of the driver of that name.
The warning of an unknown driver says that the generic dialect is used; that is so unless blanks stand
around the name of another one, since blanks count for the warning and not for the dialect.
-/

namespace SqlAudit

open Text

namespace Dialect

def specialNames : List String := postgresqlNames ++ mysqlNames

theorem isSome_ofName?_iff (name : String) :
    (ofName? name).isSome = true ↔ lower name ∈ "generic" :: "" :: specialNames := by
  grind [ofName?, specialNames]

theorem trimBlanks_of_isSome {name : String} (h : (ofName? name).isSome = true) :
    trimBlanks name = name := by
  have noBlank : ("generic" :: "" :: specialNames).all (·.toList.all (!isBlank ·)) = true := by
    decide +kernel
  have key := List.all_eq_true.1 noBlank _ ((isSome_ofName?_iff name).1 h)
  exact trimBlanks_of_lower fun c hc => by simpa using List.all_eq_true.1 key c hc

theorem ofDriver_of_ofName? {driver : String} {d : Dialect} (h : ofName? driver = some d) :
    ofDriver driver = d := by
  have same := trimBlanks_of_isSome (Option.isSome_of_eq_some h)
  have apart : ∀ name ∈ "generic" :: "" :: postgresqlNames, name ∉ mysqlNames := by decide
  have special : ∀ name ∈ ["generic", ""], name ∉ postgresqlNames := by decide
  rw [ofDriver, same]
  rw [ofName?] at h
  grind

theorem ofDriver_eq_generic_iff (driver : String) :
    ofDriver driver = generic ↔ lower (trimBlanks driver) ∉ specialNames := by
  grind [ofDriver, specialNames]

/-- Whether a driver is the name of a dialect that is not generic, with blanks around it. -/
def PadsName (driver : String) : Prop :=
  trimBlanks driver ≠ driver ∧ lower (trimBlanks driver) ∈ specialNames

theorem unknown_generic_iff (driver : String) :
    (ofName? driver = none → ofDriver driver = generic) ↔ ¬PadsName driver := by
  rw [ofDriver_eq_generic_iff]
  constructor
  · rintro generic ⟨padded, special⟩
    refine generic (Option.not_isSome_iff_eq_none.1 fun known => ?_) special
    exact padded (trimBlanks_of_isSome known)
  · intro unpadded unknown special
    refine unpadded ⟨fun same => ?_, special⟩
    rw [same] at special
    have known := (isSome_ofName?_iff driver).2 (by simp [special])
    rw [unknown] at known
    cases known

end Dialect

theorem isSome_driverWarning?_iff (driver : String) :
    (driverWarning? driver).isSome = true ↔ driver ≠ "" ∧ Dialect.ofName? driver = none := by
  simp [driverWarning?]

/-- A driver that is known by the name of a dialect is handled as that dialect. One that is not known is
handled as the generic dialect, and so the warning that says so is true, exactly if it is not the
name of another dialect with blanks around it. -/
theorem driver_warning_true_iff (s : Settings) :
    (∀ d, Dialect.ofName? s.driver = some d → s.dialect = d) ∧
    ((Dialect.ofName? s.driver = none → s.dialect = .generic) ↔ ¬Dialect.PadsName s.driver) ∧
    (((driverWarning? s.driver).isSome = true → s.dialect = .generic) ↔
      ¬Dialect.PadsName s.driver) := by
  have empty : s.driver = "" → s.dialect = .generic := fun h => by rw [Settings.dialect, h]; rfl
  refine ⟨fun d => Dialect.ofDriver_of_ofName?, Dialect.unknown_generic_iff s.driver, ?_⟩
  rw [← Dialect.unknown_generic_iff, isSome_driverWarning?_iff]
  constructor
  · intro warned unknown
    by_cases none : s.driver = ""
    · exact empty none
    · exact warned ⟨none, unknown⟩
  · exact fun generic warned => generic warned.2

namespace Command

/-- A file with a quoted name that is no column of its table. -/
def quotedName : Files Id where
  read path :=
    if path = "q.sql" then .ok "SELECT \"nm\" FROM users"
    else if path = "schema.sql" then .ok "CREATE TABLE users (name TEXT)"
    else .error .missing
  present _ := false
  isFolder _ := false
  names _ := []
  folders := []

/-- Both drivers are said to be unknown, but with the first one the quoted name is a string. -/
theorem paddedDriver_warned :
    let outcome (driver : String) := run quotedName
      ["-q", "check", "q.sql", "--schema", "schema.sql", "--format", "json", "--driver", driver]
    Dialect.ofName? " mysql " = none ∧ Dialect.ofDriver " mysql " = .mysql ∧
      (outcome " mysql ").printed =
        [.warning "unknown driver, using the generic dialect driver=\" mysql \""] ∧
      (outcome " mysql ").ending = .exit 0 ∧
      (outcome "oracle").printed.head? =
        some (.warning "unknown driver, using the generic dialect driver=\"oracle\"") ∧
      (outcome "oracle").ending = .exit 1 :=
  ⟨by decide +kernel, by decide +kernel, by decide +kernel, by decide +kernel, by decide +kernel,
    by decide +kernel⟩

end Command

end SqlAudit
