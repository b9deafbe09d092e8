import SqlAudit.Catalog.Loader
import SqlAudit.Files.Basic
import SqlAudit.Files.Pattern

/-!
What running a command leaves: what it printed, in order, and how it ended. A run that fails keeps
what it printed before.
-/

namespace SqlAudit

inductive Printed
  | output (text : String)
  | message (text : String)
  | warning (text : String)
  deriving DecidableEq, Repr

inductive Failure
  | file (error : FileError)
  | pattern (error : PatternError) (position : Nat)
  | project
  | unknownCode (code : String)
  | noFiles
  | noSchema
  | twoSources
  | snapshot
  | script (path : String) (error : CatalogError)
  deriving DecidableEq, Repr

namespace Failure

def message : Failure → String
  | file e => e.message
  | pattern e position => e.message position
  | project => "invalid configuration file"
  | unknownCode code => "unknown diagnostic code '" ++ code ++ "'"
  | noFiles =>
    "No query files specified. Use positional arguments or configure in sqllint.toml"
  | noSchema => "No schema specified. Use --schema, --schema-dir or --catalog"
  | twoSources => "A catalog snapshot cannot be combined with schema files"
  | snapshot => CatalogError.snapshot.message
  | script path e => path ++ ": " ++ e.message

def help : Failure → String
  | unknownCode _ => "valid codes are listed in the JSON output's \"code\" field"
  | _ => ""

end Failure

inductive Ending
  | exit (code : Nat)
  | failed (failure : Failure)
  | misuse
  deriving DecidableEq, Repr

namespace Ending

def code : Ending → Nat
  | exit code => code
  | failed _ => 2
  | misuse => 2

end Ending

structure Outcome where
  printed : List Printed
  ending : Ending
  deriving DecidableEq, Repr

abbrev Task (m : Type → Type) := ExceptT Failure (StateT (List Printed) m)

namespace Task

variable {m : Type → Type} [Monad m]

def print (p : Printed) : Task m Unit := modify (· ++ [p])

def ofExcept {ε α : Type} (failure : ε → Failure) : Except ε α → Task m α
  | .ok a => pure a
  | .error e => throw (failure e)

def ask {α : Type} (answer : m α) : Task m α := ExceptT.lift (StateT.lift answer)

def outcome (t : Task m Nat) : m Outcome := do
  let (result, printed) ← t.run.run []
  return match result with
    | .ok code => ⟨printed, .exit code⟩
    | .error failure => ⟨printed, .failed failure⟩

end Task

end SqlAudit
