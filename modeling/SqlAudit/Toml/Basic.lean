import SqlAudit.Record

/-!
TOML values. Numbers with a fraction and times have no use in a configuration, so they are kept as
they are written.
-/

namespace SqlAudit

inductive Toml
  | string (text : String)
  | integer (value : Int)
  | bool (value : Bool)
  | other (text : String)
  | array (items : List Toml)
  | table (entries : List (String × Toml))
  deriving Repr, Inhabited

namespace Toml

def string? : Toml → Option String
  | string s => some s
  | _ => none

def bool? : Toml → Option Bool
  | bool b => some b
  | _ => none

def whole? : Toml → Option Nat
  | integer n => n.toNat?
  | _ => none

def isEmpty : Toml → Bool
  | array items => items.isEmpty
  | table entries => entries.isEmpty
  | _ => false

def case? : Toml → Option String
  | string s => some s
  | table [(key, content)] => if content.isEmpty then some key else none
  | _ => none

/-- The fields of a record: those of a table, or the items of an array in the order of the fields;
what is left over says nothing. -/
def record? (names : List String) : Toml → Option (List (String × Toml))
  | array items => some (names.zip items)
  | table entries => some (entries.filter (names.contains ·.1))
  | _ => none

def decoder : Decoder Toml := ⟨record?, bool?, string?, whole?, case?⟩

def strings? : Toml → Option (List String)
  | array items => items.mapM string?
  | _ => none

end Toml

end SqlAudit
