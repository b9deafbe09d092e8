/-!
Records of the domain as they are written down. A notation, JSON or TOML, has values of its own; what
a record asks of it is how to find the fields and how to read the few kinds of values that the
fields hold.
-/

namespace SqlAudit

structure Decoder (V : Type) where
  record? : List String → V → Option (List (String × V))
  bool? : V → Option Bool
  string? : V → Option String
  whole? : V → Option Nat
  case? : V → Option String

namespace Decoder

variable {V α : Type}

def required (fields : List (String × V)) (name : String) (decode : V → Option α) : Option α :=
  match fields.find? (·.1 == name) with
  | some (_, v) => decode v
  | none => none

def defaulted (fields : List (String × V)) (name : String) (decode : V → Option α)
    (missing : α) : Option α :=
  match fields.find? (·.1 == name) with
  | some (_, v) => decode v
  | none => some missing

def choice? (d : Decoder V) (cases : List α) (name : α → String) (v : V) : Option α :=
  (d.case? v).bind fun s => cases.find? (name · == s)

end Decoder

end SqlAudit
