import SqlAudit.Json.Basic
import SqlAudit.Catalog.OrderedMap
import SqlAudit.Record

/-!
Reading domain values from JSON. A record is an object with named fields, unknown ones ignored and
no known one twice, or an array of the fields in order. A choice is the name of a case, or an
object whose only field has that name and no content. Whole numbers are written without sign,
fraction and exponent.
-/

namespace SqlAudit.Json

def repeatsKey (names : List String) (fields : List (String × Json)) : Bool :=
  let keys := (fields.map (·.1)).filter names.contains
  keys.length != keys.eraseDups.length

def record? (names : List String) : Json → Option (List (String × Json))
  | array items => if items.length ≤ names.length then some (names.zip items) else none
  | object fields =>
    if repeatsKey names fields then none else some (fields.filter (names.contains ·.1))
  | _ => none

def nullable {α : Type} (decode : Json → Option α) : Json → Option (Option α)
  | null => some none
  | v => (decode v).map some

/-- The name of a case: a text, or the only key of an object that has no content. -/
def case? : Json → Option String
  | string s => some s
  | object [(k, null)] => some k
  | _ => none

def decimal (digits : List Char) : Nat :=
  digits.foldl (fun n c => n * 10 + (c.toNat - '0'.toNat)) 0

def natBelow? (bound : Nat) : Json → Option Nat
  | number text =>
    let digits := text.toList
    if !digits.isEmpty && digits.all Char.isDigit && decimal digits < bound then
      some (decimal digits)
    else none
  | _ => none

def decoder : Decoder Json := ⟨record?, bool?, string?, natBelow? UInt64.size, case?⟩

def choice? {α : Type} (cases : List α) (name : α → String) : Json → Option α :=
  decoder.choice? cases name

/-- The entries of an object, a repeated key keeping its place and taking its last value. -/
def map? {α : Type} (decode : Json → Option α) : Json → Option (OrderedMap α)
  | object fields =>
    (fields.mapM fun f => (decode f.2).map (f.1, ·)).map fun entries =>
      entries.foldl (fun m e => m.insert e.1 e.2) .empty
  | _ => none

end SqlAudit.Json
