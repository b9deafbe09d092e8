/-!
JSON values. A number is kept as it is written, and an object as its fields in order, so that a
value says everything its text says except for spacing and escapes.
-/

namespace SqlAudit

inductive Json
  | null
  | bool (value : Bool)
  | number (text : String)
  | string (text : String)
  | array (items : List Json)
  | object (fields : List (String × Json))
  deriving Repr, Inhabited

namespace Json

def ofNat (n : Nat) : Json := number (toString n)

def ofOption {α : Type} (encode : α → Json) : Option α → Json
  | some a => encode a
  | none => null

def ofList {α : Type} (encode : α → Json) (items : List α) : Json := array (items.map encode)

def strings (texts : List String) : Json := ofList string texts

/-- The last value an object gives to a key. -/
def get? (key : String) : Json → Option Json
  | object fields => (fields.reverse.find? (·.1 == key)).map (·.2)
  | _ => none

def get (j : Json) (key : String) : Json := (j.get? key).getD null

def string? : Json → Option String
  | string s => some s
  | _ => none

def bool? : Json → Option Bool
  | bool b => some b
  | _ => none

def array? : Json → Option (List Json)
  | array items => some items
  | _ => none

def insertField (field : String × Json) : List (String × Json) → List (String × Json)
  | [] => [field]
  | f :: fs => if field.1 < f.1 then field :: f :: fs else f :: insertField field fs

mutual

def sorted : Json → Json
  | array items => array (sortedItems items)
  | object fields => object (sortedFields fields)
  | v => v

def sortedItems : List Json → List Json
  | [] => []
  | v :: vs => sorted v :: sortedItems vs

def sortedFields : List (String × Json) → List (String × Json)
  | [] => []
  | (k, v) :: fs => insertField (k, sorted v) (sortedFields fs)

end

end Json

end SqlAudit
