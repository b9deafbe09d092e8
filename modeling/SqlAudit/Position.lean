/-!
Places in a text. Lines and columns are counted from zero and columns in characters. A range runs
from its first character to just after its last; a range with equal ends marks a point.
-/

namespace SqlAudit

structure Position where
  line : Nat
  column : Nat
  deriving DecidableEq, Repr, Inhabited

namespace Position

/-- The largest line or column that a position read from a location can hold. -/
def limit : Nat := UInt32.size - 1

/-- The position of a location counted from one; a location at zero counts as the first one. -/
def ofLocation (line column : Nat) : Position :=
  ⟨min (line - 1) limit, min (column - 1) limit⟩

def origin : Position := ⟨0, 0⟩

def before (a b : Position) : Bool :=
  a.line < b.line || (a.line == b.line && a.column < b.column)

def next (p : Position) (c : Char) : Position :=
  if c = '\n' then ⟨p.line + 1, 0⟩ else ⟨p.line, p.column + 1⟩

def after (p : Position) (s : List Char) : Position := s.foldl next p

/-- Puts an item behind all items that do not start later. -/
def insertOn {α : Type} (start : α → Position) (items : List α) (a : α) : List α :=
  let notLater (b : α) : Bool := !(start a).before (start b)
  items.takeWhile notLater ++ a :: items.dropWhile notLater

def sortOn {α : Type} (start : α → Position) (items : List α) : List α :=
  items.foldl (insertOn start) []

end Position

structure Range where
  start : Position
  stop : Position
  deriving DecidableEq, Repr, Inhabited

namespace Range

def point (p : Position) : Range := ⟨p, p⟩

def origin : Range := point .origin

def Stored (r : Range) : Prop :=
  r.start.line ≤ Position.limit ∧ r.start.column ≤ Position.limit ∧
    r.stop.line ≤ Position.limit ∧ r.stop.column ≤ Position.limit

instance (r : Range) : Decidable r.Stored := inferInstanceAs (Decidable (_ ∧ _ ∧ _ ∧ _))

end Range

end SqlAudit
