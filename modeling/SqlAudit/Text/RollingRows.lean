/-!
The edit distance in two rows that take turns. The row of the characters read so far is kept, the one
for the next character is written over the row before, entry by entry, and the two change places. An
entry is read and written by its index; there is no result if an index ever lies outside its row or
its text.
-/

namespace SqlAudit.Text.RollingRows

def write? (row : Array Nat) (j entry : Nat) : Option (Array Nat) :=
  if j < row.size then some (row.setIfInBounds j entry) else none

/-- The entry at an index, from the one above it, the one before it and the one between them. -/
def cell? (c : Char) (t : Array Char) (above row : Array Nat) (j : Nat) : Option Nat := do
  let cost := if c ≠ (← t[j - 1]?) then 1 else 0
  return min (min ((← above[j]?) + 1) ((← row[j - 1]?) + 1)) ((← above[j - 1]?) + cost)

def writeCell? (c : Char) (t : Array Char) (above row : Array Nat) (j : Nat) :
    Option (Array Nat) := do
  write? row j (← cell? c t above row j)

def fill? (c : Char) (t : Array Char) (i : Nat) (above row : Array Nat) : Option (Array Nat) := do
  (List.range' 1 t.size).foldlM (writeCell? c t above) (← write? row 0 i)

/-- Writes the row of the next character over the older row, and lets the rows change places. -/
def pass? (s t : Array Char) (rows : Array Nat × Array Nat) (i : Nat) :
    Option (Array Nat × Array Nat) := do
  return (← fill? (← s[i - 1]?) t i rows.1 rows.2, rows.1)

def distance? (a b : String) : Option Nat :=
  let s := a.toList.toArray
  let t := b.toList.toArray
  if s.size = 0 then some t.size
  else if t.size = 0 then some s.size
  else do
    let start := (Array.range (t.size + 1), Array.replicate (t.size + 1) 0)
    let rows ← (List.range' 1 s.size).foldlM (pass? s t) start
    rows.1[t.size]?

end SqlAudit.Text.RollingRows
