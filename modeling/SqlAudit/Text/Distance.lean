import SqlAudit.Text.Case

/-!
The edit distance of two texts: the least number of insertions, deletions and substitutions of
single characters that turns one into the other. It is computed row by row; a row holds the
distances from one text to every suffix of the other, the longest suffix first. On top of it stands
the choice of the nearest of several names.
-/

namespace SqlAudit.Text

/-- The distances from the empty text to every suffix of `t`. -/
def emptyRow : List Char → List Nat
  | [] => [0]
  | _ :: t => (t.length + 1) :: emptyRow t

/-- The row of `c :: s` over the suffixes of `t`, given the row of `s`. -/
def extendRow (c : Char) : List Char → List Nat → List Nat
  | [], row => [row.headD 0 + 1]
  | d :: t, row =>
    let shorter := extendRow c t row.tail
    let substituted := row.tail.headD 0 + if c = d then 0 else 1
    min (min (row.headD 0 + 1) (shorter.headD 0 + 1)) substituted :: shorter

def distanceRow (t : List Char) : List Char → List Nat
  | [] => emptyRow t
  | c :: s => extendRow c t (distanceRow t s)

def distance (s t : String) : Nat := (distanceRow t.toList s.toList).headD 0

/-- Names farther away than this are never suggested. -/
def suggestionReach : Nat := 3

def scored (name candidate : String) : Option (Nat × String) :=
  let d := distance (lower name) (lower candidate)
  if d ≤ suggestionReach then some (d, candidate) else none

/-- The entry of least score, the first one among equals. -/
def leastScored : List (Nat × String) → Option (Nat × String)
  | [] => none
  | e :: rest =>
    match leastScored rest with
    | some best => if best.1 < e.1 then some best else some e
    | none => some e

def nearest (candidates : List String) (name : String) : Option String :=
  (leastScored (candidates.filterMap (scored name))).map (·.2)

end SqlAudit.Text
