import SqlAudit.Report.Human

/-!
The report of a finding, counted in words of 64 bits. There is no result if a sum is larger than a
word, if a difference that is not cut off at zero is below it, or if a text would be longer than memory
can hold.
-/

namespace SqlAudit.Report.Words

def largest : Nat := UInt64.size - 1

/-- The size of the longest text that memory can hold. -/
def longest : Nat := UInt64.size / 2 - 1

def add? (a b : Nat) : Option Nat := if a + b ≤ largest then some (a + b) else none

def sub? (a b : Nat) : Option Nat := if b ≤ a then some (a - b) else none

def repeated? (n : Nat) (c : Char) : Option String :=
  if n ≤ longest then some (repeated n c) else none

/-- How many characters a range asks to mark, as many as can be where it goes on behind its line. -/
def wanted (r : Range) : Nat :=
  if r.stop.line = r.start.line then r.stop.column - r.start.column else largest

def excerpt? (lines : List (List Char)) (r : Range) (lineNumber columnNumber : Nat) :
    Option String :=
  match lines[lineNumber - 1]? with
  | none => some ""
  | some line => do
    let blanks ← repeated? (columnNumber - 1) ' '
    let available := line.length - (← sub? columnNumber 1)
    let marks ← repeated? (max 1 (min (wanted r) available)) '^'
    return "   |\n" ++ padded lineNumber ++ " | " ++ String.ofList line ++ "\n" ++
      "   | " ++ blanks ++ marks ++ "\n"

def humanFinding? (file : String) (lines : List (List Char)) (f : Finding) : Option String := do
  let lineNumber ← add? f.range.start.line 1
  let columnNumber ← add? f.range.start.column 1
  let excerpt ← excerpt? lines f.range lineNumber columnNumber
  let help := match f.help with
    | some help => "   = help: " ++ help ++ "\n"
    | none => ""
  return f.severity.coloured ++ "[" ++ f.rule.code ++ "]: " ++ f.message ++ "\n" ++
    "  --> " ++ file ++ ":" ++ toString lineNumber ++ ":" ++ toString columnNumber ++ "\n" ++
    excerpt ++ help ++ "\n"

end SqlAudit.Report.Words
