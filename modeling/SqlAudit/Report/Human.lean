import SqlAudit.Report.Basic

/-!
The report for a terminal: every finding with the line it starts on and marks under its range. Marks
stay within the line, and there is at least one.
-/

namespace SqlAudit

def linePieces : List Char → List (List Char)
  | [] => [[]]
  | c :: rest =>
    if c = '\n' then [] :: linePieces rest
    else
      match linePieces rest with
      | [] => [[c]]
      | piece :: pieces => (c :: piece) :: pieces

def withoutReturn (line : List Char) : List Char :=
  if line.getLast? = some '\r' then line.dropLast else line

/-- The lines of a text without their ends. A last line without an end keeps all its characters, and
is none if it has none. -/
def textLines (s : List Char) : List (List Char) :=
  let pieces := linePieces s
  let last := (pieces.getLast?.filter fun line => !line.isEmpty).toList
  pieces.dropLast.map withoutReturn ++ last

namespace Severity

def coloured : Severity → String
  | error => "\x1b[31merror\x1b[0m"
  | warning => "\x1b[33mwarning\x1b[0m"
  | info => "\x1b[34minfo\x1b[0m"
  | hint => "\x1b[36mhint\x1b[0m"

end Severity

namespace Range

/-- How many characters of a line of the given length to mark: those of the range, or all to the end
of the line where the range goes on. -/
def markCount (r : Range) (length : Nat) : Nat :=
  let available := length - r.start.column
  let wanted := if r.stop.line = r.start.line then r.stop.column - r.start.column else available
  max 1 (min wanted available)

end Range

namespace Report

def repeated (n : Nat) (c : Char) : String := String.ofList (List.replicate n c)

def padded (n : Nat) : String :=
  let digits := toString n
  repeated (3 - digits.length) ' ' ++ digits

def excerpt (lines : List (List Char)) (r : Range) : String :=
  match lines[r.start.line]? with
  | none => ""
  | some line =>
    "   |\n" ++ padded r.start.lineNumber ++ " | " ++ String.ofList line ++ "\n" ++
      "   | " ++ repeated r.start.column ' ' ++ repeated (r.markCount line.length) '^' ++ "\n"

def humanFinding (file : String) (lines : List (List Char)) (f : Finding) : String :=
  f.severity.coloured ++ "[" ++ f.rule.code ++ "]: " ++ f.message ++ "\n" ++
    "  --> " ++ file ++ ":" ++ toString f.range.start.lineNumber ++ ":" ++
    toString f.range.start.columnNumber ++ "\n" ++
    excerpt lines f.range ++
    (match f.help with
      | some help => "   = help: " ++ help ++ "\n"
      | none => "") ++
    "\n"

def human (file text : String) (findings : List Finding) : String :=
  String.join (findings.map (humanFinding file (textLines text.toList)))

end Report

end SqlAudit
