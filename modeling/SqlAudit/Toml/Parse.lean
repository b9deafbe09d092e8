import SqlAudit.Toml.Scalar
import SqlAudit.Toml.Table

/-!
Reading TOML. A document is a list of pairs, of headers and of comments, one a line. A reader answers
with what it read and the characters after it.
-/

namespace SqlAudit.Toml

def isBlank (c : Char) : Bool := c == ' ' || c == '\t'

def skipBlanks (s : List Char) : List Char := s.dropWhile isBlank

def isPlain (c : Char) : Bool := c == '\t' || (0x20 ≤ c.toNat && c.toNat != 0x7F)

def newline? : List Char → Option (List Char)
  | '\n' :: rest => some rest
  | '\r' :: '\n' :: rest => some rest
  | _ => none

def skipComment : List Char → List Char
  | '#' :: rest => rest.dropWhile isPlain
  | s => s

def lineEnd? (s : List Char) : Option (List Char) :=
  match skipComment (skipBlanks s) with
  | [] => some []
  | rest => newline? rest

def skipLines : Nat → List Char → List Char
  | 0, s => s
  | fuel + 1, s =>
    match newline? (skipComment (skipBlanks s)) with
    | some rest => skipLines fuel rest
    | none => skipBlanks s

def skipAllLines (s : List Char) : List Char := skipLines (s.length + 1) s

/-! ### Strings -/

def codePoint? (n : Nat) (s : List Char) : Option (Char × List Char) :=
  let digits := s.take n
  let code := ofDigits 16 digits
  if digits.length = n && digits.all isHexDigit && code.isValidChar then
    some (Char.ofNat code, s.drop n)
  else none

def escape? : List Char → Option (Char × List Char)
  | 'b' :: rest => some ('\x08', rest)
  | 't' :: rest => some ('\t', rest)
  | 'n' :: rest => some ('\n', rest)
  | 'f' :: rest => some ('\x0c', rest)
  | 'r' :: rest => some ('\r', rest)
  | '"' :: rest => some ('"', rest)
  | '\\' :: rest => some ('\\', rest)
  | 'u' :: rest => codePoint? 4 rest
  | 'U' :: rest => codePoint? 8 rest
  | _ => none

def lineBody? (quote : Char) : Nat → List Char → Option (List Char × List Char)
  | 0, _ => none
  | _ + 1, [] => none
  | fuel + 1, c :: rest =>
    if c = quote then some ([], rest)
    else if c = '\\' ∧ quote = '"' then
      match escape? rest with
      | some (e, rest) => (lineBody? quote fuel rest).map fun r => (e :: r.1, r.2)
      | none => none
    else if isPlain c then (lineBody? quote fuel rest).map fun r => (c :: r.1, r.2)
    else none

/-- The rest of a string over several lines. Up to two quotes may stand before the closing ones, and
a backslash at the end of a line skips to the next character that is not blank. -/
def blockBody? (quote : Char) : Nat → List Char → Option (List Char × List Char)
  | 0, _ => none
  | _ + 1, [] => none
  | fuel + 1, c :: rest =>
    if c = quote then
      let count := ((c :: rest).takeWhile (· == quote)).length
      if count < 3 then (blockBody? quote fuel rest).map fun r => (c :: r.1, r.2)
      else
        let kept := min (count - 3) 2
        some (List.replicate kept quote, (c :: rest).drop (kept + 3))
    else if c = '\\' ∧ quote = '"' then
      match newline? (skipBlanks rest) with
      | some rest =>
        blockBody? quote fuel (rest.dropWhile fun c => isBlank c || c == '\n' || c == '\r')
      | none =>
        match escape? rest with
        | some (e, rest) => (blockBody? quote fuel rest).map fun r => (e :: r.1, r.2)
        | none => none
    else
      match newline? (c :: rest) with
      | some rest => (blockBody? quote fuel rest).map fun r => ('\n' :: r.1, r.2)
      | none =>
        if isPlain c then (blockBody? quote fuel rest).map fun r => (c :: r.1, r.2) else none

def lineString? (quote : Char) (s : List Char) : Option (String × List Char) :=
  (lineBody? quote (s.length + 1) s).map fun r => (String.ofList r.1, r.2)

/-- The rest of a string over several lines, as a text; an end of line at its start is not part of
it. -/
def blockString? (quote : Char) (s : List Char) : Option (String × List Char) :=
  let s := (newline? s).getD s
  (blockBody? quote (s.length + 1) s).map fun r => (String.ofList r.1, r.2)

def stringAfter? (quote : Char) : List Char → Option (String × List Char)
  | c :: d :: rest =>
    if c = quote ∧ d = quote then blockString? quote rest else lineString? quote (c :: d :: rest)
  | s => lineString? quote s

/-! ### Keys -/

def isKeyChar (c : Char) : Bool := c.isAlphanum || c == '-' || c == '_'

def key? : List Char → Option (String × List Char)
  | '"' :: rest => lineString? '"' rest
  | '\x27' :: rest => lineString? '\x27' rest
  | s =>
    let name := s.takeWhile isKeyChar
    if name.isEmpty then none else some (String.ofList name, s.drop name.length)

def path? : Nat → List Char → Option (List String × List Char)
  | 0, _ => none
  | fuel + 1, s =>
    match key? (skipBlanks s) with
    | none => none
    | some (key, rest) =>
      match skipBlanks rest with
      | '.' :: rest => (path? fuel rest).map fun r => (key :: r.1, r.2)
      | rest => some ([key], rest)

def maxDepth : Nat := 79

def keyPath? (s : List Char) : Option (List String × List Char) := path? maxDepth s

/-! ### Values -/

mutual

/-- A value; `depth` is how many more brackets may be opened. -/
def value? (depth : Nat) : Nat → List Char → Option (Toml × List Char)
  | 0, _ => none
  | fuel + 1, s =>
    match s with
    | '"' :: rest => (stringAfter? '"' rest).map fun r => (string r.1, r.2)
    | '\x27' :: rest => (stringAfter? '\x27' rest).map fun r => (string r.1, r.2)
    | '[' :: rest =>
      if depth = 0 then none
      else (items? (depth - 1) fuel rest).map fun r => (array r.1, r.2)
    | '\x7b' :: rest =>
      if depth = 0 then none
      else
        match skipBlanks rest with
        | '\x7d' :: rest => some (table [], rest)
        | rest =>
          match pairs? (depth - 1) fuel rest with
          | some (pairs, rest) => (ofPairs? pairs).map (·, rest)
          | none => none
    | _ =>
      let run := run s
      (scalar? run).map (·, s.drop run.length)

def items? (depth : Nat) : Nat → List Char → Option (List Toml × List Char)
  | 0, _ => none
  | fuel + 1, s =>
    match skipAllLines s with
    | ']' :: rest => some ([], rest)
    | s =>
      match value? depth fuel s with
      | none => none
      | some (v, rest) =>
        match skipAllLines rest with
        | ',' :: rest => (items? depth fuel rest).map fun r => (v :: r.1, r.2)
        | ']' :: rest => some ([v], rest)
        | _ => none

def pairs? (depth : Nat) : Nat → List Char → Option (List (List String × Toml) × List Char)
  | 0, _ => none
  | fuel + 1, s =>
    match keyPath? s with
    | some (path, '=' :: rest) =>
      match value? depth fuel (skipBlanks rest) with
      | none => none
      | some (v, rest) =>
        match skipBlanks rest with
        | ',' :: rest => (pairs? depth fuel rest).map fun r => ((path, v) :: r.1, r.2)
        | '\x7d' :: rest => some ([(path, v)], rest)
        | _ => none
    | _ => none

end

def pair? (s : List Char) : Option ((List String × Toml) × List Char) :=
  match keyPath? s with
  | some (path, '=' :: rest) =>
    match value? maxDepth (s.length + 1) (skipBlanks rest) with
    | some (v, rest) => (lineEnd? rest).map ((path, v), ·)
    | none => none
  | _ => none

def header? : List Char → Option (Section × List Char)
  | '[' :: s =>
    match keyPath? s with
    | some (path, ']' :: ']' :: rest) => (lineEnd? rest).map (⟨path, true, []⟩, ·)
    | _ => none
  | s =>
    match keyPath? s with
    | some (path, ']' :: rest) => (lineEnd? rest).map (⟨path, false, []⟩, ·)
    | _ => none

def sections? : Nat → Section → List Char → Option (List Section)
  | 0, _, _ => none
  | fuel + 1, current, s =>
    match skipBlanks s with
    | [] => some [current]
    | '[' :: rest =>
      match header? rest with
      | some (next, rest) => (sections? fuel next rest).map (current :: ·)
      | none => none
    | s =>
      match lineEnd? s with
      | some rest => sections? fuel current rest
      | none =>
        match pair? s with
        | some (pair, rest) =>
          sections? fuel { current with pairs := current.pairs ++ [pair] } rest
        | none => none

/-- The table of a document, `none` where it is malformed. A byte order mark at its start is not
part of it. -/
def parse? (text : String) : Option Toml :=
  let s := match text.toList with
    | '\ufeff' :: rest => rest
    | s => s
  (sections? (s.length + 1) ⟨[], false, []⟩ s).bind ofSections?

end SqlAudit.Toml
