import SqlAudit.Text.Letter

/-!
Cutting a script into statements without reading it. A semicolon separates two statements unless it
stands in a quoted text, a text between dollar tags or a comment. What is not closed runs to the end;
only a comment leaves the last character of the script outside.
-/

namespace SqlAudit.Catalog

/-- The length of the rest of a quoted text with its closing quote; a doubled quote closes nothing. -/
def quotedLength (quote : Char) : List Char → Nat
  | [] => 0
  | [_] => 1
  | c :: d :: rest =>
    if c ≠ quote then 1 + quotedLength quote (d :: rest)
    else if d = quote then 2 + quotedLength quote rest
    else 1

def lineLength (s : List Char) : Nat := (s.takeWhile (· != '\n')).length

def commentLength : List Char → Nat
  | c :: d :: rest => if c = '*' ∧ d = '/' then 2 else 1 + commentLength (d :: rest)
  | _ => 0

def dollarTag? (s : List Char) : Option (List Char) :=
  let name := s.takeWhile fun c => c.isAlphanum || c == '_'
  match s.drop name.length with
  | '$' :: _ => some ('$' :: name ++ ['$'])
  | _ => none

def taggedLength (tag : List Char) : List Char → Nat
  | [] => 0
  | c :: rest => if tag.isPrefixOf (c :: rest) then tag.length else 1 + taggedLength tag rest

/-- How many characters after `c` belong with it: those of the text or comment that it opens. -/
def unitTail (c : Char) (rest : List Char) : Nat :=
  if c = '\x27' ∨ c = '"' ∨ c = '\x60' then quotedLength c rest
  else if c = '$' then
    match dollarTag? rest with
    | some tag => tag.length - 1 + taggedLength tag (rest.drop (tag.length - 1))
    | none => 0
  else if c = '-' ∧ rest.head? = some '-' then lineLength rest
  else if c = '/' ∧ rest.head? = some '*' then 1 + commentLength rest.tail
  else 0

def pushFront (c : Char) : List (List Char) → List (List Char)
  | [] => [[c]]
  | piece :: pieces => (c :: piece) :: pieces

/-- The pieces between separating semicolons; the first `inside` characters belong to a text or
comment that is open. -/
def cutPieces (inside : Nat) : List Char → List (List Char)
  | [] => [[]]
  | c :: rest =>
    match inside with
    | inside + 1 => pushFront c (cutPieces inside rest)
    | 0 =>
      if c = ';' then [] :: cutPieces 0 rest else pushFront c (cutPieces (unitTail c rest) rest)

/-- The statements of a script, without those that are blank. -/
def pieces (script : String) : List String :=
  ((cutPieces 0 script.toList).filter (!Text.isBlankText ·)).map String.ofList

end SqlAudit.Catalog
