import SqlAudit.Json.Basic

/-!
Reading JSON. A text holds one value with blanks around it; strings must not hold bare control
characters, and a surrogate must be half of a pair. A reader answers with what it read and the
characters after it.
-/

namespace SqlAudit.Json

def isSpace (c : Char) : Bool := c == ' ' || c == '\n' || c == '\t' || c == '\r'

def skipSpace (s : List Char) : List Char := s.dropWhile isSpace

def hexValue? (c : Char) : Option Nat :=
  if c.isDigit then some (c.toNat - '0'.toNat)
  else if 'a' ≤ c && c ≤ 'f' then some (c.toNat - 'a'.toNat + 10)
  else if 'A' ≤ c && c ≤ 'F' then some (c.toNat - 'A'.toNat + 10)
  else none

def unit? : List Char → Option (Nat × List Char)
  | a :: b :: c :: d :: rest =>
    match hexValue? a, hexValue? b, hexValue? c, hexValue? d with
    | some a, some b, some c, some d => some (((a * 16 + b) * 16 + c) * 16 + d, rest)
    | _, _, _, _ => none
  | _ => none

/-- The character written by `\u` and what follows: one unit, or two for a surrogate pair. -/
def unicodeEscape? (s : List Char) : Option (Char × List Char) :=
  match unit? s with
  | none => none
  | some (n, rest) =>
    if 0xDC00 ≤ n && n ≤ 0xDFFF then none
    else if 0xD800 ≤ n && n ≤ 0xDBFF then
      match rest with
      | '\\' :: 'u' :: rest' =>
        match unit? rest' with
        | some (m, rest'') =>
          if 0xDC00 ≤ m && m ≤ 0xDFFF then
            some (Char.ofNat (0x10000 + (n - 0xD800) * 0x400 + (m - 0xDC00)), rest'')
          else none
        | none => none
      | _ => none
    else some (Char.ofNat n, rest)

def escape? (s : List Char) : Option (Char × List Char) :=
  match s with
  | '"' :: rest => some ('"', rest)
  | '\\' :: rest => some ('\\', rest)
  | '/' :: rest => some ('/', rest)
  | 'b' :: rest => some ('\x08', rest)
  | 'f' :: rest => some ('\x0c', rest)
  | 'n' :: rest => some ('\n', rest)
  | 'r' :: rest => some ('\r', rest)
  | 't' :: rest => some ('\t', rest)
  | 'u' :: rest => unicodeEscape? rest
  | _ => none

def stringBody? : Nat → List Char → Option (List Char × List Char)
  | 0, _ => none
  | _ + 1, [] => none
  | fuel + 1, c :: rest =>
    if c = '"' then some ([], rest)
    else if c = '\\' then
      match escape? rest with
      | some (e, rest') => (stringBody? fuel rest').map fun r => (e :: r.1, r.2)
      | none => none
    else if c.toNat < 0x20 then none
    else (stringBody? fuel rest).map fun r => (c :: r.1, r.2)

def stringAfterQuote? (s : List Char) : Option (String × List Char) :=
  (stringBody? (s.length + 1) s).map fun r => (String.ofList r.1, r.2)

def digits? (s : List Char) : Option (List Char × List Char) :=
  match s.span Char.isDigit with
  | ([], _) => none
  | r => some r

/-- The whole part of a number: zero, or digits that do not start with zero. -/
def whole? : List Char → Option (List Char × List Char)
  | '0' :: rest => some (['0'], rest)
  | s => digits? s

def fraction? : List Char → Option (List Char × List Char)
  | '.' :: rest => (digits? rest).map fun r => ('.' :: r.1, r.2)
  | s => some ([], s)

def exponent? : List Char → Option (List Char × List Char)
  | e :: rest =>
    if e == 'e' || e == 'E' then
      match rest with
      | '+' :: rest' => (digits? rest').map fun r => (e :: '+' :: r.1, r.2)
      | '-' :: rest' => (digits? rest').map fun r => (e :: '-' :: r.1, r.2)
      | _ => (digits? rest).map fun r => (e :: r.1, r.2)
    else some ([], e :: rest)
  | [] => some ([], [])

def number? (s : List Char) : Option (String × List Char) :=
  let (sign, s) := match s with
    | '-' :: rest => (['-'], rest)
    | _ => ([], s)
  match whole? s with
  | none => none
  | some (w, s) =>
    match fraction? s with
    | none => none
    | some (f, s) =>
      (exponent? s).map fun (e, s) => (String.ofList (sign ++ w ++ f ++ e), s)

mutual

def value? : Nat → List Char → Option (Json × List Char)
  | 0, _ => none
  | fuel + 1, s =>
    match skipSpace s with
    | 'n' :: 'u' :: 'l' :: 'l' :: rest => some (null, rest)
    | 't' :: 'r' :: 'u' :: 'e' :: rest => some (bool true, rest)
    | 'f' :: 'a' :: 'l' :: 's' :: 'e' :: rest => some (bool false, rest)
    | '"' :: rest => (stringAfterQuote? rest).map fun r => (string r.1, r.2)
    | '[' :: rest =>
      match skipSpace rest with
      | ']' :: rest' => some (array [], rest')
      | rest' => (items? fuel rest').map fun r => (array r.1, r.2)
    | '\x7b' :: rest =>
      match skipSpace rest with
      | '\x7d' :: rest' => some (object [], rest')
      | rest' => (fields? fuel rest').map fun r => (object r.1, r.2)
    | rest => (number? rest).map fun r => (number r.1, r.2)

def items? : Nat → List Char → Option (List Json × List Char)
  | 0, _ => none
  | fuel + 1, s =>
    match value? fuel s with
    | none => none
    | some (v, rest) =>
      match skipSpace rest with
      | ',' :: rest' => (items? fuel rest').map fun r => (v :: r.1, r.2)
      | ']' :: rest' => some ([v], rest')
      | _ => none

def fields? : Nat → List Char → Option (List (String × Json) × List Char)
  | 0, _ => none
  | fuel + 1, s =>
    match skipSpace s with
    | '"' :: rest =>
      match stringAfterQuote? rest with
      | none => none
      | some (k, rest) =>
        match skipSpace rest with
        | ':' :: rest' =>
          match value? fuel rest' with
          | none => none
          | some (v, rest) =>
            match skipSpace rest with
            | ',' :: rest' => (fields? fuel rest').map fun r => ((k, v) :: r.1, r.2)
            | '\x7d' :: rest' => some ([(k, v)], rest')
            | _ => none
        | _ => none
    | _ => none

end

def parse? (text : String) : Option Json :=
  let s := text.toList
  match value? (s.length + 1) s with
  | some (v, rest) => if (skipSpace rest).isEmpty then some v else none
  | none => none

end SqlAudit.Json
