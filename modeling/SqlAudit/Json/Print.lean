import SqlAudit.Json.Basic

/-!
Writing JSON, on one line or over several lines indented by two spaces. Quotes, backslashes and
control characters are escaped and every other character stands as itself.
-/

namespace SqlAudit.Json

def hexDigit (n : Nat) : Char :=
  if n < 10 then Char.ofNat ('0'.toNat + n) else Char.ofNat ('a'.toNat + (n - 10))

def escapeChar (c : Char) : List Char :=
  match c with
  | '"' => ['\\', '"']
  | '\\' => ['\\', '\\']
  | '\n' => ['\\', 'n']
  | '\r' => ['\\', 'r']
  | '\t' => ['\\', 't']
  | _ =>
    if c.toNat = 8 then ['\\', 'b']
    else if c.toNat = 12 then ['\\', 'f']
    else if c.toNat < 0x20 then
      ['\\', 'u', '0', '0', hexDigit (c.toNat / 16), hexDigit (c.toNat % 16)]
    else [c]

def escapeChars (s : List Char) : List Char := s.flatMap escapeChar

def quote (s : String) : String := "\"" ++ String.ofList (escapeChars s.toList) ++ "\""

mutual

def compact : Json → String
  | null => "null"
  | bool b => if b then "true" else "false"
  | number text => text
  | string s => quote s
  | array items => "[" ++ ",".intercalate (compactItems items) ++ "]"
  | object fields => "\x7b" ++ ",".intercalate (compactFields fields) ++ "\x7d"

def compactItems : List Json → List String
  | [] => []
  | v :: vs => compact v :: compactItems vs

def compactFields : List (String × Json) → List String
  | [] => []
  | (k, v) :: fs => (quote k ++ ":" ++ compact v) :: compactFields fs

end

/-- Parts on lines of their own between two brackets, `margin` being the margin of the whole. -/
def block (opening closing margin : String) (parts : List String) : String :=
  match parts with
  | [] => opening ++ closing
  | _ =>
    let inner := "\n" ++ margin ++ "  "
    opening ++ inner ++ ("," ++ inner).intercalate parts ++ "\n" ++ margin ++ closing

mutual

def prettyAt (margin : String) : Json → String
  | null => "null"
  | bool b => if b then "true" else "false"
  | number text => text
  | string s => quote s
  | array items => block "[" "]" margin (prettyItems (margin ++ "  ") items)
  | object fields => block "\x7b" "\x7d" margin (prettyFields (margin ++ "  ") fields)

def prettyItems (margin : String) : List Json → List String
  | [] => []
  | v :: vs => prettyAt margin v :: prettyItems margin vs

def prettyFields (margin : String) : List (String × Json) → List String
  | [] => []
  | (k, v) :: fs => (quote k ++ ": " ++ prettyAt margin v) :: prettyFields margin fs

end

def pretty (j : Json) : String := prettyAt "" j

end SqlAudit.Json
