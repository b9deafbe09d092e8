import SqlAudit.Sql.Token
import SqlAudit.Dialect

/-!
Reading tokens from text. Each reader takes the characters ahead and answers with a token and the
number of characters it took, or with a fault and the number of characters read up to it. `scan`
repeats this to the end of the text and adds the places.
-/

namespace SqlAudit.Sql

open Text

inductive ScanFault
  | openString
  | openEscapedString
  | openUnicodeString
  | cutHexDigits
  | badHexDigit (c : Char)
  | badCodePoint (code : Nat)
  | openName (quote : Char)
  | openDollarString
  | openTaggedString
  | openComment
  | strayUnderscore
  deriving DecidableEq, Repr

def hexText (n : Nat) : String := String.ofList (Nat.toDigits 16 n)

namespace ScanFault

def message : ScanFault → String
  | openString => "Unterminated string literal"
  | openEscapedString => "Unterminated encoded string literal"
  | openUnicodeString => "Unterminated unicode encoded string literal"
  | cutHexDigits => "Unexpected EOF while parsing hex digit in escaped unicode string."
  | badHexDigit c => "Invalid hex digit in escaped unicode string: " ++ String.ofList [c]
  | badCodePoint n => "Invalid unicode character: " ++ hexText n
  | openName q => "Expected close delimiter '" ++ String.ofList [q] ++ "' before EOF."
  | openDollarString => "Unterminated dollar-quoted string"
  | openTaggedString => "Unterminated dollar-quoted, expected $"
  | openComment => "Unexpected EOF while in a multi-line comment"
  | strayUnderscore => "Unexpected character '_'"

end ScanFault

structure ScanError where
  fault : ScanFault
  place : Position
  deriving DecidableEq, Repr

def Position.words (p : Position) : String :=
  " at Line: " ++ toString (p.line + 1) ++ ", Column: " ++ toString (p.column + 1)

def ScanError.message (e : ScanError) : String := e.fault.message ++ Position.words e.place

abbrev Scanned := Except (ScanFault × Nat) (Token × Nat)

/-! ### Names -/

def startsName (d : Dialect) (c : Char) : Bool :=
  match d with
  | .generic => isAlphabetic c || c == '_' || c == '#' || c == '@'
  | .postgresql => isAlphabetic c || c == '_'
  | .mysql => isAsciiLetter c || c == '_' || c == '$' || c == '@' ||
      (0x80 ≤ c.toNat && c.toNat ≤ 0xFFFF)

def continuesName (d : Dialect) (c : Char) : Bool :=
  startsName d c || c.isDigit || c == '$'

def quotesName (d : Dialect) (c : Char) : Bool :=
  match d with
  | .generic => c == '"' || c == '\x60'
  | .postgresql => c == '"'
  | .mysql => c == '\x60'

def isDecimal (c : Char) : Bool := c.isDigit || c == '.'

/-- A word of `taken` characters and the name characters after them. A word of digits and periods
alone is a number. -/
def wordFrom (d : Dialect) (taken : Nat) (s : List Char) : Token × Nat :=
  let word := s.take taken ++ (s.drop taken).takeWhile (continuesName d)
  if word.all isDecimal then
    let more := (s.drop word.length).takeWhile isDecimal
    (.number (String.ofList (word ++ more)) false, word.length + more.length)
  else (.word (.bare (String.ofList word)), word.length)

/-! ### Quoted text -/

def backslashed (c : Char) : Char :=
  match c with
  | '0' => '\x00'
  | 'a' => '\x07'
  | 'b' => '\x08'
  | 'f' => '\x0c'
  | 'n' => '\n'
  | 'r' => '\r'
  | 't' => '\t'
  | 'Z' => '\x1a'
  | _ => c

/-- The content of a quoted text whose opening quote has been read, and the number of characters
up to and with the closing quote. A doubled quote stands for itself. -/
def quotedBody (quote : Char) (escapes : Bool) : List Char → Option (List Char × Nat)
  | [] => none
  | [c] => if c = quote then some ([], 1) else none
  | c :: c' :: rest =>
    if c = quote then
      if c' = quote then (quotedBody quote escapes rest).map fun r => (quote :: r.1, r.2 + 2)
      else some ([], 1)
    else if escapes && c = '\\' then
      (quotedBody quote escapes rest).map fun r => (backslashed c' :: r.1, r.2 + 2)
    else (quotedBody quote escapes (c' :: rest)).map fun r => (c :: r.1, r.2 + 1)

def quotedString (form : StringForm) (quote : Char) (escapes : Bool) (skip : Nat)
    (s : List Char) : Scanned :=
  match quotedBody quote escapes (s.drop (skip + 1)) with
  | some (text, n) => .ok (.string form (String.ofList text), n + skip + 1)
  | none => .error (.openString, skip)

def quotedName (quote : Char) (s : List Char) : Scanned :=
  match quotedBody quote false (s.drop 1) with
  | some (text, n) => .ok (.word (.quoted quote (String.ofList text)), n + 1)
  | none => .error (.openName quote, 0)

def hexDigit? (c : Char) : Option Nat :=
  if c.isDigit then some (c.toNat - '0'.toNat)
  else if 'a' ≤ c && c ≤ 'f' then some (c.toNat - 'a'.toNat + 10)
  else if 'A' ≤ c && c ≤ 'F' then some (c.toNat - 'A'.toNat + 10)
  else none

def isHexDigit (c : Char) : Bool := (hexDigit? c).isSome

def isOctalDigit (c : Char) : Bool := '0' ≤ c && c ≤ '7'

def digitsValue (base : Nat) (digits : List Char) : Nat :=
  digits.foldl (fun n c => n * base + (hexDigit? c).getD 0) 0

def charOfCode? (n : Nat) : Option Char :=
  if n.isValidChar then some (Char.ofNat n) else none

def charOfByte? (n : Nat) : Option Char :=
  if n % 256 < 128 then some (Char.ofNat (n % 256)) else none

def escapedChar (s : List Char) : Option (Char × Nat) :=
  match s with
  | [] => none
  | 'b' :: _ => some ('\x08', 1)
  | 'f' :: _ => some ('\x0c', 1)
  | 'n' :: _ => some ('\n', 1)
  | 'r' :: _ => some ('\r', 1)
  | 't' :: _ => some ('\t', 1)
  | 'u' :: rest => codePoint 4 rest
  | 'U' :: rest => codePoint 8 rest
  | 'x' :: rest =>
    let digits := (rest.take 2).takeWhile isHexDigit
    if digits.isEmpty then some ('x', 1)
    else (charOfByte? (digitsValue 16 digits)).map fun c => (c, digits.length + 1)
  | c :: rest =>
    if isOctalDigit c then
      let digits := c :: (rest.take 2).takeWhile isOctalDigit
      (charOfByte? (digitsValue 8 digits)).map fun c => (c, digits.length)
    else some (c, 1)
where
  codePoint (n : Nat) (rest : List Char) : Option (Char × Nat) :=
    let digits := rest.take n
    if digits.length == n && digits.all isHexDigit then
      (charOfCode? (digitsValue 16 digits)).map fun c => (c, n + 1)
    else none

/-- The content of an `E` string after its opening quote. Escapes must not give the character of
code zero. -/
def escapedBody : Nat → List Char → Option (List Char × Nat)
  | 0, _ => none
  | _ + 1, [] => none
  | fuel + 1, c :: rest =>
    if c = '\x27' then
      match rest with
      | '\x27' :: rest' => (escapedBody fuel rest').map fun r => (c :: r.1, r.2 + 2)
      | _ => some ([], 1)
    else if c = '\\' then
      match escapedChar rest with
      | some (e, n) =>
        if e = '\x00' then none
        else (escapedBody fuel (rest.drop n)).map fun r => (e :: r.1, r.2 + n + 1)
      | none => none
    else (escapedBody fuel rest).map fun r => (c :: r.1, r.2 + 1)

def escapedString (s : List Char) : Scanned :=
  match escapedBody s.length (s.drop 2) with
  | some (text, n) => .ok (.string .escaped (String.ofList text), n + 2)
  | none => .error (.openEscapedString, 0)

def hexChar (n skip : Nat) (s : List Char) : Except (ScanFault × Nat) (Char × Nat) :=
  let digits := (s.take n).takeWhile isHexDigit
  if digits.length == n then
    match charOfCode? (digitsValue 16 digits) with
    | some c => .ok (c, n)
    | none => .error (.badCodePoint (digitsValue 16 digits), skip + n)
  else
    match s.drop digits.length with
    | c :: _ => .error (.badHexDigit c, skip + digits.length + 1)
    | [] => .error (.cutHexDigits, skip + digits.length)

def unicodeBody : Nat → Nat → List Char → Except (ScanFault × Nat) (List Char × Nat)
  | 0, skip, _ => .error (.openUnicodeString, skip)
  | _ + 1, skip, [] => .error (.openUnicodeString, skip)
  | fuel + 1, skip, c :: rest =>
    if c = '\x27' then
      match rest with
      | '\x27' :: rest' =>
        (unicodeBody fuel (skip + 2) rest').map fun r => (c :: r.1, r.2)
      | _ => .ok ([], skip + 1)
    else if c = '\\' then
      match rest with
      | '\\' :: rest' => (unicodeBody fuel (skip + 2) rest').map fun r => (c :: r.1, r.2)
      | '+' :: rest' => do
        let (e, n) ← hexChar 6 (skip + 2) rest'
        (unicodeBody fuel (skip + 2 + n) (rest'.drop n)).map fun r => (e :: r.1, r.2)
      | _ => do
        let (e, n) ← hexChar 4 (skip + 1) rest
        (unicodeBody fuel (skip + 1 + n) (rest.drop n)).map fun r => (e :: r.1, r.2)
    else (unicodeBody fuel (skip + 1) rest).map fun r => (c :: r.1, r.2)

def unicodeString (s : List Char) : Scanned :=
  (unicodeBody s.length 3 (s.drop 3)).map fun r => (.string .unicode (String.ofList r.1), r.2)

def dollarBody : List Char → Option (List Char × Nat)
  | [] => none
  | [_] => none
  | c :: c' :: rest =>
    if c = '$' && c' = '$' then some ([], 2)
    else (dollarBody (c' :: rest)).map fun r => (c :: r.1, r.2 + 1)

/-- The content of a string fenced by `$tag$`, after its opening fence. A try at the closing fence
that fails is not taken up again from within. -/
def taggedBody (tag : List Char) : Nat → List Char → Option (List Char × Nat)
  | 0, _ => none
  | _ + 1, [] => none
  | fuel + 1, c :: rest =>
    if c = '$' then
      let same := agreeing tag rest
      if same = tag.length then
        match rest.drop same with
        | '$' :: _ => some ([], same + 2)
        | _ => skip fuel (same + 1) (c :: rest)
      else if (rest.drop same).isEmpty then none
      else skip fuel (same + 2) (c :: rest)
    else skip fuel 1 (c :: rest)
where
  agreeing : List Char → List Char → Nat
    | a :: as, b :: bs => if a = b then agreeing as bs + 1 else 0
    | _, _ => 0
  skip (fuel n : Nat) (s : List Char) : Option (List Char × Nat) :=
    (taggedBody tag fuel (s.drop n)).map fun r => (s.take n ++ r.1, r.2 + n)

def dollarValue (s : List Char) : Scanned :=
  match s.drop 1 with
  | '$' :: rest =>
    match dollarBody rest with
    | some (text, n) => .ok (.dollarString "" (String.ofList text), n + 2)
    | none => .error (.openDollarString, s.length)
  | rest =>
    let tag := rest.takeWhile fun c => isAlphabetic c || isNumeric c || c == '_'
    match rest.drop tag.length with
    | '$' :: body =>
      match taggedBody tag (body.length + 1) body with
      | some (text, n) =>
        .ok (.dollarString (String.ofList tag) (String.ofList text), n + tag.length + 2)
      | none => .error (.openTaggedString, s.length)
    | _ => .ok (.placeholder (String.ofList ('$' :: tag)), tag.length + 1)

/-! ### Comments -/

def lineLength (s : List Char) : Nat :=
  let n := (s.takeWhile (· != '\n')).length
  if n < s.length then n + 1 else n

/-- The length of a block comment after its opening, `depth` comments being open; `last` is the
character read before. -/
def blockLength (depth : Nat) (last : Char) : List Char → Option Nat
  | [] => none
  | c :: rest =>
    if last = '/' && c = '*' then (blockLength (depth + 1) c rest).map (· + 1)
    else if last = '*' && c = '/' then
      if depth ≤ 1 then some 1 else (blockLength (depth - 1) c rest).map (· + 1)
    else (blockLength depth c rest).map (· + 1)

def blockComment (s : List Char) : Scanned :=
  match blockLength 1 ' ' (s.drop 2) with
  | some n => .ok (.comment, n + 2)
  | none => .error (.openComment, s.length)

/-! ### Numbers -/

def exponentLength (s : List Char) : Nat :=
  match s with
  | e :: rest =>
    if e == 'e' || e == 'E' then
      let sign := match rest with
        | '+' :: _ | '-' :: _ => 1
        | _ => 0
      let digits := ((rest.drop sign).takeWhile Char.isDigit).length
      if digits = 0 then 0 else 1 + sign + digits
    else 0
  | [] => 0

/-- A number, or a lone period. In MySQL a number that runs into a name is a word. -/
def numberOrPeriod (d : Dialect) (s : List Char) : Token × Nat :=
  let whole := s.takeWhile Char.isDigit
  match whole, s.drop whole.length with
  | ['0'], 'x' :: rest =>
    let digits := rest.takeWhile isHexDigit
    (.string .hex (String.ofList digits), digits.length + 2)
  | _, ahead =>
    let mantissa :=
      match ahead with
      | '.' :: rest => whole ++ '.' :: rest.takeWhile Char.isDigit
      | _ => whole
    if mantissa = ['.'] then (.period, 1)
    else
      let exponent := exponentLength (s.drop mantissa.length)
      let text := s.take (mantissa.length + exponent)
      let ahead := s.drop text.length
      let name := if d == .mysql && exponent == 0 then ahead.takeWhile (continuesName d) else []
      if name.isEmpty then
        match ahead with
        | 'L' :: _ => (.number (String.ofList text) true, text.length + 1)
        | _ => (.number (String.ofList text) false, text.length)
      else (.word (.bare (String.ofList (text ++ name))), text.length + name.length)

/-! ### Operators -/

def openOperators : List String :=
  ["->>", "->", "-", "||/", "||", "|/", "|", "%", "<=>", "<=", "<>", "<<", "<@", "<", ">=", ">>",
   ">", "&&", "&", "~~*", "~~", "~*", "~", "#-", "#>>", "#>", "#"]

def closedOperators : List String :=
  ["=>", "==", "=", "!=", "!!", "!~~*", "!~~", "!~*", "!~", "!", "::", ":=", ":", "^@", "^",
   "@>", "@?", "@@", "@", "+", "*", "/", "\\", "[", "]", "\x7b", "\x7d"]

def dialectOperators (d : Dialect) : List String :=
  match d with
  | .generic => ["//"]
  | .postgresql => ["?|", "?&", "?"]
  | .mysql => []

def continuesOperator (d : Dialect) (c : Char) : Bool :=
  d == .postgresql && "+-*/<>=~!@#%^&|\x60?".toList.contains c

def Token.ofOperator (text : String) : Token :=
  match text with
  | "=" => .equal
  | "!=" => .notEqual
  | "<>" => .notEqual
  | "*" => .star
  | _ => .operator text

def longestOperator (operators : List String) (s : List Char) : Option String :=
  let hits := operators.filter fun o => o.toList.isPrefixOf s
  hits.foldl (fun best o =>
    match best with
    | some b => if b.length < o.length then some o else best
    | none => some o) none

def operator? (d : Dialect) (s : List Char) : Option (Token × Nat) :=
  match longestOperator openOperators s, longestOperator (dialectOperators d ++ closedOperators) s with
  | some o, _ =>
    let more := (s.drop o.length).takeWhile (continuesOperator d)
    if more.isEmpty then some (.ofOperator o, o.length)
    else some (.operator (o ++ String.ofList more), o.length + more.length)
  | none, some o => some (.ofOperator o, o.length)
  | none, none => none

/-! ### One token -/

/-- What starts with `#` or `@`: an operator where one stands, a name where the dialect has such
names. A name takes the character after the mark whatever it is. -/
def markedToken (d : Dialect) (s : List Char) : Token × Nat :=
  let operator (n : Nat) := (Token.operator (String.ofList (s.take n)), n)
  let general := (operator? d s).getD (operator 1)
  match s with
  | '#' :: c :: _ =>
    if c == '-' || c == '>' || c == ' ' || !startsName d '#' then general else wordFrom d 2 s
  | '@' :: '@' :: c :: _ =>
    if c == ' ' || !startsName d '@' then operator 2 else wordFrom d 3 s
  | '@' :: c :: _ =>
    if ['>', '?', '@', ' ', '\x27', '"', '\x60'].contains c || !startsName d '@' then general
    else wordFrom d 2 s
  | _ => general

def letterToken (d : Dialect) (c : Char) (s : List Char) : Scanned :=
  let word := .ok (wordFrom d 1 s)
  match c.toLower, s.drop 1 with
  | 'b', '\x27' :: _ => quotedString .bytes '\x27' false 1 s
  | 'b', '"' :: _ => quotedString .doubleBytes '"' false 1 s
  | 'r', '\x27' :: _ => if d == .generic then quotedString .raw '\x27' false 1 s else word
  | 'r', '"' :: _ => if d == .generic then quotedString .doubleRaw '"' false 1 s else word
  | 'n', '\x27' :: _ => quotedString .national '\x27' (d == .mysql) 1 s
  | 'e', '\x27' :: _ => escapedString s
  | 'u', '&' :: '\x27' :: _ => if d == .mysql then word else unicodeString s
  | 'x', '\x27' :: _ => quotedString .hex '\x27' true 1 s
  | _, _ => word

/-- The token at the front of a text that is not empty. `afterWord` tells whether the token before
is a word. -/
def nextToken (d : Dialect) (afterWord : Bool) (s : List Char) : Scanned :=
  match s with
  | [] => .ok (.blank, 0)
  | c :: rest =>
    if c == ' ' || c == '\t' || c == '\n' then .ok (.blank, 1)
    else if c == '\r' then .ok (.blank, if rest.head? == some '\n' then 2 else 1)
    else if c == '\x27' then quotedString .single '\x27' (d == .mysql) 0 s
    else if quotesName d c then quotedName c s
    else if c == '"' then quotedString .double '"' true 0 s
    else if c.isDigit then .ok (numberOrPeriod d s)
    else if c == '.' then
      if rest.head? == some '_' then
        if afterWord then .ok (.period, 1) else .error (.strayUnderscore, 0)
      else .ok (numberOrPeriod d s)
    else if c == '(' then .ok (.leftParen, 1)
    else if c == ')' then .ok (.rightParen, 1)
    else if c == ',' then .ok (.comma, 1)
    else if c == ';' then .ok (.semicolon, 1)
    else if c == '-' && rest.head? == some '-' then .ok (.comment, lineLength s)
    else if c == '/' && rest.head? == some '*' then blockComment s
    else if c == '#' && d == .mysql then .ok (.comment, lineLength s)
    else if c == '#' || c == '@' then .ok (markedToken d s)
    else if c == '?' && d != .postgresql then
      let digits := rest.takeWhile isNumeric
      .ok (.placeholder (String.ofList (c :: digits)), digits.length + 1)
    else if isAsciiLetter c then letterToken d c s
    else if startsName d c then .ok (wordFrom d 1 s)
    else if c == '$' then dollarValue s
    else
      match operator? d s with
      | some r => .ok r
      | none => .ok (if isBlank c then .blank else .char c, 1)

/-! ### The whole text -/

def Token.isWord : Token → Bool
  | .word _ => true
  | _ => false

def scanFrom (d : Dialect) : Nat → Bool → Position → List Char → Except ScanError (List Lexeme)
  | 0, _, _, _ => .ok []
  | _ + 1, _, _, [] => .ok []
  | fuel + 1, afterWord, place, s =>
    match nextToken d afterWord s with
    | .error (fault, n) => .error ⟨fault, place.after (s.take n)⟩
    | .ok (token, n) =>
      let stop := place.after (s.take n)
      (scanFrom d fuel token.isWord stop (s.drop n)).map (⟨token, place, stop⟩ :: ·)

def scan (d : Dialect) (text : String) : Except ScanError (List Lexeme) :=
  let s := text.toList
  scanFrom d s.length false .origin s

end SqlAudit.Sql
