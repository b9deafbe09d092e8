import SqlAudit.Toml.Basic

/-!
Numbers, times and truth values in TOML. Each of them is a run of characters of its own, which is
read as a whole.
-/

namespace SqlAudit.Toml

def isHexDigit (c : Char) : Bool :=
  c.isDigit || ('a' ≤ c && c ≤ 'f') || ('A' ≤ c && c ≤ 'F')

def hexDigitValue (c : Char) : Nat :=
  if c.isDigit then c.toNat - '0'.toNat
  else if 'a' ≤ c then c.toNat - 'a'.toNat + 10
  else c.toNat - 'A'.toNat + 10

def ofDigits (base : Nat) (digits : List Char) : Nat :=
  digits.foldl (fun n c => n * base + hexDigitValue c) 0

/-- The digits of a run in which single underscores may stand between digits. -/
def digits? (isDigit : Char → Bool) : List Char → Option (List Char)
  | [] => none
  | [c] => if isDigit c then some [c] else none
  | c :: '_' :: rest =>
    if isDigit c then (digits? isDigit rest).map (c :: ·) else none
  | c :: d :: rest => if isDigit c then (digits? isDigit (d :: rest)).map (c :: ·) else none

def isWholePart (s : List Char) : Bool :=
  match s with
  | ['0'] => true
  | '0' :: _ => false
  | _ => (digits? Char.isDigit s).isSome

def splitSign : List Char → Bool × List Char
  | '-' :: rest => (true, rest)
  | '+' :: rest => (false, rest)
  | s => (false, s)

def inRange (n : Int) : Bool := Int64.minValue.toInt ≤ n && n ≤ Int64.maxValue.toInt

def decimal? (s : List Char) : Option Int :=
  let (isNegative, s) := splitSign s
  if isWholePart s then
    (digits? Char.isDigit s).map fun digits =>
      let n : Int := ofDigits 10 digits
      if isNegative then -n else n
  else none

def based? (base : Nat) (isDigit : Char → Bool) (s : List Char) : Option Int :=
  (digits? isDigit s).map fun digits => (ofDigits base digits : Int)

def integer? (s : List Char) : Option Int :=
  let n? := match s with
    | '0' :: 'x' :: rest => based? 16 isHexDigit rest
    | '0' :: 'o' :: rest => based? 8 (fun c => '0' ≤ c && c ≤ '7') rest
    | '0' :: 'b' :: rest => based? 2 (fun c => c == '0' || c == '1') rest
    | _ => decimal? s
  n?.filter inRange

def isExponent (s : List Char) : Bool := (digits? Char.isDigit (splitSign s).2).isSome

def isFloat (s : List Char) : Bool :=
  let s := (splitSign s).2
  if s == ['i', 'n', 'f'] || s == ['n', 'a', 'n'] then true
  else
    let isMark (c : Char) : Bool := c == 'e' || c == 'E'
    let whole := s.takeWhile fun c => !(c == '.' || isMark c)
    let hasExponent (s : List Char) : Bool :=
      match s with
      | [] => true
      | _ :: rest => isExponent rest
    isWholePart whole &&
      match s.drop whole.length with
      | [] => false
      | '.' :: rest =>
        let fraction := rest.takeWhile (!isMark ·)
        (digits? Char.isDigit fraction).isSome && hasExponent (rest.drop fraction.length)
      | rest => hasExponent rest

/-! ### Times -/

def fixed? (n : Nat) (s : List Char) : Option (Nat × List Char) :=
  let digits := s.take n
  if digits.length = n && digits.all Char.isDigit then some (ofDigits 10 digits, s.drop n) else none

def isLeapYear (year : Nat) : Bool := year % 4 == 0 && (year % 100 != 0 || year % 400 == 0)

def daysIn (year month : Nat) : Nat :=
  if month = 2 then (if isLeapYear year then 29 else 28)
  else if [4, 6, 9, 11].contains month then 30
  else 31

def afterDate? (s : List Char) : Option (List Char) :=
  match fixed? 4 s with
  | some (year, '-' :: s) =>
    match fixed? 2 s with
    | some (month, '-' :: s) =>
      match fixed? 2 s with
      | some (day, s) =>
        if 1 ≤ month && month ≤ 12 && 1 ≤ day && day ≤ daysIn year month then some s else none
      | none => none
    | _ => none
  | _ => none

/-- What follows a time of day; a minute may have a leap second. -/
def afterTime? (s : List Char) : Option (List Char) :=
  match fixed? 2 s with
  | some (hour, ':' :: s) =>
    match fixed? 2 s with
    | some (minute, ':' :: s) =>
      match fixed? 2 s with
      | some (second, s) =>
        if hour ≤ 23 && minute ≤ 59 && second ≤ 60 then
          match s with
          | '.' :: rest =>
            let digits := rest.takeWhile Char.isDigit
            if digits.isEmpty then none else some (rest.drop digits.length)
          | _ => some s
        else none
      | none => none
    | _ => none
  | _ => none

def isOffset : List Char → Bool
  | [] => true
  | ['Z'] => true
  | ['z'] => true
  | c :: rest =>
    if c == '+' || c == '-' then
      match fixed? 2 rest with
      | some (hour, ':' :: rest) =>
        match fixed? 2 rest with
        | some (minute, []) => hour ≤ 23 && minute ≤ 59
        | _ => false
      | _ => false
    else false

def isTime (s : List Char) : Bool :=
  match afterDate? s with
  | some [] => true
  | some (c :: rest) =>
    (c == 'T' || c == 't' || c == ' ') &&
      match afterTime? rest with
      | some rest => isOffset rest
      | none => false
  | none => afterTime? s == some []

/-! ### Runs -/

def isRunChar (c : Char) : Bool :=
  c.isAlphanum || c == '+' || c == '-' || c == '_' || c == '.' || c == ':'

/-- The run at the front of a text; a date and a time may be a space apart. -/
def run (s : List Char) : List Char :=
  let first := s.takeWhile isRunChar
  match s.drop first.length with
  | ' ' :: rest =>
    if afterDate? first == some [] && (afterTime? rest).isSome then
      first ++ ' ' :: rest.takeWhile isRunChar
    else first
  | _ => first

def scalar? (s : List Char) : Option Toml :=
  if s == ['t', 'r', 'u', 'e'] then some (bool true)
  else if s == ['f', 'a', 'l', 's', 'e'] then some (bool false)
  else
    match integer? s with
    | some n => some (integer n)
    | none => if isFloat s || isTime s then some (other (String.ofList s)) else none

end SqlAudit.Toml
