/-!
Patterns for names of files. A star stands for any text, a question mark for any character, brackets
for one of several characters or, after an exclamation mark, for none of them. Two stars between
slashes stand for any folders.
-/

namespace SqlAudit

inductive PatternError
  | tooManyStars
  | badFolders
  | badRange
  deriving DecidableEq, Repr

namespace PatternError

def text : PatternError → String
  | tooManyStars => "wildcards are either regular \x60*\x60 or recursive \x60**\x60"
  | badFolders => "recursive wildcards must form a single path component"
  | badRange => "invalid range pattern"

def message (e : PatternError) (position : Nat) : String :=
  "Pattern syntax error near position " ++ toString position ++ ": " ++ e.text

end PatternError

inductive CharSpan
  | one (c : Char)
  | range (first last : Char)
  deriving DecidableEq, Repr

namespace CharSpan

def contains : CharSpan → Char → Bool
  | one c, d => c == d
  | range first last, d => first ≤ d && d ≤ last

def ofChars : List Char → List CharSpan
  | first :: '-' :: last :: rest => range first last :: ofChars rest
  | c :: rest => one c :: ofChars rest
  | [] => []

end CharSpan

inductive PatternPart
  | char (c : Char)
  | anyChar
  | anyText
  | anyFolders
  | within (spans : List CharSpan)
  | outside (spans : List CharSpan)
  deriving DecidableEq, Repr

namespace PatternPart

def accepts : PatternPart → Char → Bool
  | char c, d => c == d
  | anyChar, _ => true
  | within spans, d => spans.any (·.contains d)
  | outside spans, d => !spans.any (·.contains d)
  | _, _ => false

def char? : PatternPart → Option Char
  | char c => some c
  | _ => none

end PatternPart

abbrev Pattern := List PatternPart

namespace Pattern

def marks : List Char := ['*', '?', '[']

def isPattern (text : String) : Bool := text.toList.any marks.contains

/-- What stands between brackets before the first closing one, at least one character, and how much
of the text it takes. -/
def bracket? : List Char → Option (List Char × Nat)
  | c :: rest =>
    let more := rest.takeWhile (· != ']')
    if more.length < rest.length then some (c :: more, more.length + 2) else none
  | [] => none

def bracketPart? (rest : List Char) : Option (PatternPart × Nat) :=
  match rest with
  | '!' :: rest => (bracket? rest).map fun r => (.outside (CharSpan.ofChars r.1), r.2 + 1)
  | rest => (bracket? rest).map fun r => (.within (CharSpan.ofChars r.1), r.2)

/-- What a run of `count` stars stands for, and whether it takes the slash after it. -/
def starPart? (before : Option Char) (position count : Nat) (rest : List Char) :
    Except (PatternError × Nat) (PatternPart × Nat) :=
  let opens := before.isNone || before == some '/'
  if count < 2 then .ok (.anyText, 0)
  else if 2 < count then .error (.tooManyStars, position + 2)
  else if !opens then .error (.badFolders, position - 1)
  else
    match rest with
    | [] => .ok (.anyFolders, 0)
    | '/' :: _ => .ok (.anyFolders, 1)
    | _ => .error (.badFolders, position + 2)

/-- The parts of a pattern of which `position` characters, the last of them `before`, have been
read. The first number bounds the parts that follow. -/
def partsFrom : Nat → Option Char → Nat → List Char → Except (PatternError × Nat) Pattern
  | 0, _, _, _ => .ok []
  | _ + 1, _, _, [] => .ok []
  | fuel + 1, before, position, c :: rest =>
    let next (part : PatternPart) (used : Nat) : Except (PatternError × Nat) Pattern :=
      (partsFrom fuel ((c :: rest)[used - 1]?) (position + used) ((c :: rest).drop used)).map
        (part :: ·)
    if c = '?' then next .anyChar 1
    else if c = '*' then
      let count := ((c :: rest).takeWhile (· == '*')).length
      match starPart? before position count ((c :: rest).drop count) with
      | .ok (part, slash) => next part (count + slash)
      | .error e => .error e
    else if c = '[' then
      match bracketPart? rest with
      | some (part, used) => next part (used + 1)
      | none => .error (.badRange, position)
    else next (.char c) 1

def ofText? (text : String) : Except (PatternError × Nat) Pattern :=
  partsFrom text.length none 0 text.toList

def literal? (p : Pattern) : Option String :=
  (p.mapM PatternPart.char?).map String.ofList

def isFolders (p : Pattern) : Bool := p == [.anyFolders]

def anyRest (holds : List Char → Bool) : List Char → Bool
  | [] => holds []
  | c :: s => holds (c :: s) || anyRest holds s

def fits : Pattern → List Char → Bool
  | [], s => s.isEmpty
  | .anyText :: parts, s => anyRest (fits parts) s
  | .anyFolders :: parts, s => anyRest (fits parts) s
  | _ :: _, [] => false
  | part :: parts, c :: s => part.accepts c && fits parts s

end Pattern

end SqlAudit
