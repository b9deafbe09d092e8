import SqlAudit.Position
import SqlAudit.Text.Case

/-!
The tokens of SQL text. A word carries its quote and, when it has none, its keyword: the word in
upper case. Comparison operators the audit asks about have tokens of their own; every other
operator or mark is told apart by its text.
-/

namespace SqlAudit.Sql

structure Word where
  value : String
  quote : Option Char
  /-- The word in upper case, empty for a quoted word. -/
  keyword : String
  deriving DecidableEq, Repr, Inhabited

namespace Word

def bare (value : String) : Word := ⟨value, none, Text.upper value⟩

def quoted (quote : Char) (value : String) : Word := ⟨value, some quote, ""⟩

def render (w : Word) : String :=
  match w.quote with
  | some q => String.ofList [q] ++ w.value ++ String.ofList [q]
  | none => w.value

end Word

inductive StringForm
  | single
  | double
  | national
  | escaped
  | unicode
  | hex
  | bytes
  | doubleBytes
  | raw
  | doubleRaw
  deriving DecidableEq, Repr, Inhabited

namespace StringForm

def fences : StringForm → String × String
  | single => ("'", "'")
  | double => ("\"", "\"")
  | national => ("N'", "'")
  | escaped => ("E'", "'")
  | unicode => ("U&'", "'")
  | hex => ("X'", "'")
  | bytes => ("B'", "'")
  | doubleBytes => ("B\"", "\"")
  | raw => ("R'", "'")
  | doubleRaw => ("R\"", "\"")

end StringForm

inductive Token
  | word (w : Word)
  | number (text : String) (long : Bool)
  | string (form : StringForm) (text : String)
  | dollarString (tag : String) (text : String)
  | placeholder (text : String)
  | leftParen
  | rightParen
  | comma
  | semicolon
  | period
  | star
  | equal
  | notEqual
  | operator (text : String)
  | char (c : Char)
  | blank
  | comment
  deriving DecidableEq, Repr, Inhabited

namespace Token

def isSignificant : Token → Bool
  | blank | comment => false
  | _ => true

def isKeyword (keyword : String) : Token → Bool
  | word w => w.quote.isNone && w.keyword == keyword
  | _ => false

def isAnyKeyword (keywords : List String) : Token → Bool
  | word w => w.quote.isNone && keywords.contains w.keyword
  | _ => false

def render : Token → String
  | word w => w.render
  | number text long => if long then text ++ "L" else text
  | string form text => form.fences.1 ++ text ++ form.fences.2
  | dollarString tag text => "$" ++ tag ++ "$" ++ text ++ "$" ++ tag ++ "$"
  | placeholder text => text
  | leftParen => "("
  | rightParen => ")"
  | comma => ","
  | semicolon => ";"
  | period => "."
  | star => "*"
  | equal => "="
  | notEqual => "<>"
  | operator text => text
  | char c => String.ofList [c]
  | blank => " "
  | comment => ""

end Token

structure Lexeme where
  token : Token
  range : Range
  deriving DecidableEq, Repr, Inhabited

namespace Lexeme

def isSignificant (l : Lexeme) : Bool := l.token.isSignificant

end Lexeme

def significant (lexemes : List Lexeme) : List Lexeme := lexemes.filter (·.isSignificant)

end SqlAudit.Sql
