import SqlAudit.Sql.Tree

/-!
The text of names and expressions. A quote within a quoted text is doubled, unless it is doubled
already or follows a backslash.
-/

namespace SqlAudit.Sql

/-- Doubles every quote that is neither doubled nor after a backslash; `last` is the character
before, and stays a backslash over the quotes that follow it. -/
def doubleQuotes (quote last : Char) : List Char → List Char
  | [] => []
  | c :: rest =>
    if c = quote then
      if last = '\\' then c :: doubleQuotes quote last rest
      else
        match rest with
        | [] => [c, c]
        | c' :: rest' =>
          if c' = quote then c :: c' :: doubleQuotes quote c rest'
          else c :: c :: doubleQuotes quote c (c' :: rest')
    else c :: doubleQuotes quote c rest

def quoteText (quote : Char) (text : String) : String :=
  String.ofList (quote :: doubleQuotes quote '\x00' text.toList ++ [quote])

namespace Ident

def render (i : Ident) : String :=
  match i.quote with
  | some q => quoteText q i.value
  | none => i.value

end Ident

def renderPath (p : Path) : String := ".".intercalate (p.map Ident.render)

namespace Piece

def fill (operands : List String) : Piece → String
  | text s => s
  | operand i => (operands[i]?).getD ""

end Piece

def fillForm (form : List Piece) (operands : List String) : String :=
  "".intercalate (form.map (Piece.fill operands))

mutual

def Expr.render : Expr → String
  | .name id => id.render
  | .path parts => renderPath parts
  | .literal text => text
  | .operation form es => fillForm form (renderExprs es)
  | .subquery form es _ => fillForm form (renderExprs es)

def renderExprs : List Expr → List String
  | [] => []
  | e :: es => e.render :: renderExprs es

end

end SqlAudit.Sql
