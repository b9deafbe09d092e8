/-!
Reading the options on a command line. An option has a long name, mostly a short one too, and takes a
value or none. Short options without values may share a hyphen; the value of an option follows it or
stands behind an equals sign. After two hyphens everything is an operand. Asking for help or for the
version ends the reading.
-/

namespace SqlAudit

inductive Usage
  | switch
  | counted
  | single
  | repeated
  deriving DecidableEq, Repr

structure OptionSpec where
  name : String
  short : Option Char
  usage : Usage
  accepts : String → Bool := fun _ => true

namespace OptionSpec

def takesValue (o : OptionSpec) : Bool := o.usage == .single || o.usage == .repeated

end OptionSpec

structure Given where
  options : List (String × String) := []
  operands : List String := []
  deriving DecidableEq, Repr, Inhabited

namespace Given

def has (g : Given) (name : String) : Bool := g.options.any (·.1 == name)

def values (g : Given) (name : String) : List String :=
  (g.options.filter (·.1 == name)).map (·.2)

def value? (g : Given) (name : String) : Option String := (g.values name).head?

end Given

inductive Request
  | help (long : Bool)
  | version
  | misuse
  deriving DecidableEq, Repr

namespace Options

def take (o : OptionSpec) (value : String) (g : Given) : Except Request Given :=
  if !o.accepts value then .error .misuse
  else if (o.usage == .single || o.usage == .switch) && g.has o.name then .error .misuse
  else .ok { g with options := g.options ++ [(o.name, value)] }

/-- Whether an argument can be the value of the option before it. -/
def isValue (arg : String) : Bool := arg == "-" || !(arg.toList.head? == some '-')

inductive ShortStep
  | switch (o : OptionSpec)
  | valued (o : OptionSpec)

def shortStep (specs : List OptionSpec) (c : Char) : Except Request ShortStep :=
  if c = 'h' then .error (.help false)
  else if c = 'V' then .error .version
  else
    match specs.find? (·.short == some c) with
    | none => .error .misuse
    | some o => .ok (if o.takesValue then .valued o else .switch o)

/-- Takes options that share a hyphen. An option that still wants its value is handed back. -/
def takeShort (specs : List OptionSpec) :
    List Char → Given → Except Request (Given × Option OptionSpec)
  | [], g => .ok (g, none)
  | c :: rest, g =>
    match shortStep specs c with
    | .error e => .error e
    | .ok (.switch o) => (take o "" g).bind (takeShort specs rest)
    | .ok (.valued o) =>
      match rest with
      | [] => .ok (g, some o)
      | '=' :: value => (take o (String.ofList value) g).map (·, none)
      | _ => (take o (String.ofList rest) g).map (·, none)

def takeLong (specs : List OptionSpec) (s : List Char) (g : Given) :
    Except Request (Given × Option OptionSpec) :=
  let name := s.takeWhile (· != '=')
  let value : Option String :=
    match s.drop name.length with
    | '=' :: value => some (String.ofList value)
    | _ => none
  if name == "help".toList then .error (if value.isSome then .misuse else .help true)
  else if name == "version".toList then .error (if value.isSome then .misuse else .version)
  else
    match specs.find? (·.name.toList == name), value with
    | none, _ => .error .misuse
    | some o, some value =>
      if o.takesValue then (take o value g).map (·, none) else .error .misuse
    | some o, none => if o.takesValue then .ok (g, some o) else (take o "" g).map (·, none)

/-- Reads arguments, `waiting` being an option whose value comes next. Reading stops at an operand
that `stops` and hands back what is left from there. -/
def read (specs : List OptionSpec) (stops : Bool) (waiting : Option OptionSpec) :
    List String → Given → Except Request (Given × List String)
  | [], g => if waiting.isSome then .error .misuse else .ok (g, [])
  | arg :: args, g =>
    match waiting with
    | some o => if isValue arg then (take o arg g).bind (read specs stops none args) else .error .misuse
    | none =>
      let go (r : Except Request (Given × Option OptionSpec)) :=
        r.bind fun p => read specs stops p.2 args p.1
      match arg.toList with
      | ['-', '-'] =>
        if stops && !args.isEmpty then .error .misuse
        else .ok ({ g with operands := g.operands ++ args }, [])
      | '-' :: '-' :: s => go (takeLong specs s g)
      | '-' :: c :: s => go (takeShort specs (c :: s) g)
      | _ =>
        if stops then .ok (g, arg :: args)
        else read specs stops none args { g with operands := g.operands ++ [arg] }

end Options

end SqlAudit
