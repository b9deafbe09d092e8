import SqlAudit.Files.Basic
import SqlAudit.Files.Pattern

/-!
Finding files by patterns. A path pattern is a pattern for every name on the way; names without
wildcards are looked up, the others are compared with the names in a folder in their order. A folder
that stands for any folders is searched before its own folders are.
-/

namespace SqlAudit

namespace Pattern

/-- The texts between slashes; a slash at the end separates nothing. -/
def pathNames (s : List Char) : List (List Char) :=
  match s with
  | [] => []
  | '/' :: rest => [] :: pathNames rest
  | c :: rest =>
    match rest, pathNames rest with
    | [], _ => [[c]]
    | '/' :: _, names => [c] :: names.tail
    | _, name :: names => (c :: name) :: names
    | _, [] => [[c]]

def ofPath? (path : String) : Except (PatternError × Nat) (List Pattern) :=
  (ofText? path).bind fun _ =>
    (pathNames (path.toList.dropWhile (· == '/'))).mapM fun name => ofText? (String.ofList name)

end Pattern

namespace Files

variable {m : Type → Type} [Monad m]

def maxPathLength : Nat := 4096

def sortedNames (f : Files m) (folder : String) : m (List String) := do
  return (← f.names folder).mergeSort fun a b => decide (a ≤ b)

def pathFrom (folder name : String) : String :=
  if folder == "." then name else pathIn folder name

/-- The folder itself or the one around it, where a pattern with a period in front stands for them. -/
def specialNames (p : Pattern) : List String :=
  if p.head? == some (.char '.') then ["..", "."].filter (p.fits ·.toList) else []

/-- The paths below a folder that patterns for their names stand for; `onlyFolders` leaves out files. -/
def search (f : Files m) (onlyFolders : Bool) : Nat → List Pattern → String → m (List String)
  | 0, _, _ => pure []
  | _, [], _ => pure []
  | fuel + 1, p :: ps, folder => do
    let found (rest : List Pattern) (path : String) : m (List String) := do
      if !rest.isEmpty then search f onlyFolders fuel rest path
      else if !onlyFolders then return [path]
      else return if ← f.isFolder path then [path] else []
    let visit (name : String) : m (List String) := do
      let path := pathFrom folder name
      if p.isFolders then
        let rest := ps.dropWhile Pattern.isFolders
        let isFolder ← f.isFolder path
        let inner ← if isFolder then search f onlyFolders fuel (p :: rest) path else pure []
        match rest with
        | [] => return if isFolder then path :: inner else []
        | q :: qs =>
          let here ← if q.fits name.toList then found qs path else pure []
          return here ++ inner
      else if p.fits name.toList then found ps path
      else return []
    match p.literal? with
    | some name =>
      let path := pathFrom folder name
      let goes ← if name == "." || name == ".." then f.isFolder folder else f.present path
      if goes then found ps path else return []
    | none =>
      if ← f.isFolder folder then
        let special ← (specialNames p).flatMapM fun name => found ps (pathIn folder name)
        let inner ← (← f.sortedNames folder).flatMapM visit
        return special ++ inner
      else return []

def matching (f : Files m) (path : String) : m (Except (PatternError × Nat) (List String)) :=
  match Pattern.ofPath? path with
  | .error e => return .error e
  | .ok ps => do
    let chars := path.toList
    let start := if chars.head? == some '/' then "/" else "."
    return .ok (← f.search (chars.getLast? == some '/') (maxPathLength + ps.length) ps start)

def expand (f : Files m) : List String → m (Except (PatternError × Nat) (List String))
  | [] => return .ok []
  | path :: paths => do
    let here ← if Pattern.isPattern path then f.matching path else pure (.ok [path])
    match here with
    | .error e => return .error e
    | .ok here => return (← f.expand paths).map (here ++ ·)

end Files

end SqlAudit
