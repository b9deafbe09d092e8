import SqlAudit.Files.Basic

/-!
Files that are held in memory: a list of paths from the top with their texts. A folder is there if a
path leads through it.
-/

namespace SqlAudit

structure MemoryFiles where
  files : List (List String × String)
  current : List String
  deriving Repr

namespace MemoryFiles

def pathParts (path : String) : List String := path.splitOn "/"

def ofList (files : List (String × String)) (current : String) : MemoryFiles :=
  ⟨files.map fun e => ((pathParts e.1).filter fun p => !p.isEmpty, e.2),
    (pathParts current).filter fun p => !p.isEmpty⟩

def file? (f : MemoryFiles) (path : List String) : Option String :=
  (f.files.find? (·.1 == path)).map (·.2)

def hasFolder (f : MemoryFiles) (path : List String) : Bool :=
  path.isEmpty || path.isPrefixOf f.current ||
    f.files.any fun e => e.1 != path && path.isPrefixOf e.1

def step (f : MemoryFiles) (path : List String) (part : String) : Except FileError (List String) :=
  if !f.hasFolder path then .error .notFolder
  else if part.isEmpty || part == "." then .ok path
  else if part == ".." then .ok path.dropLast
  else
    let next := path ++ [part]
    if f.hasFolder next || (f.file? next).isSome then .ok next else .error .missing

def resolve (f : MemoryFiles) (path : String) : Except FileError (List String) :=
  if path.isEmpty then .error .missing
  else
    let start := if path.toList.head? == some '/' then [] else f.current
    (pathParts path).foldlM f.step start

def read (f : MemoryFiles) (path : String) : Except FileError String :=
  (f.resolve path).bind fun place =>
    match f.file? place with
    | some text => .ok text
    | none => .error .isFolder

def names (f : MemoryFiles) (folder : List String) : List String :=
  let paths := f.current :: f.files.map (·.1)
  (paths.filterMap fun p => if folder.isPrefixOf p then p[folder.length]? else none).eraseDups

def enclosing (f : MemoryFiles) : List String :=
  (List.range (f.current.length + 1)).reverse.map fun n =>
    "/" ++ "/".intercalate (f.current.take n)

def toFiles (f : MemoryFiles) : Files Id where
  read := f.read
  present path := (f.resolve path).isOk
  isFolder path :=
    match f.resolve path with
    | .ok place => f.hasFolder place
    | .error _ => false
  names path :=
    match f.resolve path with
    | .ok place => f.names place
    | .error _ => []
  folders := f.enclosing

end MemoryFiles

end SqlAudit
