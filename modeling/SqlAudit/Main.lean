import SqlAudit.Command.Run

/-!
The program: runs its arguments on the files of the disk and prints what comes of it.
-/

namespace SqlAudit

namespace Disk

def fileError : IO.Error → FileError
  | .noFileOrDirectory .. => .missing
  | .inappropriateType _ code text =>
    if code == 20 then .notFolder
    else if code == 21 then .isFolder
    else .other (text ++ " (os error " ++ toString code ++ ")")
  | .permissionDenied _ code text => .other (text ++ " (os error " ++ toString code ++ ")")
  | .userError _ => .other "stream did not contain valid UTF-8"
  | e => .other (toString e)

def read (path : String) : IO (Except FileError String) := do
  try
    return .ok (← IO.FS.readFile path)
  catch e => return .error (fileError e)

def present (path : String) : IO Bool := do
  try
    discard (IO.FS.realPath path)
    return true
  catch _ => return false

def names (path : String) : IO (List String) := do
  try
    let entries ← (← IO.FS.realPath path).readDir
    return entries.toList.map (·.fileName)
  catch _ => return []

def folders : IO (List String) := do
  let parts := ((← IO.currentDir).toString.splitOn "/").filter fun part => !part.isEmpty
  return (List.range (parts.length + 1)).reverse.map fun n =>
    "/" ++ "/".intercalate (parts.take n)

def files : Files IO where
  read := read
  present := present
  isFolder path := present (pathIn path ".")
  names := names
  folders := folders

end Disk

namespace Outcome

def print (o : Outcome) : IO Unit := do
  for p in o.printed do
    match p with
    | .output text => IO.print text
    | .message text => IO.eprint text
    | .warning text => IO.eprintln ("WARN sqllint: " ++ text)
  match o.ending with
  | .exit _ => return
  | .failed failure =>
    IO.eprintln ("Error: " ++ failure.message)
    if !failure.help.isEmpty then IO.eprintln ("  help: " ++ failure.help)
  | .misuse => IO.eprint (HelpPage.text .program false)

end Outcome

end SqlAudit

def main (args : List String) : IO UInt32 := do
  let outcome ← SqlAudit.Command.run SqlAudit.Disk.files args
  outcome.print
  return outcome.ending.code.toUInt32
